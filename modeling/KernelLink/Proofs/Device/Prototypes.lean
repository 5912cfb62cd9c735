import KernelLink.Proofs.Catalog.Calls

/-!
# Imports and the exports that they are for

A declaration is written twice, as the import of the kernel that calls the function and as the
definition of the function itself, and the two have to meet again when the kernel is linked. In the
definition a name stands behind every type, in the import none does, and the scanner has no other
way to tell than the tokens. So the definition is always read as it was declared, while an import
is, provided that no last word of a type looks like a name.
-/

namespace KernelLink

/-- What is made from one text is one of the libraries that the device can make. -/
theorem HostDevice.MakesFrom.makes {device : HostDevice} {text : String} {l : Library}
    (h : device.MakesFrom text l) : device.Makes l :=
  h.imp (fun hcompile => ⟨text, hcompile⟩) fun hload => ⟨_, hload⟩

section

variable {device : HostDevice} {d : Declaration} {body : String} {callee : Library}

/-- The function that a declaration names in a library. -/
def Declaration.inLibrary (d : Declaration) (l : Library) : FunctionRef := ⟨l, d.name⟩

namespace Declaration.Spelled

/-- A library of a definition exports the declared function. -/
theorem exists_exports (hd : d.Spelled)
    (h : device.MakesFrom (d.definitionFragment body).text callee) :
    ∃ e, (d.inLibrary callee).Exports e ∧ e.signature = d.signature := by
  obtain ⟨s, hscan, hlower⟩ := h.exists_lower
  obtain ⟨f, rest, hexports, hf⟩ := hd.exports_of_scanSource hscan
  have hsignatures := map_signature_of_bindExport (lower_eq_ok_iff.mp hlower).2.2.1
  rw [hexports, List.map_cons, hf] at hsignatures
  have hmem : d.signature ∈ callee.exports.map (·.signature) := by
    rw [hsignatures]
    exact List.mem_cons_self
  obtain ⟨e, he, hsignature⟩ := List.mem_map.mp hmem
  exact ⟨e, ⟨he, by rw [hsignature]; rfl⟩, hsignature⟩

/-- And exports nothing else under its name. -/
theorem signature_of_exports (hd : d.Spelled)
    (h : device.MakesFrom (d.definitionFragment body).text callee) {e : LibraryExport}
    (he : (d.inLibrary callee).Exports e) : e.signature = d.signature := by
  obtain ⟨e', he', hsignature⟩ := hd.exists_exports h
  have hfound := h.makes.export?_eq_some_iff.mpr he
  rw [h.makes.export?_eq_some_iff.mpr he', Option.some.injEq] at hfound
  rw [← hfound]
  exact hsignature

/-- **A kernel that imports one function links with a definition that is of that signature**, and
with no other. -/
theorem links_iff (hd : d.Spelled) (h : device.MakesFrom (d.definitionFragment body).text callee)
    {kernel : FunctionRef} {declared : Signature}
    (hkernel : ∃ k ∈ kernel.library.kernels, k.name = kernel.name)
    (himports : kernel.library.imports = [declared]) :
    (∃ p, device.buildPipeline kernel [d.inLibrary callee] = .ok p) ↔ declared = d.signature := by
  obtain ⟨e, he, hsignature⟩ := hd.exists_exports h
  have hfits : Fits kernel [d.inLibrary callee] ↔ declared = d.signature := by
    constructor
    · intro hfits
      obtain ⟨f, hf, e', he', hdeclared⟩ := hfits.imports declared (by rw [himports]; simp)
      rw [List.mem_singleton.mp hf] at he'
      rw [← hdeclared]
      exact hd.signature_of_exports h he'
    · rintro rfl
      refine ⟨hkernel, List.forall_mem_singleton.mpr ⟨e, he⟩, List.nodup_singleton _, ?_⟩
      rw [himports]
      exact List.forall_mem_singleton.mpr ⟨_, List.mem_singleton_self _, e, he, hsignature⟩
  have hdefined : kernel.Defined := by
    obtain ⟨k, hk, hname⟩ := hkernel
    exact List.mem_append_left _ (List.mem_map.mpr ⟨k, hk, hname⟩)
  have hcallee : (d.inLibrary callee).Defined :=
    List.mem_append_right _ (List.mem_map.mpr ⟨e, he.1, he.2⟩)
  rw [← hfits]
  unfold HostDevice.buildPipeline
  rcases link_cases hdefined (List.forall_mem_singleton.mpr hcallee)
    (List.forall_mem_singleton.mpr h.makes) device.options.maxThreads with
    ⟨hyes, p, hp, -⟩ | ⟨hno, fault, hf, -⟩
  · rw [hp]
    exact ⟨fun _ => hyes, fun _ => ⟨p, rfl⟩⟩
  · rw [hf]
    exact ⟨nofun, fun hyes => absurd hyes hno⟩

end Declaration.Spelled

/--
**An import meets its definition exactly when it can be read without names.**

A type is itself again with any name behind it, and without a name exactly when its last token is
a mark or its only type word. So the definition of a declaration always exports the declared
signature, whatever its body, while its import is that signature exactly when each type keeps its
last token and there is more than a lone `void`. Only then does a kernel with that import link.
-/
theorem import_meets_definition_iff {type name : String} (htype : IsWordType type)
    (hname : isIdentifier name.toList) (hd : d.Spelled) :
    parameterType (type ++ " " ++ name) = normalizeType type ∧
    (parameterType type = normalizeType type ↔ KeepsLastToken type) ∧
    ∃ declared, scanSource d.importFragment.text = .ok ⟨[], [], [declared], []⟩ ∧
      (declared = d.signature ↔ d.ReadsUnnamed) ∧
      ∀ body,
        (IsBody body → scanSource (d.definitionFragment body).text =
          .ok ⟨[], [⟨d.signature, scannedBody body⟩], [], []⟩) ∧
        (∀ s, scanSource (d.definitionFragment body).text = .ok s →
          ∃ f rest, s.exports = f :: rest ∧ f.signature = d.signature) ∧
        ∀ (device : HostDevice) (callee : Library) (kernel : FunctionRef),
          device.MakesFrom (d.definitionFragment body).text callee →
          (∃ k ∈ kernel.library.kernels, k.name = kernel.name) →
          kernel.library.imports = [declared] →
          ((∃ p, device.buildPipeline kernel [d.inLibrary callee] = .ok p) ↔ d.ReadsUnnamed) := by
  have hnamed : typeTokens (type ++ " " ++ name).toList =
      typeTokens type.toList ++ [name.toList] := by
    rw [String.toList_append, String.toList_append, List.append_assoc]
    exact typeTokens_named type.toList hname
  refine ⟨htype.parameterType_named hname hnamed, htype.parameterType_eq_iff, _,
    hd.scansTo_import.scanSource_eq, hd.signatureFrom_listedTypes_iff, fun body => ⟨fun hbody =>
      (hd.scansTo_definition hbody).scanSource_eq, fun s => hd.exports_of_scanSource, ?_⟩⟩
  intro device callee kernel hmakes hkernel himports
  rw [hd.links_iff hmakes hkernel himports]
  exact hd.signatureFrom_listedTypes_iff

end

/-- A pointer to constant values keeps its mark, and a kernel that imports the function links. -/
theorem import_meets_definition_iff_pointer :
    let d : Declaration := ⟨"float", "f", [⟨"float const *", "x"⟩]⟩
    let device : HostDevice :=
      ⟨.standard, Registry.empty.register "f" "x;" (.callable (.unary .standard))⟩
    let callee : Library := ⟨[], [⟨d.signature, .unary .standard⟩], []⟩
    let caller : LibraryKernel := ⟨"k", .stagedUnary "k" 32 (.call "f")⟩
    IsWordType "float const *" ∧ d.Spelled ∧ d.ReadsUnnamed ∧
      parameterType "float const * x" = "float const*" ∧
      parameterType "float const *" = "float const*" ∧
      device.MakesFrom (d.definitionFragment "x;").text callee ∧
      ∃ declared, scanSource d.importFragment.text = .ok ⟨[], [], [declared], []⟩ ∧
        declared = d.signature ∧
        ∃ p, device.buildPipeline ⟨⟨[caller], [], [declared]⟩, "k"⟩ [d.inLibrary callee] =
          .ok p := by
  intro d device callee caller
  have htype : IsWordType "float const *" :=
    ⟨by decide, ⟨_, _, rfl, by decide⟩, "float".toList, by decide, by decide⟩
  have hkeeps : KeepsLastToken "float const *" :=
    ⟨["float".toList, "const".toList], ['*'], by decide, .inl (by decide)⟩
  have hd : d.Spelled := ⟨isDeclaredType_float.isWordType, by decide,
    List.forall_mem_singleton.mpr htype, by decide⟩
  have hreads : d.ReadsUnnamed := ⟨List.forall_mem_singleton.mpr hkeeps, by decide⟩
  have hmakes : device.MakesFrom (d.definitionFragment "x;").text callee :=
    .inl ⟨none, by decide +kernel⟩
  obtain ⟨hnamed, hunnamed, declared, hscan, himport, hbody⟩ :=
    @import_meets_definition_iff d "float const *" "x" htype (by decide) hd
  have hspelled : normalizeType "float const *" = "float const*" := by decide
  exact ⟨htype, hd, hreads, hnamed.trans hspelled, (hunnamed.mpr hkeeps).trans hspelled, hmakes,
    declared, hscan, himport.mpr hreads,
    ((hbody "x;").2.2 device callee ⟨⟨[caller], [], [declared]⟩, "k"⟩ hmakes
      ⟨caller, List.mem_singleton_self _, rfl⟩ rfl).mpr hreads⟩

/-- A qualifier or a second word behind a type is dropped from an import as if it were a name, and
then no kernel links with the function that it declares. -/
theorem exists_import_without_definition :
    let d : Declaration := ⟨"float", "f", [⟨"float const", "x"⟩]⟩
    let caller : Kernel := .stagedUnary "k" 32 (.call "f")
    let device : HostDevice := ⟨.standard, (Registry.empty.register "f" "x;"
      (.callable (.unary .standard))).register "k" "" (.kernel caller)⟩
    IsWordType "unsigned int" ∧ parameterType "unsigned int" ≠ normalizeType "unsigned int" ∧
      IsWordType "float const" ∧ parameterType "float const" ≠ normalizeType "float const" ∧
      d.Spelled ∧
      scanSource d.importFragment.text = .ok ⟨[], [], [⟨"float", "f", ["float"]⟩], []⟩ ∧
      d.signature = ⟨"float", "f", ["float const"]⟩ ∧
      ∃ callee shell, device.MakesFrom (d.definitionFragment "x;").text callee ∧
        device.MakesFrom (d.importFragment.text ++ "kernel void k() \x7b\x7d\n") shell ∧
        device.buildPipeline ⟨shell, "k"⟩ [d.inLibrary callee] =
          .error (.pipelineBuild ("linked function 'float f(float const)' does not match " ++
            "declaration 'float f(float)'")) := by
  intro d caller device
  have hconst : IsWordType "float const" :=
    ⟨by decide, ⟨_, _, rfl, by decide⟩, "float".toList, by decide, by decide⟩
  have hunsigned : IsWordType "unsigned int" :=
    ⟨by decide, ⟨_, _, rfl, by decide⟩, "int".toList, by decide, by decide⟩
  have hd : d.Spelled := ⟨isDeclaredType_float.isWordType, by decide,
    List.forall_mem_singleton.mpr hconst, by decide⟩
  have hcallee : device.MakesFrom (d.definitionFragment "x;").text
      ⟨[], [⟨d.signature, .unary .standard⟩], []⟩ :=
    .inl ⟨none, by decide +kernel⟩
  have hshell : device.MakesFrom (d.importFragment.text ++ "kernel void k() \x7b\x7d\n")
      ⟨[⟨"k", caller⟩], [], [⟨"float", "f", ["float"]⟩]⟩ :=
    .inl ⟨none, by decide +kernel⟩
  exact ⟨hunsigned, by decide, hconst, by decide, hd, by decide +kernel, by decide, _, _, hcallee,
    hshell, by decide +kernel⟩

end KernelLink
