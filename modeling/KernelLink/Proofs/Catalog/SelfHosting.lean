import KernelLink.Proofs.Catalog.Bindings
import KernelLink.Proofs.Device.Library
import KernelLink.Proofs.Exec.Staged
import KernelLink.Proofs.Machine.Reading
import KernelLink.Proofs.Source.Pieces

/-!
# A catalog hosts itself

The texts of a catalog and the behaviours that it registers are made from the same parameters, but
they meet again only on a device: there a text is scanned, and each function that it defines is
looked up by its name and its body. On a device with the catalog's own registry that leads from
every entry back to its own behaviour. An entry makes a library of one function, which declares what
it calls and nothing else.
-/

namespace KernelLink

/-! ## What entries call -/

/-- The visible function that kernels call by a convention. -/
def Convention.declaration : Convention → Declaration
  | unary => transformDeclaration
  | tile => processTileDeclaration
  | pairTile => computeTileDeclaration

/-- The signature of a function that is called by a convention. -/
def Convention.signature (k : Convention) (name : String) : Signature :=
  { k.declaration.signature with name := name }

/-- The signatures of what a function calls: the name that is called, and its convention. -/
def Emulation.calls : Emulation → List Signature
  | kernel k => (k.callee?.map fun (name, convention) => convention.signature name).toList
  | callable _ => []

/-- The library of one function and of nothing else. -/
def EmulationBinding.library (b : EmulationBinding) : Library :=
  match b.emulation with
  | .kernel k => ⟨[⟨b.name, k⟩], [], b.emulation.calls⟩
  | .callable f => ⟨[], [⟨f.convention.signature b.name, f⟩], b.emulation.calls⟩

theorem isDeclaredType_float : IsDeclaredType "float" :=
  ⟨[], "float".toList, [], by decide, by decide, by decide, by decide⟩

theorem isDeclaredType_uint : IsDeclaredType "uint" :=
  ⟨[], "uint".toList, [], by decide, by decide, by decide, by decide⟩

theorem isDeclaredType_threadgroup : IsDeclaredType "threadgroup float*" :=
  ⟨["threadgroup".toList], "float".toList, [['*']], by decide, by decide, by decide, by decide⟩

theorem isDeclaredType_device : IsDeclaredType "device float*" :=
  ⟨["device".toList], "float".toList, [['*']], by decide, by decide, by decide, by decide⟩

theorem Convention.wellFormed_declaration (c : Convention) : c.declaration.WellFormed := by
  cases c with
  | unary =>
    exact ⟨isDeclaredType_float, by decide, List.forall_mem_singleton.mpr isDeclaredType_float,
      by decide, by decide⟩
  | tile =>
    refine ⟨isDeclaredType_void, by decide, ?_, by decide, by decide⟩
    unfold declaration processTileDeclaration
    simp only [List.forall_mem_cons]
    exact ⟨isDeclaredType_threadgroup, isDeclaredType_uint, nofun⟩
  | pairTile =>
    refine ⟨isDeclaredType_void, by decide, ?_, by decide, by decide⟩
    unfold declaration computeTileDeclaration
    simp only [List.forall_mem_cons]
    exact ⟨isDeclaredType_threadgroup, isDeclaredType_threadgroup, isDeclaredType_device,
      isDeclaredType_uint, isDeclaredType_uint, nofun⟩

/-! ## Loading a composed text -/

/-- Layout and comments of a body do not matter to a registry. -/
theorem Registry.find?_scannedBody {α : Type} (r : Registry α) (name body : String) :
    r.find? name (scannedBody body) = r.find? name body :=
  congrArg (fun text => r.get? ⟨name, text⟩) (normalizeBody_stripped body)

namespace Piece

/-- The pieces that a kernel's text is composed of. -/
def ofKernel (events : Piece) (imports : Option Declaration) (name : String)
    (buffers : List BufferParam) (body : String) : List Piece :=
  [preamble, events] ++ (imports.map prototype).toList ++ [kernel name buffers body]

variable {events : Piece} {imports : Option Declaration} {name : String}
  {buffers : List BufferParam} {body : String}

theorem wellFormed_ofKernel (hevents : events.isEvents) (himports : ∀ i ∈ imports, i.WellFormed)
    (hname : isIdentifier name.toList) (hbuffers : ∀ b ∈ buffers, isIdentifier b.name.toList)
    (hbody : IsBody body) : ∀ p ∈ ofKernel events imports name buffers body, p.WellFormed := by
  have hcopies : events.WellFormed := by
    cases events with
    | events1d => trivial
    | events2d => trivial
    | _ => cases hevents
  have hkernel : (kernel name buffers body).WellFormed := ⟨hname, hbuffers, hbody⟩
  intro p hp
  unfold ofKernel at hp
  cases imports with
  | none =>
    revert p
    exact List.forall_mem_cons.mpr ⟨trivial, List.forall_mem_cons.mpr
      ⟨hcopies, List.forall_mem_singleton.mpr hkernel⟩⟩
  | some i =>
    have himport : (prototype i).WellFormed := himports i rfl
    revert p
    exact List.forall_mem_cons.mpr ⟨trivial, List.forall_mem_cons.mpr
      ⟨hcopies, List.forall_mem_cons.mpr ⟨himport, List.forall_mem_singleton.mpr hkernel⟩⟩⟩

/-- A kernel's text defines the kernel and declares its import. -/
theorem scanned_ofKernel (hevents : events.isEvents) :
    (scanned (ofKernel events imports name buffers body)).kernels =
        [⟨⟨"void", name, []⟩, scannedBody body⟩] ∧
      (scanned (ofKernel events imports name buffers body)).exports = [] ∧
      (scanned (ofKernel events imports name buffers body)).imports =
        (imports.map (·.signature)).toList := by
  rw [kernels_scanned, exports_scanned, imports_scanned]
  cases events with
  | events1d => cases imports <;> exact ⟨rfl, rfl, rfl⟩
  | events2d => cases imports <;> exact ⟨rfl, rfl, rfl⟩
  | _ => cases hevents

/-- The text of a definition alone defines one function and declares nothing. -/
theorem scanned_definition (d : Declaration) (body : String) :
    (scanned [preamble, definition d body]).kernels = [] ∧
      (scanned [preamble, definition d body]).exports = [⟨d.signature, scannedBody body⟩] ∧
      (scanned [preamble, definition d body]).imports = [] := by
  rw [kernels_scanned, exports_scanned, imports_scanned]
  exact ⟨rfl, rfl, rfl⟩

end Piece

namespace HostDevice

variable {d : HostDevice} {pieces : List Piece}

/-- Composed texts are loaded when they define something and all that they define is known. -/
theorem load_composedText (hwf : ∀ p ∈ pieces, p.WellFormed)
    (hne : (Piece.scanned pieces).isEmpty = false) {l : Library}
    (hl : lower d.registry (Piece.scanned pieces) = .ok l) :
    d.load (composedText (pieces.map Piece.fragment)).toUTF8 = .ok l := by
  unfold load loadText
  rw [fromUTF8?_toUTF8]
  dsimp only
  rw [Piece.scanSource_eq_scanned hwf]
  dsimp only
  rw [hne, if_neg Bool.false_ne_true, hl]
  rfl

/-- **A kernel's text is a library of that kernel.** -/
theorem load_kernelEntry {kernel : Kernel} {events : Piece} {imports : Option Declaration}
    {buffers : List BufferParam} {body : String} (params : SourceParams)
    (hevents : events.isEvents) (himports : ∀ i ∈ imports, i.WellFormed)
    (hname : isIdentifier kernel.name.toList) (hbuffers : ∀ b ∈ buffers, isIdentifier b.name.toList)
    (hbody : IsBody body) (hfound : d.registry.find? kernel.name body = some (.kernel kernel)) :
    d.load (kernelEntry kernel events.fragment imports buffers body params).source.text.toUTF8 =
      .ok ⟨[⟨kernel.name, kernel⟩], [], (imports.map (·.signature)).toList⟩ := by
  have htext : (kernelEntry kernel events.fragment imports buffers body params).source.text =
      composedText
        ((Piece.ofKernel events imports kernel.name buffers body).map Piece.fragment) := by
    cases imports <;> rfl
  obtain ⟨hkernels, hexports, himported⟩ := @Piece.scanned_ofKernel events imports kernel.name
    buffers body hevents
  rw [htext]
  refine load_composedText (Piece.wellFormed_ofKernel hevents himports hname hbuffers hbody) ?_
    (lower_eq_ok_iff.mpr ⟨?_, ?_, ?_, himported.symm⟩)
  · unfold ScannedSource.isEmpty
    rw [hkernels]
    rfl
  · unfold ScannedSource.functionNames
    rw [hkernels, hexports]
    exact List.nodup_singleton _
  · rw [hkernels]
    refine .cons (Registry.bindKernel_eq_ok_iff.mpr ⟨rfl, ?_⟩) .nil
    exact (d.registry.find?_scannedBody ..).trans hfound
  · rw [hexports]
    exact .nil

/-- **A visible function's text is a library of that function.** -/
theorem load_callableEntry {declaration : Declaration} {body : String} {callable : Callable}
    (hwf : declaration.WellFormed) (hbody : IsBody body)
    (hfound : d.registry.find? declaration.name body = some (.callable callable)) :
    d.load (callableEntry declaration body callable).source.text.toUTF8 =
      .ok ⟨[], [⟨declaration.signature, callable⟩], []⟩ := by
  have htext : (callableEntry declaration body callable).source.text =
      composedText ([Piece.preamble, Piece.definition declaration body].map Piece.fragment) := rfl
  have hpieces : ∀ p ∈ [Piece.preamble, Piece.definition declaration body], p.WellFormed :=
    List.forall_mem_cons.mpr ⟨trivial, List.forall_mem_singleton.mpr ⟨hwf, hbody⟩⟩
  obtain ⟨hkernels, hexports, himported⟩ := Piece.scanned_definition declaration body
  rw [htext]
  refine load_composedText hpieces ?_ (lower_eq_ok_iff.mpr ⟨?_, ?_, ?_, himported.symm⟩)
  · unfold ScannedSource.isEmpty
    rw [hkernels, hexports]
    rfl
  · unfold ScannedSource.functionNames
    rw [hkernels, hexports]
    exact List.nodup_singleton _
  · rw [hkernels]
    exact .nil
  · rw [hexports]
    refine .cons (Registry.bindExport_eq_ok_iff.mpr ⟨rfl, ?_⟩) .nil
    exact (d.registry.find?_scannedBody ..).trans hfound

end HostDevice

/-! ## Entries -/

namespace Catalog

variable {c : Catalog} {d : HostDevice} {e : CatalogEntry}

theorem find?_of_mem_entries (hd : d.registry = c.registry) (he : e ∈ c.entries)
    {b : EmulationBinding} (hb : e.emulations = [b]) :
    d.registry.find? b.name b.body = some b.emulation := by
  rw [hd]
  refine find?_registry (List.mem_flatMap.mpr ⟨e, he, ?_⟩)
  rw [hb]
  exact List.mem_singleton_self b

/-- A kernel of the catalog that imports what it calls. -/
theorem load_kernel (hd : d.registry = c.registry) (events : Piece) {kernel : Kernel}
    {imports : Option Declaration} {buffers : List BufferParam} {body : String}
    {params : SourceParams}
    (he : kernelEntry kernel events.fragment imports buffers body params ∈ c.entries)
    (hevents : events.isEvents) (himports : ∀ i ∈ imports, i.WellFormed)
    (hcalls : (imports.map (·.signature)).toList = (Emulation.kernel kernel).calls)
    (hname : isIdentifier kernel.name.toList) (hbuffers : ∀ b ∈ buffers, isIdentifier b.name.toList)
    (hbody : IsBody body) :
    d.load (kernelEntry kernel events.fragment imports buffers body params).source.text.toUTF8 =
      .ok (EmulationBinding.library ⟨kernel.name, body, .kernel kernel⟩) := by
  unfold EmulationBinding.library
  dsimp only
  rw [← hcalls]
  exact HostDevice.load_kernelEntry params hevents himports hname hbuffers hbody
    (find?_of_mem_entries hd he rfl)

/-- A visible function of the catalog, declared for its convention. -/
theorem load_callable (hd : d.registry = c.registry) (callable : Callable) {body : String}
    (he : callableEntry callable.convention.declaration body callable ∈ c.entries)
    (hbody : IsBody body) :
    d.load (callableEntry callable.convention.declaration body callable).source.text.toUTF8 =
      .ok (EmulationBinding.library
        ⟨callable.convention.declaration.name, body, .callable callable⟩) :=
  HostDevice.load_callableEntry callable.convention.wellFormed_declaration hbody
    (find?_of_mem_entries hd he rfl)

/-- An entry's source is a library of its one function. -/
theorem load_eq_library (hd : d.registry = c.registry) (he : e ∈ c.entries) :
    ∃ b, e.emulations = [b] ∧ b.name = e.entry ∧ d.load e.source.text.toUTF8 = .ok b.library := by
  have hdeclared : ∀ k : Convention, ∀ i ∈ some k.declaration, i.WellFormed := by
    rintro k i ⟨⟩
    exact k.wellFormed_declaration
  have hbuffers : ∀ element, ∀ b ∈ sourceAndDestination element, isIdentifier b.name.toList := by
    intro element
    cases element <;> decide
  have hmem := he
  unfold entries shells callables at hmem
  simp only [List.mem_cons, List.mem_append, List.mem_map, List.not_mem_nil, or_false] at hmem
  -- In the order of `entries`: the copy, the shells, the single functions, and the variants.
  rcases hmem with rfl | (rfl | rfl | rfl) | (rfl | rfl | rfl) | ⟨v, -, rfl⟩
  · exact ⟨_, rfl, rfl, load_kernel hd .events1d he rfl nofun rfl
      (show isIdentifier asyncCopyName.toList by decide) (hbuffers _) (isBody_asyncCopyBody ..)⟩
  · exact ⟨_, rfl, rfl, load_kernel hd .events1d he rfl (hdeclared .unary) rfl
      (show isIdentifier reverseName.toList by decide) (hbuffers _)
      (isBody_reverseBody _ (by decide))⟩
  · exact ⟨_, rfl, rfl, load_kernel hd .events2d he rfl (hdeclared .tile) rfl
      (show isIdentifier roundtripName.toList by decide) (hbuffers _)
      (isBody_roundtripBody _ _ _ (by decide))⟩
  · exact ⟨_, rfl, rfl, load_kernel hd .events1d he rfl (hdeclared .pairTile) rfl
      (show isIdentifier gemmName.toList by decide) (by decide) (isBody_gemmBody _ (by decide))⟩
  · exact ⟨_, rfl, rfl, load_callable hd (.unary c.transform) he (isBody_transformBody _)⟩
  · exact ⟨_, rfl, rfl, load_callable hd (.unary .alternate) he (isBody_transformBody _)⟩
  · exact ⟨_, rfl, rfl, load_callable hd (.tile c.processTile) he (isBody_tileScalingBody _)⟩
  · exact ⟨_, rfl, rfl, load_callable hd (.pairTile v) he (isBody_variantBody v)⟩

end Catalog

end KernelLink
