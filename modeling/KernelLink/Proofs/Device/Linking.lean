import KernelLink.Linkage
import KernelLink.Proofs.Device.Library

/-!
# Which combinations link

Two layers decide about a combination of a kernel with callables, each with refusals of its own.
The resolver looks up names, the kernel's first; the device then looks for a kernel under one of
them and for exports under the others, and compares signatures with imports. A refusal of the
second layer can therefore never be about a name that is not there, and what is left of its several
faults is one question: do the functions fit together?

The answer does not depend on the order in which the device asks. Only the fault does.
-/

namespace KernelLink

/-! ## The device's part -/

/-- The faults that say a combination does not fit, as against a name that is not there. -/
def PipelineFault.OfCombination (f : PipelineFault) : Prop :=
  ∃ reason, f.toDeviceFault = .pipelineBuild reason

/-- A step of linking that ends, if it ends early, with a fault of the combination. -/
def RefusesCombination {α : Type} (x : Except PipelineFault α) : Prop :=
  ∃ f : PipelineFault, x = .error f ∧ f.OfCombination

namespace FunctionRef

variable {f : FunctionRef}

/-- The library defines the name, as a kernel or as an export. -/
def Defined (f : FunctionRef) : Prop := f.name ∈ f.library.functionNames

theorem defined_iff : f.Defined ↔
    (∃ k, f.library.kernel? f.name = some k) ∨ ∃ e, f.library.export? f.name = some e := by
  unfold Defined Library.functionNames Library.kernel? Library.export?
  rw [List.mem_append, ← Option.isSome_iff_exists, ← Option.isSome_iff_exists, List.find?_isSome,
    List.find?_isSome]
  simp

end FunctionRef

theorem findKernel_of_some {f : FunctionRef} {k : LibraryKernel}
    (h : f.library.kernel? f.name = some k) : findKernel f = .ok k := by
  unfold findKernel
  rw [h]

theorem findKernel_of_none {f : FunctionRef} (hf : f.Defined)
    (h : f.library.kernel? f.name = none) : RefusesCombination (findKernel f) := by
  obtain ⟨k, hk⟩ | ⟨e, he⟩ := FunctionRef.defined_iff.mp hf
  · rw [h] at hk; cases hk
  · unfold findKernel
    rw [h, he]
    exact ⟨_, rfl, _, rfl⟩

theorem findExport_of_some {f : FunctionRef} {e : LibraryExport}
    (h : f.library.export? f.name = some e) : findExport f = .ok e := by
  unfold findExport
  rw [h]

theorem findExport_of_none {f : FunctionRef} (hf : f.Defined)
    (h : f.library.export? f.name = none) : RefusesCombination (findExport f) := by
  obtain ⟨k, hk⟩ | ⟨e, he⟩ := FunctionRef.defined_iff.mp hf
  · unfold findExport
    rw [h, hk]
    exact ⟨_, rfl, _, rfl⟩
  · rw [h] at he; cases he

theorem findExports_cons (seen : List String) (f : FunctionRef) (fs : List FunctionRef) :
    findExports seen (f :: fs) =
      match findExport f with
      | .error fault => .error fault
      | .ok e =>
        if seen.contains f.name then .error (.linkedTwice f.name)
        else match findExports (f.name :: seen) fs with
          | .error fault => .error fault
          | .ok rest => .ok (e :: rest) := by
  show (findExport f >>= fun e => _) = _
  cases findExport f with
  | error fault => rfl
  | ok e =>
    show (if seen.contains f.name then _ else findExports (f.name :: seen) fs >>= fun rest => _) = _
    dsimp only
    congr 1
    cases findExports (f.name :: seen) fs <;> rfl

/-- The exports that functions are found as. -/
def linkedExports (fs : List FunctionRef) : List LibraryExport :=
  fs.filterMap fun f => f.library.export? f.name

theorem linkedExports_cons {f : FunctionRef} {e : LibraryExport}
    (h : f.library.export? f.name = some e) (fs : List FunctionRef) :
    linkedExports (f :: fs) = e :: linkedExports fs :=
  List.filterMap_cons_some h

/-- Every export bears the name that it was asked for under. -/
theorem map_name_linkedExports (fs : List FunctionRef) :
    ((linkedExports fs).map (·.signature.name)).Sublist (fs.map (·.name)) := by
  induction fs with
  | nil => exact List.Sublist.slnil
  | cons f fs ih =>
    cases he : f.library.export? f.name with
    | none =>
      have hrest : linkedExports (f :: fs) = linkedExports fs := List.filterMap_cons_none he
      rw [hrest]
      exact ih.cons _
    | some e =>
      have hname : e.signature.name = f.name := by simpa using List.find?_some he
      rw [linkedExports_cons he, List.map_cons, List.map_cons, hname]
      exact ih.cons_cons _

/-- Every function is an export, and none is to be linked twice. -/
structure Linkable (seen : List String) (fs : List FunctionRef) : Prop where
  exports : ∀ f ∈ fs, ∃ e, f.library.export? f.name = some e
  distinct : (fs.map (·.name)).Nodup
  fresh : ∀ f ∈ fs, f.name ∉ seen

theorem linkable_cons_iff {seen : List String} {f : FunctionRef} {fs : List FunctionRef} :
    Linkable seen (f :: fs) ↔
      (∃ e, f.library.export? f.name = some e) ∧ f.name ∉ seen ∧ Linkable (f.name :: seen) fs := by
  constructor
  · rintro ⟨he, hn, hs⟩
    rw [List.map_cons, List.nodup_cons] at hn
    refine ⟨he f List.mem_cons_self, hs f List.mem_cons_self,
      fun g hg => he g (List.mem_cons_of_mem _ hg), hn.2, fun g hg hm => ?_⟩
    rcases List.mem_cons.mp hm with hgf | hm
    · exact hn.1 (List.mem_map.mpr ⟨g, hg, hgf⟩)
    · exact hs g (List.mem_cons_of_mem _ hg) hm
  · rintro ⟨he, hf, hes, hn, hs⟩
    refine ⟨List.forall_mem_cons.mpr ⟨he, hes⟩, List.nodup_cons.mpr ⟨fun hm => ?_, hn⟩,
      List.forall_mem_cons.mpr ⟨hf, fun g hg hm => hs g hg (List.mem_cons_of_mem _ hm)⟩⟩
    obtain ⟨g, hg, hgf⟩ := List.mem_map.mp hm
    exact hs g hg (hgf ▸ List.mem_cons_self)

/-- Functions whose names are there are linked or refused as a combination. -/
theorem findExports_cases {seen : List String} {fs : List FunctionRef}
    (hd : ∀ f ∈ fs, f.Defined) :
    (Linkable seen fs ∧ findExports seen fs = .ok (linkedExports fs)) ∨
      (¬ Linkable seen fs ∧ RefusesCombination (findExports seen fs)) := by
  -- Every export that is found adds to the names seen, so these are general.
  induction fs generalizing seen with
  | nil => exact .inl ⟨⟨fun _ h => (by cases h), List.nodup_nil, fun _ h => (by cases h)⟩, rfl⟩
  | cons f fs ih =>
    rw [findExports_cons, linkable_cons_iff]
    cases he : f.library.export? f.name with
    | none =>
      obtain ⟨fault, hf, hfault⟩ := findExport_of_none (hd f List.mem_cons_self) he
      rw [hf]
      exact .inr ⟨fun ⟨⟨_, h⟩, _⟩ => (by cases h), fault, rfl, hfault⟩
    | some e =>
      rw [findExport_of_some he, linkedExports_cons he]
      dsimp only
      by_cases hf : f.name ∈ seen
      · rw [if_pos (List.contains_iff_mem.mpr hf)]
        exact .inr ⟨fun h => h.2.1 hf, _, rfl, _, rfl⟩
      · rw [if_neg fun hm => hf (List.contains_iff_mem.mp hm)]
        have hrest := @ih (f.name :: seen) fun g hg => hd g (List.mem_cons_of_mem _ hg)
        rcases hrest with ⟨hfs, hok⟩ | ⟨hfs, fault, hrest, hfault⟩
        · rw [hok]
          exact .inl ⟨⟨⟨e, rfl⟩, hf, hfs⟩, rfl⟩
        · rw [hrest]
          exact .inr ⟨fun h => hfs h.2.2, fault, rfl, hfault⟩

theorem checkImports_cons (es : List LibraryExport) (declared : Signature) (rest : List Signature) :
    checkImports es (declared :: rest) =
      match checkImport es declared with
      | .error fault => .error fault
      | .ok () => checkImports es rest := by
  show (checkImport es declared >>= fun _ => checkImports es rest) = _
  cases checkImport es declared <;> rfl

/-- Linked exports have names of their own, so an import that equals one of them is the one found
under its name. -/
theorem checkImport_cases {es : List LibraryExport}
    (hn : (es.map (·.signature.name)).Nodup) (declared : Signature) :
    ((∃ e ∈ es, e.signature = declared) ∧ checkImport es declared = .ok ()) ∨
      ((¬ ∃ e ∈ es, e.signature = declared) ∧ RefusesCombination (checkImport es declared)) := by
  unfold checkImport
  cases hf : es.find? (·.signature.name = declared.name) with
  | none =>
    refine .inr ⟨fun ⟨e, he, hd⟩ => ?_, _, rfl, _, rfl⟩
    rw [(find?_eq_some_iff_of_nodup hn).mpr ⟨he, by rw [hd]⟩] at hf
    cases hf
  | some e =>
    dsimp only
    by_cases hd : e.signature = declared
    · rw [if_pos hd]
      exact .inl ⟨⟨e, List.mem_of_find?_eq_some hf, hd⟩, rfl⟩
    · rw [if_neg hd]
      refine .inr ⟨fun ⟨e', he', hd'⟩ => hd ?_, _, rfl, _, rfl⟩
      rw [(find?_eq_some_iff_of_nodup hn).mpr ⟨he', by rw [hd']⟩] at hf
      cases hf
      exact hd'

theorem checkImports_cases {es : List LibraryExport}
    (hn : (es.map (·.signature.name)).Nodup) (imports : List Signature) :
    ((∀ declared ∈ imports, ∃ e ∈ es, e.signature = declared) ∧ checkImports es imports = .ok ()) ∨
      ((¬ ∀ declared ∈ imports, ∃ e ∈ es, e.signature = declared) ∧
        RefusesCombination (checkImports es imports)) := by
  induction imports with
  | nil => exact .inl ⟨fun _ h => (by cases h), rfl⟩
  | cons declared rest ih =>
    rw [checkImports_cons]
    rcases checkImport_cases hn declared with ⟨hd, hok⟩ | ⟨hd, fault, herr, hfault⟩
    · rw [hok]
      rcases ih with ⟨hrest, hok'⟩ | ⟨hrest, hbad⟩
      · exact .inl ⟨List.forall_mem_cons.mpr ⟨hd, hrest⟩, hok'⟩
      · exact .inr ⟨fun h => hrest (List.forall_mem_cons.mp h).2, hbad⟩
    · rw [herr]
      exact .inr ⟨fun h => hd (List.forall_mem_cons.mp h).1, fault, rfl, hfault⟩

theorem link_eq (maxThreads : Nat) (kernel : FunctionRef) (functions : List FunctionRef) :
    link maxThreads kernel functions =
      match findKernel kernel with
      | .error fault => .error fault
      | .ok k =>
        match findExports [] functions with
        | .error fault => .error fault
        | .ok es =>
          match checkImports es kernel.library.imports with
          | .error fault => .error fault
          | .ok () =>
            .ok ⟨k.name, k.kernel, es.map fun e => (e.signature.name, e.callable), maxThreads⟩ := by
  show (findKernel kernel >>= fun k => findExports [] functions >>= fun es =>
    checkImports es kernel.library.imports >>= fun _ => _) = _
  cases findKernel kernel with
  | error fault => rfl
  | ok k =>
    show (findExports [] functions >>= fun es =>
      checkImports es kernel.library.imports >>= fun _ => _) = _
    cases findExports [] functions with
    | error fault => rfl
    | ok es =>
      show (checkImports es kernel.library.imports >>= fun _ => _) = _
      dsimp only
      cases checkImports es kernel.library.imports <;> rfl

/-! ## Fitting together -/

/-- The library exports the function, as `e`. -/
def FunctionRef.Exports (f : FunctionRef) (e : LibraryExport) : Prop :=
  e ∈ f.library.exports ∧ e.signature.name = f.name

/-- A kernel and functions fit together. -/
structure Fits (kernel : FunctionRef) (functions : List FunctionRef) : Prop where
  isKernel : ∃ k ∈ kernel.library.kernels, k.name = kernel.name
  areExports : ∀ f ∈ functions, ∃ e, f.Exports e
  distinct : (functions.map (·.name)).Nodup
  imports : ∀ declared ∈ kernel.library.imports, ∃ f ∈ functions, ∃ e, f.Exports e ∧
    e.signature = declared

/-- A pipeline runs the kernel and calls the functions under their own names, and nothing else. -/
structure Joins (kernel : FunctionRef) (functions : List FunctionRef) (p : Pipeline) : Prop where
  name : p.name = kernel.name
  runs : ∃ k ∈ kernel.library.kernels, k.name = kernel.name ∧ k.kernel = p.kernel
  calls : ∀ name c, p.linked.find? name = some c ↔
    ∃ f ∈ functions, f.name = name ∧ ∃ e, f.Exports e ∧ e.callable = c

section

variable {d : HostDevice} {kernel : FunctionRef} {functions : List FunctionRef}
  {es : List LibraryExport}

theorem mem_linkedExports_iff (hm : ∀ f ∈ functions, d.Makes f.library) {e : LibraryExport} :
    e ∈ linkedExports functions ↔ ∃ f ∈ functions, f.Exports e := by
  unfold linkedExports
  rw [List.mem_filterMap]
  exact exists_congr fun f => and_congr_right fun hf => (hm f hf).export?_eq_some_iff

/-- A name is called as the function of that name. -/
theorem find?_linkedExports (hm : ∀ f ∈ functions, d.Makes f.library)
    (hn : (functions.map (·.name)).Nodup) (name : String) (c : Callable) :
    Linked.find? ((linkedExports functions).map fun e => (e.signature.name, e.callable)) name =
        some c ↔
      ∃ f ∈ functions, f.name = name ∧ ∃ e, f.Exports e ∧ e.callable = c := by
  have hnames := (map_name_linkedExports functions).nodup hn
  unfold Linked.find?
  rw [List.find?_map, Option.map_map, Option.map_eq_some_iff]
  constructor
  · rintro ⟨e, he, rfl⟩
    obtain ⟨he, hname⟩ := (find?_eq_some_iff_of_nodup hnames).mp he
    obtain ⟨f, hf, hfe⟩ := (mem_linkedExports_iff hm).mp he
    exact ⟨f, hf, hfe.2 ▸ hname, e, hfe, rfl⟩
  · rintro ⟨f, hf, rfl, e, he, rfl⟩
    exact ⟨e, (find?_eq_some_iff_of_nodup hnames).mpr
      ⟨(mem_linkedExports_iff hm).mpr ⟨f, hf, he⟩, he.2⟩, rfl⟩

theorem Linkable.areExports (h : Linkable [] functions) (hm : ∀ f ∈ functions, d.Makes f.library) :
    ∀ f ∈ functions, ∃ e, f.Exports e :=
  fun f hf => (h.exports f hf).imp fun _ he => (hm f hf).export?_eq_some_iff.mp he

theorem Fits.linkable (h : Fits kernel functions) (hm : ∀ f ∈ functions, d.Makes f.library) :
    Linkable [] functions :=
  ⟨fun f hf => (h.areExports f hf).imp fun _ he => (hm f hf).export?_eq_some_iff.mpr he,
    h.distinct, fun _ _ => List.not_mem_nil⟩

/-- An import is met by a linked export exactly when it is met by an export of a function. -/
theorem imports_iff (hm : ∀ f ∈ functions, d.Makes f.library) (imports : List Signature) :
    (∀ declared ∈ imports, ∃ e ∈ linkedExports functions, e.signature = declared) ↔
      ∀ declared ∈ imports, ∃ f ∈ functions, ∃ e, f.Exports e ∧ e.signature = declared := by
  refine forall₂_congr fun declared _ => ?_
  constructor
  · rintro ⟨e, he, hsig⟩
    obtain ⟨f, hf, hfe⟩ := (mem_linkedExports_iff hm).mp he
    exact ⟨f, hf, e, hfe, hsig⟩
  · rintro ⟨f, hf, e, he, hsig⟩
    exact ⟨e, (mem_linkedExports_iff hm).mpr ⟨f, hf, he⟩, hsig⟩

/-- **What linking decides** when all names are there: functions that fit are joined, all others are
refused as a combination. -/
theorem link_cases (hk : kernel.Defined) (hd : ∀ f ∈ functions, f.Defined)
    (hm : ∀ f ∈ functions, d.Makes f.library) (maxThreads : Nat) :
    (Fits kernel functions ∧
        ∃ p, link maxThreads kernel functions = .ok p ∧ Joins kernel functions p) ∨
      (¬ Fits kernel functions ∧ RefusesCombination (link maxThreads kernel functions)) := by
  -- In the order in which the device asks. A refusal denies the field that its step is about.
  rw [link_eq]
  cases hkernel : kernel.library.kernel? kernel.name with
  | none =>
    obtain ⟨fault, hf, hfault⟩ := findKernel_of_none hk hkernel
    rw [hf]
    refine .inr ⟨fun h => ?_, fault, rfl, hfault⟩
    obtain ⟨k, hmem, hname⟩ := h.isKernel
    exact List.find?_eq_none.mp hkernel k hmem (decide_eq_true hname)
  | some k =>
    have hmem := List.mem_of_find?_eq_some hkernel
    have hname : k.name = kernel.name := by simpa using List.find?_some hkernel
    rw [findKernel_of_some hkernel]
    dsimp only
    rcases @findExports_cases [] functions hd with ⟨hfs, hok⟩ | ⟨hfs, fault, hf, hfault⟩
    · rw [hok]
      dsimp only
      rcases checkImports_cases ((map_name_linkedExports functions).nodup hfs.distinct)
          kernel.library.imports with ⟨hall, hok⟩ | ⟨hall, fault, hf, hfault⟩
      · rw [hok]
        exact .inl ⟨⟨⟨k, hmem, hname⟩, hfs.areExports hm, hfs.distinct, (imports_iff hm _).mp hall⟩,
          _, rfl, hname, ⟨k, hmem, hname, rfl⟩, find?_linkedExports hm hfs.distinct⟩
      · rw [hf]
        exact .inr ⟨fun h => hall ((imports_iff hm _).mpr h.imports), fault, rfl, hfault⟩
    · rw [hf]
      exact .inr ⟨fun h => hfs (h.linkable hm), fault, rfl, hfault⟩

end

/-! ## The resolver's part -/

/-- The module defines the name. -/
def EntryRef.Defined (r : EntryRef) : Prop := r.entry ∈ r.unit.library.functionNames

instance (r : EntryRef) : Decidable r.Defined := inferInstanceAs (Decidable (_ ∈ _))

/-- The first reference, in order, to a name that its module does not define. -/
structure FirstMissing (rs : List EntryRef) (r : EntryRef) : Prop where
  missing : ¬ r.Defined
  first : ∃ before after, rs = before ++ r :: after ∧ ∀ q ∈ before, q.Defined

theorem FirstMissing.mem {rs : List EntryRef} {r : EntryRef} (h : FirstMissing rs r) : r ∈ rs := by
  obtain ⟨before, after, rfl, -⟩ := h.first
  exact List.mem_append_right _ List.mem_cons_self

/-- The fault for a missing name. -/
def EntryRef.fault (r : EntryRef) : RunFault :=
  .entryNotFound r.entry r.unit.label r.unit.library.functionNames

theorem EntryRef.check_of_defined {r : EntryRef} (h : r.Defined) : r.check = .ok () :=
  if_pos (List.contains_iff_mem.mpr h)

theorem EntryRef.check_of_missing {r : EntryRef} (h : ¬ r.Defined) : r.check = .error r.fault :=
  if_neg fun hm => h (List.contains_iff_mem.mp hm)

theorem checkEntries_cases (rs : List EntryRef) :
    ((∀ r ∈ rs, r.Defined) ∧ checkEntries rs = .ok ()) ∨
      ∃ r, FirstMissing rs r ∧ checkEntries rs = .error r.fault := by
  induction rs with
  | nil => exact .inl ⟨fun _ h => (by cases h), rfl⟩
  | cons r rs ih =>
    have hcons : checkEntries (r :: rs) = r.check.bind fun _ => checkEntries rs := rfl
    rw [hcons]
    by_cases hr : r.Defined
    · rw [EntryRef.check_of_defined hr]
      rcases ih with ⟨hall, hok⟩ | ⟨q, ⟨hq, before, after, hrs, hbefore⟩, herr⟩
      · exact .inl ⟨List.forall_mem_cons.mpr ⟨hr, hall⟩, hok⟩
      · exact .inr ⟨q, ⟨hq, r :: before, after, by rw [hrs, List.cons_append],
          List.forall_mem_cons.mpr ⟨hr, hbefore⟩⟩, herr⟩
    · rw [EntryRef.check_of_missing hr]
      exact .inr ⟨r, ⟨hr, [], rs, rfl, fun _ h => (by cases h)⟩, rfl⟩

namespace HostDevice

variable {d : HostDevice} {kernel : EntryRef} {callables : List EntryRef}

theorem resolve_of_missing {r : EntryRef}
    (h : checkEntries (kernel :: callables) = .error r.fault) :
    d.resolve kernel callables = .error r.fault := by
  unfold resolve
  rw [h]; rfl

theorem resolve_of_defined (h : checkEntries (kernel :: callables) = .ok ()) :
    d.resolve kernel callables =
      match link d.options.maxThreads kernel.function (callables.map (·.function)) with
      | .ok pipeline => .ok ⟨pipeline, kernel.entry, callables.map (·.entry)⟩
      | .error fault =>
        .error (.pipelineBuild kernel.entry (callables.map (·.entry)) fault.toDeviceFault) := by
  unfold resolve buildPipeline
  rw [h]
  cases link d.options.maxThreads kernel.function (callables.map (·.function)) <;> rfl

/-- The three ways in which resolving ends. -/
theorem resolve_cases (hm : ∀ r ∈ callables, d.Makes r.unit.library) :
    (∃ r, FirstMissing (kernel :: callables) r ∧ d.resolve kernel callables = .error r.fault) ∨
      ((∀ r ∈ kernel :: callables, r.Defined) ∧
        ((Fits kernel.function (callables.map (·.function)) ∧
            ∃ pipeline, d.resolve kernel callables =
                .ok ⟨pipeline, kernel.entry, callables.map (·.entry)⟩ ∧
              Joins kernel.function (callables.map (·.function)) pipeline) ∨
          (¬ Fits kernel.function (callables.map (·.function)) ∧
            ∃ reason, d.resolve kernel callables =
              .error (.pipelineBuild kernel.entry (callables.map (·.entry))
                (.pipelineBuild reason))))) := by
  rcases checkEntries_cases (kernel :: callables) with ⟨hall, hok⟩ | ⟨r, hr, herr⟩
  · refine .inr ⟨hall, ?_⟩
    obtain ⟨hk, hc⟩ := List.forall_mem_cons.mp hall
    have hd : ∀ f ∈ callables.map (·.function), f.Defined := List.forall_mem_map.mpr hc
    have hl : ∀ f ∈ callables.map (·.function), d.Makes f.library := List.forall_mem_map.mpr hm
    have hkernel : kernel.function.Defined := hk
    rw [resolve_of_defined hok]
    rcases link_cases hkernel hd hl d.options.maxThreads with
      ⟨hfits, p, hp, hjoins⟩ | ⟨hfits, fault, hf, reason, hreason⟩
    · rw [hp]
      exact .inl ⟨hfits, p, rfl, hjoins⟩
    · rw [hf]
      exact .inr ⟨hfits, reason, by rw [← hreason]⟩
  · exact .inl ⟨r, hr, resolve_of_missing herr⟩

/-- **Linking accepts exactly the combinations that fit**, and a name that is not there is never
confused with a combination that does not fit. -/
theorem resolve_decides (hm : ∀ r ∈ callables, d.Makes r.unit.library) :
    ((∃ name label available,
        d.resolve kernel callables = .error (.entryNotFound name label available)) ↔
      ∃ r ∈ kernel :: callables, ¬ r.Defined) ∧
    (∀ name label available,
      d.resolve kernel callables = .error (.entryNotFound name label available) →
        ∃ r, FirstMissing (kernel :: callables) r ∧ name = r.entry ∧ label = r.unit.label ∧
          available = r.unit.library.functionNames) ∧
    ((∀ r ∈ kernel :: callables, r.Defined) →
      ((∃ p, d.resolve kernel callables = .ok p) ↔
        Fits kernel.function (callables.map (·.function))) ∧
      (¬ Fits kernel.function (callables.map (·.function)) →
        ∃ reason, d.resolve kernel callables =
          .error (.pipelineBuild kernel.entry (callables.map (·.entry))
            (.pipelineBuild reason)))) ∧
    ∀ p, d.resolve kernel callables = .ok p →
      p.kernel = kernel.entry ∧ p.linked = callables.map (·.entry) ∧
        Joins kernel.function (callables.map (·.function)) p.pipeline := by
  -- The three endings differ in their constructors, so each part is read off the ending.
  rcases @resolve_cases d kernel callables hm with
    ⟨r, hr, herr⟩ | ⟨hall, ⟨hfits, p, hp, hjoins⟩ | ⟨hfits, reason, herr⟩⟩
  · have hmem : r ∈ kernel :: callables := hr.mem
    rw [herr]
    refine ⟨⟨fun _ => ⟨r, hmem, hr.missing⟩, fun _ => ⟨_, _, _, rfl⟩⟩, ?_,
      fun h => absurd (h r hmem) hr.missing, nofun⟩
    intro name label available h
    cases h
    exact ⟨r, hr, rfl, rfl, rfl⟩
  · rw [hp]
    refine ⟨⟨nofun, fun ⟨r, hr, h⟩ => absurd (hall r hr) h⟩, nofun,
      fun _ => ⟨⟨fun _ => hfits, fun _ => ⟨_, rfl⟩⟩, fun h => absurd hfits h⟩, ?_⟩
    intro q hq
    cases hq
    exact ⟨rfl, rfl, hjoins⟩
  · rw [herr]
    exact ⟨⟨nofun, fun ⟨r, hr, h⟩ => absurd (hall r hr) h⟩, nofun,
      fun _ => ⟨⟨nofun, fun h => absurd h hfits⟩, fun _ => ⟨reason, rfl⟩⟩, nofun⟩

/-- A kernel that imports a function of one value, linked with the only one that the device knows,
as it was compiled. -/
theorem resolve_decides_unary :
    ∃ (d : HostDevice) (kernel callee : EntryRef), d.Makes callee.unit.library ∧
      ∃ p, d.resolve kernel [callee] = .ok p ∧
        p.pipeline.linked.find? "f" = some (.unary .standard) := by
  let d : HostDevice := ⟨.standard, Registry.empty.register "f" "x;" (.callable (.unary .standard))⟩
  let f : LibraryExport := ⟨⟨"float", "f", ["float"]⟩, .unary .standard⟩
  let callee : EntryRef := ⟨⟨⟨[], [f], []⟩, .inProcess, "callee"⟩, "f"⟩
  let caller : LibraryKernel := ⟨"k", .stagedUnary "k" 32 (.call "f")⟩
  let kernel : EntryRef := ⟨⟨⟨[caller], [], [f.signature]⟩, .inProcess, "kernel"⟩, "k"⟩
  have hmakes : d.Makes callee.unit.library :=
    .inl ⟨"[[visible]] float f(float x) { x; }", none, rfl⟩
  have hexports : callee.function.Exports f := ⟨List.mem_singleton_self _, rfl⟩
  have hfits : Fits kernel.function [callee.function] :=
    ⟨⟨caller, List.mem_singleton_self _, rfl⟩,
      List.forall_mem_singleton.mpr ⟨f, hexports⟩, List.nodup_singleton _,
      List.forall_mem_singleton.mpr
        ⟨callee.function, List.mem_singleton_self _, f, hexports, rfl⟩⟩
  have hdecides := @resolve_decides d kernel [callee] (List.forall_mem_singleton.mpr hmakes)
  obtain ⟨p, hp⟩ := (hdecides.2.2.1 (by decide)).1.mpr hfits
  refine ⟨d, kernel, callee, hmakes, p, hp, ?_⟩
  exact ((hdecides.2.2.2 p hp).2.2.calls _ _).mpr
    ⟨callee.function, List.mem_singleton_self _, rfl, f, hexports, rfl⟩

end HostDevice

end KernelLink
