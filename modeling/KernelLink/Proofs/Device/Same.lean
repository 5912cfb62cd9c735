import KernelLink.Device.Dispatch
import KernelLink.Proofs.Device.Library
import KernelLink.Proofs.Exec.Same

/-!
# What registered behaviour is for

Registries that answer every look-up with the same behaviour are the same to a device: it makes
libraries of the same functions out of a text, or refuses it for the same reason; it builds
pipelines of the same kernels, or refuses for the same reason; and a pipeline does the same to the
memory.
-/

namespace KernelLink

/-! ## Results -/

/-- The same fault, or results that are related. -/
inductive ResultRel {ε α β : Type} (r : α → β → Prop) : Except ε α → Except ε β → Prop
  | error (e : ε) : ResultRel r (.error e) (.error e)
  | ok {a : α} {b : β} (h : r a b) : ResultRel r (.ok a) (.ok b)

namespace ResultRel

variable {ε ε' α β α' β' : Type} {r : α → β → Prop} {r' : α' → β' → Prop} {x : Except ε α}
  {y : Except ε β}

theorem bind {f : α → Except ε α'} {g : β → Except ε β'} (h : ResultRel r x y)
    (hfg : ∀ a b, r a b → ResultRel r' (f a) (g b)) : ResultRel r' (x >>= f) (y >>= g) := by
  cases h with
  | error e => exact .error e
  | ok hab => exact hfg _ _ hab

theorem map {f : α → α'} {g : β → β'} (h : ResultRel r x y)
    (hfg : ∀ a b, r a b → r' (f a) (g b)) : ResultRel r' (x.map f) (y.map g) := by
  cases h with
  | error e => exact .error e
  | ok hab => exact .ok (hfg _ _ hab)

theorem mapError {f : ε → ε'} (h : ResultRel r x y) :
    ResultRel r (x.mapError f) (y.mapError f) := by
  cases h with
  | error e => exact .error (f e)
  | ok hab => exact .ok hab

theorem eq {y : Except ε α} (h : ResultRel Eq x y) : x = y := by
  cases h with
  | error e => rfl
  | ok hab => rw [hab]

theorem mapM {γ : Type} {f : γ → Except ε α} {g : γ → Except ε β}
    (h : ∀ c, ResultRel r (f c) (g c)) (cs : List γ) :
    ResultRel (List.Forall₂ r) (cs.mapM f) (cs.mapM g) := by
  induction cs with
  | nil => exact .ok .nil
  | cons c cs ih =>
    rw [List.mapM_cons, List.mapM_cons]
    exact (h c).bind fun a b hab => ih.bind fun as bs hrest => .ok (.cons hab hrest)

end ResultRel

/-! ## Libraries -/

/-- A look-up finds the same in lists of the same. -/
theorem forall₂_find? {α β : Type} {r : α → β → Prop} {p : α → Bool} {q : β → Bool}
    (hpq : ∀ a b, r a b → p a = q b) {as : List α} {bs : List β} (h : List.Forall₂ r as bs) :
    Option.Rel r (as.find? p) (bs.find? q) := by
  induction h with
  | nil => exact .none
  | @cons a b as bs hab hrest ih =>
    rw [List.find?_cons, List.find?_cons, ← hpq a b hab]
    cases p a with
    | true => exact .some hab
    | false => exact ih

def LibraryKernel.Same (k k' : LibraryKernel) : Prop := k.name = k'.name ∧ k.kernel.Same k'.kernel

def LibraryExport.Same (e e' : LibraryExport) : Prop :=
  e.signature = e'.signature ∧ e.callable.Same e'.callable

/-- Libraries of the same functions. -/
structure Library.Same (l l' : Library) : Prop where
  kernels : List.Forall₂ LibraryKernel.Same l.kernels l'.kernels
  exports : List.Forall₂ LibraryExport.Same l.exports l'.exports
  imports : l.imports = l'.imports

/-- Registries that answer every look-up with the same behaviour. -/
def Registry.Same (r r' : Registry Emulation) : Prop :=
  ∀ key, Option.Rel Emulation.Same (r.get? key) (r'.get? key)

/-- Walks that look for the same find the same. -/
theorem bindInOrder_same {β : Type} {same : β → β → Prop}
    {behaviour behaviour' : ScannedFunction → Except LowerFault β}
    (h : ∀ f, ResultRel same (behaviour f) (behaviour' f)) (seen : List String)
    (fs : List ScannedFunction) :
    ResultRel (List.Forall₂ same) (bindInOrder behaviour seen fs)
      (bindInOrder behaviour' seen fs) := by
  induction fs generalizing seen with
  | nil => exact .ok .nil
  | cons f fs ih =>
    have hf := h f
    unfold bindInOrder
    split
    · exact .error _
    · generalize behaviour f = x at hf
      generalize behaviour' f = y at hf
      cases hf with
      | error e => exact .error e
      | ok hab => exact (ih _).map fun _ _ hrest => .cons hab hrest

section

variable {r r' : Registry Emulation} (h : r.Same r')

include h

theorem bindKernel_same (f : ScannedFunction) :
    ResultRel LibraryKernel.Same (r.bindKernel f) (r'.bindKernel f) := by
  have hfind : Option.Rel Emulation.Same (r.find? f.name f.body) (r'.find? f.name f.body) :=
    h (.of f.name f.body)
  unfold Registry.bindKernel
  generalize r.find? f.name f.body = e at hfind
  generalize r'.find? f.name f.body = e' at hfind
  cases hfind with
  | none => exact .error _
  | some hsame =>
    cases hsame with
    | kernel hk => exact .ok ⟨rfl, hk⟩
    | callable hc => exact .error _

theorem bindExport_same (f : ScannedFunction) :
    ResultRel LibraryExport.Same (r.bindExport f) (r'.bindExport f) := by
  have hfind : Option.Rel Emulation.Same (r.find? f.name f.body) (r'.find? f.name f.body) :=
    h (.of f.name f.body)
  unfold Registry.bindExport
  generalize r.find? f.name f.body = e at hfind
  generalize r'.find? f.name f.body = e' at hfind
  cases hfind with
  | none => exact .error _
  | some hsame =>
    cases hsame with
    | kernel hk => exact .error _
    | callable hc => exact .ok ⟨rfl, hc⟩

theorem lower_same (s : ScannedSource) : ResultRel Library.Same (lower r s) (lower r' s) := by
  unfold lower
  simp only [lowerKernels_eq_bindInOrder, lowerExports_eq_bindInOrder]
  exact (bindInOrder_same (bindKernel_same h) _ _).bind fun _ _ hkernels =>
    (bindInOrder_same (bindExport_same h) _ _).bind fun _ _ hexports =>
      .ok ⟨hkernels, hexports, rfl⟩

end

/-! ## Pipelines -/

structure Pipeline.Same (p p' : Pipeline) : Prop where
  name : p.name = p'.name
  kernel : p.kernel.Same p'.kernel
  linked : Linked.Same p.linked p'.linked
  maxThreads : p.maxThreads = p'.maxThreads

/-- Functions of one name in libraries of the same functions. -/
def FunctionRef.Same (f f' : FunctionRef) : Prop := f.library.Same f'.library ∧ f.name = f'.name

namespace FunctionRef.Same

variable {f f' : FunctionRef}

theorem kernel? (h : f.Same f') :
    Option.Rel LibraryKernel.Same (f.library.kernel? f.name) (f'.library.kernel? f'.name) :=
  forall₂_find? (fun a b hab => by rw [hab.1, h.2]) h.1.kernels

theorem export? (h : f.Same f') :
    Option.Rel LibraryExport.Same (f.library.export? f.name) (f'.library.export? f'.name) :=
  forall₂_find? (fun a b hab => by rw [hab.1, h.2]) h.1.exports

end FunctionRef.Same

theorem findKernel_same {f f' : FunctionRef} (h : f.Same f') :
    ResultRel LibraryKernel.Same (findKernel f) (findKernel f') := by
  have hk := h.kernel?
  have he := h.export?
  have hname := h.2
  unfold findKernel
  rw [hname] at hk he ⊢
  generalize f.library.kernel? f'.name = k at hk
  generalize f'.library.kernel? f'.name = k' at hk
  generalize f.library.export? f'.name = e at he
  generalize f'.library.export? f'.name = e' at he
  cases hk with
  | some hsame => exact .ok hsame
  | none => cases he <;> exact .error _

theorem findExport_same {f f' : FunctionRef} (h : f.Same f') :
    ResultRel LibraryExport.Same (findExport f) (findExport f') := by
  have hk := h.kernel?
  have he := h.export?
  have hname := h.2
  unfold findExport
  rw [hname] at hk he ⊢
  generalize f.library.kernel? f'.name = k at hk
  generalize f'.library.kernel? f'.name = k' at hk
  generalize f.library.export? f'.name = e at he
  generalize f'.library.export? f'.name = e' at he
  cases he with
  | some hsame => exact .ok hsame
  | none => cases hk <;> exact .error _

theorem findExports_same {fs fs' : List FunctionRef} (h : List.Forall₂ FunctionRef.Same fs fs')
    (seen : List String) :
    ResultRel (List.Forall₂ LibraryExport.Same) (findExports seen fs) (findExports seen fs') := by
  induction h generalizing seen with
  | nil => exact .ok .nil
  | @cons f f' fs fs' hf hrest ih =>
    unfold findExports
    refine (findExport_same hf).bind fun e e' he => ?_
    rw [hf.2]
    split
    · exact .error _
    · exact (ih _).bind fun es es' hes => .ok (.cons he hes)

theorem checkImports_same {es es' : List LibraryExport} (h : List.Forall₂ LibraryExport.Same es es')
    (imports : List Signature) : checkImports es imports = checkImports es' imports := by
  have hcheck (declared : Signature) : checkImport es declared = checkImport es' declared := by
    have hfind : Option.Rel LibraryExport.Same (es.find? (·.signature.name = declared.name))
        (es'.find? (·.signature.name = declared.name)) :=
      forall₂_find? (fun a b hab => by rw [hab.1]) h
    unfold checkImport
    generalize es.find? (·.signature.name = declared.name) = e at hfind
    generalize es'.find? (·.signature.name = declared.name) = e' at hfind
    cases hfind with
    | none => rfl
    | some hsame =>
      dsimp only
      rw [hsame.1]
  induction imports with
  | nil => rfl
  | cons declared rest ih =>
    unfold checkImports
    rw [hcheck, ih]

theorem link_same {kernel kernel' : FunctionRef} {fs fs' : List FunctionRef}
    (hk : kernel.Same kernel') (hfs : List.Forall₂ FunctionRef.Same fs fs') (maxThreads : Nat) :
    ResultRel Pipeline.Same (link maxThreads kernel fs) (link maxThreads kernel' fs') := by
  unfold link
  refine (findKernel_same hk).bind fun k k' hkernel => ?_
  refine (findExports_same hfs []).bind fun es es' hes => ?_
  rw [hk.1.imports, checkImports_same hes]
  have hlinked : Linked.Same (es.map fun e => (e.signature.name, e.callable))
      (es'.map fun e => (e.signature.name, e.callable)) := by
    refine List.forall₂_map_left_iff.mpr (List.forall₂_map_right_iff.mpr (hes.imp ?_))
    exact fun a b hab => ⟨by rw [hab.1], hab.2⟩
  cases checkImports es' kernel'.library.imports with
  | error e => exact .error e
  | ok u => exact .ok ⟨hkernel.1, hkernel.2, hlinked, rfl⟩

namespace Pipeline.Same

variable {p p' : Pipeline}

theorem runGroup_eq (h : p.Same p') : p.runGroup = p'.runGroup := by
  funext g t
  have hrun : p.kernel.run g p.linked = p'.kernel.run g p'.linked :=
    (Kernel.run_congr h.linked _ g).trans (h.kernel.run g _)
  unfold runGroup
  rw [hrun, h.kernel.memory]

theorem runGroups_eq (h : p.Same p') (s : DispatchShape) (count index : Nat) (t : BufferTable) :
    p.runGroups s count index t = p'.runGroups s count index t := by
  induction count generalizing index t with
  | zero => rfl
  | succ count ih =>
    unfold runGroups
    rw [h.runGroup_eq]
    cases p'.runGroup (s.group index) t with
    | ok t => exact ih (index + 1) t
    | error stop => rfl

/-- **The same pipelines do the same to the memory.** -/
theorem dispatch_eq (h : p.Same p') : p.dispatch = p'.dispatch := by
  funext b s m
  unfold dispatch
  rw [h.runGroups_eq, h.maxThreads, h.name]

end Pipeline.Same

/-! ## Devices -/

/-- What a library is made of: an artifact, or a source that is compiled in some version. -/
inductive LibraryText where
  | artifact (bytes : ByteArray)
  | source (text : String) (version : Option LanguageVersion)

namespace HostDevice

/-- Makes a library. -/
def make (d : HostDevice) : LibraryText → Except DeviceFault Library
  | .artifact bytes => d.load bytes
  | .source text version => d.compile text version

/-- Makes a library and names a function of it. -/
def refer (d : HostDevice) (f : LibraryText × String) : Except DeviceFault FunctionRef :=
  (d.make f.1).map (⟨·, f.2⟩)

/-- What becomes of texts: they are made into libraries, linked and dispatched. -/
def runTexts (d : HostDevice) (kernel : LibraryText × String)
    (functions : List (LibraryText × String)) (b : Bindings) (s : DispatchShape)
    (m : DeviceMemory) : Except DeviceFault (Except Crash (Completion × DeviceMemory)) := do
  let kernel ← d.refer kernel
  let functions ← functions.mapM d.refer
  let p ← d.buildPipeline kernel functions
  .ok (p.dispatch b s m)

variable {r r' : Registry Emulation} (h : r.Same r')

include h

theorem make_same (options : HostOptions) (text : LibraryText) :
    ResultRel Library.Same ((mk options r).make text) ((mk options r').make text) := by
  cases text with
  | artifact bytes =>
    show ResultRel _ ((mk options r).load bytes) ((mk options r').load bytes)
    unfold load
    split
    · unfold loadText
      split
      · exact .error _
      · split
        · exact .error _
        · exact (lower_same h _).mapError
    · exact .error _
  | source text version =>
    show ResultRel _ ((mk options r).compile text version) ((mk options r').compile text version)
    unfold compile
    split
    · exact .error _
    · split
      · exact .error _
      · exact (lower_same h _).mapError

theorem refer_same (options : HostOptions) (f : LibraryText × String) :
    ResultRel FunctionRef.Same ((mk options r).refer f) ((mk options r').refer f) :=
  (make_same h options f.1).map fun _ _ hl => ⟨hl, rfl⟩

/-- **What texts compute depends on the registered behaviour only.** -/
theorem runTexts_eq (options : HostOptions) :
    (mk options r).runTexts = (mk options r').runTexts := by
  funext kernel functions b s m
  refine ResultRel.eq ?_
  refine (refer_same h options kernel).bind fun k k' hk => ?_
  refine (ResultRel.mapM (refer_same h options) functions).bind fun fs fs' hfs => ?_
  refine (link_same hk hfs options.maxThreads).mapError.bind fun p p' hp => .ok ?_
  rw [hp.dispatch_eq]

end HostDevice

end KernelLink
