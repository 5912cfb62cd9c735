import KernelLink.Proofs.Device.Compilation

/-!
# The names of a library

Lowering walks over the kernels of a text and then over its visible functions, and the names that
were met go along through both walks. So a name belongs to one function, of one of the two kinds, and
a look-up may stop at the first hit. Where lowering fails, the function that the fault names is the
first that has something against it: everything in front of it could be bound.

What the walks have in common is said once, about any kind of emulation that is asked for.
-/

namespace KernelLink

/-! ## The first function that is refused -/

section

variable {β : Type} {behaviour : ScannedFunction → Except LowerFault β}
  {has : ScannedFunction → Prop} {unknown : ScannedFunction → LowerFault}
  {seen seen' : List String} {f : ScannedFunction} {fs : List ScannedFunction} {fault : LowerFault}

/-- The functions have names of their own, and there is an emulation for each. -/
structure Bindable (has : ScannedFunction → Prop) (seen : List String)
    (fs : List ScannedFunction) : Prop extends FreshNames seen fs where
  has_all : ∀ f ∈ fs, has f

theorem bindable_cons_iff :
    Bindable has seen (f :: fs) ↔ f.name ∉ seen ∧ has f ∧ Bindable has (f.name :: seen) fs := by
  constructor
  · rintro ⟨hfresh, hall⟩
    obtain ⟨hf, hfs⟩ := freshNames_cons_iff.mp hfresh
    exact ⟨hf, hall f List.mem_cons_self, hfs, fun g hg => hall g (List.mem_cons_of_mem _ hg)⟩
  · rintro ⟨hf, hhas, hfresh, hall⟩
    exact ⟨freshNames_cons_iff.mpr ⟨hf, hfresh⟩, List.forall_mem_cons.mpr ⟨hhas, hall⟩⟩

/-- Why a function is refused where the names in `seen` are taken: its own name is among them, or
else there is no emulation for it. -/
inductive Refused (has : ScannedFunction → Prop) (unknown : ScannedFunction → LowerFault)
    (seen : List String) (f : ScannedFunction) : LowerFault → Prop where
  | redefined (taken : f.name ∈ seen) : Refused has unknown seen f (.redefinition f.name)
  | unbound (fresh : f.name ∉ seen) (missing : ¬has f) : Refused has unknown seen f (unknown f)

theorem Refused.congr (hseen : ∀ name, name ∈ seen ↔ name ∈ seen') :
    Refused has unknown seen f fault → Refused has unknown seen' f fault
  | .redefined taken => .redefined ((hseen _).mp taken)
  | .unbound fresh missing => .unbound (mt (hseen _).mpr fresh) missing

/-- The fault is that of the first function that is refused. -/
def FirstRefused (has : ScannedFunction → Prop) (unknown : ScannedFunction → LowerFault)
    (seen : List String) (fs : List ScannedFunction) (fault : LowerFault) : Prop :=
  ∃ before f after, fs = before ++ f :: after ∧ Bindable has seen before ∧
    Refused has unknown (seen ++ before.map (·.name)) f fault

theorem not_firstRefused_nil : ¬FirstRefused has unknown seen [] fault := by
  rintro ⟨before, f, after, h, -⟩
  cases before <;> cases h

theorem firstRefused_cons_iff : FirstRefused has unknown seen (f :: fs) fault ↔
    Refused has unknown seen f fault ∨
      f.name ∉ seen ∧ has f ∧ FirstRefused has unknown (f.name :: seen) fs fault := by
  -- The first name is taken for all that follow, whether it is kept in front of them or with `seen`.
  have hmove (names : List String) (name : String) :
      name ∈ seen ++ f.name :: names ↔ name ∈ f.name :: seen ++ names := by
    simp only [List.mem_append, List.mem_cons]
    tauto
  constructor
  · rintro ⟨before, g, after, heq, hbefore, hrefused⟩
    cases before with
    | nil =>
      cases heq
      exact .inl (hrefused.congr fun _ => by rw [List.map_nil, List.append_nil])
    | cons f' before =>
      cases heq
      obtain ⟨hf, hhas, hrest⟩ := bindable_cons_iff.mp hbefore
      exact .inr ⟨hf, hhas, before, g, after, rfl, hrest, hrefused.congr (hmove _)⟩
  · rintro (hrefused | ⟨hf, hhas, before, g, after, rfl, hbefore, hrefused⟩)
    · exact ⟨[], f, fs, rfl, ⟨.nil _, nofun⟩,
        hrefused.congr fun _ => by rw [List.map_nil, List.append_nil]⟩
    · exact ⟨f :: before, g, after, rfl, bindable_cons_iff.mpr ⟨hf, hhas, hbefore⟩,
        hrefused.congr fun name => (hmove _ name).symm⟩

/-- A first refusal is all that can keep functions from being bound. -/
theorem exists_firstRefused_iff :
    (∃ fault, FirstRefused has unknown seen fs fault) ↔ ¬Bindable has seen fs := by
  induction fs generalizing seen with
  | nil => exact iff_of_false (fun ⟨_, h⟩ => not_firstRefused_nil h) (not_not.mpr ⟨.nil _, nofun⟩)
  | cons f fs ih =>
    simp only [firstRefused_cons_iff, bindable_cons_iff]
    constructor
    · rintro ⟨_, (hseen | ⟨-, hnone⟩) | ⟨-, -, hfirst⟩⟩ ⟨hf, hhas, hrest⟩
      · exact hf hseen
      · exact hnone hhas
      · exact ih.mp ⟨_, hfirst⟩ hrest
    · intro hnot
      by_cases hf : f.name ∈ seen
      · exact ⟨_, .inl (.redefined hf)⟩
      by_cases hhas : has f
      · obtain ⟨fault, hfirst⟩ := ih.mpr fun hrest => hnot ⟨hf, hhas, hrest⟩
        exact ⟨fault, .inr ⟨hf, hhas, hfirst⟩⟩
      · exact ⟨_, .inl (.unbound hf hhas)⟩

/-- The behaviour is found where there is one, and else the fault says that there is none. -/
def Decides (behaviour : ScannedFunction → Except LowerFault β) (has : ScannedFunction → Prop)
    (unknown : ScannedFunction → LowerFault) : Prop :=
  ∀ f, has f ∧ (∃ b, behaviour f = .ok b) ∨ ¬has f ∧ behaviour f = .error (unknown f)

theorem Except.map_eq_error_iff {ε α γ : Type} {x : Except ε α} {g : α → γ} {e : ε} :
    x.map g = .error e ↔ x = .error e := by
  cases x <;> simp [Except.map]

/-- One step of the walk. -/
theorem bindInOrder_cons_eq_error_iff (h : Decides behaviour has unknown) :
    bindInOrder behaviour seen (f :: fs) = .error fault ↔
      Refused has unknown seen f fault ∨
        f.name ∉ seen ∧ has f ∧ bindInOrder behaviour (f.name :: seen) fs = .error fault := by
  rw [bindInOrder]
  -- The name decides first, also where there is no emulation either.
  by_cases hf : f.name ∈ seen
  · rw [if_pos (List.contains_iff_mem.mpr hf)]
    constructor
    · intro herror
      cases herror
      exact .inl (.redefined hf)
    · rintro ((_ | ⟨hfresh, -⟩) | ⟨hfresh, -⟩)
      · rfl
      · exact absurd hf hfresh
      · exact absurd hf hfresh
  · rw [if_neg fun hc => hf (List.contains_iff_mem.mp hc)]
    rcases h f with ⟨hhas, b, hb⟩ | ⟨hnone, hb⟩
    · rw [hb]
      dsimp only
      rw [Except.map_eq_error_iff]
      refine ⟨fun hrest => .inr ⟨hf, hhas, hrest⟩, ?_⟩
      rintro ((hseen | ⟨-, hnone⟩) | ⟨-, -, hrest⟩)
      · exact absurd hseen hf
      · exact absurd hhas hnone
      · exact hrest
    · rw [hb]
      constructor
      · intro herror
        cases herror
        exact .inl (.unbound hf hnone)
      · rintro ((hseen | _) | ⟨-, hhas, -⟩)
        · exact absurd hseen hf
        · rfl
        · exact absurd hhas hnone

/-- **A walk fails with the fault of the first function that is refused.** -/
theorem bindInOrder_eq_error_iff (h : Decides behaviour has unknown) :
    bindInOrder behaviour seen fs = .error fault ↔ FirstRefused has unknown seen fs fault := by
  induction fs generalizing seen with
  | nil => exact iff_of_false (fun hok => by cases hok) not_firstRefused_nil
  | cons f fs ih => rw [bindInOrder_cons_eq_error_iff h, firstRefused_cons_iff, ih]

theorem bindable_iff (h : Decides behaviour has unknown) :
    Bindable has seen fs ↔ ∃ bs, bindInOrder behaviour seen fs = .ok bs := by
  have hrefused : (∃ fault, FirstRefused has unknown seen fs fault) ↔ ¬Bindable has seen fs :=
    exists_firstRefused_iff
  simp only [← bindInOrder_eq_error_iff h] at hrefused
  rw [← not_iff_not, ← hrefused]
  cases bindInOrder behaviour seen fs with
  | error e => exact iff_of_true ⟨e, rfl⟩ nofun
  | ok bs => exact iff_of_false nofun (not_not.mpr ⟨bs, rfl⟩)

end

/-! ## Kernels before visible functions -/

namespace Registry

variable (r : Registry Emulation) (f : ScannedFunction)

/-- There is a kernel for the function's own body. -/
def HasKernel : Prop := ∃ k, r.find? f.name f.body = some (.kernel k)

/-- There is a callable for the function's own body. -/
def HasCallable : Prop := ∃ c, r.find? f.name f.body = some (.callable c)

variable {r f}

theorem decides_bindKernel : Decides r.bindKernel r.HasKernel fun f => .unknownKernel f.name := by
  intro f
  unfold bindKernel HasKernel
  split
  · rename_i k hk
    exact .inl ⟨⟨k, hk⟩, _, rfl⟩
  · rename_i hnone
    exact .inr ⟨fun ⟨k, hk⟩ => hnone k hk, rfl⟩

theorem decides_bindExport :
    Decides r.bindExport r.HasCallable fun f => .unknownVisible f.signature := by
  intro f
  unfold bindExport HasCallable
  split
  · rename_i c hc
    exact .inl ⟨⟨c, hc⟩, _, rfl⟩
  · rename_i hnone
    exact .inr ⟨fun ⟨c, hc⟩ => hnone c hc, rfl⟩

/-- The fault of the first function of a text that is refused: of a kernel, or of a visible function
where every kernel could be bound. -/
def FirstRefusal (r : Registry Emulation) (s : ScannedSource) (fault : LowerFault) : Prop :=
  FirstRefused r.HasKernel (fun f => .unknownKernel f.name) [] s.kernels fault ∨
    Bindable r.HasKernel [] s.kernels ∧
      FirstRefused r.HasCallable (fun f => .unknownVisible f.signature)
        (s.kernels.map (·.name)) s.exports fault

end Registry

variable {r : Registry Emulation} {s : ScannedSource} {l : Library} {fault : LowerFault}

theorem lower_eq_error_iff : lower r s = .error fault ↔ r.FirstRefusal s fault := by
  unfold Registry.FirstRefusal
  rw [lower_eq, bindable_iff Registry.decides_bindKernel,
    ← bindInOrder_eq_error_iff Registry.decides_bindKernel,
    ← bindInOrder_eq_error_iff Registry.decides_bindExport]
  -- The second walk only begins where the first came through.
  cases bindInOrder r.bindKernel [] s.kernels with
  | error e => exact ⟨fun h => .inl (by cases h; rfl), fun h => by simpa using h⟩
  | ok ks =>
    cases bindInOrder r.bindExport (s.kernels.map (·.name)) s.exports with
    | error e => simp
    | ok es => simp

theorem exists_lower_eq_ok_iff : (∃ l, lower r s = .ok l) ↔ s.functionNames.Nodup ∧
    (∀ f ∈ s.kernels, r.HasKernel f) ∧ ∀ f ∈ s.exports, r.HasCallable f := by
  have hwalks : (s.functionNames.Nodup ∧
      (∀ f ∈ s.kernels, r.HasKernel f) ∧ ∀ f ∈ s.exports, r.HasCallable f) ↔
      Bindable r.HasKernel [] s.kernels ∧
        Bindable r.HasCallable (s.kernels.map (·.name)) s.exports := by
    rw [functionNames_nodup_iff]
    exact ⟨fun ⟨⟨hk, he⟩, hkernels, hexports⟩ => ⟨⟨hk, hkernels⟩, he, hexports⟩,
      fun ⟨⟨hk, hkernels⟩, he, hexports⟩ => ⟨⟨hk, he⟩, hkernels, hexports⟩⟩
  rw [hwalks, bindable_iff Registry.decides_bindKernel, bindable_iff Registry.decides_bindExport,
    lower_eq]
  cases bindInOrder r.bindKernel [] s.kernels with
  | error e => simp
  | ok ks => cases bindInOrder r.bindExport (s.kernels.map (·.name)) s.exports <;> simp

/-- Lowering fails over a name that is there twice, or a function without an emulation of its kind. -/
theorem exists_lower_eq_error_iff : (∃ fault, lower r s = .error fault) ↔
    ¬s.functionNames.Nodup ∨
      (∃ f ∈ s.kernels, ¬r.HasKernel f) ∨ ∃ f ∈ s.exports, ¬r.HasCallable f := by
  have herror : (∃ fault, lower r s = .error fault) ↔ ¬∃ l, lower r s = .ok l := by
    cases lower r s <;> simp
  rw [herror, exists_lower_eq_ok_iff, not_and_or, not_and_or]
  simp only [not_forall, exists_prop]

/-! ## What a look-up finds -/

namespace Library

/-- The function is found as a kernel and not as an export, and behaves as the registry says for its
own body. -/
def HoldsKernel (l : Library) (r : Registry Emulation) (f : ScannedFunction) : Prop :=
  ∃ k, r.find? f.name f.body = some (.kernel k) ∧ l.kernel? f.name = some ⟨f.name, k⟩ ∧
    l.export? f.name = none

/-- The function is found as an export and not as a kernel, and behaves as the registry says for its
own body. -/
def HoldsExport (l : Library) (r : Registry Emulation) (f : ScannedFunction) : Prop :=
  ∃ c, r.find? f.name f.body = some (.callable c) ∧ l.export? f.name = some ⟨f.signature, c⟩ ∧
    l.kernel? f.name = none

variable {name : String}

theorem kernel?_eq_none_iff : l.kernel? name = none ↔ name ∉ l.kernels.map (·.name) := by
  unfold kernel?
  simp [List.find?_eq_none]

theorem export?_eq_none_iff : l.export? name = none ↔ name ∉ l.exports.map (·.signature.name) := by
  unfold export?
  simp [List.find?_eq_none]

theorem kernel?_of_mem (hn : l.functionNames.Nodup) {k : LibraryKernel} (hk : k ∈ l.kernels) :
    l.kernel? k.name = some k ∧ l.export? k.name = none := by
  obtain ⟨hkernels, -, hdisjoint⟩ := List.nodup_append.mp hn
  refine ⟨(find?_eq_some_iff_of_nodup hkernels).mpr ⟨hk, rfl⟩, export?_eq_none_iff.mpr fun he => ?_⟩
  -- a name of both kinds would be there twice
  exact hdisjoint _ (List.mem_map_of_mem hk) _ he rfl

theorem export?_of_mem (hn : l.functionNames.Nodup) {e : LibraryExport} (he : e ∈ l.exports) :
    l.export? e.signature.name = some e ∧ l.kernel? e.signature.name = none := by
  obtain ⟨-, hexports, hdisjoint⟩ := List.nodup_append.mp hn
  refine ⟨(find?_eq_some_iff_of_nodup hexports).mpr ⟨he, rfl⟩, kernel?_eq_none_iff.mpr fun hk => ?_⟩
  exact hdisjoint _ hk _ (List.mem_map_of_mem he) rfl

end Library

theorem holdsKernel_of_lower (h : lower r s = .ok l) {f : ScannedFunction} (hf : f ∈ s.kernels) :
    l.HoldsKernel r f := by
  have hn : l.functionNames.Nodup := functionNames_of_lower h ▸ (lower_eq_ok_iff.mp h).1
  obtain ⟨k, hk, hbound⟩ := exists_right_of_mem (lower_eq_ok_iff.mp h).2.1 hf
  obtain ⟨hname, hfind⟩ := Registry.bindKernel_eq_ok_iff.mp hbound
  obtain ⟨name, kernel⟩ := k
  obtain rfl : name = f.name := hname
  exact ⟨kernel, hfind, Library.kernel?_of_mem hn hk⟩

theorem holdsExport_of_lower (h : lower r s = .ok l) {f : ScannedFunction} (hf : f ∈ s.exports) :
    l.HoldsExport r f := by
  have hn : l.functionNames.Nodup := functionNames_of_lower h ▸ (lower_eq_ok_iff.mp h).1
  obtain ⟨e, he, hbound⟩ := exists_right_of_mem (lower_eq_ok_iff.mp h).2.2.1 hf
  obtain ⟨hsignature, hfind⟩ := Registry.bindExport_eq_ok_iff.mp hbound
  obtain ⟨signature, callable⟩ := e
  obtain rfl : signature = f.signature := hsignature
  exact ⟨callable, hfind, Library.export?_of_mem hn he⟩

/-! ## Libraries and faults of a device -/

namespace HostDevice

variable {d : HostDevice} {text : String}

/-- What lowering refuses is no empty text. -/
theorem isEmpty_of_lower_eq_error (h : lower d.registry s = .error fault) : s.isEmpty = false := by
  cases hempty : s.isEmpty with
  | true => rw [lower_of_isEmpty _ hempty] at h; cases h
  | false => rfl

theorem compile_of_lower_eq_error (hscan : scanSource text = .ok s)
    (h : lower d.registry s = .error fault) {version : Option LanguageVersion}
    (hpermits : d.options.intrinsics.Permits version s) :
    d.compile text version = .error (.compile fault.message) := by
  have hguard := mt IntrinsicPolicy.not_permits_iff_bindsIntrinsics.mpr (not_not.mpr hpermits)
  unfold compile
  rw [hscan]
  dsimp only
  rw [if_neg hguard, h]
  rfl

theorem load_of_lower_eq_error (hscan : scanSource text = .ok s)
    (h : lower d.registry s = .error fault) :
    d.load text.toUTF8 = .error (.load fault.message) := by
  rw [load_toUTF8]
  unfold loadText
  rw [hscan]
  dsimp only
  rw [isEmpty_of_lower_eq_error h, h]
  rfl

/--
**The names of a library are unique and complete.**

A library that was made out of a text has the names of its kernels and then those of its visible
functions, each once, and under each name one function of its own kind is found, which behaves as
the registry says for its own body. A text lowers unless a name is there twice or a function has no
emulation of its kind; the fault is that of the first such function, kernels before visible
functions, and it is what compiling and loading report.
-/
theorem library_names_unique_and_complete (d : HostDevice) :
    (∀ text l, d.MakesFrom text l → ∃ s, scanSource text = .ok s ∧
      l.functionNames = s.kernels.map (·.name) ++ s.exports.map (·.name) ∧
      l.functionNames.Nodup ∧
      (∀ f ∈ s.kernels, l.HoldsKernel d.registry f) ∧
      (∀ f ∈ s.exports, l.HoldsExport d.registry f) ∧
      ∀ name, name ∉ l.functionNames → l.kernel? name = none ∧ l.export? name = none) ∧
    (∀ s, (∃ fault, lower d.registry s = .error fault) ↔
      ¬(s.kernels.map (·.name) ++ s.exports.map (·.name)).Nodup ∨
        (∃ f ∈ s.kernels, ¬d.registry.HasKernel f) ∨ ∃ f ∈ s.exports, ¬d.registry.HasCallable f) ∧
    (∀ s fault, lower d.registry s = .error fault ↔ d.registry.FirstRefusal s fault) ∧
    ∀ text s fault, scanSource text = .ok s → lower d.registry s = .error fault →
      d.load text.toUTF8 = .error (.load fault.message) ∧
      ∀ version, d.options.intrinsics.Permits version s →
        d.compile text version = .error (.compile fault.message) := by
  have hnames (s : ScannedSource) :
      s.functionNames = s.kernels.map (·.name) ++ s.exports.map (·.name) := List.map_append
  refine ⟨fun text l h => ?_, fun s => ?_, fun s fault => lower_eq_error_iff,
    fun text s fault hscan h => ⟨load_of_lower_eq_error hscan h,
      fun version => compile_of_lower_eq_error hscan h⟩⟩
  · obtain ⟨s, hscan, hlower⟩ := h.exists_lower
    have hfunctions := functionNames_of_lower hlower
    refine ⟨s, hscan, hfunctions.trans (hnames s), hfunctions ▸ (lower_eq_ok_iff.mp hlower).1,
      fun f => holdsKernel_of_lower hlower, fun f => holdsExport_of_lower hlower,
      fun name hname => ?_⟩
    obtain ⟨hkernels, hexports⟩ := not_or.mp (mt List.mem_append.mpr hname)
    exact ⟨Library.kernel?_eq_none_iff.mpr hkernels, Library.export?_eq_none_iff.mpr hexports⟩
  · rw [exists_lower_eq_error_iff, hnames]

/-- A kernel alone is the function of its library. Behind a visible function of its name it is still
bound first, and what is refused is the visible function. -/
theorem library_names_unique_and_complete_shared :
    let k : Kernel := .stagedUnary "k" 32 (.call "f")
    let d : HostDevice := ⟨.standard, Registry.empty.register "k" "" (.kernel k)⟩
    let f : ScannedFunction := ⟨⟨"void", "k", []⟩, ""⟩
    let l : Library := ⟨[⟨"k", k⟩], [], []⟩
    (d.compile "kernel void k() \x7b\x7d" none = .ok l ∧
      l.functionNames = ["k"] ∧ l.HoldsKernel d.registry f) ∧
      d.load "[[visible]] float k(float x) \x7b return x; \x7d kernel void k() \x7b\x7d".toUTF8 =
        .error (.load "error: redefinition of 'k'") := by
  intro k d f l
  obtain ⟨hmade, -, hrefused, hreports⟩ := library_names_unique_and_complete d
  constructor
  · have hscan : scanSource "kernel void k() \x7b\x7d" = .ok ⟨[f], [], [], []⟩ := by
      decide +kernel
    have hlower : lower d.registry ⟨[f], [], [], []⟩ = .ok l := by decide +kernel
    have hcompile : d.compile "kernel void k() \x7b\x7d" none = .ok l :=
      compile_eq_ok_iff.mpr ⟨_, hscan, fun h => absurd rfl h, hlower⟩
    obtain ⟨s, hs, hnames, -, hkernels, -⟩ := hmade _ l (.inl ⟨none, hcompile⟩)
    obtain rfl : s = ⟨[f], [], [], []⟩ := Except.ok.inj (hs.symm.trans hscan)
    exact ⟨hcompile, hnames, hkernels f List.mem_cons_self⟩
  · have hscan : scanSource
        "[[visible]] float k(float x) \x7b return x; \x7d kernel void k() \x7b\x7d" =
        .ok ⟨[f], [⟨⟨"float", "k", ["float"]⟩, " return x; "⟩], [], []⟩ := by
      decide +kernel
    have hkernel : d.registry.HasKernel f := ⟨k, by decide⟩
    have hfirst : Bindable d.registry.HasKernel [] [f] :=
      ⟨⟨by decide, nofun⟩, List.forall_mem_singleton.mpr hkernel⟩
    exact (hreports _ _ _ hscan ((hrefused _ _).mpr (.inr ⟨hfirst, [], _, [], rfl,
      ⟨.nil _, nofun⟩, .redefined (by decide)⟩))).1

end HostDevice

end KernelLink
