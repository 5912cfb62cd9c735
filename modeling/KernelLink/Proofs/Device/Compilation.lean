import KernelLink.Proofs.Catalog.SelfHosting

/-!
# Compiling and loading one text

A text can become a library in two ways: it is compiled, or its bytes are loaded as an artifact.
Both scan the text and lower what they find, but each way has a condition of its own between these
two steps. Compiling asks the policy about intrinsic bindings, loading asks for at least one
function. So the ways never give different libraries, and where one way gives a library and the
other does not, the condition that only the other one has is to blame.
-/

namespace KernelLink

variable {d : HostDevice} {source : String} {version : Option LanguageVersion} {l : Library}

namespace ScannedSource

variable {s : ScannedSource}

theorem bindsIntrinsics_iff : s.bindsIntrinsics = true ↔ s.intrinsics ≠ [] := by
  unfold bindsIntrinsics
  cases s.intrinsics <;> simp

theorem isEmpty_iff : s.isEmpty = true ↔ s.kernels = [] ∧ s.exports = [] := by
  unfold isEmpty
  rw [Bool.and_eq_true, List.isEmpty_iff, List.isEmpty_iff]

theorem isEmpty_iff_functionNames : s.isEmpty = true ↔ s.functionNames = [] := by
  rw [isEmpty_iff, functionNames, List.map_eq_nil_iff, List.append_eq_nil_iff]

end ScannedSource

/-- A text that defines nothing lowers to the library of its imports. -/
theorem lower_of_isEmpty (r : Registry Emulation) {s : ScannedSource} (h : s.isEmpty = true) :
    lower r s = .ok ⟨[], [], s.imports⟩ := by
  obtain ⟨hk, he⟩ := ScannedSource.isEmpty_iff.mp h
  unfold lower
  rw [hk, he]
  rfl

/-! ## The two conditions -/

/-- The policy has nothing to say against what the text binds. -/
def IntrinsicPolicy.Permits (p : IntrinsicPolicy) (requested : Option LanguageVersion)
    (s : ScannedSource) : Prop :=
  s.intrinsics ≠ [] → p.allows requested = true

theorem IntrinsicPolicy.not_permits_iff {p : IntrinsicPolicy} {s : ScannedSource} :
    ¬p.Permits version s ↔ s.intrinsics ≠ [] ∧ p.allows version = false := by
  unfold Permits
  rw [Classical.not_imp, Bool.not_eq_true]

theorem IntrinsicPolicy.not_permits_iff_bindsIntrinsics {p : IntrinsicPolicy} {s : ScannedSource} :
    ¬p.Permits version s ↔ (s.bindsIntrinsics && !p.allows version) = true := by
  rw [not_permits_iff, Bool.and_eq_true, ScannedSource.bindsIntrinsics_iff, Bool.not_eq_true']

theorem Except.mapError_eq_ok_iff {ε ε' α : Type} {x : Except ε α} {f : ε → ε'} {a : α} :
    x.mapError f = .ok a ↔ x = .ok a := by
  cases x with
  | error e => exact ⟨nofun, nofun⟩
  | ok b =>
    unfold Except.mapError
    simp only [Except.ok.injEq]

theorem Except.exists_of_mapError_eq_error {ε ε' α : Type} {x : Except ε α} {f : ε → ε'} {e : ε'}
    (h : x.mapError f = .error e) : ∃ cause, e = f cause := by
  cases x with
  | error cause => exact ⟨cause, (Except.error.inj h).symm⟩
  | ok a => cases h

namespace HostDevice

/-- What compiling asks for, and what it gives. -/
theorem compile_eq_ok_iff : d.compile source version = .ok l ↔
    ∃ s, scanSource source = .ok s ∧ d.options.intrinsics.Permits version s ∧
      lower d.registry s = .ok l := by
  unfold compile
  cases hscan : scanSource source with
  | error fault => simp
  | ok s =>
    by_cases hp : d.options.intrinsics.Permits version s
    · have hguard := mt IntrinsicPolicy.not_permits_iff_bindsIntrinsics.mpr (not_not.mpr hp)
      simp [hguard, hp, Except.mapError_eq_ok_iff]
    · have hguard := IntrinsicPolicy.not_permits_iff_bindsIntrinsics.mp hp
      simp [hguard, hp]

/-- What loading asks for, and what it gives. -/
theorem loadText_eq_ok_iff : d.loadText source = .ok l ↔
    ∃ s, scanSource source = .ok s ∧ s.isEmpty = false ∧ lower d.registry s = .ok l := by
  unfold loadText
  cases hscan : scanSource source with
  | error fault => simp
  | ok s => cases hempty : s.isEmpty <;> simp [hempty, Except.mapError_eq_ok_iff]

theorem load_toUTF8 (d : HostDevice) (source : String) :
    d.load source.toUTF8 = d.loadText source := by
  unfold load
  rw [fromUTF8?_toUTF8]

/-- What loads compiles as well where every binding is accepted. -/
theorem compile_of_load (hd : d.options.intrinsics = .accept) (h : d.load source.toUTF8 = .ok l) :
    d.compile source version = .ok l := by
  rw [load_toUTF8] at h
  obtain ⟨s, hscan, -, hlower⟩ := loadText_eq_ok_iff.mp h
  have hpermits : d.options.intrinsics.Permits version s := by
    rw [hd]
    exact fun _ => rfl
  exact compile_eq_ok_iff.mpr ⟨s, hscan, hpermits, hlower⟩

/-! ## Whichever way -/

/-- The device makes the library out of the text, compiled in some version or loaded. -/
def MakesFrom (d : HostDevice) (text : String) (l : Library) : Prop :=
  (∃ version, d.compile text version = .ok l) ∨ d.load text.toUTF8 = .ok l

/-- Whatever the way, the library is lowered from what the text is scanned to. -/
theorem MakesFrom.exists_lower {text : String} (h : d.MakesFrom text l) :
    ∃ s, scanSource text = .ok s ∧ lower d.registry s = .ok l := by
  rcases h with ⟨version, h⟩ | h
  · exact lower_of_compile h
  · rw [load_toUTF8] at h
    exact lower_of_loadText h

/-- A text makes one library, whatever the way. -/
theorem MakesFrom.unique {text : String} {l' : Library} (h : d.MakesFrom text l)
    (h' : d.MakesFrom text l') : l = l' := by
  obtain ⟨s, hs, hl⟩ := h.exists_lower
  obtain ⟨s', hs', hl'⟩ := h'.exists_lower
  rw [hs] at hs'
  cases hs'
  rw [hl] at hl'
  cases hl'
  rfl

/-! ## The kinds of faults -/

/-- Compiling fails with a diagnostic, whichever step fails. -/
theorem compile_fault {fault : DeviceFault} (h : d.compile source version = .error fault) :
    ∃ diagnostic, fault = .compile diagnostic := by
  unfold compile at h
  split at h
  · exact ⟨_, (Except.error.inj h).symm⟩
  · split at h
    · exact ⟨_, (Except.error.inj h).symm⟩
    · obtain ⟨cause, rfl⟩ := Except.exists_of_mapError_eq_error h
      exact ⟨cause.message, rfl⟩

/-- Loading fails with a reason, whichever step fails. -/
theorem load_fault {bytes : ByteArray} {fault : DeviceFault} (h : d.load bytes = .error fault) :
    ∃ reason, fault = .load reason := by
  unfold load at h
  split at h
  · rename_i text _
    unfold loadText at h
    split at h
    · exact ⟨_, (Except.error.inj h).symm⟩
    · split at h
      · exact ⟨_, (Except.error.inj h).symm⟩
      · obtain ⟨cause, rfl⟩ := Except.exists_of_mapError_eq_error h
        exact ⟨cause.message, rfl⟩
  · exact ⟨_, (Except.error.inj h).symm⟩

/-- What is no text is no artifact. -/
theorem load_of_not_isValidUTF8 (d : HostDevice) {bytes : ByteArray} (h : ¬bytes.IsValidUTF8) :
    d.load bytes = .error (.load "not a host library artifact") := by
  have hnone : String.fromUTF8? bytes = none := by
    unfold String.fromUTF8?
    rw [dif_neg h]
  unfold load
  rw [hnone]

/-! ## Where the ways part -/

/-- The text compiles in the version. -/
def Compiles (d : HostDevice) (source : String) (version : Option LanguageVersion) : Prop :=
  ∃ l, d.compile source version = .ok l

/-- The bytes are an artifact. -/
def Loads (d : HostDevice) (bytes : ByteArray) : Prop := ∃ l, d.load bytes = .ok l

theorem compiles_iff : d.Compiles source version ↔
    ∃ s, scanSource source = .ok s ∧ d.options.intrinsics.Permits version s ∧
      ∃ l, lower d.registry s = .ok l := by
  unfold Compiles
  simp only [compile_eq_ok_iff]
  constructor
  · rintro ⟨l, s, hs, hp, hl⟩
    exact ⟨s, hs, hp, l, hl⟩
  · rintro ⟨s, hs, hp, l, hl⟩
    exact ⟨l, s, hs, hp, hl⟩

theorem loads_toUTF8_iff : d.Loads source.toUTF8 ↔
    ∃ s, scanSource source = .ok s ∧ s.isEmpty = false ∧ ∃ l, lower d.registry s = .ok l := by
  unfold Loads
  simp only [load_toUTF8, loadText_eq_ok_iff]
  constructor
  · rintro ⟨l, s, hs, he, hl⟩
    exact ⟨s, hs, he, l, hl⟩
  · rintro ⟨s, hs, he, l, hl⟩
    exact ⟨l, s, hs, he, hl⟩

/-- Both ways lower the one scan that a text has. -/
theorem compile_eq_load {l' : Library} (h : d.compile source version = .ok l)
    (h' : d.load source.toUTF8 = .ok l') : l = l' :=
  MakesFrom.unique (.inl ⟨version, h⟩) (.inr h')

/-- Only the policy stands between an artifact and compiling its text. -/
theorem not_compiles_and_loads_iff : ¬d.Compiles source version ∧ d.Loads source.toUTF8 ↔
    ∃ s, scanSource source = .ok s ∧ s.isEmpty = false ∧ (∃ l, lower d.registry s = .ok l) ∧
      ¬d.options.intrinsics.Permits version s := by
  rw [compiles_iff, loads_toUTF8_iff]
  constructor
  · rintro ⟨hnot, s, hs, he, hl⟩
    have hp : ¬d.options.intrinsics.Permits version s := fun hp => hnot ⟨s, hs, hp, hl⟩
    exact ⟨s, hs, he, hl, hp⟩
  · rintro ⟨s, hs, he, hl, hp⟩
    refine ⟨?_, s, hs, he, hl⟩
    rintro ⟨s', hs', hp', -⟩
    obtain rfl : s = s' := Except.ok.inj (hs.symm.trans hs')
    exact hp hp'

/-- Only having no function stands between a text that compiles and its artifact. That it lowers
has not to be asked: there is nothing to bind. -/
theorem not_loads_and_compiles_iff : ¬d.Loads source.toUTF8 ∧ d.Compiles source version ↔
    ∃ s, scanSource source = .ok s ∧ s.isEmpty = true ∧
      d.options.intrinsics.Permits version s := by
  rw [compiles_iff, loads_toUTF8_iff]
  constructor
  · rintro ⟨hnot, s, hs, hp, hl⟩
    have he : s.isEmpty = true := by
      by_contra he
      exact hnot ⟨s, hs, eq_false_of_ne_true he, hl⟩
    exact ⟨s, hs, he, hp⟩
  · rintro ⟨s, hs, he, hp⟩
    refine ⟨?_, s, hs, hp, _, lower_of_isEmpty d.registry he⟩
    rintro ⟨s', hs', he', -⟩
    obtain rfl : s = s' := Except.ok.inj (hs.symm.trans hs')
    exact Bool.noConfusion (he.symm.trans he')

/--
**Compiling and loading agree on every text, up to the one condition that each has for itself.**

Where both give a library, it is the same one. A text loads and does not compile exactly when it
binds intrinsics against the policy and is fine otherwise; it compiles and does not load exactly
when it defines no function and is fine otherwise. And each way has its own kind of fault, for
bytes that are no text as well.
-/
theorem compiling_and_loading_agree (d : HostDevice) (source : String)
    (version : Option LanguageVersion) :
    (∀ l l', d.compile source version = .ok l → d.load source.toUTF8 = .ok l' →
      l.kernels = l'.kernels ∧ l.exports = l'.exports ∧ l.imports = l'.imports) ∧
    (¬d.Compiles source version ∧ d.Loads source.toUTF8 ↔
      ∃ s, scanSource source = .ok s ∧ s.functionNames ≠ [] ∧ (∃ l, lower d.registry s = .ok l) ∧
        s.intrinsics ≠ [] ∧ d.options.intrinsics.allows version = false) ∧
    (¬d.Loads source.toUTF8 ∧ d.Compiles source version ↔
      ∃ s, scanSource source = .ok s ∧ s.kernels = [] ∧ s.exports = [] ∧
        ¬(s.intrinsics ≠ [] ∧ d.options.intrinsics.allows version = false)) ∧
    (∀ fault, d.compile source version = .error fault →
      ∃ diagnostic, fault = .compile diagnostic) ∧
    (∀ bytes fault, d.load bytes = .error fault → ∃ reason, fault = .load reason) ∧
    ∀ bytes : ByteArray, ¬bytes.IsValidUTF8 → ∃ reason, d.load bytes = .error (.load reason) := by
  refine ⟨?_, ?_, ?_, fun _ => compile_fault, fun _ _ => load_fault,
    fun _ h => ⟨_, load_of_not_isValidUTF8 d h⟩⟩
  · intro l l' h h'
    obtain rfl := compile_eq_load h h'
    exact ⟨rfl, rfl, rfl⟩
  · rw [not_compiles_and_loads_iff]
    simp only [← Bool.not_eq_true, ScannedSource.isEmpty_iff_functionNames,
      IntrinsicPolicy.not_permits_iff, ne_eq]
  · rw [not_loads_and_compiles_iff]
    simp only [ScannedSource.isEmpty_iff, ← IntrinsicPolicy.not_permits_iff, not_not, and_assoc]

/-- Under the standard policy a kernel beside a binding loads and does not compile, and the empty
text compiles and does not load. -/
theorem compiling_and_loading_agree_standard :
    let k : Kernel := .stagedUnary "k" 32 (.call "f")
    let d : HostDevice := ⟨.standard, Registry.empty.register "k" "" (.kernel k)⟩
    let source := "__asm(\"f\") kernel void k() \x7b\x7d"
    (¬d.Compiles source none ∧ d.Loads source.toUTF8) ∧
      ¬d.Loads "".toUTF8 ∧ d.Compiles "" none := by
  intro k d source
  have hscan : scanSource source = .ok ⟨[⟨⟨"void", "k", []⟩, ""⟩], [], [], ["f"]⟩ := by
    decide +kernel
  have hlower : lower d.registry ⟨[⟨⟨"void", "k", []⟩, ""⟩], [], [], ["f"]⟩ =
      .ok ⟨[⟨"k", k⟩], [], []⟩ := by
    decide +kernel
  have hempty : scanSource "" = .ok ⟨[], [], [], []⟩ := by decide +kernel
  have hparts := (compiling_and_loading_agree d source none).2.1
  have hways := (compiling_and_loading_agree d "" none).2.2.1
  refine ⟨hparts.mpr ⟨_, hscan, by decide, ⟨_, hlower⟩, by decide, rfl⟩, ?_⟩
  exact hways.mpr ⟨_, hempty, rfl, rfl, fun h => h.1 rfl⟩

end HostDevice

end KernelLink
