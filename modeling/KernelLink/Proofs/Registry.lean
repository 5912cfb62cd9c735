import KernelLink.Catalog
import Mathlib.Data.List.Induction

/-!
# What a look-up answers

A registry is built by registering one binding after another, and all that can be asked of it is
what is found under a key. Registering changes that for one key only; so what is found in the end is
what was registered last under the key, whatever else was registered before or after.
-/

namespace KernelLink

namespace Registry

variable {α : Type}

/-- Putting a value in place of others changes no key. -/
theorem find?_replaced (entries : List (FunctionKey × α)) (key key' : FunctionKey) (value : α) :
    ((entries.map fun (k, v) => if k = key then (k, value) else (k, v)).find? (·.1 = key')).map
        (·.2) =
      (entries.find? (·.1 = key')).map fun entry => if key' = key then value else entry.2 := by
  induction entries with
  | nil => rfl
  | cons entry entries ih =>
    obtain ⟨k, v⟩ := entry
    rw [List.map_cons, List.find?_cons, List.find?_cons]
    by_cases hk : k = key'
    · subst hk
      by_cases hkey : k = key
      · simp [hkey]
      · simp [hkey]
    · have hsame : (if k = key then (k, value) else (k, v)).1 = k := by split <;> rfl
      simp only [hsame, hk, decide_false]
      exact ih

/-- **Registering changes what is found under one key.** -/
theorem get?_put (r : Registry α) (key key' : FunctionKey) (value : α) :
    (r.put key value).get? key' = if key' = key then some value else r.get? key' := by
  unfold put
  by_cases hsome : (r.get? key).isSome
  · rw [if_pos hsome]
    unfold get? at hsome ⊢
    rw [find?_replaced]
    by_cases hkey : key' = key
    · subst hkey
      obtain ⟨v, hv⟩ := Option.isSome_iff_exists.mp hsome
      obtain ⟨entry, hentry, -⟩ := Option.map_eq_some_iff.mp hv
      rw [hentry]
      simp
    · simp [hkey]
  · rw [if_neg hsome]
    rw [Option.not_isSome_iff_eq_none] at hsome
    unfold get? at hsome ⊢
    rw [List.find?_append, List.find?_singleton]
    by_cases hkey : key' = key
    · subst hkey
      rw [Option.map_eq_none_iff.mp hsome]
      simp
    · simp [hkey, Ne.symm hkey]

end Registry

/-! ## Bindings one after another -/

/-- The key that a binding is found under. -/
def EmulationBinding.key (b : EmulationBinding) : FunctionKey := .of b.name b.body

namespace Registry

/-- Registers bindings in order. -/
def registerAll (r : Registry Emulation) (bindings : List EmulationBinding) : Registry Emulation :=
  bindings.foldl (fun r b => r.register b.name b.body b.emulation) r

theorem registerAll_append (r : Registry Emulation) (bs bs' : List EmulationBinding) :
    r.registerAll (bs ++ bs') = (r.registerAll bs).registerAll bs' :=
  List.foldl_append

theorem registerAll_concat (r : Registry Emulation) (bs : List EmulationBinding)
    (b : EmulationBinding) :
    r.registerAll (bs ++ [b]) = (r.registerAll bs).put b.key b.emulation :=
  registerAll_append r bs [b]

variable {bs : List EmulationBinding} {key : FunctionKey} {e : Emulation}

/-- What is found was registered. -/
theorem exists_of_get?_registerAll (h : (empty.registerAll bs).get? key = some e) :
    ∃ b ∈ bs, b.key = key ∧ b.emulation = e := by
  induction bs using List.reverseRecOn with
  | nil => cases h
  | append_singleton bs b ih =>
    rw [registerAll_concat, get?_put] at h
    by_cases hkey : key = b.key
    · rw [if_pos hkey] at h
      cases h
      exact ⟨b, List.mem_append_right _ (List.mem_singleton_self b), hkey.symm, rfl⟩
    · rw [if_neg hkey] at h
      obtain ⟨b', hb', hfound⟩ := ih h
      exact ⟨b', List.mem_append_left _ hb', hfound⟩

/-- What was registered is found, unless something else was registered under its key. -/
theorem get?_registerAll_of_mem {b : EmulationBinding} (hb : b ∈ bs)
    (hsame : ∀ b' ∈ bs, b'.key = b.key → b'.emulation = b.emulation) :
    (empty.registerAll bs).get? b.key = some b.emulation := by
  have hfound : ∃ e, (empty.registerAll bs).get? b.key = some e := by
    induction bs using List.reverseRecOn with
    | nil => cases hb
    | append_singleton bs c ih =>
      rw [registerAll_concat, get?_put]
      by_cases hkey : b.key = c.key
      · exact ⟨c.emulation, if_pos hkey⟩
      · rw [if_neg hkey]
        rcases List.mem_append.mp hb with hb | hb
        · exact ih hb fun b' hb' => hsame b' (List.mem_append_left _ hb')
        · exact absurd (congrArg EmulationBinding.key (List.mem_singleton.mp hb)) hkey
  obtain ⟨e, he⟩ := hfound
  obtain ⟨b', hb', hkey, rfl⟩ := exists_of_get?_registerAll he
  rw [he, hsame b' hb' hkey]

end Registry

/-! ## The registry of a catalog -/

namespace Catalog

/-- The bindings of everything in the catalog. -/
def bindings (c : Catalog) : List EmulationBinding := c.entries.flatMap (·.emulations)

theorem registry_eq (c : Catalog) : c.registry = Registry.empty.registerAll c.bindings := by
  unfold registry bindings
  generalize c.entries = entries
  generalize Registry.empty = r
  induction entries generalizing r with
  | nil => rfl
  | cons e entries ih =>
    rw [List.foldl_cons, ih, List.flatMap_cons, Registry.registerAll_append]
    rfl

end Catalog

end KernelLink
