import KernelLink.Proofs.Registry
import KernelLink.Proofs.Text.Comment
import Mathlib.Data.List.Dedup
import Mathlib.Data.List.Find
import Mathlib.Data.List.Perm.Basic
import Mathlib.Logic.Function.Basic

/-!
# Registries as finite maps

Two things are done with registries: something is registered in one, and one is merged into
another, entry by entry. So all that ever happens to a registry is registrations, and it answers
with the latest of them that has the key that is asked for.

Two things could go wrong, and both with merging. An entry keeps its body in layout-free form, and
merging makes a key of that form anew, so the form has to be its own. And the entries come in an
order that nobody chose, so they must not get in each other's way: no two of them may have one key.
The first is a fact about texts, the second an invariant of every registry that was built by
registering.
-/

namespace KernelLink

variable {α ι : Type}

/-- One registration, with its body as it was given. -/
structure Registration (α : Type) where
  name : String
  body : String
  value : α
deriving DecidableEq, Repr

namespace Registration

def key (g : Registration α) : FunctionKey := .of g.name g.body

/-- The value of the latest registration of a key. -/
def latestOf? (gs : List (Registration α)) (key : FunctionKey) : Option α :=
  (gs.reverse.find? (·.key = key)).map (·.value)

/-- The value of the latest registration of a name with a body that differs in layout and comments
at most. -/
def latest? (gs : List (Registration α)) (name body : String) : Option α :=
  (gs.reverse.find? fun g => g.name = name ∧ normalizeBody g.body = normalizeBody body).map
    (·.value)

theorem key_eq_of_iff {g : Registration α} {name body : String} :
    g.key = .of name body ↔ g.name = name ∧ normalizeBody g.body = normalizeBody body := by
  unfold key FunctionKey.of
  rw [FunctionKey.mk.injEq]

theorem latest?_eq (gs : List (Registration α)) (name body : String) :
    latest? gs name body = latestOf? gs (.of name body) := by
  unfold latest? latestOf?
  simp only [key_eq_of_iff]

theorem latestOf?_concat (gs : List (Registration α)) (g : Registration α) (key : FunctionKey) :
    latestOf? (gs ++ [g]) key = if key = g.key then some g.value else latestOf? gs key := by
  unfold latestOf?
  rw [List.reverse_append, List.reverse_singleton, List.singleton_append, List.find?_cons]
  by_cases hkey : key = g.key
  · simp [hkey]
  · simp [hkey, Ne.symm hkey]

end Registration

namespace Registry

/-! ## Keys -/

def keys (r : Registry α) : List FunctionKey := r.entries.map (·.1)

theorem mem_keys_iff {r : Registry α} {key : FunctionKey} :
    key ∈ r.keys ↔ (r.get? key).isSome := by
  unfold keys get?
  rw [Option.isSome_map, List.find?_isSome, List.mem_map]
  simp only [decide_eq_true_eq]

theorem size_eq_length_keys (r : Registry α) : r.size = r.keys.length := by
  unfold size keys
  rw [List.length_map]

theorem keys_put (r : Registry α) (key : FunctionKey) (value : α) :
    (r.put key value).keys = if key ∈ r.keys then r.keys else r.keys ++ [key] := by
  unfold put
  by_cases hsome : (r.get? key).isSome
  · rw [if_pos hsome, if_pos (mem_keys_iff.mpr hsome)]
    unfold keys
    rw [List.map_map]
    refine List.map_congr_left fun entry _ => ?_
    show (if entry.1 = key then (entry.1, value) else (entry.1, entry.2)).1 = entry.1
    split <;> rfl
  · rw [if_neg hsome, if_neg (mt mem_keys_iff.mp hsome)]
    exact List.map_append

/-- What holds of a registry's keys, however it came about. -/
structure WellKeyed (r : Registry α) : Prop where
  nodup : r.keys.Nodup
  /-- The bodies are layout-free. -/
  normal : ∀ key ∈ r.keys, FunctionKey.of key.name key.body = key

theorem WellKeyed.empty : (empty : Registry α).WellKeyed := ⟨List.nodup_nil, nofun⟩

theorem WellKeyed.register {r : Registry α} (h : r.WellKeyed) (name body : String) (value : α) :
    (r.register name body value).WellKeyed := by
  have hkeys := r.keys_put (.of name body) value
  unfold Registry.register
  by_cases hmem : .of name body ∈ r.keys
  · rw [if_pos hmem] at hkeys
    exact ⟨hkeys ▸ h.nodup, hkeys ▸ h.normal⟩
  · rw [if_neg hmem] at hkeys
    refine ⟨?_, ?_⟩
    · rw [hkeys]
      exact List.nodup_append.mpr ⟨h.nodup, List.nodup_singleton _, fun key hkey key' hkey' =>
        fun he => hmem (List.mem_singleton.mp hkey' ▸ he ▸ hkey)⟩
    · rw [hkeys]
      intro key hkey
      rcases List.mem_append.mp hkey with hkey | hkey
      · exact h.normal key hkey
      · rw [List.mem_singleton.mp hkey]
        exact congrArg (FunctionKey.mk name) (normalizeBody_normalizeBody body)

/-- Entries with distinct keys may be searched in any order. -/
theorem find?_entries_perm {r : Registry α} (h : r.WellKeyed) {entries : List (FunctionKey × α)}
    (hperm : entries.Perm r.entries) (key : FunctionKey) :
    (entries.find? (·.1 = key)).map (·.2) = r.get? key := by
  unfold get?
  rw [List.find?_eq_find?_of_perm hperm.symm]
  rintro a ⟨ha, hkey⟩ b ⟨hb, hkey'⟩
  have hsame : a.1 = b.1 := (of_decide_eq_true hkey).trans (of_decide_eq_true hkey').symm
  exact List.inj_on_of_nodup_map h.nodup ha hb hsame

/-! ## One registration after another -/

/-- Registers in order. -/
def registerEach (r : Registry α) (gs : List (Registration α)) : Registry α :=
  gs.foldl (fun r g => r.register g.name g.body g.value) r

theorem registerEach_concat (r : Registry α) (gs : List (Registration α)) (g : Registration α) :
    r.registerEach (gs ++ [g]) = (r.registerEach gs).put g.key g.value :=
  List.foldl_append

theorem registerEach_append (r : Registry α) (gs gs' : List (Registration α)) :
    r.registerEach (gs ++ gs') = (r.registerEach gs).registerEach gs' :=
  List.foldl_append

theorem WellKeyed.registerEach {r : Registry α} (h : r.WellKeyed) (gs : List (Registration α)) :
    (r.registerEach gs).WellKeyed := by
  induction gs using List.reverseRecOn with
  | nil => exact h
  | append_singleton gs g ih =>
    rw [registerEach_concat]
    exact ih.register g.name g.body g.value

/-- **The latest registration of a key is found**, or else what was there before. -/
theorem get?_registerEach (r : Registry α) (gs : List (Registration α)) (key : FunctionKey) :
    (r.registerEach gs).get? key = (Registration.latestOf? gs key).or (r.get? key) := by
  induction gs using List.reverseRecOn with
  | nil => rfl
  | append_singleton gs g ih =>
    rw [registerEach_concat, get?_put, Registration.latestOf?_concat, ih]
    split <;> rfl

theorem mem_keys_registerEach {gs : List (Registration α)} {key : FunctionKey} :
    key ∈ (empty.registerEach gs).keys ↔ key ∈ gs.map Registration.key := by
  rw [mem_keys_iff, get?_registerEach, show empty.get? key = (none : Option α) from rfl,
    Option.or_none, Registration.latestOf?, Option.isSome_map, List.find?_isSome, List.mem_map]
  simp only [List.mem_reverse, decide_eq_true_eq]

/-- A registry has as many entries as keys were registered. -/
theorem size_registerEach (gs : List (Registration α)) :
    (empty.registerEach gs).size = (gs.map Registration.key).dedup.length := by
  rw [size_eq_length_keys]
  refine List.Perm.length_eq ((List.perm_ext_iff_of_nodup ?_ (List.nodup_dedup _)).mpr ?_)
  · exact (WellKeyed.empty.registerEach gs).nodup
  · intro key
    rw [mem_keys_registerEach, List.mem_dedup]

/-! ## Merging -/

/-- Entries as registrations. -/
def asRegistrations (entries : List (FunctionKey × α)) : List (Registration α) :=
  entries.map fun (key, value) => ⟨key.name, key.body, value⟩

/-- Registers entries in the order they are listed in. -/
def mergeEntries (r : Registry α) (entries : List (FunctionKey × α)) : Registry α :=
  r.registerEach (asRegistrations entries)

theorem merge_eq (r other : Registry α) : r.merge other = r.mergeEntries other.entries := by
  unfold merge mergeEntries registerEach asRegistrations
  rw [List.foldl_map]

/-- An entry is found again under the key that merging makes of it. -/
theorem latestOf?_asRegistrations {r : Registry α} (h : r.WellKeyed)
    {entries : List (FunctionKey × α)} (hperm : entries.Perm r.entries) (key : FunctionKey) :
    Registration.latestOf? (asRegistrations entries) key = r.get? key := by
  have hkeep : ∀ entry ∈ entries.reverse,
      decide (FunctionKey.of entry.1.name entry.1.body = key) = decide (entry.1 = key) := by
    intro entry hentry
    have hmem : entry.1 ∈ r.keys :=
      List.mem_map_of_mem (hperm.mem_iff.mp (List.mem_reverse.mp hentry))
    rw [h.normal _ hmem]
  have hreverse := find?_entries_perm h ((List.reverse_perm entries).trans hperm) key
  unfold Registration.latestOf? asRegistrations
  rw [← List.map_reverse, List.find?_map, Option.map_map, ← hreverse, ← List.find?_congr hkeep]
  rfl

/-- **Merging puts one map over another**, whatever the order of the entries. -/
theorem get?_mergeEntries (r : Registry α) {other : Registry α} (h : other.WellKeyed)
    {entries : List (FunctionKey × α)} (hperm : entries.Perm other.entries) (key : FunctionKey) :
    (r.mergeEntries entries).get? key = (other.get? key).or (r.get? key) := by
  unfold mergeEntries
  rw [get?_registerEach, latestOf?_asRegistrations h hperm]

end Registry

/-! ## Registries under labels -/

open Registry

/-- What is done with registries that are told apart by labels. -/
inductive RegistryStep (ι α : Type) where
  | register (target : ι) (name body : String) (value : α)
  /-- Merges a copy of a registry into another one, or into itself. -/
  | merge (target other : ι)

namespace RegistryStep

variable [DecidableEq ι]

def apply (s : ι → Registry α) : RegistryStep ι α → ι → Registry α
  | register target name body value =>
    Function.update s target ((s target).register name body value)
  | merge target other => Function.update s target ((s target).merge (s other))

theorem apply_register (s : ι → Registry α) (target : ι) (name body : String) (value : α) :
    (register target name body value).apply s =
      Function.update s target ((s target).register name body value) := rfl

theorem apply_merge (s : ι → Registry α) (target other : ι) :
    (merge target other).apply s =
      Function.update s target ((s target).mergeEntries (s other).entries) := by
  rw [← merge_eq]
  rfl

/-- All registries after some steps; at the beginning they are empty. -/
def run (steps : List (RegistryStep ι α)) : ι → Registry α := steps.foldl apply fun _ => empty

/-- A step that may list the entries of a merged registry in any order. -/
inductive Takes : (ι → Registry α) → RegistryStep ι α → (ι → Registry α) → Prop where
  | register (s : ι → Registry α) (target : ι) (name body : String) (value : α) :
      Takes s (.register target name body value)
        (Function.update s target ((s target).register name body value))
  | merge (s : ι → Registry α) (target other : ι) {entries : List (FunctionKey × α)}
      (hperm : entries.Perm (s other).entries) :
      Takes s (.merge target other)
        (Function.update s target ((s target).mergeEntries entries))

/-- Steps with any order in every merge. -/
inductive Runs : List (RegistryStep ι α) → (ι → Registry α) → Prop where
  | start : Runs [] fun _ => empty
  | step {steps : List (RegistryStep ι α)} {s s' : ι → Registry α} {step : RegistryStep ι α}
      (hruns : Runs steps s) (htakes : Takes s step s') : Runs (steps ++ [step]) s'

/-- The registrations that a step makes in each registry. A merge registers every entry that the
other registry has at that time. -/
def registrations (s : ι → Registry α) : RegistryStep ι α → ι → List (Registration α)
  | register target name body value, i => if i = target then [⟨name, body, value⟩] else []
  | merge target other, i => if i = target then asRegistrations (s other).entries else []

/-- All registrations that were made in each registry, the latest one last. -/
def histories (steps : List (RegistryStep ι α)) : ι → List (Registration α) :=
  (steps.foldl (fun (s, h) step => (step.apply s, fun i => h i ++ step.registrations s i))
    ((fun _ => empty, fun _ => []) : (ι → Registry α) × (ι → List (Registration α)))).2

variable {steps : List (RegistryStep ι α)} {step : RegistryStep ι α} {s s' : ι → Registry α}

theorem run_concat : run (steps ++ [step]) = step.apply (run steps) := List.foldl_append

theorem histories_concat (i : ι) :
    histories (steps ++ [step]) i = histories steps i ++ step.registrations (run steps) i := by
  have hfst : ∀ (p : (ι → Registry α) × (ι → List (Registration α))),
      (steps.foldl (fun (s, h) step =>
        (step.apply s, fun i => h i ++ step.registrations s i)) p).1 = steps.foldl apply p.1 := by
    induction steps with
    | nil => exact fun _ => rfl
    | cons _ _ ih => exact fun _ => ih _
  unfold histories
  rw [List.foldl_append, List.foldl_cons, List.foldl_nil]
  dsimp only
  rw [hfst]
  rfl

/-- A step is the registrations that it makes. -/
theorem apply_eq (s : ι → Registry α) (step : RegistryStep ι α) (i : ι) :
    step.apply s i = (s i).registerEach (step.registrations s i) := by
  cases step with
  | register target name body value =>
    by_cases hi : i = target
    · subst hi
      simp [apply_register, registrations, registerEach]
    · simp [apply_register, registrations, registerEach, hi]
  | merge target other =>
    by_cases hi : i = target
    · subst hi
      simp [apply_merge, registrations, mergeEntries]
    · simp [apply_merge, registrations, registerEach, hi]

/-- **A registry is what was registered in it.** -/
theorem run_eq (steps : List (RegistryStep ι α)) (i : ι) :
    run steps i = empty.registerEach (histories steps i) := by
  induction steps using List.reverseRecOn with
  | nil => rfl
  | append_singleton steps step ih =>
    rw [run_concat, apply_eq, histories_concat, registerEach_append, ← ih]

theorem wellKeyed_run (steps : List (RegistryStep ι α)) (i : ι) : (run steps i).WellKeyed := by
  rw [run_eq]
  exact WellKeyed.empty.registerEach _

/-- The order that entries are listed in is one of the orders. -/
theorem runs_run (steps : List (RegistryStep ι α)) : Runs steps (run steps) := by
  induction steps using List.reverseRecOn with
  | nil => exact .start
  | append_singleton steps step ih =>
    refine .step ih ?_
    rw [run_concat]
    cases step with
    | register target name body value => exact .register _ target name body value
    | merge target other =>
      rw [apply_merge]
      exact .merge _ target other (List.Perm.refl _)

/-- What one step keeps: registries that are well keyed, and that answer alike. -/
theorem Takes.keeps {s₀ : ι → Registry α} (htakes : Takes s step s')
    (hs : ∀ i, (s i).WellKeyed) (hs₀ : ∀ i, (s₀ i).WellKeyed)
    (hsame : ∀ i key, (s i).get? key = (s₀ i).get? key) :
    (∀ i, (s' i).WellKeyed) ∧ ∀ i key, (s' i).get? key = (step.apply s₀ i).get? key := by
  cases htakes with
  | register target name body value =>
    refine ⟨fun i => ?_, fun i key => ?_⟩
    · by_cases hi : i = target
      · rw [hi, Function.update_self]
        exact (hs target).register name body value
      · rw [Function.update_of_ne hi]
        exact hs i
    · rw [apply_register]
      by_cases hi : i = target
      · rw [hi, Function.update_self, Function.update_self, Registry.register, Registry.register,
          get?_put, get?_put, hsame]
      · rw [Function.update_of_ne hi, Function.update_of_ne hi, hsame]
  | @merge target other entries hperm =>
    refine ⟨fun i => ?_, fun i key => ?_⟩
    · by_cases hi : i = target
      · rw [hi, Function.update_self]
        exact (hs target).registerEach _
      · rw [Function.update_of_ne hi]
        exact hs i
    · rw [apply_merge]
      by_cases hi : i = target
      · -- the same entries in another order: what is found is what the other registry answers
        rw [hi, Function.update_self, Function.update_self,
          get?_mergeEntries _ (hs other) hperm,
          get?_mergeEntries _ (hs₀ other) (List.Perm.refl _), hsame, hsame]
      · rw [Function.update_of_ne hi, Function.update_of_ne hi, hsame]

/-- What a whole run keeps. -/
theorem Runs.keeps (hruns : Runs steps s) :
    (∀ i, (s i).WellKeyed) ∧ ∀ i key, (s i).get? key = (run steps i).get? key := by
  induction hruns with
  | start => exact ⟨fun _ => WellKeyed.empty, fun _ _ => rfl⟩
  | @step steps _ _ _ _ htakes ih =>
    rw [run_concat]
    exact htakes.keeps ih.1 (wellKeyed_run steps) ih.2

/--
**A registry is a finite map from keys to the values registered last.**

Whatever is registered and merged, in whatever order merged entries come: a look-up answers with the
latest registration of the name and the layout-free body, a merge counting as registering every
entry of the merged registry; there are as many entries as different keys were registered, and no
two have one key; and merging puts one map over the other, again in whatever order.
-/
theorem registry_refines_map (steps : List (RegistryStep ι α)) :
    Runs steps (run steps) ∧ ∀ s, Runs steps s → ∀ i,
      (∀ name body, (s i).find? name body =
        Registration.latest? (histories steps i) name body) ∧
      (s i).size = ((histories steps i).map Registration.key).dedup.length ∧
      ((s i).entries.map (·.1)).Nodup ∧
      ∀ j entries, entries.Perm (s j).entries → ∀ name body,
        ((s i).mergeEntries entries).find? name body =
          ((s i).merge (s j)).find? name body ∧
        ((s i).merge (s j)).find? name body =
          ((s j).find? name body).or ((s i).find? name body) := by
  refine ⟨runs_run steps, fun s hruns i => ?_⟩
  obtain ⟨hkeyed, hsame⟩ := hruns.keeps
  refine ⟨fun name body => ?_, ?_, (hkeyed i).nodup, fun j entries hperm name body => ?_⟩
  · unfold find?
    rw [hsame, run_eq, get?_registerEach, Registration.latest?_eq]
    exact Option.or_none
  · rw [← size_registerEach, ← run_eq, size_eq_length_keys, size_eq_length_keys]
    refine List.Perm.length_eq
      ((List.perm_ext_iff_of_nodup (hkeyed i).nodup (wellKeyed_run steps i).nodup).mpr ?_)
    intro key
    rw [mem_keys_iff, mem_keys_iff, hsame]
  · unfold find?
    rw [merge_eq, get?_mergeEntries _ (hkeyed j) hperm,
      get?_mergeEntries _ (hkeyed j) (List.Perm.refl _)]
    exact ⟨rfl, rfl⟩

/-- A registry with entries of its own, the last of them registered first, is merged over one that
has a value for the same body with a comment. -/
theorem registry_refines_map_reversed :
    let steps : List (RegistryStep Bool Nat) :=
      [.register true "f" "a /* old */" 1, .register false "f" "a" 2, .register false "g" "b" 3]
    let s := run steps
    let s' := Function.update s true ((s true).mergeEntries (s false).entries.reverse)
    Runs (steps ++ [.merge true false]) s' ∧ (s' true).find? "f" "a // new" = some 2 ∧
      (s' true).find? "f" "b" = none ∧ (s' true).size = 2 := by
  intro steps s s'
  have hruns : Runs (steps ++ [.merge true false]) s' :=
    .step (runs_run steps) (.merge s true false (List.reverse_perm _))
  obtain ⟨hfind, hsize, -, -⟩ :=
    (registry_refines_map (steps ++ [.merge true false])).2 s' hruns true
  refine ⟨hruns, ?_, ?_, ?_⟩
  · rw [hfind]
    decide +kernel
  · rw [hfind]
    decide +kernel
  · rw [hsize]
    decide +kernel

end RegistryStep

end KernelLink
