import KernelLink.Exec.Group

/-!
# Patches

Whatever runs on a device changes a buffer in one way only: some elements get new values, all
others stay, and the length never moves. A `Patch` is the list of those values by element. Single
writes, copied rows and whole runs of lanes are patches alike, and a patch on top of a patch is a
patch, so what a thousand groups did to a buffer is still one of them.

The second half is about tables of buffers: looking up after binding and after changing one buffer.
-/

namespace KernelLink

/-- New values for some elements of a buffer. -/
def Patch := Nat → Option Single

namespace Patch

theorem ext {p q : Patch} (h : ∀ i, p i = q i) : p = q := funext h

/-- Changes nothing. -/
def empty : Patch := fun _ => none

/-- One element. -/
def single (i : Nat) (x : Single) : Patch := fun j => if j = i then some x else none

/-- Consecutive elements from `start` on. -/
def block (start : Nat) (values : Array Single) : Patch :=
  fun j => if start ≤ j then values[j - start]? else none

/-- All elements below `n`, each with the value of its place. -/
def below (n : Nat) (value : Nat → Single) : Patch :=
  fun j => if j < n then some (value j) else none

/-- `q` after `p`: where both have a value, that of `q` counts. -/
def after (q p : Patch) : Patch := fun i => (q i).or (p i)

/-- The buffer with the new values in place. -/
def apply (p : Patch) (b : Array Single) : Array Single := b.mapIdx fun i x => (p i).getD x

variable {p q : Patch} {b : Array Single}

@[simp] theorem size_apply : (p.apply b).size = b.size := by
  unfold apply; exact Array.size_mapIdx

theorem getElem?_apply (i : Nat) : (p.apply b)[i]? = b[i]?.map fun x => (p i).getD x := by
  unfold apply; rw [Array.getElem?_mapIdx]

theorem getElem?_apply_of_none {i : Nat} (h : p i = none) : (p.apply b)[i]? = b[i]? := by
  rw [getElem?_apply, h]; cases b[i]? <;> rfl

theorem getElem?_apply_of_some {i : Nat} {x : Single} (h : p i = some x) (hi : i < b.size) :
    (p.apply b)[i]? = some x := by
  rw [getElem?_apply, h, Array.getElem?_eq_getElem hi]; rfl

@[simp] theorem apply_empty : empty.apply b = b := by
  refine Array.ext_getElem? fun i => ?_
  exact getElem?_apply_of_none rfl

/-- **Patching twice is patching once.** -/
theorem apply_after : (q.after p).apply b = q.apply (p.apply b) := by
  refine Array.ext_getElem? fun i => ?_
  rw [getElem?_apply, getElem?_apply, getElem?_apply]
  unfold after
  cases b[i]? with
  | none => rfl
  | some x => cases q i <;> rfl

theorem after_empty : q.after empty = q := by
  refine ext fun i => ?_
  unfold after empty
  rw [Option.or_none]

/-! ## The ways to write a buffer -/

theorem modify_eq_apply (i : Nat) (x : Single) :
    (b.modify i fun _ => x) = (single i x).apply b := by
  refine Array.ext_getElem? fun j => ?_
  rw [Array.getElem?_modify, getElem?_apply]
  unfold single
  by_cases h : i = j
  · subst h
    rw [if_pos rfl, if_pos rfl]; rfl
  · rw [if_neg h, if_neg (Ne.symm h)]
    cases b[j]? <;> rfl

theorem overwrite_eq_apply (start : Nat) (values : Array Single) :
    overwrite b start values = (block start values).apply b := by
  refine Array.ext_getElem? fun j => ?_
  unfold overwrite
  rw [Array.getElem?_mapIdx, getElem?_apply]
  unfold block
  by_cases h : start ≤ j
  · simp only [if_pos h]
  · simp only [if_neg h, Option.getD_none]

theorem size_overwrite (start : Nat) (values : Array Single) :
    (overwrite b start values).size = b.size := by
  rw [overwrite_eq_apply, size_apply]

@[simp] theorem below_zero (value : Nat → Single) : below 0 value = empty := by
  refine ext fun j => ?_
  exact if_neg (Nat.not_lt_zero j)

/-- Writing the next element makes the written part longer by one. -/
theorem single_after_below (n : Nat) (value : Nat → Single) :
    (single n (value n)).after (below n value) = below (n + 1) value := by
  refine ext fun j => ?_
  unfold after single below
  rcases Nat.lt_trichotomy j n with h | h | h
  · rw [if_neg (by omega), if_pos h, if_pos (by omega)]; rfl
  · subst h
    rw [if_pos rfl, if_pos (Nat.lt_succ_self j)]; rfl
  · rw [if_neg (by omega), if_neg (by omega), if_neg (by omega)]; rfl

end Patch

/-! ## Tables -/

namespace BufferTable

variable {t : BufferTable}

theorem get?_update (i j : Nat) (f : Array Single → Array Single) :
    (t.update i f).get? j = if j = i then (t.get? i).map f else t.get? j := by
  induction t with
  | nil => simp [update, get?]
  | cons e t ih =>
    obtain ⟨k, b⟩ := e
    unfold update get? at ih ⊢
    simp only [List.map_cons, List.find?_cons]
    -- the entry is the changed one, the one looked for, both or neither
    by_cases hki : k = i <;> by_cases hkj : k = j
    · subst hki; subst hkj; simp
    · subst hki
      simpa [hkj, Ne.symm hkj] using ih
    · subst hkj; simp [hki]
    · simpa [hki, hkj] using ih

@[simp] theorem get?_update_self (i : Nat) (f : Array Single → Array Single) :
    (t.update i f).get? i = (t.get? i).map f := by
  rw [get?_update, if_pos rfl]

theorem get?_update_of_ne {i j : Nat} (h : j ≠ i) (f : Array Single → Array Single) :
    (t.update i f).get? j = t.get? j := by
  rw [get?_update, if_neg h]

theorem get?_bind (i j : Nat) (b : Array Single) :
    (t.bind i b).get? j = if j = i then some b else t.get? j := by
  unfold bind
  cases h : t.get? i with
  | some x =>
    rw [if_pos Option.isSome_some, get?_update, h]; rfl
  | none =>
    rw [if_neg (by simp)]
    unfold get? at h ⊢
    rw [List.find?_append]
    by_cases hj : j = i
    · subst hj
      rw [if_pos rfl, Option.map_eq_none_iff.mp h]
      simp
    · rw [if_neg hj]
      simp [Ne.symm hj]

@[simp] theorem update_id (i : Nat) : (t.update i fun b => b) = t := by
  unfold update; simp

theorem update_update (i : Nat) (f g : Array Single → Array Single) :
    (t.update i f).update i g = t.update i fun b => g (f b) := by
  unfold update
  rw [List.map_map]
  refine List.map_congr_left fun e _ => ?_
  by_cases h : e.1 = i <;> simp [h]

/-- The table with one buffer patched. -/
def patch (t : BufferTable) (i : Nat) (p : Patch) : BufferTable := t.update i p.apply

@[simp] theorem patch_empty (i : Nat) : t.patch i .empty = t := by
  unfold patch
  rw [show Patch.empty.apply = fun b => b from funext fun b => Patch.apply_empty, update_id]

theorem patch_patch (i : Nat) (p q : Patch) : (t.patch i p).patch i q = t.patch i (q.after p) := by
  unfold patch
  rw [update_update, show (q.after p).apply = fun b => q.apply (p.apply b) from
    funext fun b => Patch.apply_after]

@[simp] theorem get?_patch_self (i : Nat) (p : Patch) :
    (t.patch i p).get? i = (t.get? i).map p.apply := get?_update_self i _

theorem get?_patch_of_ne {i j : Nat} (h : j ≠ i) (p : Patch) :
    (t.patch i p).get? j = t.get? j := get?_update_of_ne h _

/-- Storing one element is a patch of one element. -/
theorem update_modify (i offset : Nat) (x : Single) :
    (t.update i fun b => b.modify offset fun _ => x) = t.patch i (.single offset x) := by
  unfold patch
  rw [show (fun b : Array Single => b.modify offset fun _ => x) = (Patch.single offset x).apply from
    funext fun b => Patch.modify_eq_apply offset x]

end BufferTable

end KernelLink
