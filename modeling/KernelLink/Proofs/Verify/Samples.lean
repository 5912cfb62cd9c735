import KernelLink.Verify.Elements
import Mathlib.Data.Nat.Count

/-!
# Which checks a report shows

A report keeps two kinds of checks out of one walk: those whose index is always shown, and misses
until there is no more room for them. A miss takes up room whether its index is always shown or
not, so what is left of the room says how many misses came before, and nothing else. That makes
keeping a check a matter of that check and of the checks before it.
-/

namespace KernelLink

/-- Counting places is counting what stands there. -/
theorem count_length_eq_countP {α : Type} {l : List α} {p : Nat → Prop} [DecidablePred p]
    {q : α → Bool} (h : ∀ i a, l[i]? = some a → (p i ↔ q a)) :
    Nat.count p l.length = l.countP q := by
  induction l generalizing p with
  | nil => rfl
  | cons a l ih =>
    have hfirst : p 0 ↔ q a := h 0 a rfl
    rw [List.length_cons, Nat.count_succ', ih fun i b hb => h (i + 1) b hb, List.countP_cons]
    simp only [hfirst]

/-- How many of the checks did not match. -/
def misses (checks : List Sample) : Nat := checks.countP (!·.matched)

theorem misses_cons (c : Sample) (checks : List Sample) :
    misses (c :: checks) = misses [c] + misses checks :=
  @List.countP_append _ _ [c] checks

section

variable {always : Nat → Bool} {room : Nat} {s : Sample} {checks : List Sample}

/-- What decides about one check, where some misses came before it. -/
def Kept (always : Nat → Bool) (room before : Nat) (s : Sample) : Prop :=
  always s.index ∨ (s.matched = false ∧ before < room)

instance (always : Nat → Bool) (room before : Nat) (s : Sample) :
    Decidable (Kept always room before s) := inferInstanceAs (Decidable (_ ∨ _))

/-- A miss takes up room as long as there is some. -/
theorem keepSamples_cons (always : Nat → Bool) (room : Nat) (c : Sample) (checks : List Sample) :
    keepSamples always room (c :: checks) =
      if Kept always room 0 c then c :: keepSamples always (room - misses [c]) checks
      else keepSamples always (room - misses [c]) checks := by
  rw [keepSamples]
  unfold Kept misses
  rcases Bool.eq_false_or_eq_true c.matched with hc | hc
  · simp [hc]
  · by_cases hroom : 0 < room
    · simp [hc, hroom]
    · simp [hc, Nat.eq_zero_of_not_pos hroom]

theorem keepSamples_sublist : (keepSamples always room checks).Sublist checks := by
  induction checks generalizing room with
  | nil => exact List.Sublist.slnil
  | cons c checks ih =>
    rw [keepSamples_cons]
    split
    · exact ih.cons_cons c
    · exact ih.cons c

/-- **A check is kept for its index, or for being one of the first misses.** -/
theorem mem_keepSamples_iff : s ∈ keepSamples always room checks ↔
    ∃ before after, checks = before ++ s :: after ∧ Kept always room (misses before) s := by
  induction checks generalizing room with
  | nil =>
    constructor
    · intro h
      cases h
    · rintro ⟨before, after, h, -⟩
      cases before <;> cases h
  | cons c checks ih =>
    -- For later checks the room is what the first has left, and the first is one more before them.
    have hlater : ∀ before, Kept always (room - misses [c]) (misses before) s ↔
        Kept always room (misses (c :: before)) s := by
      intro before
      unfold Kept
      rw [misses_cons c before, Nat.lt_sub_iff_add_lt']
    have hcons : s ∈ keepSamples always room (c :: checks) ↔
        (s = c ∧ Kept always room 0 c) ∨ s ∈ keepSamples always (room - misses [c]) checks := by
      rw [keepSamples_cons]
      split <;> simp_all
    rw [hcons, ih]
    simp only [hlater]
    constructor
    · rintro (⟨rfl, h⟩ | ⟨before, after, rfl, h⟩)
      · exact ⟨[], checks, rfl, h⟩
      · exact ⟨c :: before, after, rfl, h⟩
    · rintro ⟨before, after, h, hkept⟩
      cases before with
      | nil =>
        cases h
        exact .inl ⟨rfl, hkept⟩
      | cons d before =>
        cases h
        exact .inr ⟨before, after, rfl, hkept⟩

/-- There are no more samples than indices always shown and room for misses. -/
theorem length_keepSamples_le :
    (keepSamples always room checks).length ≤ checks.countP (always ·.index) + room := by
  induction checks generalizing room with
  | nil => exact Nat.zero_le _
  | cons c checks ih =>
    have hrest := @ih (room - misses [c])
    rw [keepSamples_cons, List.countP_cons]
    split
    · rename_i h
      rw [List.length_cons]
      rcases h with h | ⟨h, hroom⟩
      · rw [if_pos h]
        omega
      · have hone : misses [c] = 1 := by simp [misses, h]
        omega
    · omega

/-- Where there is room, the first miss is kept. -/
theorem exists_missed_mem_keepSamples (hroom : 0 < room) (h : ∃ c ∈ checks, c.matched = false) :
    ∃ c ∈ keepSamples always room checks, c.matched = false := by
  induction checks with
  | nil =>
    obtain ⟨c, hc, -⟩ := h
    cases hc
  | cons c checks ih =>
    rw [keepSamples_cons]
    cases hc : c.matched with
    | false =>
      rw [if_pos (.inr ⟨hc, hroom⟩)]
      exact ⟨c, List.mem_cons_self, hc⟩
    | true =>
      -- a match takes up no room
      have hnone : misses [c] = 0 := by simp [misses, hc]
      obtain ⟨d, hd, hmissed⟩ := ih (by simpa [hc] using h)
      rw [hnone, Nat.sub_zero]
      refine ⟨d, ?_, hmissed⟩
      split
      · exact List.mem_cons_of_mem _ hd
      · exact hd

end

/-! ## Checks in order -/

/-- The checks bear the numbers of their places. -/
def Numbered (checks : List Sample) : Prop := checks.map (·.index) = List.range checks.length

namespace Numbered

variable {always : Nat → Bool} {room : Nat} {s : Sample} {checks : List Sample}

theorem index_eq (h : Numbered checks) {i : Nat} (hs : checks[i]? = some s) : s.index = i := by
  have hi : (List.range checks.length)[i]? = some s.index := by
    rw [← h, List.getElem?_map, hs]
    rfl
  obtain ⟨hlt, hget⟩ := List.getElem?_eq_some_iff.mp hi
  rw [← hget, List.getElem_range]

/-- Samples stand in the order of the checks. -/
theorem pairwise_keepSamples (h : Numbered checks) :
    (keepSamples always room checks).Pairwise (·.index < ·.index) := by
  have hchecks : checks.Pairwise (·.index < ·.index) := by
    rw [← List.pairwise_map (f := fun s : Sample => s.index) (R := (· < ·)), h]
    exact List.pairwise_lt_range
  exact hchecks.sublist keepSamples_sublist

/-- Whether a check is kept, by its number. -/
theorem mem_keepSamples_iff (h : Numbered checks) : s ∈ keepSamples always room checks ↔
    checks[s.index]? = some s ∧ Kept always room (misses (checks.take s.index)) s := by
  rw [KernelLink.mem_keepSamples_iff]
  constructor
  · rintro ⟨before, after, hchecks, hkept⟩
    have hs : checks[before.length]? = some s := by simp [hchecks]
    have htake : checks.take before.length = before := by simp [hchecks]
    rw [h.index_eq hs, htake]
    exact ⟨hs, hkept⟩
  · rintro ⟨hs, hkept⟩
    obtain ⟨hlt, hget⟩ := List.getElem?_eq_some_iff.mp hs
    have hdrop : checks.drop s.index = s :: checks.drop (s.index + 1) := by
      rw [List.drop_eq_getElem_cons hlt, hget]
    exact ⟨_, _, by rw [← hdrop, List.take_append_drop], hkept⟩

/-- Checks are counted by their numbers. -/
theorem countP_index (h : Numbered checks) (p : Nat → Prop) [DecidablePred p] :
    checks.countP (fun s => decide (p s.index)) = Nat.count p checks.length := by
  unfold Nat.count
  rw [← h, List.countP_map]
  rfl

end Numbered

end KernelLink
