import KernelLink.Text.Delimiter

/-!
# Finding the closing delimiter

Counting finds the right place because a balanced text never closes more than it has opened: with
`d` delimiters open at its start there are as many open at its end, and at least `d` on the way. The
search therefore passes over balanced text as over any other character.

`Nested` says the same with a depth at either end, delimiter by delimiter, and is what the search
goes along. The numbers of delimiters come in at one place, where both are shown to be the same.
-/

namespace KernelLink

/-! ## Depths -/

section

variable {α : Type} {opening closing x : α} {s : List α} {depth left : Nat}

/-- A text with `depth` delimiters open at its start and `left` of them at its end, which closes at
no place more than are open. -/
inductive Nested (opening closing : α) : Nat → List α → Nat → Prop where
  | nil (depth : Nat) : Nested opening closing depth [] depth
  | opened {depth left : Nat} {s : List α} (h : Nested opening closing (depth + 1) s left) :
      Nested opening closing depth (opening :: s) left
  | closed {depth left : Nat} {s : List α} (h : Nested opening closing depth s left) :
      Nested opening closing (depth + 1) (closing :: s) left
  | other {x : α} {depth left : Nat} {s : List α} (ho : x ≠ opening) (hc : x ≠ closing)
      (h : Nested opening closing depth s left) : Nested opening closing depth (x :: s) left

theorem nested_opening_iff (hne : opening ≠ closing) :
    Nested opening closing depth (opening :: s) left ↔
      Nested opening closing (depth + 1) s left := by
  refine ⟨fun h => ?_, .opened⟩
  cases h with
  | opened h => exact h
  | closed h => exact absurd rfl hne
  | other ho hc h => exact absurd rfl ho

theorem nested_closing_iff (hne : opening ≠ closing) :
    Nested opening closing depth (closing :: s) left ↔
      ∃ d, depth = d + 1 ∧ Nested opening closing d s left := by
  constructor
  · intro h
    cases h with
    | opened h => exact absurd rfl hne
    | closed h => exact ⟨_, rfl, h⟩
    | other ho hc h => exact absurd rfl hc
  · rintro ⟨d, rfl, h⟩
    exact .closed h

theorem nested_other_iff (ho : x ≠ opening) (hc : x ≠ closing) :
    Nested opening closing depth (x :: s) left ↔ Nested opening closing depth s left := by
  refine ⟨fun h => ?_, .other ho hc⟩
  cases h with
  | opened h => exact absurd rfl ho
  | closed h => exact absurd rfl hc
  | other _ _ h => exact h

end

/-! ## Numbers of delimiters -/

variable {α : Type} [DecidableEq α] {opening closing : α} {s t : List α}

/-- As many are closed as opened, and at no place more. -/
structure Balanced (opening closing : α) (s : List α) : Prop where
  even : s.count opening = s.count closing
  nonneg : ∀ n, (s.take n).count closing ≤ (s.take n).count opening

namespace Balanced

theorem of_not_mem (ho : opening ∉ s) (hc : closing ∉ s) : Balanced opening closing s := by
  refine ⟨by rw [List.count_eq_zero_of_not_mem ho, List.count_eq_zero_of_not_mem hc], ?_⟩
  intro n
  rw [List.count_eq_zero_of_not_mem fun h => hc (List.mem_of_mem_take h)]
  exact Nat.zero_le _

theorem append (hs : Balanced opening closing s) (ht : Balanced opening closing t) :
    Balanced opening closing (s ++ t) := by
  refine ⟨by rw [List.count_append, List.count_append, hs.even, ht.even], fun n => ?_⟩
  rw [List.take_append, List.count_append, List.count_append]
  exact Nat.add_le_add (hs.nonneg n) (ht.nonneg _)

/-- Delimiters around a balanced text. -/
theorem enclosed (hne : opening ≠ closing) (hs : Balanced opening closing s) :
    Balanced opening closing (opening :: (s ++ [closing])) := by
  have hne' : closing ≠ opening := Ne.symm hne
  refine ⟨by simp [hne, hne', hs.even], fun n => ?_⟩
  cases n with
  | zero => exact Nat.le_refl 0
  | succ n =>
    rw [List.take_succ_cons, List.count_cons_self, List.count_cons_of_ne hne, List.take_append,
      List.count_append, List.count_append]
    have hlast : ([closing].take (n - s.length)).count closing ≤ 1 :=
      Nat.le_trans ((List.take_sublist _ _).count_le closing) (by simp)
    have hfront := hs.nonneg n
    omega

end Balanced

section

variable {depth left : Nat} {x : α}

/-- A bound on all fronts of a text, of which the empty one is never in question. -/
theorem fronts_cons_iff :
    (∀ n, ((x :: s).take n).count closing ≤ depth + ((x :: s).take n).count opening) ↔
      ∀ n, (x :: s.take n).count closing ≤ depth + (x :: s.take n).count opening := by
  refine ⟨fun h n => h (n + 1), fun h n => ?_⟩
  cases n with
  | zero => exact Nat.zero_le _
  | succ n => exact h n

/-- **Depths by numbers**: the depth at the end is what the delimiters make of the one at the start,
and no front of the text takes it below zero. -/
theorem nested_iff (hne : opening ≠ closing) : Nested opening closing depth s left ↔
    left + s.count closing = depth + s.count opening ∧
      ∀ n, (s.take n).count closing ≤ depth + (s.take n).count opening := by
  induction s generalizing depth with
  | nil =>
    refine ⟨?_, fun h => ?_⟩
    · rintro ⟨⟩
      exact ⟨rfl, fun n => by rw [List.take_nil]; exact Nat.zero_le _⟩
    · obtain rfl : left = depth := h.1
      exact .nil left
  | cons x s ih =>
    rw [fronts_cons_iff]
    by_cases hopen : x = opening
    · subst hopen
      rw [nested_opening_iff hne, ih]
      simp only [List.count_cons_self, List.count_cons_of_ne hne]
      exact ⟨fun h => ⟨by omega, fun n => by have := h.2 n; omega⟩,
        fun h => ⟨by omega, fun n => by have := h.2 n; omega⟩⟩
    · by_cases hclose : x = closing
      · subst hclose
        simp only [nested_closing_iff hne, List.count_cons_self, List.count_cons_of_ne hopen]
        constructor
        · rintro ⟨d, rfl, h⟩
          obtain ⟨heven, hfronts⟩ := ih.mp h
          exact ⟨by omega, fun n => by have := hfronts n; omega⟩
        · rintro ⟨heven, hfronts⟩
          -- The front that is this delimiter alone says that there is one to close.
          have hone := hfronts 0
          rw [List.take_zero, List.count_nil, List.count_nil] at hone
          obtain ⟨d, rfl⟩ : ∃ d, depth = d + 1 := Nat.exists_eq_add_one.mpr (by omega)
          exact ⟨d, rfl, ih.mpr ⟨by omega, fun n => by have := hfronts n; omega⟩⟩
      · rw [nested_other_iff hopen hclose, ih]
        simp only [List.count_cons_of_ne hopen, List.count_cons_of_ne hclose]

end

/-- Balanced text starts and ends with nothing open. -/
theorem balanced_iff_nested (hne : opening ≠ closing) :
    Balanced opening closing s ↔ Nested opening closing 0 s 0 := by
  rw [nested_iff hne]
  simp only [Nat.zero_add]
  exact ⟨fun h => ⟨h.even.symm, h.nonneg⟩, fun h => ⟨h.1.symm, h.2⟩⟩

/-! ## The search -/

/-- Delimiters are counted, everything else is passed over. -/
theorem closingFrom?_open (depth : Nat) (t : List α) :
    closingFrom? opening closing depth (opening :: t) =
      (closingFrom? opening closing (depth + 1) t).map (· + 1) := by
  rw [closingFrom?.eq_def]
  exact if_pos rfl

theorem closingFrom?_close (hne : opening ≠ closing) (depth : Nat) (t : List α) :
    closingFrom? opening closing (depth + 2) (closing :: t) =
      (closingFrom? opening closing (depth + 1) t).map (· + 1) := by
  rw [closingFrom?.eq_def]
  exact (if_neg hne.symm).trans (if_pos rfl)

theorem closingFrom?_last (hne : opening ≠ closing) (t : List α) :
    closingFrom? opening closing 1 (closing :: t) = some 0 := by
  rw [closingFrom?.eq_def]
  exact (if_neg hne.symm).trans (if_pos rfl)

theorem closingFrom?_other {x : α} (ho : x ≠ opening) (hc : x ≠ closing) (depth : Nat)
    (t : List α) :
    closingFrom? opening closing depth (x :: t) =
      (closingFrom? opening closing depth t).map (· + 1) := by
  rw [closingFrom?.eq_def]
  exact (if_neg ho).trans (if_neg hc)

theorem closingFrom?_append_other (h : ∀ x ∈ s, x ≠ opening ∧ x ≠ closing) (depth : Nat)
    (t : List α) :
    closingFrom? opening closing depth (s ++ t) =
      (closingFrom? opening closing depth t).map (· + s.length) := by
  induction s with
  | nil => simp
  | cons x s ih =>
    obtain ⟨⟨ho, hc⟩, hs⟩ := List.forall_mem_cons.mp h
    rw [List.cons_append, closingFrom?_other ho hc, ih hs, Option.map_map]
    rfl

/-- The search passes over a text in which the open delimiters never run out. -/
theorem Nested.closingFrom?_append (hne : opening ≠ closing) {depth left : Nat}
    (h : Nested opening closing depth s left) (t : List α) :
    closingFrom? opening closing (depth + 1) (s ++ t) =
      (closingFrom? opening closing (left + 1) t).map (· + s.length) := by
  have hnext : ∀ {x : α} {s : List α} {o : Option Nat},
      (o.map (· + s.length)).map (· + 1) = o.map (· + (x :: s).length) := fun {x s o} => by
    rw [Option.map_map, List.length_cons]
    exact congrArg (o.map ·) (funext fun k => Nat.add_assoc k s.length 1)
  induction h with
  | nil depth => simp
  | opened _ ih => rw [List.cons_append, closingFrom?_open, ih, hnext]
  | closed _ ih => rw [List.cons_append, closingFrom?_close hne, ih, hnext]
  | other ho hc _ ih => rw [List.cons_append, closingFrom?_other ho hc, ih, hnext]

/-- The search that starts in front of a balanced text ends behind it. -/
theorem Balanced.closing?_eq (hne : opening ≠ closing) (h : Balanced opening closing s)
    (t : List α) :
    closing? opening closing (opening :: (s ++ closing :: t)) = some (s.length + 1) := by
  have hinside : closingFrom? opening closing 1 (s ++ closing :: t) = some s.length := by
    rw [((balanced_iff_nested hne).mp h).closingFrom?_append hne, closingFrom?_last hne,
      Option.map_some, Nat.zero_add]
  unfold closing?
  rw [closingFrom?_open, Nat.zero_add, hinside]
  rfl

/-- **A balanced text is what its delimiters enclose.** -/
theorem Balanced.enclosed?_eq (hne : opening ≠ closing) (h : Balanced opening closing s)
    (t : List α) :
    enclosed? opening closing (opening :: (s ++ closing :: t)) = some (s, t) := by
  unfold enclosed?
  rw [h.closing?_eq hne]
  simp

/-- Where the search ends, the last of the open delimiters is closed, and none was missing before. -/
theorem closingFrom?_eq_some (hne : opening ≠ closing) {depth n : Nat}
    (h : closingFrom? opening closing (depth + 1) s = some n) :
    ∃ front rest, s = front ++ closing :: rest ∧ front.length = n ∧
      Nested opening closing depth front 0 := by
  -- Each delimiter of the front moves the depth of the search behind it by one.
  induction s generalizing depth n with
  | nil => cases h
  | cons x s ih =>
    by_cases hopen : x = opening
    · subst hopen
      rw [closingFrom?_open] at h
      obtain ⟨k, hk, rfl⟩ := Option.map_eq_some_iff.mp h
      obtain ⟨front, rest, rfl, rfl, hnested⟩ := ih hk
      exact ⟨x :: front, rest, rfl, rfl, .opened hnested⟩
    · by_cases hclose : x = closing
      · subst hclose
        cases depth with
        | zero =>
          rw [closingFrom?_last hne] at h
          cases h
          exact ⟨[], s, rfl, rfl, .nil 0⟩
        | succ depth =>
          rw [closingFrom?_close hne] at h
          obtain ⟨k, hk, rfl⟩ := Option.map_eq_some_iff.mp h
          obtain ⟨front, rest, rfl, rfl, hnested⟩ := ih hk
          exact ⟨x :: front, rest, rfl, rfl, .closed hnested⟩
      · rw [closingFrom?_other hopen hclose] at h
        obtain ⟨k, hk, rfl⟩ := Option.map_eq_some_iff.mp h
        obtain ⟨front, rest, rfl, rfl, hnested⟩ := ih hk
        exact ⟨x :: front, rest, rfl, rfl, .other hopen hclose hnested⟩

/-- The delimiter that is found is the one behind a balanced text. -/
theorem closing?_cons_eq_some_iff (hne : opening ≠ closing) {n : Nat} :
    closing? opening closing (opening :: s) = some n ↔
      ∃ inside after, s = inside ++ closing :: after ∧ Balanced opening closing inside ∧
        inside.length + 1 = n := by
  constructor
  · intro h
    unfold closing? at h
    rw [closingFrom?_open, Nat.zero_add] at h
    obtain ⟨k, hk, rfl⟩ := Option.map_eq_some_iff.mp h
    obtain ⟨front, rest, rfl, rfl, hnested⟩ := closingFrom?_eq_some hne hk
    exact ⟨front, rest, rfl, (balanced_iff_nested hne).mpr hnested, rfl⟩
  · rintro ⟨inside, after, rfl, hbalanced, rfl⟩
    exact hbalanced.closing?_eq hne after

/-- **What delimiters enclose is balanced**, and what is balanced they enclose. -/
theorem enclosed?_cons_eq_some_iff (hne : opening ≠ closing) {inside after : List α} :
    enclosed? opening closing (opening :: s) = some (inside, after) ↔
      s = inside ++ closing :: after ∧ Balanced opening closing inside := by
  constructor
  · intro h
    obtain ⟨n, hn, hparts⟩ := Option.map_eq_some_iff.mp h
    obtain ⟨front, rest, rfl, hbalanced, rfl⟩ := (closing?_cons_eq_some_iff hne).mp hn
    have hinside : front = inside ∧ rest = after := by simpa using hparts
    obtain ⟨rfl, rfl⟩ := hinside
    exact ⟨rfl, hbalanced⟩
  · rintro ⟨rfl, hbalanced⟩
    exact hbalanced.enclosed?_eq hne after

/-! ## What follows does not matter -/

theorem closingFrom?_append_of_some {depth n : Nat}
    (h : closingFrom? opening closing depth s = some n) (t : List α) :
    closingFrom? opening closing depth (s ++ t) = some n ∧ n < s.length := by
  induction s generalizing depth n with
  | nil => cases h
  | cons x s ih =>
    have hnext : ∀ {depth : Nat},
        (closingFrom? opening closing depth s).map (· + 1) = some n →
          (closingFrom? opening closing depth (s ++ t)).map (· + 1) = some n ∧
            n < (x :: s).length := by
      intro depth h
      obtain ⟨k, hk, rfl⟩ := Option.map_eq_some_iff.mp h
      obtain ⟨hs, hlt⟩ := ih hk
      exact ⟨by rw [hs]; rfl, Nat.succ_lt_succ hlt⟩
    rw [closingFrom?.eq_def] at h
    rw [List.cons_append, closingFrom?.eq_def]
    dsimp only at h ⊢
    split at h
    · rename_i hopen
      rw [if_pos hopen]
      exact hnext h
    · rename_i hopen
      rw [if_neg hopen]
      split at h
      · rename_i hclose
        rw [if_pos hclose]
        split at h
        · cases h
        · cases h
          exact ⟨rfl, Nat.succ_pos _⟩
        · exact hnext h
      · rename_i hclose
        rw [if_neg hclose]
        exact hnext h

/-- What was enclosed stays enclosed when more text follows. -/
theorem enclosed?_append {inside after : List α}
    (h : enclosed? opening closing s = some (inside, after)) (t : List α) :
    enclosed? opening closing (s ++ t) = some (inside, after ++ t) := by
  unfold enclosed? closing? at h ⊢
  obtain ⟨n, hn, hparts⟩ := Option.map_eq_some_iff.mp h
  obtain ⟨hs, hlt⟩ := closingFrom?_append_of_some hn t
  cases hparts
  rw [hs, Option.map_some, List.take_append_of_le_length (Nat.le_of_lt hlt),
    List.drop_append_of_le_length hlt]

end KernelLink
