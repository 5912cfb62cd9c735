import KernelLink.Proofs.Source.Offsets
import Mathlib.Data.Nat.Find
import Mathlib.Order.Bounds.Basic

/-!
# Which delimiter closes another

The search counts a depth and ends where the depth is zero again. What it finds can be said without
any depth, by counting from the delimiter that it starts at: it is the first position up to which as
many delimiters are closed as opened, and up to every earlier one more are opened than closed. The
text in between links the two. It is balanced, which the search passes over, and of which no front
closes more than it opens.

A depth of zero cannot be taken down, and a search that would have to do so gives up. No search that
starts at an opening delimiter ends like that, since it has one open until it finds what closes it.
So it fails at the end of the text only, and only if there is no position at all up to which as many
are closed as opened.
-/

namespace KernelLink

section

variable {α : Type} {pre s : List α}

/-- What stands at a position has something before it and something behind it. -/
theorem exists_split_of_getElem? {p : Nat} {x : α} (h : s[p]? = some x) :
    ∃ front rest, s = front ++ x :: rest ∧ front.length = p := by
  obtain ⟨hlt, rfl⟩ := List.getElem?_eq_some_iff.mp h
  refine ⟨s.take p, s.drop (p + 1), ?_, List.length_take_of_le (Nat.le_of_lt hlt)⟩
  rw [List.getElem_cons_drop, List.take_append_drop]

/-- What stands from one position to another, both included. -/
def segment (s : List α) (first last : Nat) : List α := (s.drop first).take (last + 1 - first)

theorem segment_cons (x : α) (n : Nat) :
    segment (pre ++ x :: s) pre.length (pre.length + n) = x :: s.take n := by
  unfold segment
  rw [List.drop_left, show pre.length + n + 1 - pre.length = n + 1 by omega, List.take_succ_cons]

/-- What stands from one element to another one further on. -/
theorem segment_between (x y : α) (inside after : List α) :
    segment (pre ++ x :: (inside ++ y :: after)) pre.length (pre.length + (inside.length + 1)) =
      x :: (inside ++ [y]) := by
  rw [segment_cons, List.take_length_add_append, List.take_succ_cons, List.take_zero]

end

variable {α : Type} [DecidableEq α] {opening closing : α} {pre s : List α}

/-! ## Closing without a depth -/

/-- The positions behind `p` up to which as many are closed as opened. -/
def evenPositions (opening closing : α) (s : List α) (p : Nat) : Set Nat :=
  {q | p < q ∧ q < s.length ∧ (segment s p q).count opening = (segment s p q).count closing}

/-- At `q` is closed what is opened at `p`. -/
structure Closes (opening closing : α) (s : List α) (p q : Nat) : Prop where
  /-- It is the first position up to which as many are closed as opened. -/
  least : IsLeast (evenPositions opening closing s p) q
  /-- On the way there, more are opened than closed. Only the empty front has none of either. -/
  held : ∀ t, t ≠ [] → t <+: segment s p q → t ≠ segment s p q →
    t.count closing < t.count opening

/-- Behind an opening delimiter one more has to be closed than is opened. -/
theorem count_of_mem_evenPositions (hne : opening ≠ closing) {n : Nat}
    (h : pre.length + n ∈ evenPositions opening closing (pre ++ opening :: s) pre.length) :
    (s.take n).count closing = (s.take n).count opening + 1 := by
  have heven := h.2.2
  rw [segment_cons, List.count_cons_self, List.count_cons_of_ne hne] at heven
  exact heven.symm

namespace Balanced

variable {inside : List α} (h : Balanced opening closing inside)

include h

theorem count_le_of_prefix {t : List α} (ht : t <+: inside) :
    t.count closing ≤ t.count opening := by
  rw [List.prefix_iff_eq_take.mp ht]
  exact h.nonneg _

variable (hne : opening ≠ closing) (after : List α)

include hne

/-- The delimiter behind a balanced text makes the numbers even. -/
theorem mem_evenPositions :
    pre.length + (inside.length + 1) ∈
      evenPositions opening closing (pre ++ opening :: (inside ++ closing :: after))
        pre.length := by
  refine ⟨by omega, ?_, ?_⟩
  · rw [List.length_append, List.length_cons, List.length_append, List.length_cons]
    omega
  · rw [segment_between]
    exact (h.enclosed hne).even

/-- **A balanced text is closed by the delimiter behind it.** -/
theorem closes :
    Closes opening closing (pre ++ opening :: (inside ++ closing :: after)) pre.length
      (pre.length + (inside.length + 1)) := by
  refine ⟨⟨h.mem_evenPositions hne after, fun r hr => ?_⟩, fun t hnil hfront hwhole => ?_⟩
  · obtain ⟨n, rfl⟩ := Nat.exists_eq_add_of_le (Nat.le_of_lt hr.1)
    have hcount := count_of_mem_evenPositions hne hr
    -- A shorter segment ends inside of the balanced text, which closes no more than it opens.
    by_contra hlt
    rw [List.take_append_of_le_length (by omega)] at hcount
    have hinside := h.nonneg n
    omega
  · rw [segment_between] at hfront hwhole
    obtain ⟨x, t, rfl⟩ := List.exists_cons_of_ne_nil hnil
    obtain ⟨rfl, ht⟩ := List.cons_prefix_cons.mp hfront
    have hinside : t <+: inside :=
      (List.prefix_concat_iff.mp ht).resolve_left fun heq => hwhole (by rw [heq])
    rw [List.count_cons_self, List.count_cons_of_ne hne]
    exact Nat.lt_succ_of_le (h.count_le_of_prefix hinside)

end Balanced

/-- What closes too much for the first time is a closing delimiter, and nothing was open. -/
theorem eq_closing_of_count_lt {k : Nat} (hk : k < s.length)
    (hbefore : (s.take k).count closing ≤ (s.take k).count opening)
    (h : (s.take (k + 1)).count opening < (s.take (k + 1)).count closing) :
    s[k] = closing ∧ (s.take k).count opening = (s.take k).count closing := by
  rw [List.take_succ_eq_append_getElem hk, List.count_append, List.count_append] at h
  by_cases hclosing : s[k] = closing
  · rw [hclosing, List.count_singleton_self] at h
    exact ⟨hclosing, by omega⟩
  · rw [List.count_singleton, List.count_singleton, beq_eq_false_iff_ne.mpr hclosing] at h
    simp only [Bool.false_eq_true, if_false] at h
    omega

/-- Where more is closed than opened, a balanced text stands in front of the first delimiter too
many. -/
theorem exists_balanced_front {n : Nat}
    (h : (s.take n).count opening < (s.take n).count closing) :
    ∃ inside after, s = inside ++ closing :: after ∧ Balanced opening closing inside ∧
      inside.length < n := by
  have hex : ∃ m, (s.take m).count opening < (s.take m).count closing := ⟨n, h⟩
  -- The shortest front that closes too much ends with the delimiter in question.
  obtain ⟨m, hm, hleast⟩ : ∃ m, (s.take m).count opening < (s.take m).count closing ∧
      ∀ k, k < m → (s.take k).count closing ≤ (s.take k).count opening :=
    ⟨Nat.find hex, Nat.find_spec hex, fun k hk => Nat.le_of_not_lt (Nat.find_min hex hk)⟩
  have hmn : m ≤ n := Nat.le_of_not_lt fun hlt => Nat.not_lt.mpr (hleast n hlt) h
  cases m with
  | zero => exact absurd hm (Nat.lt_irrefl 0)
  | succ k =>
    have hbefore := hleast k (Nat.lt_succ_self k)
    have hk : k < s.length := Nat.lt_of_not_le fun hle => by
      rw [List.take_of_length_le hle] at hbefore
      rw [List.take_of_length_le (Nat.le_succ_of_le hle)] at hm
      omega
    obtain ⟨hclosing, heven⟩ := eq_closing_of_count_lt hk hbefore hm
    refine ⟨s.take k, s.drop (k + 1), ?_, ⟨heven, fun j => ?_⟩, ?_⟩
    · rw [← hclosing, List.getElem_cons_drop, List.take_append_drop]
    · rw [List.take_take]
      exact hleast _ (Nat.lt_succ_of_le (Nat.min_le_right j k))
    · rw [List.length_take_of_le (Nat.le_of_lt hk)]
      exact hmn

/-- Where as many are closed as opened, a balanced text is enclosed. -/
theorem exists_balanced_of_mem_evenPositions (hne : opening ≠ closing) {q : Nat}
    (h : q ∈ evenPositions opening closing (pre ++ opening :: s) pre.length) :
    ∃ inside after, s = inside ++ closing :: after ∧ Balanced opening closing inside ∧
      pre.length + (inside.length + 1) ≤ q := by
  obtain ⟨n, rfl⟩ := Nat.exists_eq_add_of_le (Nat.le_of_lt h.1)
  have hlt : (s.take n).count opening < (s.take n).count closing := by
    rw [count_of_mem_evenPositions hne h]
    exact Nat.lt_succ_self _
  obtain ⟨inside, after, hs, hbalanced, hn⟩ := exists_balanced_front hlt
  exact ⟨inside, after, hs, hbalanced, by omega⟩

/-- **What is between a delimiter and the one that closes it is balanced**, and behind a balanced
text stands the one that closes. -/
theorem closes_iff (hne : opening ≠ closing) {q : Nat} :
    Closes opening closing (pre ++ opening :: s) pre.length q ↔
      ∃ inside after, s = inside ++ closing :: after ∧ Balanced opening closing inside ∧
        pre.length + (inside.length + 1) = q := by
  constructor
  · intro h
    obtain ⟨inside, after, rfl, hbalanced, hle⟩ :=
      exists_balanced_of_mem_evenPositions hne h.least.1
    exact ⟨inside, after, rfl, hbalanced,
      Nat.le_antisymm hle (h.least.2 (hbalanced.mem_evenPositions hne after))⟩
  · rintro ⟨inside, after, rfl, hbalanced, rfl⟩
    exact hbalanced.closes hne after

/-! ## Searches -/

/-- How a search ends: so many elements ahead, at the end of the text, or at a delimiter that closes
what was never opened. -/
inductive SearchEnd where
  | found (ahead : Nat)
  | ranOut
  | overclosed
deriving DecidableEq, Repr

namespace SearchEnd

/-- The same end, seen from one element further back. -/
def later : SearchEnd → SearchEnd
  | found ahead => found (ahead + 1)
  | ranOut => ranOut
  | overclosed => overclosed

def ahead? : SearchEnd → Option Nat
  | found ahead => some ahead
  | ranOut => none
  | overclosed => none

theorem ahead?_later (e : SearchEnd) : e.later.ahead? = e.ahead?.map (· + 1) := by
  cases e <;> rfl

theorem later_ne_overclosed {e : SearchEnd} (h : e ≠ overclosed) : e.later ≠ overclosed := by
  cases e with
  | found ahead => exact nofun
  | ranOut => exact nofun
  | overclosed => exact absurd rfl h

end SearchEnd

/-- `closingFrom?`, with a name for each of its ends. A depth of zero cannot be taken down. -/
def searchFrom (opening closing : α) (depth : Nat) : List α → SearchEnd
  | [] => .ranOut
  | x :: s =>
    if x = opening then (searchFrom opening closing (depth + 1) s).later
    else if x = closing then
      match depth with
      | 0 => .overclosed
      | 1 => .found 0
      | depth + 1 => (searchFrom opening closing depth s).later
    else (searchFrom opening closing depth s).later

theorem closingFrom?_eq_ahead? (depth : Nat) (s : List α) :
    closingFrom? opening closing depth s = (searchFrom opening closing depth s).ahead? := by
  induction s generalizing depth with
  | nil => rfl
  | cons x s ih =>
    have hlater : ∀ depth, (closingFrom? opening closing depth s).map (· + 1) =
        (searchFrom opening closing depth s).later.ahead? := fun depth => by
      rw [SearchEnd.ahead?_later, ih]
    rw [closingFrom?.eq_def, searchFrom.eq_def]
    dsimp only
    split
    · exact hlater (depth + 1)
    · split
      · rcases depth with _ | _ | depth
        · rfl
        · rfl
        · exact hlater (depth + 1)
      · exact hlater depth

/-- **A search with something open never takes the depth below zero**: where the last one is closed
it ends, so something is open at every element it comes to. -/
theorem searchFrom_ne_overclosed (depth : Nat) (s : List α) :
    searchFrom opening closing (depth + 1) s ≠ .overclosed := by
  induction s generalizing depth with
  | nil => exact nofun
  | cons x s ih =>
    rw [searchFrom.eq_def]
    dsimp only
    split
    · exact SearchEnd.later_ne_overclosed (ih (depth + 1))
    · split
      · cases depth with
        | zero => exact nofun
        | succ depth => exact SearchEnd.later_ne_overclosed (ih depth)
      · exact SearchEnd.later_ne_overclosed (ih depth)

/-- A search that starts at an opening delimiter has something open from then on. -/
theorem searchFrom_opening_ne_overclosed (s : List α) :
    searchFrom opening closing 0 (opening :: s) ≠ .overclosed := by
  rw [searchFrom.eq_def]
  dsimp only
  rw [if_pos rfl]
  exact SearchEnd.later_ne_overclosed (searchFrom_ne_overclosed 0 s)

/-! ## In a text of bytes -/

section

variable {bytes : ByteText} {o c : Char}

/-- A search that starts in the text has a result. -/
theorem findClosing?_append (front rest : ByteText) :
    findClosing? (front ++ rest) front.length o c =
      some ((closing? o c rest).map (front.length + ·)) := by
  unfold findClosing? bytesFrom?
  rw [if_pos (by rw [List.length_append]; omega), List.drop_left]
  rfl

theorem findClosing?_eq_some_iff (hne : o ≠ c) (front rest : ByteText) {q : Nat} :
    findClosing? (front ++ o :: rest) front.length o c = some (some q) ↔
      Closes o c (front ++ o :: rest) front.length q := by
  rw [findClosing?_append, Option.some_inj, Option.map_eq_some_iff, closes_iff hne]
  constructor
  · rintro ⟨n, hn, rfl⟩
    obtain ⟨inside, after, hrest, hbalanced, rfl⟩ := (closing?_cons_eq_some_iff hne).mp hn
    exact ⟨inside, after, hrest, hbalanced, rfl⟩
  · rintro ⟨inside, after, hrest, hbalanced, rfl⟩
    exact ⟨_, (closing?_cons_eq_some_iff hne).mpr ⟨inside, after, hrest, hbalanced, rfl⟩, rfl⟩

/-- It finds nothing exactly where nothing closes. -/
theorem findClosing?_eq_none_iff (hne : o ≠ c) (front rest : ByteText) :
    findClosing? (front ++ o :: rest) front.length o c = some none ↔
      ¬∃ q, Closes o c (front ++ o :: rest) front.length q := by
  simp only [← findClosing?_eq_some_iff hne]
  rw [findClosing?_append]
  cases closing? o c (o :: rest) <;> simp

/--
**The search finds the delimiter that closes.** From a delimiter on it finds the first position up
to which as many are closed as opened, more being opened than closed before. It finds nothing
exactly if there is no such position, and then there is none up to which the numbers are even. And
it never has to take down a depth of zero.
-/
theorem finds_closing_delimiter {p : Nat} (hne : o ≠ c) (hp : bytes[p]? = some o) :
    (∀ q, findClosing? bytes p o c = some (some q) ↔ Closes o c bytes p q) ∧
    (findClosing? bytes p o c = some none ↔ ¬∃ q, Closes o c bytes p q) ∧
    ((∃ q, Closes o c bytes p q) ↔ (evenPositions o c bytes p).Nonempty) ∧
    findClosing? bytes p o c = some ((searchFrom o c 0 (bytes.drop p)).ahead?.map (p + ·)) ∧
    searchFrom o c 0 (bytes.drop p) ≠ .overclosed := by
  obtain ⟨front, rest, rfl, rfl⟩ := exists_split_of_getElem? hp
  rw [List.drop_left]
  refine ⟨fun q => findClosing?_eq_some_iff hne front rest, findClosing?_eq_none_iff hne front rest,
    ⟨fun ⟨q, h⟩ => ⟨q, h.least.1⟩, fun ⟨q, h⟩ => ?_⟩, ?_, searchFrom_opening_ne_overclosed rest⟩
  · obtain ⟨inside, after, rfl, hbalanced, -⟩ := exists_balanced_of_mem_evenPositions hne h
    exact ⟨_, hbalanced.closes hne after⟩
  · rw [findClosing?_append, closing?, closingFrom?_eq_ahead?]

theorem finds_closing_delimiter_nested :
    ('(' : Char) ≠ ')' ∧ "f(a(b)c))".toList[1]? = some '(' ∧
      Closes '(' ')' "f(a(b)c))".toList 1 7 ∧ ¬∃ q, Closes '(' ')' "((a)b".toList 0 q :=
  ⟨by decide, by decide, ((finds_closing_delimiter (by decide) (by decide)).1 7).mp (by decide),
    (finds_closing_delimiter (by decide) (by decide)).2.1.mp (by decide)⟩

end

end KernelLink
