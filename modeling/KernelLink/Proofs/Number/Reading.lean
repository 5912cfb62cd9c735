import KernelLink.Proofs.Number.Text
import Mathlib.Data.List.TakeDrop

/-!
# Numerals read back

A numeral and its text are the same thing: the reader takes the sign, the digits, the point and the
exponent back apart. So two numerals with one text are one numeral.
-/

namespace KernelLink

/-- Digits are read up to the first character that is none. -/
theorem spanDigits_append {ds rest : List Char} (hds : ∀ c ∈ ds, c.isDigit)
    (hrest : ∀ c ∈ rest.head?, c.isDigit = false) : spanDigits (ds ++ rest) = (ds, rest) := by
  unfold spanDigits
  rw [List.span_eq_takeWhile_dropWhile, List.takeWhile_append_of_pos hds,
    List.dropWhile_append_of_pos hds]
  cases rest with
  | nil => rw [List.takeWhile_nil, List.dropWhile_nil, List.append_nil]
  | cons c rest =>
    have hc : ¬ c.isDigit := by simpa using hrest c rfl
    rw [List.takeWhile_cons_of_neg hc, List.dropWhile_cons_of_neg hc, List.append_nil]

/-- A digit is no sign. -/
theorem spanSign_of_isDigit {c : Char} (hc : c.isDigit) (s : List Char) :
    spanSign (c :: s) = (false, c :: s) := by
  unfold spanSign
  split
  · rename_i heq
    cases heq
    exact absurd hc (by decide)
  · rename_i heq
    cases heq
    exact absurd hc (by decide)
  · rfl

theorem spanSign_append_of_isDigit {ds : List Char} (hne : ds ≠ []) (hds : ∀ c ∈ ds, c.isDigit)
    (s : List Char) : spanSign (ds ++ s) = (false, ds ++ s) := by
  obtain ⟨c, ds, rfl⟩ := List.exists_cons_of_ne_nil hne
  exact spanSign_of_isDigit (hds c List.mem_cons_self) (ds ++ s)

/-- The digits behind a point, if one comes next, and the rest. -/
def spanPoint : List Char → Option (List Char) × List Char
  | '.' :: rest => (some (spanDigits rest).1, (spanDigits rest).2)
  | rest => (none, rest)

theorem spanPoint_of_ne {s : List Char} (h : ∀ c ∈ s.head?, c ≠ '.') : spanPoint s = (none, s) := by
  unfold spanPoint
  split
  · exact absurd rfl (h '.' rfl)
  · rfl

theorem readUnsigned?_eq (negative : Bool) (s : List Char) : readUnsigned? negative s =
    if (spanDigits s).1.isEmpty && ((spanPoint (spanDigits s).2).1.getD []).isEmpty then none
    else match readExponent? (spanPoint (spanDigits s).2).2 with
      | some (exponent, []) =>
        some ⟨negative, (spanDigits s).1, (spanPoint (spanDigits s).2).1, exponent⟩
      | _ => none := rfl

namespace Numeral

/-- What is written from the point on, up to the exponent. -/
def pointText (n : Numeral) : List Char :=
  match n.fraction with
  | some ds => '.' :: ds
  | none => []

/-- What is written of the exponent. -/
def exponentText (n : Numeral) : List Char :=
  match n.exponent with
  | some e => 'e' :: ((if e < 0 then ['-'] else []) ++ decimalDigits e.natAbs)
  | none => []

theorem toList_text_eq (n : Numeral) : (n.text "").toList =
    (if n.negative then ['-'] else []) ++ (n.whole ++ (n.pointText ++ n.exponentText)) := by
  rw [toList_text]
  unfold pointText exponentText
  simp only [List.append_assoc, Nat.toString_eq_ofList_toDigits, String.toList_ofList]
  rfl

/-- An exponent is read up to where its digits end, with a sign before a positive one or without. -/
theorem readExponent?_append {plus : List Char} (hplus : plus = [] ∨ plus = ['+']) (e : Int)
    {rest : List Char} (hrest : ∀ c ∈ rest.head?, c.isDigit = false) :
    readExponent? ('e' :: ((if e < 0 then ['-'] else plus) ++ decimalDigits e.natAbs) ++ rest) =
      some (some e, rest) := by
  have hall : ∀ c ∈ decimalDigits e.natAbs, c.isDigit := fun _ => isDigit_of_mem_decimalDigits
  have hne : decimalDigits e.natAbs ≠ [] := Nat.toDigits_ne_nil
  have hsign : spanSign ((if e < 0 then ['-'] else plus) ++ decimalDigits e.natAbs ++ rest) =
      (decide (e < 0), decimalDigits e.natAbs ++ rest) := by
    rw [List.append_assoc]
    by_cases he : e < 0
    · rw [if_pos he, decide_eq_true he]
      rfl
    · rw [if_neg he, decide_eq_false he]
      rcases hplus with rfl | rfl
      · exact spanSign_append_of_isDigit hne hall rest
      · rfl
  have hvalue : (if decide (e < 0) then -(e.natAbs : Int) else e.natAbs) = e := by
    by_cases he : e < 0
    · rw [if_pos (decide_eq_true he)]; omega
    · rw [if_neg (by simpa using he)]; omega
  rw [List.cons_append]
  unfold readExponent?
  dsimp only
  rw [if_pos (.inl rfl), hsign]
  dsimp only
  rw [spanDigits_append hall hrest]
  dsimp only
  rw [List.isEmpty_eq_false_iff.mpr hne, if_neg Bool.false_ne_true, digitsValue_decimalDigits,
    hvalue]

theorem readExponent?_exponentText (n : Numeral) :
    readExponent? n.exponentText = some (n.exponent, []) := by
  unfold exponentText
  cases n.exponent with
  | none => rfl
  | some e =>
    have h := @readExponent?_append [] (.inl rfl) e [] nofun
    rwa [List.append_nil] at h

variable {n : Numeral}

theorem head?_exponentText : ∀ c ∈ n.exponentText.head?, c = 'e' := by
  unfold exponentText
  cases n.exponent with
  | none => exact nofun
  | some e => rintro c ⟨⟩; rfl

/-- **A numeral is read back from its text.** -/
theorem InDigits.readUnsigned?_text (h : n.InDigits) :
    readUnsigned? n.negative (n.whole ++ (n.pointText ++ n.exponentText)) = some n := by
  have hexponent : ∀ c ∈ n.exponentText.head?, c.isDigit = false := by
    intro c hc
    rw [head?_exponentText c hc]
    rfl
  have hpoint : ∀ c ∈ (n.pointText ++ n.exponentText).head?, c.isDigit = false := by
    unfold pointText
    cases n.fraction with
    | none => exact hexponent
    | some ds => rintro c ⟨⟩; rfl
  have hempty : n.whole.isEmpty = false := List.isEmpty_eq_false_iff.mpr h.nonempty
  have hparts : spanPoint (n.pointText ++ n.exponentText) = (n.fraction, n.exponentText) := by
    unfold pointText
    cases hfraction : n.fraction with
    | none =>
      refine spanPoint_of_ne fun c hc => ?_
      rw [head?_exponentText c hc]
      decide
    | some ds =>
      show (some (spanDigits (ds ++ n.exponentText)).1, (spanDigits (ds ++ n.exponentText)).2) = _
      rw [spanDigits_append (h.fraction ds hfraction) hexponent]
  rw [readUnsigned?_eq, spanDigits_append h.whole hpoint]
  dsimp only
  rw [hparts]
  dsimp only
  rw [hempty, Bool.false_and, if_neg Bool.false_ne_true, n.readExponent?_exponentText]

theorem InDigits.spanSign_text (h : n.InDigits) : spanSign (n.text "").toList =
    (n.negative, n.whole ++ (n.pointText ++ n.exponentText)) := by
  rw [toList_text_eq]
  cases n.negative with
  | true => rfl
  | false => exact spanSign_append_of_isDigit h.nonempty h.whole _

end Numeral

/-- The numeral that a text is, with its sign. -/
def readNumeral? (s : List Char) : Option Numeral := readUnsigned? (spanSign s).1 (spanSign s).2

theorem Numeral.InDigits.readNumeral?_text {n : Numeral} (h : n.InDigits) :
    readNumeral? (n.text "").toList = some n := by
  unfold readNumeral?
  rw [h.spanSign_text]
  exact h.readUnsigned?_text

end KernelLink
