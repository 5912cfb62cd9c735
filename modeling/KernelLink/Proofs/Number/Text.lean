import KernelLink.Number.Text

/-!
# What numbers are written with

Whatever a number is and whatever style it is written in, its text has digits, signs, points and the
letters of `e`, `inf` and `NaN`, and nothing that separates words or means something to a scanner.
-/

namespace KernelLink

/-- The characters of number texts. -/
def isNumberChar (c : Char) : Bool :=
  c.isDigit || ['-', '.', 'e', 'i', 'n', 'f', 'N', 'a'].contains c

theorem isNumberChar_of_isDigit {c : Char} (h : c.isDigit) : isNumberChar c := by
  unfold isNumberChar
  rw [h, Bool.true_or]

theorem isDigit_of_mem_decimalDigits {n : Nat} {c : Char} (h : c ∈ decimalDigits n) : c.isDigit :=
  Nat.isDigit_of_mem_toDigits (by decide) (by decide) h

theorem isDigit_of_mem_toString {n : Nat} {c : Char} (h : c ∈ (toString n).toList) : c.isDigit := by
  rw [Nat.toString_eq_ofList_toDigits, String.toList_ofList] at h
  exact isDigit_of_mem_decimalDigits h

theorem digitsValue_eq (ds : List Char) : digitsValue ds = Nat.ofDigitChars 10 ds 0 := by
  rw [Nat.ofDigitChars_eq_foldl]
  rfl

theorem digitsValue_decimalDigits (n : Nat) : digitsValue (decimalDigits n) = n := by
  rw [digitsValue_eq]
  exact Nat.ofDigitChars_ten_toDigits

/-- A numeral has digits before its point, and nothing but digits on either side of it. -/
structure Numeral.InDigits (n : Numeral) : Prop where
  nonempty : n.whole ≠ []
  whole : ∀ c ∈ n.whole, c.isDigit
  fraction : ∀ ds, n.fraction = some ds → ∀ c ∈ ds, c.isDigit

theorem isDigit_of_mem_padded {k : Nat} {ds : List Char} (h : ∀ c ∈ ds, c.isDigit) :
    ∀ c ∈ List.replicate k '0' ++ ds, c.isDigit := by
  intro c hc
  rcases List.mem_append.mp hc with hc | hc
  · rw [(List.mem_replicate.mp hc).2]; rfl
  · exact h c hc

namespace FloatStyle

variable (style : FloatStyle) (negative : Bool) (digits : Nat) (power : Int)

theorem inDigits_layPositional : (style.layPositional negative digits power).InDigits := by
  unfold layPositional
  dsimp only
  have hdigits : ∀ c ∈ decimalDigits digits, c.isDigit := fun _ => isDigit_of_mem_decimalDigits
  split
  · refine ⟨?_, fun c hc => ?_, fun ds hds c hc => ?_⟩
    · exact List.append_ne_nil_of_left_ne_nil Nat.toDigits_ne_nil _
    · rcases List.mem_append.mp hc with hc | hc
      · exact hdigits c hc
      · rw [(List.mem_replicate.mp hc).2]; rfl
    · split at hds
      · cases hds
        rw [List.mem_singleton.mp hc]; rfl
      · cases hds
  · refine ⟨?_, fun c hc => isDigit_of_mem_padded hdigits c (List.mem_of_mem_take hc),
      fun ds hds c hc => ?_⟩
    · -- the zeros in front leave a digit before the point
      refine List.ne_nil_of_length_pos ?_
      rw [List.length_take, List.length_append, List.length_replicate]
      omega
    cases hds
    exact isDigit_of_mem_padded hdigits c (List.mem_of_mem_drop hc)

theorem inDigits_layExponent : (layExponent negative digits power).InDigits := by
  unfold layExponent
  have hdigits : ∀ c ∈ decimalDigits digits, c.isDigit := fun _ => isDigit_of_mem_decimalDigits
  refine ⟨?_, fun c hc => hdigits c (List.mem_of_mem_take hc), fun ds hds c hc => ?_⟩
  · exact fun h => Nat.toDigits_ne_nil (List.take_eq_nil_iff.mp h |>.resolve_left (by decide))
  dsimp only at hds
  split at hds
  · cases hds
    exact hdigits c (List.mem_of_mem_drop hc)
  · cases hds

theorem inDigits_lay : (style.lay negative digits power).InDigits := by
  unfold lay
  dsimp only
  split
  · exact style.inDigits_layPositional ..
  · split
    · exact style.inDigits_layPositional ..
    · exact inDigits_layExponent ..

theorem inDigits_numeral (f : Format) (mantissa : Nat) (exponent : Int) :
    (style.numeral f negative mantissa exponent).InDigits := by
  unfold numeral
  split
  · exact style.inDigits_layPositional ..
  · exact style.inDigits_lay ..

end FloatStyle

theorem toList_text (n : Numeral) (plus : String) : (n.text plus).toList =
    (if n.negative then ['-'] else []) ++ n.whole ++
      (match n.fraction with
        | some ds => '.' :: ds
        | none => []) ++
      match n.exponent with
        | some e => 'e' :: ((if e < 0 then ['-'] else plus.toList) ++ (toString e.natAbs).toList)
        | none => [] := by
  unfold Numeral.text
  cases n.negative <;> cases n.fraction <;> cases n.exponent <;>
    simp [String.toList_append, apply_ite String.toList]

theorem Numeral.InDigits.isNumberChar_text {n : Numeral} (h : n.InDigits) :
    ∀ c ∈ (n.text "").toList, isNumberChar c := by
  intro c hc
  rw [toList_text, List.mem_append, List.mem_append, List.mem_append] at hc
  rcases hc with ((hc | hc) | hc) | hc
  · split at hc
    · rw [List.mem_singleton.mp hc]; decide
    · cases hc
  · exact isNumberChar_of_isDigit (h.whole c hc)
  · split at hc
    · rename_i ds hds
      rcases List.mem_cons.mp hc with rfl | hc
      · decide
      · exact isNumberChar_of_isDigit (h.fraction ds hds c hc)
    · cases hc
  · split at hc
    · rcases List.mem_cons.mp hc with rfl | hc
      · decide
      · rcases List.mem_append.mp hc with hc | hc
        · split at hc
          · rw [List.mem_singleton.mp hc]; decide
          · cases hc
        · exact isNumberChar_of_isDigit (isDigit_of_mem_toString hc)
    · cases hc

/-- **Number texts have number characters only.** -/
theorem FloatStyle.isNumberChar_text (style : FloatStyle) (f : Format) (v : Exact) :
    ∀ c ∈ (style.text f v).toList, isNumberChar c := by
  unfold FloatStyle.text
  split
  · exact (style.inDigits_numeral ..).isNumberChar_text
  · have hwords : ∀ word ∈ ["inf", "-inf", "NaN"], word.toList.all isNumberChar := by decide
    refine List.all_eq_true.mp (hwords _ ?_)
    unfold nonFiniteText
    split
    · split <;> decide
    · decide

theorem isNumberChar_toString_int (i : Int) : ∀ c ∈ (toString i).toList, isNumberChar c := by
  intro c hc
  cases i with
  | ofNat n => exact isNumberChar_of_isDigit (isDigit_of_mem_toString hc)
  | negSucc n =>
    have htext : toString (Int.negSucc n) = "-" ++ toString (n + 1) := rfl
    rw [htext, String.toList_append] at hc
    rcases List.mem_append.mp hc with hc | hc
    · rw [List.mem_singleton.mp hc]; decide
    · exact isNumberChar_of_isDigit (isDigit_of_mem_toString hc)

end KernelLink
