import KernelLink.Proofs.Number.Decimal
import KernelLink.Proofs.Number.Text

/-!
# Written numbers read back

The digits of a number are searched for by reading: a candidate is taken because it reads back to
the word that is written. What is left to show is that nothing behind the search moves the value.
Trailing zeros go into the exponent, the layout puts a point somewhere and zeros around it, and the
text is another decimal of the same value.
-/

namespace KernelLink

/-! ## The search -/

theorem trimZeros_value (digits : ℕ) (exponent : ℤ) :
    ((trimZeros digits exponent).1 : ℚ) * 10 ^ (trimZeros digits exponent).2 =
      digits * 10 ^ exponent := by
  fun_induction trimZeros digits exponent with
  | case1 => rfl
  | case2 digits exponent h ih =>
    have hten : digits = digits / 10 * 10 := by omega
    rw [ih, zpow_add_one₀ (by norm_num), mul_comm (10 ^ exponent), ← mul_assoc]
    congr 1
    exact_mod_cast hten.symm

namespace Format

variable {f : Format} {m : ℕ} {e : ℤ} {digits : ℕ} {power : ℤ}

/-- A candidate is a decimal that reads back. -/
theorem nearest_candidate? (hp : 1 ≤ f.precision) (hw : 1 ≤ f.exponentWidth) {tie : Tie}
    {count : ℕ} (h : f.candidate? tie m e count = some (digits, power)) :
    f.nearest (digits * 10 ^ power) = f.nearest (m * 2 ^ e) := by
  have hread : ∀ d p, (f.round (Decimal.toExact f ⟨false, d, p⟩) == f.roundMagnitude m e) = true →
      f.nearest (d * 10 ^ p) = f.nearest (m * 2 ^ e) := by
    intro d p hd
    rw [Decimal.round_toExact hp hw, f.roundMagnitude_eq] at hd
    exact beq_iff_eq.mp hd
  unfold candidate? at h
  dsimp only at h
  split at h
  · rename_i hbelow habove
    cases h
    split
    · exact hread _ _ hbelow
    · exact hread _ _ habove
  · rename_i hbelow habove
    cases h
    exact hread _ _ hbelow
  · rename_i hbelow habove
    cases h
    exact hread _ _ habove
  · cases h

/-- All digits of a dyadic number. -/
theorem allDigits_value (m : ℕ) (e : ℤ) :
    ((m * 2 ^ e.toNat * 5 ^ (-e).toNat : ℕ) : ℚ) * 10 ^ min e 0 = m * 2 ^ e := by
  rcases le_total 0 e with h | h
  · obtain ⟨k, rfl⟩ := Int.eq_ofNat_of_zero_le h
    simp
  · obtain ⟨k, rfl⟩ : ∃ k : ℕ, e = -(k : ℤ) := ⟨(-e).toNat, by omega⟩
    have hmin : min (-(k : ℤ)) 0 = -(k : ℤ) := min_eq_left (by omega)
    have hten : (10 : ℚ) ^ k = 2 ^ k * 5 ^ k := by rw [← mul_pow]; norm_num
    rw [hmin, zpow_neg, zpow_neg, zpow_natCast, zpow_natCast, hten]
    simp
    field_simp

/-- **The shortest digits of a number read back to its word.** -/
theorem nearest_shortest (hp : 1 ≤ f.precision) (hw : 1 ≤ f.exponentWidth) (tie : Tie) (m : ℕ)
    (e : ℤ) : f.nearest ((f.shortest tie m e).1 * 10 ^ (f.shortest tie m e).2) =
      f.nearest (m * 2 ^ e) := by
  unfold shortest
  dsimp only
  rw [trimZeros_value]
  -- Either some count of digits reads back, or all the digits are taken and nothing is lost.
  cases hfound : (List.range mostDigits).findSome? fun n => f.candidate? tie m e (n + 1) with
  | none =>
    simp only [Nat.pow_eq, Option.getD_none]
    rw [allDigits_value]
  | some found =>
    obtain ⟨digits, power⟩ := found
    obtain ⟨n, -, hn⟩ := List.exists_of_findSome?_eq_some hfound
    exact nearest_candidate? hp hw hn

end Format

/-! ## The layout -/

theorem digitsValue_append_zeros (ds : List Char) (k : ℕ) :
    digitsValue (ds ++ List.replicate k '0') = digitsValue ds * 10 ^ k := by
  rw [digitsValue_eq, digitsValue_eq, Nat.ofDigitChars_append, Nat.ofDigitChars_replicate_zero,
    mul_comm]

theorem digitsValue_zeros_append (k : ℕ) (ds : List Char) :
    digitsValue (List.replicate k '0' ++ ds) = digitsValue ds := by
  rw [digitsValue_eq, digitsValue_eq, Nat.ofDigitChars_append, Nat.ofDigitChars_replicate_zero,
    mul_zero]

namespace FloatStyle

variable (style : FloatStyle) (negative : Bool) (digits : ℕ) (power : ℤ)

/-- Wherever the point is put, the digits count in units of the last one. -/
theorem magnitude_mk (whole fraction : List Char) (exponent : Option ℤ) :
    (Numeral.mk negative whole (some fraction) exponent).decimal.magnitude =
      digitsValue (whole ++ fraction) * 10 ^ (exponent.getD 0 - fraction.length) := rfl

theorem magnitude_mk_whole (whole : List Char) (exponent : Option ℤ) :
    (Numeral.mk negative whole none exponent).decimal.magnitude =
      digitsValue whole * 10 ^ exponent.getD 0 := by
  unfold Decimal.magnitude Numeral.decimal
  dsimp only
  rw [Option.getD_none, List.append_nil, List.length_nil, Nat.cast_zero, sub_zero]

theorem magnitude_layPositional :
    (style.layPositional negative digits power).decimal.magnitude = digits * 10 ^ power := by
  unfold layPositional
  dsimp only
  split
  · rename_i hpower
    obtain ⟨k, rfl⟩ := Int.eq_ofNat_of_zero_le hpower
    rw [Int.toNat_natCast]
    split
    · rw [magnitude_mk, List.append_assoc, ← List.replicate_succ', digitsValue_append_zeros,
        digitsValue_decimalDigits, Option.getD_none, List.length_singleton, zero_sub, zpow_neg,
        Nat.cast_one, zpow_one, zpow_natCast, Nat.cast_mul, Nat.cast_pow, Nat.cast_ofNat, pow_succ,
        mul_assoc, mul_assoc, mul_inv_cancel₀ (by norm_num), mul_one]
    · rw [magnitude_mk_whole, digitsValue_append_zeros, digitsValue_decimalDigits,
        Option.getD_none, zpow_zero, mul_one, zpow_natCast, Nat.cast_mul, Nat.cast_pow,
        Nat.cast_ofNat]
  · rename_i hpower
    obtain ⟨k, rfl⟩ : ∃ k : ℕ, power = -(k : ℤ) := ⟨(-power).toNat, by omega⟩
    rw [neg_neg, Int.toNat_natCast, magnitude_mk, List.take_append_drop,
      digitsValue_zeros_append, digitsValue_decimalDigits, List.length_drop, List.length_append,
      List.length_replicate, Option.getD_none, zero_sub]
    congr 3
    omega

theorem magnitude_layExponent :
    (layExponent negative digits power).decimal.magnitude = digits * 10 ^ power := by
  have hlength : 0 < (decimalDigits digits).length := Nat.length_toDigits_pos
  unfold layExponent
  dsimp only
  split
  · rw [magnitude_mk, List.take_append_drop, digitsValue_decimalDigits, List.length_drop,
      Option.getD_some, add_sub_cancel_right]
  · have hone : (decimalDigits digits).length = 1 := by omega
    rw [magnitude_mk_whole, List.take_of_length_le hone.le, digitsValue_decimalDigits, hone]
    simp

theorem magnitude_lay :
    (style.lay negative digits power).decimal.magnitude = digits * 10 ^ power := by
  unfold lay
  dsimp only
  split
  · exact style.magnitude_layPositional ..
  · split
    · exact style.magnitude_layPositional ..
    · exact magnitude_layExponent ..

theorem negative_numeral (f : Format) (m : ℕ) (e : ℤ) :
    (style.numeral f negative m e).negative = negative := by
  have hpositional : ∀ d p, (style.layPositional negative d p).negative = negative := by
    intro d p
    unfold layPositional
    dsimp only
    split <;> rfl
  unfold numeral
  split
  · exact hpositional 0 0
  · unfold lay
    dsimp only
    split
    · exact hpositional _ _
    · split
      · exact hpositional _ _
      · rfl

/-- **A written number reads back to its word**, in whatever style it is written. -/
theorem round_numeral {f : Format} (hp : 1 ≤ f.precision) (hw : 1 ≤ f.exponentWidth) (m : ℕ)
    (e : ℤ) : f.round ((style.numeral f negative m e).decimal.toExact f) =
      f.round (.finite negative m e) := by
  have hnegative : (style.numeral f negative m e).decimal.negative = negative :=
    style.negative_numeral negative f m e
  have hmagnitude : f.nearest (style.numeral f negative m e).decimal.magnitude =
      f.roundMagnitude m e := by
    rw [f.roundMagnitude_eq]
    unfold numeral
    split
    · rename_i hm
      rw [style.magnitude_layPositional, hm]
      simp
    · rw [style.magnitude_lay]
      exact Format.nearest_shortest hp hw style.tie m e
  rw [Decimal.round_toExact hp hw, hnegative, hmagnitude]
  rfl

end FloatStyle

end KernelLink
