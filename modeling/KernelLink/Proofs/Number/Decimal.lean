import KernelLink.Number.Numeral
import KernelLink.Proofs.Number.Nearest

/-!
# Decimals and their values

A decimal is rounded by its value, whatever its digits are: trailing zeros, a point that stands
elsewhere or an exponent in place of a point change nothing. That holds beyond the range of a format
too, where the digits are not looked at.
-/

namespace KernelLink

/-- The magnitude that a decimal stands for. -/
def Decimal.magnitude (d : Decimal) : ℚ := d.digits * 10 ^ d.exponent

/-! ## Counting digits -/

theorem digitCount_pos {n : ℕ} (hn : n ≠ 0) : 0 < digitCount n := by
  unfold digitCount
  rw [if_neg hn]
  exact Nat.length_toDigits_pos

theorem lt_pow_digitCount (n : ℕ) : n < 10 ^ digitCount n := by
  unfold digitCount
  split
  · omega
  · exact (Nat.length_toDigits_le_iff (by omega) Nat.length_toDigits_pos).mp (le_refl _)

theorem pow_digitCount_le {n : ℕ} (hn : n ≠ 0) : 10 ^ (digitCount n - 1) ≤ n := by
  have hcount := digitCount_pos hn
  unfold digitCount at hcount ⊢
  rw [if_neg hn] at hcount ⊢
  rcases Nat.eq_zero_or_pos ((Nat.toDigits 10 n).length - 1) with h | h
  · rw [h]; exact Nat.pos_of_ne_zero hn
  · by_contra hlt
    have := (Nat.length_toDigits_le_iff (by omega) h).mpr (not_le.mp hlt)
    omega

namespace Decimal

variable {d : Decimal}

theorem le_magnitude (h : d.digits ≠ 0) :
    10 ^ (d.exponent + digitCount d.digits - 1) ≤ d.magnitude := by
  have hcount := digitCount_pos h
  have hdigits : (10 : ℚ) ^ (digitCount d.digits - 1) ≤ d.digits := by
    exact_mod_cast pow_digitCount_le h
  unfold magnitude
  rw [show d.exponent + digitCount d.digits - 1 = (digitCount d.digits - 1 : ℕ) + d.exponent by
    omega, zpow_add₀ (by norm_num), zpow_natCast]
  exact mul_le_mul_of_nonneg_right hdigits (zpow_nonneg (by norm_num) _)

theorem magnitude_lt (d : Decimal) :
    d.magnitude < 10 ^ (d.exponent + digitCount d.digits) := by
  have hdigits : (d.digits : ℚ) < 10 ^ digitCount d.digits := by
    exact_mod_cast lt_pow_digitCount d.digits
  unfold magnitude
  rw [add_comm, zpow_add₀ (by norm_num), zpow_natCast]
  exact mul_lt_mul_of_pos_right hdigits (zpow_pos (by norm_num) _)

theorem magnitude_nonneg (d : Decimal) : 0 ≤ d.magnitude :=
  mul_nonneg (Nat.cast_nonneg _) (zpow_nonneg (by norm_num) _)

/-! ## Rounding -/

/-- Beyond the reach upwards everything is infinity. -/
theorem nearest_of_reach_lt {f : Format} (hp : 1 ≤ f.precision) (hw : 1 ≤ f.exponentWidth)
    (hd : d.digits ≠ 0) (h : reach f < d.exponent + digitCount d.digits) :
    f.nearest d.magnitude = f.infinityBits := by
  refine f.nearest_of_large hp hw (le_trans ?_ (le_magnitude hd))
  unfold reach at h
  simp only [Nat.pow_eq] at h
  calc (2 : ℚ) ^ 2 ^ (f.exponentWidth - 1) ≤ 10 ^ 2 ^ (f.exponentWidth - 1) :=
        pow_le_pow_left₀ (by norm_num) (by norm_num) _
    _ = 10 ^ ((2 ^ (f.exponentWidth - 1) : ℕ) : ℤ) := (zpow_natCast _ _).symm
    _ ≤ 10 ^ (d.exponent + digitCount d.digits - 1) :=
        zpow_le_zpow_right₀ (by norm_num) (by omega)

/-- Beyond the reach downwards everything is zero. -/
theorem nearest_of_lt_reach {f : Format} (h : d.exponent + digitCount d.digits < -reach f) :
    f.nearest d.magnitude = 0 := by
  refine f.nearest_of_small d.magnitude_nonneg (lt_of_lt_of_le d.magnitude_lt ?_)
  obtain ⟨k, hk⟩ : ∃ k : ℕ, d.exponent + digitCount d.digits = -(k : ℤ) :=
    ⟨(-(d.exponent + digitCount d.digits)).toNat, by unfold reach at h; omega⟩
  unfold reach at h
  unfold Format.lowestExponent
  rw [hk]
  simp only [Nat.pow_eq] at h ⊢
  calc (10 : ℚ) ^ (-(k : ℤ)) = (10 ^ k)⁻¹ := by rw [zpow_neg, zpow_natCast]
    _ ≤ (2 ^ k)⁻¹ := inv_anti₀ (by positivity) (pow_le_pow_left₀ (by norm_num) (by norm_num) k)
    _ = 2 ^ (-(k : ℤ)) := by rw [zpow_neg, zpow_natCast]
    _ ≤ 2 ^ (3 - ((2 ^ (f.exponentWidth - 1) : ℕ) : ℤ) - f.precision - 1) :=
        zpow_le_zpow_right₀ (by norm_num) (by omega)

/-- **Rounding a decimal is rounding its value.** -/
theorem round_toExact {f : Format} (hp : 1 ≤ f.precision) (hw : 1 ≤ f.exponentWidth)
    (d : Decimal) :
    f.round (d.toExact f) = f.nearest d.magnitude + if d.negative then f.signBit else 0 := by
  unfold toExact
  by_cases hd : d.digits = 0
  · have hzero : d.magnitude = 0 := by unfold magnitude; rw [hd, Nat.cast_zero, zero_mul]
    rw [if_pos hd, hzero, f.nearest_zero]
    rfl
  rw [if_neg hd]
  -- Beyond the reach either way the result is known, and the number is not made at all.
  by_cases hhigh : reach f < d.exponent + digitCount d.digits
  · rw [if_pos hhigh, nearest_of_reach_lt hp hw hd hhigh]
    rfl
  rw [if_neg hhigh]
  by_cases hlow : d.exponent + digitCount d.digits < -reach f
  · rw [if_pos hlow, nearest_of_lt_reach hlow]
    rfl
  rw [if_neg hlow]
  by_cases hexp : d.exponent ≥ 0
  · -- a whole number, given exactly
    rw [if_pos hexp]
    obtain ⟨k, hk⟩ := Int.eq_ofNat_of_zero_le hexp
    unfold Format.round magnitude
    dsimp only
    rw [f.roundMagnitude_eq, hk]
    simp
  · -- a quotient by a power of ten, cut off with a bit for what is left over
    rw [if_neg hexp]
    obtain ⟨k, hk⟩ : ∃ k : ℕ, d.exponent = -(k : ℤ) := ⟨(-d.exponent).toNat, by omega⟩
    simp only [Nat.pow_eq]
    rw [f.round_quotient d.negative hd (by positivity)]
    unfold magnitude
    rw [hk]
    simp [div_eq_mul_inv]

end Decimal

end KernelLink
