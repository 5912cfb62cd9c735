import KernelLink.Number.Single
import Mathlib.Tactic.Ring

/-!
# Words read back

A word stands for a number that is a whole number of units in its last place, so rounding that
number counts the units and comes back to the word. Only what is not a number loses something: every
such word is rounded to the same one.
-/

namespace KernelLink

namespace Format

theorem divideToEven_one (n : Nat) : divideToEven n 1 = n := by
  unfold divideToEven
  simp [Nat.mod_one]

variable {f : Format}

/-- A number of units that the format can count: its units are those of the number. -/
theorem roundMagnitude_of_fits (hp : 1 ≤ f.precision) {m : Nat} {e : Int}
    (hm : m < 2 ^ f.precision) (he : f.lowestExponent ≤ e)
    (hunit : 2 ^ f.fractionWidth ≤ m ∨ e = f.lowestExponent) :
    f.roundMagnitude m e =
      min ((e - f.lowestExponent).toNat * 2 ^ f.fractionWidth + m) f.infinityBits := by
  unfold roundMagnitude
  -- Zero has no logarithm, so its exponent has to be the lowest one to begin with.
  by_cases hzero : m = 0
  · have he' : e = f.lowestExponent := by
      rcases hunit with h | h
      · exact absurd (hzero ▸ h) (Nat.not_le_of_lt (Nat.two_pow_pos _))
      · exact h
    rw [if_pos hzero, hzero, he', Int.sub_self, Int.toNat_zero, Nat.zero_mul, Nat.zero_min]
  · have hlog : m.log2 < f.precision := (Nat.log2_lt hzero).mpr hm
    have hmax : max (e + (m.log2 + 1) - f.precision) f.lowestExponent = e := by
      rcases hunit with h | h
      · have hlow : f.precision - 1 ≤ m.log2 := (Nat.le_log2 hzero).mpr h
        omega
      · omega
    rw [if_neg hzero, hmax]
    dsimp only
    rw [Int.sub_self, Int.toNat_zero]
    simp only [Nat.pow_eq, Nat.pow_zero, Nat.mul_one]
    rw [divideToEven_one]

/-- Below the infinities, a magnitude is what its number is rounded to. -/
theorem roundMagnitude_decode (hp : 1 ≤ f.precision) {magnitude : Nat}
    (h : magnitude < f.infinityBits) :
    (magnitude / 2 ^ f.fractionWidth = 0 →
      f.roundMagnitude (magnitude % 2 ^ f.fractionWidth) f.lowestExponent = magnitude) ∧
    (magnitude / 2 ^ f.fractionWidth ≠ 0 →
      f.roundMagnitude (2 ^ f.fractionWidth + magnitude % 2 ^ f.fractionWidth)
        (f.lowestExponent + ((magnitude / 2 ^ f.fractionWidth : Nat) - 1)) = magnitude) := by
  have hsplit := Nat.div_add_mod magnitude (2 ^ f.fractionWidth)
  have hfraction := Nat.mod_lt magnitude (Nat.two_pow_pos f.fractionWidth)
  have hprecision : 2 ^ f.precision = 2 ^ f.fractionWidth + 2 ^ f.fractionWidth := by
    rw [← Nat.two_mul, ← Nat.pow_succ']
    unfold fractionWidth
    congr 1
    omega
  generalize magnitude % 2 ^ f.fractionWidth = fraction at hsplit hfraction
  generalize magnitude / 2 ^ f.fractionWidth = field at hsplit
  constructor
  · intro hfield
    rw [roundMagnitude_of_fits hp (by omega) (Int.le_refl _) (.inr rfl), Int.sub_self,
      Int.toNat_zero]
    rw [hfield] at hsplit
    omega
  · intro hfield
    obtain ⟨k, rfl⟩ := Nat.exists_eq_succ_of_ne_zero hfield
    rw [roundMagnitude_of_fits hp (by omega) (by omega) (.inl (by omega)),
      show (f.lowestExponent + ((k.succ : Nat) - 1) - f.lowestExponent).toNat = k by omega]
    rw [Nat.mul_succ, Nat.mul_comm] at hsplit
    omega

/-- **A word is what its number is rounded to.** -/
theorem round_decode (hp : 1 ≤ f.precision) {bits : Nat} (hbits : bits < 2 * f.signBit)
    (hnan : f.decode bits ≠ .nan) : f.round (f.decode bits) = bits := by
  have hsign :
      (bits % f.signBit) + (if bits / f.signBit % 2 == 1 then f.signBit else 0) = bits := by
    have hsplit := Nat.div_add_mod bits f.signBit
    have hquotient : bits / f.signBit < 2 := Nat.div_lt_of_lt_mul (by omega)
    rcases Nat.lt_succ_iff_lt_or_eq.mp hquotient with h | h
    · rw [Nat.lt_one_iff.mp h] at hsplit ⊢
      simpa using hsplit
    · rw [h] at hsplit ⊢
      rw [Nat.mul_one, Nat.add_comm] at hsplit
      exact hsplit
  unfold decode at hnan ⊢
  simp only [Nat.pow_eq] at hnan ⊢
  by_cases hlarge : bits % f.signBit > f.infinityBits
  · exact absurd (if_pos hlarge) hnan
  rw [if_neg hlarge]
  by_cases hinfinite : bits % f.signBit = f.infinityBits
  · rw [if_pos hinfinite]
    rw [hinfinite] at hsign
    exact hsign
  rw [if_neg hinfinite]
  obtain ⟨hsmall, hnormal⟩ := @roundMagnitude_decode f hp (bits % f.signBit) (by omega)
  by_cases hfield : bits % f.signBit / 2 ^ f.fractionWidth = 0
  · rw [if_pos hfield]
    exact (congrArg (· + _) (hsmall hfield)).trans hsign
  · rw [if_neg hfield]
    exact (congrArg (· + _) (hnormal hfield)).trans hsign

end Format

namespace Single

/-- A word that is a number or an infinity is made of what it stands for. -/
theorem ofExact_exact {x : Single} (hx : x.isNan = false) : ofExact x.exact = x := by
  have hbits : x.bits.toNat < 2 * Format.binary32.signBit := x.bits.toNat_lt
  have hnan : Format.binary32.decode x.bits.toNat ≠ .nan := by
    intro h
    unfold isNan exact at hx
    rw [h] at hx
    cases hx
  unfold ofExact exact
  rw [Format.round_decode (by decide) hbits hnan]
  exact congrArg Single.mk (UInt32.ofNat_toNat)

end Single

end KernelLink
