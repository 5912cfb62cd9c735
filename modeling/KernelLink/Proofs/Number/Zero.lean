import KernelLink.Number.Single

/-!
# Differences that vanish

Comparing within a tolerance rests on subtraction, and there a number and an infinity part ways: a
finite word less itself is zero, so it is within every tolerance of itself, while an infinity less
itself is not a number and so within none.
-/

namespace KernelLink

namespace Exact

/-- A number less itself is a positive zero, whatever its sign. -/
theorem sub_self_finite (s : Bool) (m : Nat) (e : Int) :
    (finite s m e).sub (finite s m e) = finite false 0 e := by
  unfold sub neg add
  have hsum : scaled s m e e + scaled (!s) m e e = 0 := by
    cases s with
    | false => exact Int.add_right_neg _
    | true => exact Int.add_left_neg _
  dsimp only
  rw [Int.min_self, if_pos hsum, Bool.and_not_self]

theorem sub_self_of_not_isFinite {v : Exact} (h : v.isFinite = false) : v.sub v = nan := by
  cases v with
  | nan => rfl
  | infinite s => cases s <;> rfl
  | finite s m e => cases h

/-- Exactly the numbers of mantissa zero equal zero. -/
theorem equals_zero_iff {v : Exact} : v.equals zero ↔ ∃ s e, v = finite s 0 e := by
  cases v with
  | nan => exact ⟨nofun, nofun⟩
  | infinite s => cases s <;> exact ⟨nofun, nofun⟩
  | finite s m e =>
    have hzero : scaled false 0 0 (min e 0) = 0 := by simp [scaled]
    have hscaled : scaled s m e (min e 0) = 0 ↔ m = 0 := by
      have hpow : (2 : Int) ^ (e - min e 0).toNat ≠ 0 :=
        Int.pow_ne_zero (by decide)
      have hmagnitude : (m : Int) * 2 ^ (e - min e 0).toNat = 0 ↔ m = 0 := by
        rw [Int.mul_eq_zero, or_iff_left hpow, Int.natCast_eq_zero]
      cases s with
      | false => exact hmagnitude
      | true => exact Int.neg_eq_zero.trans hmagnitude
    unfold equals compare? zero
    dsimp only
    rw [hzero]
    simp [hscaled]

end Exact

/-- A word stands for a zero when nothing but its sign bit is set. -/
theorem Format.exists_decode_eq_zero_iff {f : Format} (hf : 0 < f.infinityBits) {bits : Nat} :
    (∃ s e, f.decode bits = .finite s 0 e) ↔ bits % f.signBit = 0 := by
  have hsplit := Nat.div_add_mod (bits % f.signBit) (2 ^ f.fractionWidth)
  have hpow := Nat.two_pow_pos f.fractionWidth
  unfold decode
  simp only [Nat.pow_eq]
  constructor
  · rintro ⟨s, e, h⟩
    split at h
    · cases h
    · split at h
      · cases h
      · split at h
        · -- the fraction is all there is of a magnitude whose exponent field is zero
          rename_i hfield
          injection h with _ hfraction _
          rw [hfield, hfraction] at hsplit
          omega
        · injection h with _ hfraction _
          omega
  · intro h
    rw [h, if_neg (Nat.not_lt_zero _), if_neg (Nat.ne_of_lt hf), Nat.zero_div, if_pos rfl,
      Nat.zero_mod]
    exact ⟨_, _, rfl⟩

namespace Single

theorem sub_self_of_isFinite {x : Single} (h : x.isFinite) : x - x = zero := by
  unfold isFinite at h
  show ofExact (x.exact.sub x.exact) = zero
  cases hx : x.exact with
  | nan => rw [hx] at h; cases h
  | infinite s => rw [hx] at h; cases h
  | finite s m e =>
    rw [Exact.sub_self_finite]
    rfl

/-- **Exactly the finite words are close to themselves.** -/
theorem le_abs_sub_self {t : Single} (ht : zero.le t) (x : Single) :
    (x - x).abs.le t = x.isFinite := by
  cases h : x.isFinite with
  | true =>
    rw [sub_self_of_isFinite h]
    exact ht
  | false =>
    -- the difference is not a number, and no tolerance is above that
    have hsub : x - x = ofExact .nan := congrArg ofExact (Exact.sub_self_of_not_isFinite h)
    have hnan : (ofExact .nan).abs.exact = .nan := by decide
    unfold le
    rw [hsub, hnan]
    rfl

/-- Zero has two spellings, one for each sign. -/
theorem isZero_iff {x : Single} : x.isZero ↔ x = ⟨0⟩ ∨ x = ⟨0x80000000⟩ := by
  unfold isZero exact
  rw [Exact.equals_zero_iff, Format.exists_decode_eq_zero_iff (by decide)]
  have hsign : Format.binary32.signBit = 2 ^ 31 := rfl
  have hlt := x.bits.toNat_lt
  rw [hsign, Single.mk.injEq, Single.mk.injEq, ← UInt32.toNat_inj, ← UInt32.toNat_inj]
  show x.bits.toNat % 2 ^ 31 = 0 ↔ x.bits.toNat = 0 ∨ x.bits.toNat = 2 ^ 31
  omega

end Single

end KernelLink
