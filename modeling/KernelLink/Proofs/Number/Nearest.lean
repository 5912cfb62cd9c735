import KernelLink.Number.Exact
import KernelLink.Number.Format
import Mathlib.Algebra.Order.Floor.Semifield
import Mathlib.Data.Int.Log
import Mathlib.Data.Rat.Floor
import Mathlib.Tactic.FieldSimp
import Mathlib.Tactic.Linarith
import Mathlib.Tactic.Positivity
import Mathlib.Tactic.Ring

/-!
# Rounding is a function of the number

A format rounds what is put before it: a mantissa and an exponent, or a quotient with a bit for what
was left over. The same number can be put in many ways, and the result is the same for all of them.
`Format.nearest` is that result, read off the number itself: the unit in the last place is found
from the number's binary logarithm, and the units are counted to the nearest, a tie to the even one.
-/

namespace KernelLink

/-! ## To the nearest whole number -/

/-- The whole number nearest to a number that is not negative, a tie to the even one. -/
def roundEven (q : ℚ) : ℕ :=
  if 1 / 2 < q - ⌊q⌋₊ ∨ (q - ⌊q⌋₊ = 1 / 2 ∧ ⌊q⌋₊ % 2 = 1) then ⌊q⌋₊ + 1 else ⌊q⌋₊

/-- What is beyond the whole part decides. -/
theorem roundEven_add (n : ℕ) {r : ℚ} (h0 : 0 ≤ r) (h1 : r < 1) :
    roundEven (n + r) = if 1 / 2 < r ∨ (r = 1 / 2 ∧ n % 2 = 1) then n + 1 else n := by
  have hfloor : ⌊(n : ℚ) + r⌋₊ = n := by
    rw [Nat.floor_eq_iff (by positivity)]
    exact ⟨by linarith, by linarith⟩
  unfold roundEven
  rw [hfloor, add_sub_cancel_left]

theorem le_roundEven {q : ℚ} {n : ℕ} (h : (n : ℚ) ≤ q) : n ≤ roundEven q := by
  have hfloor : n ≤ ⌊q⌋₊ := Nat.le_floor h
  unfold roundEven
  split
  · exact hfloor.trans (Nat.le_succ _)
  · exact hfloor

theorem roundEven_eq_zero {q : ℚ} (h0 : 0 ≤ q) (h : q < 1 / 2) : roundEven q = 0 := by
  have hzero := roundEven_add 0 h0 (h.trans (by norm_num))
  rw [Nat.cast_zero, zero_add] at hzero
  rw [hzero, if_neg]
  rintro (hlt | ⟨heq, -⟩)
  · exact absurd hlt (not_lt.mpr h.le)
  · exact absurd heq h.ne

/-- A quotient is its whole part and what is left over. -/
theorem natCast_div_eq (n : ℕ) {d : ℕ} (hd : 0 < d) :
    (n : ℚ) / d = (n / d : ℕ) + ((n % d : ℕ) : ℚ) / d := by
  have hd' : (d : ℚ) ≠ 0 := by exact_mod_cast hd.ne'
  have hsplit : (n : ℚ) = d * (n / d : ℕ) + (n % d : ℕ) := by
    exact_mod_cast (Nat.div_add_mod n d).symm
  rw [hsplit]
  field_simp

/-- Quotients of natural numbers are rounded by their remainders. -/
theorem Format.divideToEven_eq (n : ℕ) {d : ℕ} (hd : 0 < d) :
    Format.divideToEven n d = roundEven ((n : ℚ) / d) := by
  have hd' : (0 : ℚ) < d := by exact_mod_cast hd
  have hrest : ((n % d : ℕ) : ℚ) / d < 1 := by
    rw [div_lt_one hd']
    exact_mod_cast Nat.mod_lt n hd
  have hmore : 1 / 2 < ((n % d : ℕ) : ℚ) / d ↔ 2 * (n % d) > d := by
    rw [div_lt_div_iff₀ two_pos hd', one_mul, mul_comm]
    exact_mod_cast Iff.rfl
  have htie : ((n % d : ℕ) : ℚ) / d = 1 / 2 ↔ 2 * (n % d) = d := by
    rw [div_eq_div_iff hd'.ne' two_ne_zero, one_mul, mul_comm]
    exact_mod_cast Iff.rfl
  rw [natCast_div_eq n hd, roundEven_add _ (by positivity) hrest]
  unfold divideToEven
  simp only [hmore, htie]

/-- A tie between multiples of an even number is a whole number, so next to whole numbers it only
counts whether anything is left over. -/
theorem roundEven_div_even (q : ℕ) {h : ℕ} (hh : 0 < h) {r : ℚ} (h0 : 0 ≤ r) (h1 : r < 1) :
    roundEven ((q + r) / (2 * h : ℕ)) =
      if h < q % (2 * h) ∨ (q % (2 * h) = h ∧ (0 < r ∨ q / (2 * h) % 2 = 1)) then q / (2 * h) + 1
      else q / (2 * h) := by
  have hd : (0 : ℚ) < (2 * h : ℕ) := by exact_mod_cast (by omega : 0 < 2 * h)
  have hmod : q % (2 * h) < 2 * h := Nat.mod_lt q (by omega)
  rw [add_div, natCast_div_eq q (by omega), add_assoc, ← add_div]
  generalize q % (2 * h) = rest at hmod
  generalize q / (2 * h) = whole
  have hrest : (rest + r) / (2 * h : ℕ) < 1 := by
    rw [div_lt_one hd]
    have : (rest : ℚ) + 1 ≤ (2 * h : ℕ) := by exact_mod_cast hmod
    linarith
  -- Whole numbers are compared with `h` as they are; what is left over decides next to `h` alone.
  have hmore : 1 / 2 < (rest + r) / (2 * h : ℕ) ↔ h < rest ∨ (rest = h ∧ 0 < r) := by
    rw [div_lt_div_iff₀ two_pos hd, Nat.cast_mul, Nat.cast_two]
    constructor
    · intro hlt
      have hle : h < rest + 1 := by
        have : (h : ℚ) < rest + 1 := by linarith
        exact_mod_cast this
      rcases Nat.lt_succ_iff_lt_or_eq.mp hle with hlt' | rfl
      · exact .inl hlt'
      · exact .inr ⟨rfl, by linarith⟩
    · rintro (hlt | ⟨rfl, hr⟩)
      · have : (h : ℚ) < rest := by exact_mod_cast hlt
        linarith
      · linarith
  have htie : (rest + r) / (2 * h : ℕ) = 1 / 2 ↔ rest = h ∧ r = 0 := by
    rw [div_eq_div_iff hd.ne' two_ne_zero, Nat.cast_mul, Nat.cast_two]
    constructor
    · intro heq
      have hle : rest ≤ h := by
        have : (rest : ℚ) ≤ h := by linarith
        exact_mod_cast this
      have hlt : h < rest + 1 := by
        have : (h : ℚ) < rest + 1 := by linarith
        exact_mod_cast this
      obtain rfl : rest = h := by omega
      exact ⟨rfl, by linarith⟩
    · rintro ⟨rfl, rfl⟩
      ring
  rw [roundEven_add _ (by positivity) hrest]
  simp only [hmore, htie]
  refine if_congr ?_ rfl rfl
  rcases h0.lt_or_eq with hr | rfl
  · simp [hr, hr.ne']
  · simp

/-! ## To a word of a format -/

/-- The exponent of the unit in the last place next to a positive number. -/
def Format.unitExponent (f : Format) (q : ℚ) : ℤ :=
  max (Int.log 2 q + 1 - f.precision) f.lowestExponent

/-- The bits of the magnitude nearest to a number that is not negative. -/
def Format.nearest (f : Format) (q : ℚ) : ℕ :=
  if q = 0 then 0
  else min ((f.unitExponent q - f.lowestExponent).toNat * 2 ^ f.fractionWidth +
    roundEven (q / 2 ^ f.unitExponent q)) f.infinityBits

/-- A power is a quotient of powers with natural exponents. -/
theorem zpow_eq_div {b : ℚ} (hb : b ≠ 0) (z : ℤ) : b ^ z = b ^ z.toNat / b ^ (-z).toNat := by
  rw [← zpow_natCast, ← zpow_natCast, ← zpow_sub₀ hb]
  congr 1
  omega

theorem int_log_eq {q : ℚ} {z : ℤ} (h : 2 ^ z ≤ q) (h' : q < 2 ^ (z + 1)) : Int.log 2 q = z := by
  have hq : 0 < q := (zpow_pos two_pos z).trans_le h
  have hle : z ≤ Int.log 2 q := (Int.zpow_le_iff_le_log one_lt_two hq).mp (by exact_mod_cast h)
  have hlt : Int.log 2 q < z + 1 := (Int.lt_zpow_iff_log_lt one_lt_two hq).mp (by exact_mod_cast h')
  omega

/-- The logarithm of a dyadic number that was cut off is the one of what was kept. -/
theorem int_log_dyadic {m : ℕ} (hm : m ≠ 0) (e : ℤ) {r : ℚ} (h0 : 0 ≤ r) (h1 : r < 1) :
    Int.log 2 ((m + r) * 2 ^ e) = m.log2 + e := by
  have hpow := zpow_pos (two_pos : (0 : ℚ) < 2) e
  have hlow : ((2 : ℚ) ^ m.log2) ≤ m := by exact_mod_cast Nat.log2_self_le hm
  have hhigh : ((m : ℚ) + 1) ≤ 2 ^ (m.log2 + 1) := by exact_mod_cast (Nat.lt_log2_self : m < _)
  refine int_log_eq ?_ ?_
  · rw [zpow_add₀ two_ne_zero, zpow_natCast]
    gcongr
    linarith
  · rw [show (m.log2 : ℤ) + e + 1 = (m.log2 + 1 : ℕ) + e by push_cast; ring, zpow_add₀ two_ne_zero,
      zpow_natCast]
    gcongr
    linarith

/-- **Rounding a dyadic number is rounding its value.** -/
theorem Format.roundMagnitude_eq (f : Format) (m : ℕ) (e : ℤ) :
    f.roundMagnitude m e = f.nearest (m * 2 ^ e) := by
  unfold roundMagnitude nearest
  by_cases hm : m = 0
  · simp [hm]
  · have hne : (m : ℚ) * 2 ^ e ≠ 0 :=
      mul_ne_zero (Nat.cast_ne_zero.mpr hm) (zpow_ne_zero e two_ne_zero)
    have hlog := int_log_dyadic hm e (le_refl 0) one_pos
    rw [add_zero] at hlog
    have hunit : max (e + (m.log2 + 1) - f.precision) f.lowestExponent =
        f.unitExponent (m * 2 ^ e) := by
      unfold unitExponent
      rw [hlog]
      omega
    rw [if_neg hm, if_neg hne, hunit]
    generalize f.unitExponent (m * 2 ^ e) = u
    dsimp only
    simp only [Nat.pow_eq]
    rw [divideToEven_eq _ (Nat.pow_pos two_pos), mul_div_assoc, ← zpow_sub₀ two_ne_zero,
      zpow_eq_div two_ne_zero (e - u), neg_sub, ← mul_div_assoc]
    norm_cast

/-! ## What was left over -/

/-- With two more bits than a format has, it only counts whether anything is left over. -/
theorem Format.nearest_congr (f : Format) {q : ℕ} (hq : 2 ^ (f.precision + 1) ≤ q) (e : ℤ)
    {r r' : ℚ} (h0 : 0 ≤ r) (h1 : r < 1) (h0' : 0 ≤ r') (h1' : r' < 1) (h : 0 < r ↔ 0 < r') :
    f.nearest ((q + r) * 2 ^ e) = f.nearest ((q + r') * 2 ^ e) := by
  have hpos : 0 < q := (Nat.pow_pos two_pos).trans_le hq
  have hpos' : (0 : ℚ) < q := by exact_mod_cast hpos
  have hne : ∀ {s : ℚ}, 0 ≤ s → (q + s) * 2 ^ e ≠ 0 := fun hs =>
    (mul_pos (add_pos_of_pos_of_nonneg hpos' hs) (zpow_pos two_pos e)).ne'
  have hunit : ∀ {s : ℚ}, 0 ≤ s → s < 1 → f.unitExponent ((q + s) * 2 ^ e) =
      max (q.log2 + e + 1 - f.precision) f.lowestExponent := by
    intro s hs hs'
    unfold unitExponent
    rw [int_log_dyadic hpos.ne' e hs hs']
  -- the unit is even in units of the number that was cut off
  have hlog : f.precision + 1 ≤ q.log2 := (Nat.le_log2 hpos.ne').mpr hq
  unfold nearest
  rw [if_neg (hne h0), if_neg (hne h0'), hunit h0 h1, hunit h0' h1']
  obtain ⟨k, hk⟩ : ∃ k : ℕ, max (q.log2 + e + 1 - f.precision : ℤ) f.lowestExponent = e + (k + 1) :=
    ⟨(max (q.log2 + e + 1 - f.precision : ℤ) f.lowestExponent - e - 1).toNat, by omega⟩
  have hscale : ∀ s : ℚ, (q + s) * 2 ^ e / 2 ^ (e + (k + 1) : ℤ) = (q + s) / (2 * 2 ^ k : ℕ) := by
    intro s
    rw [zpow_add₀ two_ne_zero, mul_comm (q + s), mul_div_mul_left _ _ (zpow_ne_zero e two_ne_zero)]
    norm_cast
    rw [pow_succ, mul_comm]
  rw [hk, hscale, hscale, roundEven_div_even q (Nat.pow_pos two_pos) h0 h1,
    roundEven_div_even q (Nat.pow_pos two_pos) h0' h1']
  simp only [h]

/-- The bits that a quotient keeps. -/
theorem Format.precision_le_quotient (f : Format) {n d : ℕ} (hn : n ≠ 0) (hd : d ≠ 0) :
    2 ^ (f.precision + 1) ≤ n * 2 ^ (f.precision + 3 + d.log2 - n.log2) / d := by
  rw [Nat.le_div_iff_mul_le (Nat.pos_of_ne_zero hd)]
  calc 2 ^ (f.precision + 1) * d
      ≤ 2 ^ (f.precision + 1) * 2 ^ (d.log2 + 1) :=
        Nat.mul_le_mul_left _ Nat.lt_log2_self.le
    _ = 2 ^ (f.precision + 2 + d.log2) := by rw [← Nat.pow_add]; congr 1; omega
    _ ≤ 2 ^ (n.log2 + (f.precision + 3 + d.log2 - n.log2)) :=
        Nat.pow_le_pow_right two_pos (by omega)
    _ = 2 ^ n.log2 * 2 ^ (f.precision + 3 + d.log2 - n.log2) := Nat.pow_add 2 _ _
    _ ≤ n * 2 ^ (f.precision + 3 + d.log2 - n.log2) :=
        Nat.mul_le_mul_right _ (Nat.log2_self_le hn)

/-- **Rounding a quotient is rounding its value**: the last bit stands for all that is left over. -/
theorem Format.round_quotient (f : Format) (s : Bool) {n d : ℕ} (hn : n ≠ 0) (hd : d ≠ 0) :
    f.round (f.quotient s n d) = f.nearest (n / d) + if s then f.signBit else 0 := by
  have hd' : (0 : ℚ) < d := by exact_mod_cast Nat.pos_of_ne_zero hd
  have hkept := f.precision_le_quotient hn hd
  unfold quotient
  simp only [Nat.pow_eq]
  generalize f.precision + 3 + d.log2 - n.log2 = shift at hkept ⊢
  have hvalue : (n : ℚ) / d = ((n * 2 ^ shift / d : ℕ) + ((n * 2 ^ shift % d : ℕ) : ℚ) / d) *
      2 ^ (-(shift : ℤ)) := by
    rw [← natCast_div_eq _ (Nat.pos_of_ne_zero hd), zpow_neg, zpow_natCast]
    push_cast
    field_simp
  have hrest : ((n * 2 ^ shift % d : ℕ) : ℚ) / d < 1 := by
    rw [div_lt_one hd']
    exact_mod_cast Nat.mod_lt _ (Nat.pos_of_ne_zero hd)
  -- The last bit puts what is left over at one half, above zero exactly when it was.
  have hkeep : ((2 * (n * 2 ^ shift / d) + if n * 2 ^ shift % d = 0 then 0 else 1 : ℕ) : ℚ) *
      2 ^ (-(shift : ℤ) - 1) = ((n * 2 ^ shift / d : ℕ) +
        if n * 2 ^ shift % d = 0 then 0 else 1 / 2) * 2 ^ (-(shift : ℤ)) := by
    rw [zpow_sub_one₀ two_ne_zero]
    split
    · push_cast; ring
    · push_cast; ring
  unfold round
  dsimp only
  rw [roundMagnitude_eq, hvalue, hkeep]
  congr 1
  refine f.nearest_congr hkept _ ?_ ?_ (by positivity) hrest ?_
  · split <;> norm_num
  · split <;> norm_num
  · by_cases hz : n * 2 ^ shift % d = 0
    · simp [hz]
    · have : (0 : ℚ) < ((n * 2 ^ shift % d : ℕ) : ℚ) / d := by
        have : (0 : ℚ) < (n * 2 ^ shift % d : ℕ) := by exact_mod_cast Nat.pos_of_ne_zero hz
        positivity
      rw [if_neg hz]
      exact iff_of_true (by norm_num) this

/-! ## Beyond the range of a format -/

theorem Format.nearest_zero (f : Format) : f.nearest 0 = 0 := if_pos rfl

/-- A number from the first power of two beyond the finite ones on is rounded to infinity. -/
theorem Format.nearest_of_large (f : Format) (hp : 1 ≤ f.precision) (hw : 1 ≤ f.exponentWidth)
    {q : ℚ} (hq : 2 ^ 2 ^ (f.exponentWidth - 1) ≤ q) : f.nearest q = f.infinityBits := by
  have hpos : 0 < q := (by positivity : (0 : ℚ) < 2 ^ 2 ^ (f.exponentWidth - 1)).trans_le hq
  have hlog : (2 ^ (f.exponentWidth - 1) : ℕ) ≤ Int.log 2 q := by
    refine (Int.zpow_le_iff_le_log one_lt_two hpos).mp ?_
    rw [zpow_natCast]
    exact_mod_cast hq
  have hwidth : 2 ^ f.exponentWidth = 2 * 2 ^ (f.exponentWidth - 1) := by
    rw [← Nat.pow_succ']
    congr 1
    omega
  have hunit : f.unitExponent q = Int.log 2 q - f.fractionWidth := by
    unfold unitExponent lowestExponent fractionWidth
    simp only [Nat.pow_eq]
    have := Nat.one_le_two_pow (n := f.exponentWidth - 1)
    omega
  -- A full significand above the last binade of finite numbers, and saturation does the rest.
  have hcount : 2 ^ f.fractionWidth ≤ roundEven (q / 2 ^ f.unitExponent q) := by
    refine le_roundEven ?_
    rw [hunit, le_div_iff₀ (zpow_pos two_pos _)]
    have hself := Int.zpow_log_le_self one_lt_two hpos
    push_cast at hself ⊢
    rw [← zpow_natCast, ← zpow_add₀ two_ne_zero]
    calc (2 : ℚ) ^ (f.fractionWidth + (Int.log 2 q - f.fractionWidth)) = 2 ^ Int.log 2 q := by
          congr 1; omega
      _ ≤ q := hself
  have hunits : 2 ^ f.exponentWidth - 2 ≤ (f.unitExponent q - f.lowestExponent).toNat := by
    rw [hunit]
    unfold lowestExponent fractionWidth
    simp only [Nat.pow_eq]
    omega
  unfold nearest
  rw [if_neg hpos.ne']
  refine min_eq_right ?_
  have hone := Nat.one_le_two_pow (n := f.exponentWidth - 1)
  have hinfinity : f.infinityBits = (2 ^ f.exponentWidth - 2) * 2 ^ f.fractionWidth +
      2 ^ f.fractionWidth := by
    unfold infinityBits
    simp only [Nat.pow_eq]
    rw [← Nat.succ_mul]
    congr 1
    omega
  rw [hinfinity]
  exact Nat.add_le_add (Nat.mul_le_mul_right _ hunits) hcount

/-- A number below half of the smallest one is rounded to zero. -/
theorem Format.nearest_of_small (f : Format) {q : ℚ} (h0 : 0 ≤ q)
    (hq : q < 2 ^ (f.lowestExponent - 1)) : f.nearest q = 0 := by
  rcases h0.lt_or_eq with hpos | rfl
  · have hlog : Int.log 2 q < f.lowestExponent - 1 :=
      (Int.lt_zpow_iff_log_lt one_lt_two hpos).mp (by exact_mod_cast hq)
    have hunit : f.unitExponent q = f.lowestExponent := by
      unfold unitExponent
      omega
    have hhalf : q / 2 ^ f.lowestExponent < 1 / 2 := by
      rw [div_lt_iff₀ (zpow_pos two_pos _), one_div, ← zpow_neg_one, ← zpow_add₀ two_ne_zero,
        neg_add_eq_sub]
      exact hq
    unfold nearest
    rw [if_neg hpos.ne', hunit, roundEven_eq_zero (div_pos hpos (zpow_pos two_pos _)).le hhalf,
      sub_self, Int.toNat_zero, zero_mul, zero_add, Nat.zero_min]
  · exact f.nearest_zero

end KernelLink
