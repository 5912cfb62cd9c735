import KernelLink.Json.Basic
import KernelLink.Proofs.Json.Text
import KernelLink.Proofs.Number.Decode
import KernelLink.Proofs.Number.Shortest

/-!
# Numbers that JSON can hold

JSON forbids a zero before other digits and a point with nothing behind it. The digits of a natural
number start with a zero for zero only, and those of a single precision number other than zero are
not zero, for zero would read back to zero. So neither layout writes a zero where it must not stand.
-/

namespace KernelLink

theorem head?_decimalDigits {n : ℕ} (h : n ≠ 0) : (decimalDigits n).head? ≠ some '0' := by
  unfold decimalDigits
  induction n using Nat.strong_induction_on with
  | _ n ih =>
    by_cases hn : n < 10
    · rw [Nat.toDigits_of_lt_base hn]
      have hdigit : ∀ d < 10, d ≠ 0 → Nat.digitChar d ≠ '0' := by decide
      simpa using hdigit n hn h
    · rw [Nat.toDigits_of_base_le (by decide) (by omega), List.head?_append_of_ne_nil]
      · exact ih (n / 10) (by omega) (by omega)
      · exact Nat.toDigits_ne_nil

theorem decimalDigits_ne_zero_cons (n : ℕ) (d : Char) (ds : List Char) :
    decimalDigits n ≠ '0' :: d :: ds := by
  intro he
  by_cases h : n = 0
  · subst h
    cases he
  · exact head?_decimalDigits h (by rw [he]; rfl)

theorem Numeral.inJson_ofNat (n : ℕ) : (Numeral.ofNat n).InJson where
  nonempty := Nat.toDigits_ne_nil
  whole _ := isDigit_of_mem_decimalDigits
  fraction := nofun
  whole_head := decimalDigits_ne_zero_cons n
  fraction_ne_nil := nofun

namespace FloatStyle

variable {style : FloatStyle} {negative : Bool} {digits : ℕ} {power : ℤ}

/-- A zero must not be followed by the zeros of a power. -/
theorem inJson_layPositional (h : digits ≠ 0 ∨ power = 0) :
    (style.layPositional negative digits power).InJson where
  toInDigits := style.inDigits_layPositional negative digits power
  whole_head d ds := by
    unfold layPositional
    dsimp only
    split
    · intro he
      dsimp only at he
      rcases h with h | rfl
      · have hne : decimalDigits digits ≠ [] := Nat.toDigits_ne_nil
        have hhead := congrArg List.head? he
        rw [List.head?_append_of_ne_nil _ hne] at hhead
        exact head?_decimalDigits h hhead
      · rw [Int.toNat_zero, List.replicate_zero, List.append_nil] at he
        exact decimalDigits_ne_zero_cons digits d ds he
    · intro he
      dsimp only at he
      by_cases hshort : (decimalDigits digits).length ≤ (-power).toNat
      · -- padded to one digit before the point
        have hlength := congrArg List.length he
        rw [List.length_take, List.length_append, List.length_replicate, List.length_cons,
          List.length_cons] at hlength
        omega
      · have hzeros : (-power).toNat + 1 - (decimalDigits digits).length = 0 := by omega
        rw [hzeros, List.replicate_zero, List.nil_append] at he
        have hsplit := List.take_append_drop
          ((decimalDigits digits).length - (-power).toNat) (decimalDigits digits)
        rw [he] at hsplit
        exact decimalDigits_ne_zero_cons digits d _ hsplit.symm
  fraction_ne_nil := by
    unfold layPositional
    dsimp only
    split
    · split <;> simp
    · rw [ne_eq, Option.some.injEq, List.drop_eq_nil_iff, List.length_append,
        List.length_replicate]
      omega

theorem inJson_layExponent : (layExponent negative digits power).InJson where
  toInDigits := inDigits_layExponent negative digits power
  whole_head d ds := by
    unfold layExponent
    dsimp only
    intro he
    have hlength := congrArg List.length he
    rw [List.length_take, List.length_cons, List.length_cons] at hlength
    omega
  fraction_ne_nil := by
    unfold layExponent
    dsimp only
    split
    · rename_i hlong
      rw [ne_eq, Option.some.injEq, List.drop_eq_nil_iff]
      omega
    · exact nofun

theorem inJson_lay (h : digits ≠ 0) : (style.lay negative digits power).InJson := by
  unfold lay
  dsimp only
  split
  · exact inJson_layPositional (.inl h)
  · split
    · exact inJson_layPositional (.inl h)
    · exact inJson_layExponent

/-- The numeral of a number that is told apart from zero. -/
theorem inJson_numeral {f : Format} (hp : 1 ≤ f.precision) (hw : 1 ≤ f.exponentWidth) {m : ℕ}
    {e : ℤ} (h : m ≠ 0 → f.roundMagnitude m e ≠ 0) : (style.numeral f negative m e).InJson := by
  have hdigits : m ≠ 0 → (f.shortest style.tie m e).1 ≠ 0 := by
    intro hm hzero
    have hread := Format.nearest_shortest hp hw style.tie m e
    rw [hzero, Nat.cast_zero, zero_mul, f.nearest_zero, ← f.roundMagnitude_eq] at hread
    exact h hm hread.symm
  unfold numeral
  split
  · exact inJson_layPositional (.inr rfl)
  · rename_i hm
    exact inJson_lay (hdigits hm)

end FloatStyle

namespace Single

/-- Only the zeros are rounded to zero. -/
theorem roundMagnitude_ne_zero {x : Single} {s : Bool} {m : ℕ} {e : ℤ}
    (h : x.exact = .finite s m e) (hm : m ≠ 0) : Format.binary32.roundMagnitude m e ≠ 0 := by
  intro hzero
  have hbits : x.bits.toNat < 2 * Format.binary32.signBit := x.bits.toNat_lt
  have hround := Format.round_decode (by decide) hbits (by
    unfold exact at h
    rw [h]
    exact nofun)
  unfold exact at h
  rw [h] at hround
  unfold Format.round at hround
  dsimp only at hround
  rw [hzero, Nat.zero_add] at hround
  rw [← hround] at h
  cases s with
  | false =>
    have hdecode : Format.binary32.decode 0 = .finite false 0 (-149) := by decide
    cases h.symm.trans hdecode
    exact hm rfl
  | true =>
    have hdecode : Format.binary32.decode Format.binary32.signBit = .finite true 0 (-149) := by
      decide
    cases h.symm.trans hdecode
    exact hm rfl

theorem inJson_of_jsonNumeral? {x : Single} {n : Numeral} (h : x.jsonNumeral? = some n) :
    n.InJson := by
  unfold jsonNumeral? at h
  split at h
  · rename_i s m e hexact
    cases h
    exact FloatStyle.inJson_numeral (by decide) (by decide) (roundMagnitude_ne_zero hexact)
  · cases h

end Single

end KernelLink
