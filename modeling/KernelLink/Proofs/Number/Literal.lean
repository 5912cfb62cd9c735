import KernelLink.Proofs.Number.Decode
import KernelLink.Proofs.Number.Reading
import KernelLink.Proofs.Number.Shortest

/-!
# Literals tell numbers apart

A literal is a numeral, and a numeral is rounded to the word that it was written for. So the word
can be had back from the text, unless it is not a number: all such words share one text.
-/

namespace KernelLink

/-- Infinities and what is not a number have texts of their own. -/
theorem nonFiniteText_inj {v w : Exact} (hv : v.isFinite = false) (hw : w.isFinite = false)
    (h : nonFiniteText v = nonFiniteText w) : v = w := by
  cases v with
  | finite negative m e => cases hv
  | infinite negative =>
    cases w with
    | finite negative' m e => cases hw
    | infinite negative' =>
      have hsign : ∀ s t, nonFiniteText (.infinite s) = nonFiniteText (.infinite t) → s = t := by
        decide
      rw [hsign _ _ h]
    | nan => cases negative <;> exact absurd h (by decide)
  | nan =>
    cases w with
    | finite negative m e => cases hw
    | infinite negative => cases negative <;> exact absurd h (by decide)
    | nan => rfl

theorem readNumeral?_nonFiniteText (v : Exact) : readNumeral? (nonFiniteText v).toList = none := by
  have hwords : ∀ word ∈ ["inf", "-inf", "NaN"], readNumeral? word.toList = none := by decide
  refine hwords _ ?_
  unfold nonFiniteText
  split
  · split <;> decide
  · decide

namespace FloatStyle

variable (style : FloatStyle)

theorem readNumeral?_text_finite (f : Format) (negative : Bool) (m : Nat) (e : Int) :
    readNumeral? (style.text f (.finite negative m e)).toList =
      some (style.numeral f negative m e) :=
  (style.inDigits_numeral negative f m e).readNumeral?_text

theorem text_of_not_finite (f : Format) {v : Exact} (hv : v.isFinite = false) :
    style.text f v = nonFiniteText v := by
  cases v with
  | finite negative m e => cases hv
  | infinite negative => rfl
  | nan => rfl

/-- A finite number is not written as one of the words. -/
theorem isFinite_of_text_eq {f : Format} {negative : Bool} {m : Nat} {e : Int} {w : Exact}
    (h : style.text f (.finite negative m e) = style.text f w) : w.isFinite := by
  by_contra hw
  have hw : w.isFinite = false := by simpa using hw
  have hread := style.readNumeral?_text_finite f negative m e
  rw [h, style.text_of_not_finite f hw, readNumeral?_nonFiniteText] at hread
  cases hread

/-- **A text determines what is rounded.** -/
theorem round_eq_of_text_eq {f : Format} (hp : 1 ≤ f.precision) (hw : 1 ≤ f.exponentWidth)
    {v w : Exact} (h : style.text f v = style.text f w) : f.round v = f.round w := by
  by_cases hv : v.isFinite
  · cases v with
    | infinite negative => cases hv
    | nan => cases hv
    | finite negative m e =>
      have hfinite := style.isFinite_of_text_eq h
      cases w with
      | infinite negative' => cases hfinite
      | nan => cases hfinite
      | finite negative' m' e' =>
        have hread := style.readNumeral?_text_finite f negative m e
        rw [h, style.readNumeral?_text_finite] at hread
        rw [← style.round_numeral negative hp hw, ← style.round_numeral negative' hp hw,
          Option.some.inj hread]
  · have hv' : v.isFinite = false := by simpa using hv
    have hw' : w.isFinite = false := by
      by_contra hfinite
      cases w with
      | infinite negative => exact hfinite rfl
      | nan => exact hfinite rfl
      | finite negative m e => exact hv (style.isFinite_of_text_eq h.symm)
    rw [style.text_of_not_finite f hv', style.text_of_not_finite f hw'] at h
    rw [nonFiniteText_inj hv' hw' h]

/-- **A text determines what a word stands for**, though not which of the words it is that are no
numbers. -/
theorem decode_eq_of_text_eq {f : Format} (hp : 1 ≤ f.precision) (hw : 1 ≤ f.exponentWidth)
    {a b : Nat} (ha : a < 2 * f.signBit) (hb : b < 2 * f.signBit)
    (h : style.text f (f.decode a) = style.text f (f.decode b)) : f.decode a = f.decode b := by
  by_cases hnumbers : f.decode a ≠ .nan ∧ f.decode b ≠ .nan
  · have hround := style.round_eq_of_text_eq hp hw h
    rw [Format.round_decode hp ha hnumbers.1, Format.round_decode hp hb hnumbers.2] at hround
    rw [hround]
  · have hnan : ∀ v, style.text f v = nonFiniteText .nan → v = .nan := by
      intro v hv
      have hfinite : v.isFinite = false := by
        cases v with
        | finite negative m e =>
          have hread := style.readNumeral?_text_finite f negative m e
          rw [hv, readNumeral?_nonFiniteText] at hread
          cases hread
        | infinite negative => rfl
        | nan => rfl
      rw [style.text_of_not_finite f hfinite] at hv
      exact nonFiniteText_inj hfinite rfl hv
    rw [not_and_or, not_not, not_not] at hnumbers
    rcases hnumbers with hn | hn
    · rw [hn] at h
      rw [hn, hnan _ h.symm]
    · rw [hn] at h
      rw [hn, hnan _ h]

end FloatStyle

theorem Single.exact_eq_of_literalText_eq {x y : Single} (h : x.literalText = y.literalText) :
    x.exact = y.exact :=
  FloatStyle.literal.decode_eq_of_text_eq (by decide) (by decide) x.bits.toNat_lt y.bits.toNat_lt h

theorem Double.exact_eq_of_literalText_eq {x y : Double} (h : x.literalText = y.literalText) :
    x.exact = y.exact :=
  FloatStyle.literal.decode_eq_of_text_eq (by decide) (by decide) x.bits.toNat_lt y.bits.toNat_lt h

/-- **A literal tells what number it is the literal of.** -/
theorem Single.eq_of_literalText_eq {x y : Single} (hy : y.isNan = false)
    (h : x.literalText = y.literalText) : x = y := by
  have hround : ofExact x.exact = y := by
    rw [← ofExact_exact hy]
    unfold ofExact
    rw [FloatStyle.literal.round_eq_of_text_eq (by decide) (by decide) h]
  cases hx : x.isNan with
  | false => rw [← hround, ofExact_exact hx]
  | true =>
    have hnan : x.exact = .nan := by
      unfold isNan Exact.isNan at hx
      split at hx
      · assumption
      · cases hx
    rw [← hround, hnan] at hy
    exact absurd hy (by decide)

end KernelLink
