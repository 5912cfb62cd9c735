import KernelLink.Number.Exact

/-!
# Binary formats and rounding

A format lays a number out as a sign bit, an exponent field and a fraction field. `decode` reads
any bit pattern; `round` is the single place where a number is rounded: to nearest, a tie to the
even significand, gradual underflow, overflow to infinity.

Consecutive magnitudes have consecutive bit patterns, so `round` only has to choose the unit in
the last place and count units: a carry out of the significand moves into the exponent field by
itself.
-/

namespace KernelLink

/-- Significand bits (the hidden one included) and exponent field width. -/
structure Format where
  precision : Nat
  exponentWidth : Nat
deriving DecidableEq, Repr

namespace Format

def binary32 : Format := ⟨24, 8⟩

def binary64 : Format := ⟨53, 11⟩

/-- Bits of the fraction field. -/
def fractionWidth (f : Format) : Nat := f.precision - 1

/-- The exponent of the unit in the last place of the smallest numbers. -/
def lowestExponent (f : Format) : Int := 3 - Nat.pow 2 (f.exponentWidth - 1) - f.precision

/-- The bits of positive infinity. -/
def infinityBits (f : Format) : Nat := (Nat.pow 2 f.exponentWidth - 1) * Nat.pow 2 f.fractionWidth

/-- The bit that makes a word negative. -/
def signBit (f : Format) : Nat := Nat.pow 2 (f.exponentWidth + f.fractionWidth)

/-- The bits of the quiet NaN that operations produce. -/
def nanBits (f : Format) : Nat := f.infinityBits + Nat.pow 2 (f.fractionWidth - 1)

def decode (f : Format) (bits : Nat) : Exact :=
  let negative := bits / f.signBit % 2 == 1
  let magnitude := bits % f.signBit
  let fraction := magnitude % Nat.pow 2 f.fractionWidth
  let field := magnitude / Nat.pow 2 f.fractionWidth
  if magnitude > f.infinityBits then .nan
  else if magnitude = f.infinityBits then .infinite negative
  else if field = 0 then .finite negative fraction f.lowestExponent
  else .finite negative (Nat.pow 2 f.fractionWidth + fraction) (f.lowestExponent + (field - 1))

/-- `numerator / denominator` to the nearest whole number, a tie to the even one. -/
def divideToEven (numerator denominator : Nat) : Nat :=
  let q := numerator / denominator
  let twice := 2 * (numerator % denominator)
  if twice > denominator ∨ (twice = denominator ∧ q % 2 = 1) then q + 1 else q

/-- The bits of the magnitude nearest to `mantissa * 2 ^ exponent`. -/
def roundMagnitude (f : Format) (mantissa : Nat) (exponent : Int) : Nat :=
  if mantissa = 0 then 0
  else
    let unit := max (exponent + (mantissa.log2 + 1) - f.precision) f.lowestExponent
    let count := divideToEven (mantissa * Nat.pow 2 (exponent - unit).toNat)
      (Nat.pow 2 (unit - exponent).toNat)
    min ((unit - f.lowestExponent).toNat * Nat.pow 2 f.fractionWidth + count) f.infinityBits

def round (f : Format) : Exact → Nat
  | .nan => f.nanBits
  | .infinite s => f.infinityBits + if s then f.signBit else 0
  | .finite s m e => f.roundMagnitude m e + if s then f.signBit else 0

/--
A quotient as a dyadic number that rounds the same way: enough quotient bits for the format, then
one more bit that records whether anything was left over.
-/
def quotient (f : Format) (negative : Bool) (numerator denominator : Nat) : Exact :=
  let shift := f.precision + 3 + denominator.log2 - numerator.log2
  let n := numerator * Nat.pow 2 shift
  let rest := if n % denominator = 0 then 0 else 1
  .finite negative (2 * (n / denominator) + rest) (-(shift : Int) - 1)

end Format

/-- The whole part of a square root. -/
def squareRoot (n : Nat) : Nat :=
  if h : n < 2 then n
  else
    let r := 2 * squareRoot (n / 4)
    if (r + 1) * (r + 1) ≤ n then r + 1 else r
termination_by n
decreasing_by omega

/--
A square root as a dyadic number that rounds the same way, by the same device as
`Format.quotient`. `-0` is its own root and no other negative number has one.
-/
def Format.root (f : Format) : Exact → Exact
  | .nan => .nan
  | .infinite s => if s then .nan else .infinite false
  | .finite s m e =>
    if m = 0 then .finite s m e
    else if s then .nan
    else
      let odd := (e % 2).toNat
      let n := m * Nat.pow 2 (odd + 2 * (f.precision + 2))
      let r := squareRoot n
      let rest := if r * r = n then 0 else 1
      .finite false (2 * r + rest) ((e - odd) / 2 - (f.precision + 2) - 1)

end KernelLink
