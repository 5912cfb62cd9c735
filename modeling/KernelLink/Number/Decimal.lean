import KernelLink.Number.Single

/-!
# Decimals and binary words

Two directions. Reading: the word nearest to a decimal. Writing: the fewest digits that read back
to a given word, or a set number of digits or places of its exact value. Both work in exact
natural numbers, so the only rule that has to be stated is what happens on a tie.
-/

namespace KernelLink

/-- The number `± digits * 10 ^ exponent`. -/
structure Decimal where
  negative : Bool
  digits : Nat
  exponent : Int
deriving DecidableEq, Repr, Inhabited

/-- How many decimal digits a number has; zero has none. -/
def digitCount (n : Nat) : Nat := if n = 0 then 0 else (Nat.toDigits 10 n).length

namespace Decimal

/-- Beyond this power of ten a format overflows, and below its inverse it underflows. Ten is more
than two, so the powers of two that the format has are enough of them. -/
def reach (f : Format) : Int := Nat.pow 2 (f.exponentWidth - 1) + f.precision

/-- A number that the format rounds to the same word as the decimal. -/
def toExact (f : Format) (d : Decimal) : Exact :=
  if d.digits = 0 then .finite d.negative 0 0
  else if d.exponent + digitCount d.digits > reach f then .infinite d.negative
  else if d.exponent + digitCount d.digits < -reach f then .finite d.negative 0 0
  else if d.exponent ≥ 0 then .finite d.negative (d.digits * Nat.pow 10 d.exponent.toNat) 0
  else f.quotient d.negative d.digits (Nat.pow 10 (-d.exponent).toNat)

def toDouble (d : Decimal) : Double := .ofExact (d.toExact .binary64)

end Decimal

/-- Which of two equally near candidates is written. -/
inductive Tie where
  | up
  | toEven
deriving DecidableEq, Repr

/-- Moves trailing zeros of the digits into the exponent. -/
def trimZeros (digits : Nat) (exponent : Int) : Nat × Int :=
  if h : digits = 0 ∨ digits % 10 ≠ 0 then (digits, exponent)
  else trimZeros (digits / 10) (exponent + 1)
termination_by digits
decreasing_by omega

/-- A positive number as a fraction of natural numbers. -/
structure Ratio where
  numerator : Nat
  denominator : Nat

namespace Ratio

/-- `mantissa * 2 ^ exponent` -/
def ofDyadic (mantissa : Nat) (exponent : Int) : Ratio :=
  ⟨mantissa * Nat.pow 2 exponent.toNat, Nat.pow 2 (-exponent).toNat⟩

/-- The power of ten of the leading digit: the greatest `k` with `10 ^ k ≤ r`. -/
def leadingPower (r : Ratio) : Int :=
  if r.numerator ≥ r.denominator then (digitCount (r.numerator / r.denominator) : Int) - 1
  else -(digitCount ((r.denominator - 1) / r.numerator) : Int)

/-- The same number counted in units of `10 ^ power`. -/
def inUnits (r : Ratio) (power : Int) : Ratio :=
  ⟨r.numerator * Nat.pow 10 (-power).toNat, r.denominator * Nat.pow 10 power.toNat⟩

end Ratio

namespace Format

/--
The nearest decimal with `count` digits that reads back to the word of `mantissa * 2 ^ exponent`,
if there is one. Only the two neighbours on the grid of that many digits can be nearest.
-/
def candidate? (f : Format) (tie : Tie) (mantissa : Nat) (exponent : Int) (count : Nat) :
    Option (Nat × Int) :=
  let r := Ratio.ofDyadic mantissa exponent
  let power := r.leadingPower + 1 - count
  let u := r.inUnits power
  let below := u.numerator / u.denominator
  let rest := u.numerator % u.denominator
  let readsBack (d : Nat) : Bool :=
    f.round (Decimal.toExact f ⟨false, d, power⟩) == f.roundMagnitude mantissa exponent
  let preferBelow : Bool :=
    2 * rest < u.denominator ∨ (2 * rest = u.denominator ∧ tie = .toEven ∧ below % 2 = 0)
  match readsBack below, readsBack (below + 1) with
  | true, true => some (if preferBelow then below else below + 1, power)
  | true, false => some (below, power)
  | false, true => some (below + 1, power)
  | false, false => none

/-- Every binary32 and binary64 word is told apart by this many digits. -/
def mostDigits : Nat := 17

/--
The fewest digits that read back to the word of a positive `mantissa * 2 ^ exponent`, as
`digits * 10 ^ power` without trailing zeros. Failing that, all digits of the exact value.
-/
def shortest (f : Format) (tie : Tie) (mantissa : Nat) (exponent : Int) : Nat × Int :=
  let found := (List.range mostDigits).findSome? fun n =>
    f.candidate? tie mantissa exponent (n + 1)
  let (digits, power) := found.getD
    (mantissa * Nat.pow 2 exponent.toNat * Nat.pow 5 (-exponent).toNat, min exponent 0)
  trimZeros digits power

end Format

end KernelLink
