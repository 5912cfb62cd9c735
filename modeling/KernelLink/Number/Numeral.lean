import KernelLink.Number.Decimal

/-!
# Numbers as written

A `Numeral` is a number the way it stands in a text: digits before the point, digits after it if
there is a point, and an exponent if one is given. Printers lay digits out as numerals and readers
take numerals apart, so both sides agree on one form.

Layout is data: a `FloatStyle` says where positional writing ends, whether a whole number keeps a
fraction, and which way ties go.
-/

namespace KernelLink

structure Numeral where
  negative : Bool
  whole : List Char
  fraction : Option (List Char)
  exponent : Option Int
deriving DecidableEq, Repr, Inhabited

/-- The digits of `n`, most significant first. -/
def decimalDigits (n : Nat) : List Char := Nat.toDigits 10 n

/-- The value of a run of ASCII digits. -/
def digitsValue (ds : List Char) : Nat :=
  ds.foldl (fun n c => 10 * n + (c.toNat - '0'.toNat)) 0

namespace Numeral

def ofNat (n : Nat) : Numeral := ⟨false, decimalDigits n, none, none⟩

/-- The text of a numeral; `plus` is written before a nonnegative exponent. -/
def text (n : Numeral) (plus : String) : String :=
  let sign := if n.negative then "-" else ""
  let fraction := match n.fraction with
    | some ds => "." ++ String.ofList ds
    | none => ""
  let exponent := match n.exponent with
    | some e => "e" ++ (if e < 0 then "-" else plus) ++ toString e.natAbs
    | none => ""
  sign ++ String.ofList n.whole ++ fraction ++ exponent

/-- The exact value. -/
def decimal (n : Numeral) : Decimal :=
  let fraction := n.fraction.getD []
  ⟨n.negative, digitsValue (n.whole ++ fraction), n.exponent.getD 0 - fraction.length⟩

end Numeral

/-- The layout decisions of a shortest-digits float text. -/
structure FloatStyle where
  tie : Tie
  /-- Powers of the leading digit that are written without an exponent; `none` is all of them. -/
  positional : Option (Int × Int)
  /-- Whether a whole number without an exponent is followed by `.0`. -/
  pointZero : Bool

namespace FloatStyle

/-- The style of literals and of sample inputs: `2.0`, `1e-5`, `1e16`. -/
def literal : FloatStyle := ⟨.up, some (-4, 15), true⟩

/-- The style of plain constants: `2`, `0.00001`, never an exponent. -/
def plain : FloatStyle := ⟨.up, none, false⟩

/-- The style of single precision numbers in saved JSON. -/
def json : FloatStyle := ⟨.toEven, some (-6, 12), true⟩

/-- The style of double precision numbers in JSON. -/
def jsonDouble : FloatStyle := ⟨.toEven, some (-5, 15), true⟩

/-- `digits * 10 ^ power` without an exponent. -/
def layPositional (style : FloatStyle) (negative : Bool) (digits : Nat) (power : Int) : Numeral :=
  let ds := decimalDigits digits
  if power ≥ 0 then
    ⟨negative, ds ++ List.replicate power.toNat '0', if style.pointZero then some ['0'] else none,
     none⟩
  else
    let places := (-power).toNat
    let padded := List.replicate (places + 1 - ds.length) '0' ++ ds
    ⟨negative, padded.take (padded.length - places), some (padded.drop (padded.length - places)),
     none⟩

/-- `digits * 10 ^ power` with one digit before the point. -/
def layExponent (negative : Bool) (digits : Nat) (power : Int) : Numeral :=
  let ds := decimalDigits digits
  ⟨negative, ds.take 1, if ds.length > 1 then some (ds.drop 1) else none,
   some (power + (ds.length - 1 : Nat))⟩

/-- Positional within the style's range, else with an exponent. -/
def lay (style : FloatStyle) (negative : Bool) (digits : Nat) (power : Int) : Numeral :=
  let leading := power + (digitCount digits - 1 : Nat)
  match style.positional with
  | none => style.layPositional negative digits power
  | some (low, high) =>
    if low ≤ leading ∧ leading ≤ high then style.layPositional negative digits power
    else layExponent negative digits power

/-- The fewest digits of `± mantissa * 2 ^ exponent` in a format, laid out. -/
def numeral (style : FloatStyle) (f : Format) (negative : Bool) (mantissa : Nat) (exponent : Int) :
    Numeral :=
  if mantissa = 0 then style.layPositional negative 0 0
  else
    let (digits, power) := f.shortest style.tie mantissa exponent
    style.lay negative digits power

end FloatStyle

end KernelLink
