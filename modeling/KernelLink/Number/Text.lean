import KernelLink.Number.Numeral

/-!
# Numbers in kernel text and in reports

Words are written in one of three ways: the fewest digits that read back (literals and plain
constants), a set number of places (samples) or a set number of significant digits (errors).
Constants are read back by `readConstant?`, which accepts more than is ever written.
-/

namespace KernelLink

/-- The text of what is not a finite number. -/
def nonFiniteText : Exact → String
  | .infinite s => if s then "-inf" else "inf"
  | _ => "NaN"

/-- The shortest text of a word. -/
def FloatStyle.text (style : FloatStyle) (f : Format) : Exact → String
  | .finite s m e => (style.numeral f s m e).text ""
  | v => nonFiniteText v

/-- A set number of places; a tie goes to the even last digit. -/
def fixedText (places : Nat) : Exact → String
  | .finite s m e =>
    let r := (Ratio.ofDyadic m e).inUnits (-places)
    let digits := Format.divideToEven r.numerator r.denominator
    (FloatStyle.plain.layPositional s digits (-places)).text ""
  | v => nonFiniteText v

/-- One digit, a set number of places and an exponent; a tie goes to the even last digit. -/
def scientificText (places : Nat) : Exact → String
  | .finite s m e =>
    let lay (digits : Nat) (leading : Int) : String :=
      let ds := List.replicate (places + 1 - digitCount digits) '0' ++
        (decimalDigits digits).take (places + 1)
      (Numeral.mk s (ds.take 1) (some ((ds.drop 1).take places)) (some leading)).text ""
    if m = 0 then lay 0 0
    else
      let r := Ratio.ofDyadic m e
      let leading := r.leadingPower
      let u := r.inUnits (leading - places)
      let digits := Format.divideToEven u.numerator u.denominator
      if digits = Nat.pow 10 (places + 1) then lay (Nat.pow 10 places) (leading + 1)
      else lay digits leading
  | v => nonFiniteText v

namespace Single

/-- The literal text, without a type suffix. -/
def literalText (x : Single) : String := FloatStyle.literal.text .binary32 x.exact

/-- The text of a plain constant, never with an exponent. -/
def plainText (x : Single) : String := FloatStyle.plain.text .binary32 x.exact

/-- The numeral in saved JSON; infinities and NaN have none. -/
def jsonNumeral? (x : Single) : Option Numeral :=
  match x.exact with
  | .finite s m e => some (FloatStyle.json.numeral .binary32 s m e)
  | _ => none

/-- Six places, as samples are shown. -/
def fixedText (x : Single) : String := KernelLink.fixedText 6 x.exact

/-- Five significant digits, as errors are shown. -/
def scientificText (x : Single) : String := KernelLink.scientificText 4 x.exact

end Single

namespace Double

def literalText (x : Double) : String := FloatStyle.literal.text .binary64 x.exact

def plainText (x : Double) : String := FloatStyle.plain.text .binary64 x.exact

/-- The numeral in JSON; infinities and NaN have none. -/
def jsonNumeral? (x : Double) : Option Numeral :=
  match x.exact with
  | .finite s m e => some (FloatStyle.jsonDouble.numeral .binary64 s m e)
  | _ => none

end Double

/-! ## Reading constants -/

/-- The digits at the front of a text, and the rest. -/
def spanDigits (cs : List Char) : List Char × List Char := cs.span Char.isDigit

/-- An optional sign; `true` is minus. -/
def spanSign : List Char → Bool × List Char
  | '-' :: cs => (true, cs)
  | '+' :: cs => (false, cs)
  | cs => (false, cs)

/-- The exponent part of a text, when there is one; `none` when it has no digits. -/
def readExponent? : List Char → Option (Option Int × List Char)
  | [] => some (none, [])
  | c :: cs =>
    if c = 'e' ∨ c = 'E' then
      let (negative, rest) := spanSign cs
      let (ds, rest) := spanDigits rest
      if ds.isEmpty then none
      else
        let e : Int := digitsValue ds
        some (some (if negative then -e else e), rest)
    else some (none, c :: cs)

/-- Digits with an optional point among or beside them, and an optional exponent, to the end of the
text. -/
def readUnsigned? (negative : Bool) (cs : List Char) : Option Numeral :=
  let (whole, rest) := spanDigits cs
  let (fraction, rest) := match rest with
    | '.' :: rest => (some (spanDigits rest).1, (spanDigits rest).2)
    | rest => (none, rest)
  if whole.isEmpty && (fraction.getD []).isEmpty then none
  else match readExponent? rest with
    | some (exponent, []) => some ⟨negative, whole, fraction, exponent⟩
    | _ => none

def lowerAscii (s : List Char) : List Char := s.map Char.toLower

/--
Reads a constant: an optional sign, then `inf`, `infinity` or `nan` in any case, or a decimal. No
blank is allowed anywhere.
-/
def readConstant? (text : String) : Option Double :=
  let (negative, rest) := spanSign text.toList
  let word := lowerAscii rest
  if word = "inf".toList ∨ word = "infinity".toList then some (.ofExact (.infinite negative))
  else if word = "nan".toList then some (.ofExact .nan)
  else (readUnsigned? negative rest).map fun n => n.decimal.toDouble

end KernelLink
