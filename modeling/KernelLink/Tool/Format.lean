import KernelLink.Number.Text
import KernelLink.Shell.Arithmetic
import KernelLink.Tool.Basic

/-!
# Formatted text

Text is written with backslash escapes, and with directives that take arguments. The commands that
do this differ in which escapes they know and in how they complain; both are data here.
-/

namespace KernelLink

/-! ## Escapes -/

/-- Which escapes are known besides octal numbers and the common letters. -/
structure EscapeStyle where
  quote : Bool
  hexadecimal : Bool
  /-- Whether `c` ends all output. -/
  stops : Bool
  /-- Whether a zero may stand before an octal number. -/
  leadingZero : Bool
  /-- Whether characters have escapes by their numbers, digits may not be missing, and a backslash
  that means nothing keeps the character behind it from meaning anything. -/
  isStrict : Bool

/-- Why an escape stands for nothing. -/
inductive EscapeFault where
  | noDigits
  /-- A number that no character has, as it is written. -/
  | noCharacter (text : ByteText)
deriving DecidableEq, Repr

/-- What an escape stands for. -/
inductive Escape where
  | text (s : ByteText) (length : Nat)
  | stop
  | none
  | fault (f : EscapeFault)

/-- How a text with escapes ended. -/
inductive EscapeEnd where
  | whole
  | stopped
  | fault (f : EscapeFault)
deriving DecidableEq, Repr

def octalDigit (c : Char) : Bool := '0' ≤ c && c ≤ '7'

/-- The character that a letter behind a backslash means. -/
def escapeLetter? : Char → Option Char
  | '\\' => some '\\'
  | 'a' => some '\x07'
  | 'b' => some '\x08'
  | 'e' => some '\x1b'
  | 'f' => some '\x0c'
  | 'n' => some '\n'
  | 'r' => some '\r'
  | 't' => some '\t'
  | 'v' => some '\x0b'
  | _ => none

/-- The byte of digits in a base. -/
def byteOfDigits (base : Nat) (ds : ByteText) : Char :=
  Char.ofNat ((Shell.digitsOf base ds).1 % 256)

/-- The character of a number where only the first ones can be written; others are written as
numbers. -/
def wideText (n : Nat) : ByteText :=
  let digits (places : Nat) : ByteText :=
    let ds := (Nat.toDigits 16 n).map Char.toUpper
    List.replicate (places - ds.length) '0' ++ ds
  if n < 128 then [Char.ofNat n]
  else if n < 0x10000 then '\\' :: 'u' :: digits 4
  else '\\' :: 'U' :: digits 8

/-- The escape of a character by its number, which has so many digits. -/
def wideEscape (letter : Char) (places : Nat) (s : ByteText) : Escape :=
  let ds := (s.take places).takeWhile fun d => (Shell.digitValue? 16 d).isSome
  let n := (Shell.digitsOf 16 ds).1
  if ds.length < places then .fault .noDigits
  else if 0xd800 ≤ n ∧ n ≤ 0xdfff then
    .fault (.noCharacter ('\\' :: letter :: ds.map Char.toLower))
  else .text (wideText n) (1 + places)

/-- The escape behind a backslash. -/
def EscapeStyle.escape (style : EscapeStyle) (s : ByteText) : Escape :=
  match s with
  | [] => .none
  | c :: rest =>
    let octal (digits : ByteText) (before : Nat) : Escape :=
      let ds := (digits.take 3).takeWhile octalDigit
      .text [byteOfDigits 8 ds] (before + ds.length)
    match escapeLetter? c with
    | some d => .text [d] 1
    | none =>
      if c = 'c' ∧ style.stops then .stop
      else if c = '"' ∧ style.quote then .text ['"'] 1
      else if c = 'x' ∧ style.hexadecimal then
        let ds := (rest.take 2).takeWhile fun d => (Shell.digitValue? 16 d).isSome
        if !ds.isEmpty then .text [byteOfDigits 16 ds] (1 + ds.length)
        else if style.isStrict then .fault .noDigits
        else .none
      else if c = '0' ∧ style.leadingZero then octal rest 1
      else if octalDigit c then octal s 0
      else if !style.isStrict then .none
      else if c = 'u' then wideEscape c 4 rest
      else if c = 'U' then wideEscape c 8 rest
      else .text ['\\', c] 1

/-- Text with its escapes replaced, passing over `skip` characters first, and how it ended. -/
def EscapeStyle.replace (style : EscapeStyle) (skip : Nat) : ByteText → ByteText × EscapeEnd
  | [] => ([], .whole)
  | c :: s =>
    if skip > 0 then style.replace (skip - 1) s
    else if c = '\\' then
      match style.escape s with
      | .text front length =>
        let (later, ending) := style.replace length s
        (front ++ later, ending)
      | .stop => ([], .stopped)
      | .fault f => ([], .fault f)
      | .none =>
        let (later, ending) := style.replace 0 s
        ('\\' :: later, ending)
    else
      let (later, ending) := style.replace 0 s
      (c :: later, ending)

/-! ## Formats -/

/-- A width or a number of places. -/
inductive FormatWidth where
  | fixed (n : Nat)
  | fromArgument
deriving DecidableEq, Repr

structure Directive where
  flags : List Char
  width : Option FormatWidth
  places : Option FormatWidth
  conversion : Char
deriving DecidableEq, Repr

inductive FormatItem where
  | text (s : ByteText)
  | stop
  | fault (f : EscapeFault)
  | directive (d : Directive)
  /-- A directive that means nothing, as it is written, with its width and places where they are
  looked at before that; without a letter if the format ends. -/
  | unknown (text : ByteText) (ends : Bool) (sizes : List (Bool × Option FormatWidth))
deriving DecidableEq, Repr

/-- Why a format or an argument is not understood. -/
inductive FormatFault where
  | noNumber (s : ByteText)
  | partNumber (s : ByteText)
  | outOfRange (s : ByteText)
  | unknownDirective (s : ByteText)
  | noConversion (s : ByteText)
  | excess (s : ByteText)
  /-- There is more behind a character that is meant by its number. -/
  | behindCharacter (s : ByteText)
  | escape (f : EscapeFault)
  | badWidth (s : ByteText)
  | badPlaces (s : ByteText)
  /-- More would have to be written than can be counted. -/
  | tooMuch

/-- How a command writes formatted text. -/
structure FormatStyle where
  escapes : EscapeStyle
  /-- The escapes in arguments. -/
  argumentEscapes : EscapeStyle
  /-- Letters that may stand before a conversion and mean nothing. -/
  sizes : List Char
  /-- The precision of numbers with a point. -/
  numbers : Format
  wording : FormatFault → ByteText
  /-- The status after a format that is not understood. -/
  badFormat : Nat
  /-- Whether flags have to mean something for a conversion, and what is not used of arguments is
  mentioned. -/
  isStrict : Bool

namespace FormatStyle

/-- Reads a width. -/
def readWidth (s : ByteText) : Option FormatWidth × ByteText :=
  match s with
  | '*' :: rest => (some .fromArgument, rest)
  | s =>
    let ds := s.takeWhile (·.isDigit)
    (if ds.isEmpty then none else some (.fixed (digitsValue ds)), s.drop ds.length)

/-- Whether a conversion means something with flags, and with a number of places if one is given,
where they have to mean something. -/
def isMeaningful (flags : List Char) (hasPlaces : Bool) (conversion : Char) : Bool :=
  let isAmong (letters : String) : Bool := letters.toList.contains conversion
  isAmong "diouxXeEfFgGaAcs" &&
    !(flags.contains '#' && isAmong "cdisu") &&
    !(flags.contains '0' && isAmong "cs") &&
    !((flags.contains '\x27' || flags.contains 'I') && isAmong "aAceEosxX") &&
    !(hasPlaces && conversion = 'c')

/-- The directive behind a percent sign, and how long it is. -/
def readDirective (style : FormatStyle) (s : ByteText) : FormatItem × Nat :=
  let isFlag (c : Char) : Bool :=
    ['#', '-', '+', ' ', '0'].contains c || style.isStrict && ['\x27', 'I'].contains c
  let flags := s.takeWhile isFlag
  let (width, rest) := readWidth (s.drop flags.length)
  let (places, rest) : Option FormatWidth × ByteText := match rest with
    | '.' :: rest =>
      let (places, rest) := readWidth rest
      (some (places.getD (.fixed 0)), rest)
    | rest => (none, rest)
  let rest := rest.dropWhile style.sizes.contains
  let measures : List (Bool × Option FormatWidth) :=
    if style.isStrict then [(false, width), (true, places)] else []
  match rest with
  | [] => (.unknown ('%' :: s) true measures, s.length)
  | c :: after =>
    let length := s.length - after.length
    let isKnown : Bool := if style.isStrict then
        s.head? = some 'b' || s.head? = some 'q' || isMeaningful flags places.isSome c
      else "bcsdiouxXeEfFgGaA".toList.contains c
    if isKnown then (.directive ⟨flags, width, places, c⟩, length)
    else (.unknown ('%' :: s.take length) false measures, length)

/-- Reads a format, passing over `skip` characters first. -/
def read (style : FormatStyle) (skip : Nat) : ByteText → List FormatItem
  | [] => []
  | c :: s =>
    if skip > 0 then style.read (skip - 1) s
    else if c = '\\' then
      match style.escapes.escape s with
      | .text front length => .text front :: style.read length s
      | .stop => [.stop]
      | .fault f => [.fault f]
      | .none => .text ['\\'] :: style.read 0 s
    else if c = '%' then
      if s.head? = some '%' then .text ['%'] :: style.read 1 s
      else
        let (item, length) := style.readDirective s
        item :: style.read length s
    else .text [c] :: style.read 0 s

end FormatStyle

/-! ## Values -/

/-- What has been written, and what is left to be used. -/
structure FormatState where
  arguments : List ByteText
  output : ByteText
  /-- Complaints, the last one first. -/
  faults : List FormatFault
  /-- The status if nothing worse happens. -/
  status : Nat
  /-- Nothing more is to be written. -/
  stopped : Bool

abbrev FormatM := StateM FormatState

namespace FormatM

/-- The next argument, if there is one. -/
def argument? : FormatM (Option ByteText) := do
  let s ← get
  match s.arguments with
  | [] => pure none
  | a :: rest =>
    set { s with arguments := rest }
    pure (some a)

def put (text : ByteText) : FormatM Unit := modify fun s => { s with output := s.output ++ text }

def mention (f : FormatFault) : FormatM Unit :=
  modify fun s => { s with faults := f :: s.faults, status := if s.status = 0 then 1 else s.status }

/-- Stops without writing more. Where formats are read strictly everything is well then. -/
def stop (style : FormatStyle) : FormatM Unit :=
  modify fun s => { s with stopped := true, status := if style.isStrict then 0 else s.status }

/-- Stops because something cannot be done. -/
def fail (style : FormatStyle) (f : FormatFault) : FormatM Unit := do
  mention f
  modify fun s => { s with status := style.badFormat, stopped := true }

/-- The number at the front of a text in the range of an integer, and whether the text ends
there. -/
def integerFront (signed : Bool) (s : ByteText) : Option (Int × Bool × Bool) :=
  let body := s.dropWhile Shell.isSpace
  let (negative, body) : Bool × ByteText := match body with
    | '-' :: b => (true, b)
    | '+' :: b => (false, b)
    | b => (false, b)
  if body.head?.any (·.isDigit) then
    let (n, rest) := Shell.numeral body
    let value : Int := if negative then -n else n
    let (low, high) : Int × Int :=
      if signed then (-0x8000000000000000, 0x7fffffffffffffff)
      else (-0xffffffffffffffff, 0xffffffffffffffff)
    let kept := if value < low then (if signed then low else high)
      else if high < value then high else value
    some (if signed then kept else Int.emod kept 0x10000000000000000, rest.isEmpty, kept = value)
  else none

/-- What a text is as a number, with complaints about what is no number in it. -/
def checked {α : Type} (style : FormatStyle) (s : ByteText) (missing : α) :
    Option (α × Bool × Bool) → FormatM α
  | none => do
    mention (.noNumber s)
    pure missing
  | some (n, whole, inRange) => do
    if !inRange && (whole || style.isStrict) then mention (.outOfRange s)
    else if !whole then mention (.partNumber s)
    pure n

/-- The number of a character that is meant by it, which stands behind a quote. -/
def character? (style : FormatStyle) (s : ByteText) : FormatM (Option Nat) := do
  match s with
  | c :: rest =>
    if !(['\x27', '"'].contains c) || style.isStrict && rest.isEmpty then pure none
    else
      if style.isStrict && 1 < rest.length then
        modify fun s => { s with faults := .behindCharacter (rest.drop 1) :: s.faults }
      pure (some (rest.headD '\x00').toNat)
  | [] => pure none

/-- An argument as an integer. -/
def integer (style : FormatStyle) (signed : Bool) : FormatM Int := do
  let s := (← argument?).getD []
  if s.isEmpty then pure 0
  else match ← character? style s with
    | some n => pure n
    | none => checked style s 0 (integerFront signed s)

/-- The values that have names. -/
def namedReals (negative : Bool) : List (ByteText × Exact) :=
  [(byteText "infinity", .infinite negative), (byteText "inf", .infinite negative),
   (byteText "nan", .nan)]

/-- Digits with a point and an exponent: all digits, how many of them are behind the point, the
exponent, and what follows. -/
def pointFront (isDigit : Char → Bool) (letter : Char) (s : ByteText) :
    Option (ByteText × Nat × Int × ByteText) :=
  let whole := s.takeWhile isDigit
  let rest := s.drop whole.length
  let fraction := match rest with
    | '.' :: r => r.takeWhile isDigit
    | _ => []
  let rest := match rest with
    | '.' :: r => r.drop fraction.length
    | r => r
  let (exponent, rest) : Int × ByteText := match rest with
    | e :: r =>
      let (minus, ds) : Bool × ByteText := match r with
        | '-' :: ds => (true, ds)
        | '+' :: ds => (false, ds)
        | ds => (false, ds)
      let digits := ds.takeWhile (·.isDigit)
      if e.toLower = letter ∧ !digits.isEmpty then
        let n : Int := digitsValue digits
        (if minus then -n else n, ds.drop digits.length)
      else (0, rest)
    | [] => (0, [])
  if whole.isEmpty ∧ fraction.isEmpty then none
  else some (whole ++ fraction, fraction.length, exponent, rest)

/-- Whether numbers of a format come close enough to one that is not zero: none is too large, and
one that is too small for all its bits is itself. -/
def isInRange (f : Format) (v : Exact) (isItself : Bool) : Bool :=
  match v with
  | .finite .. =>
    let least : Exact := .finite false 1 (2 - (Nat.pow 2 (f.exponentWidth - 1) : Nat))
    isItself || least.le v.abs
  | _ => false

/-- The number with a point at the front of a text, whether the text ends there, and whether there
are such numbers. A number may have a name, and its digits may be hexadecimal with a power of two
behind them. -/
def realFront (f : Format) (s : ByteText) : Option (Exact × Bool × Bool) :=
  let body := s.dropWhile Shell.isSpace
  let (negative, body) : Bool × ByteText := match body with
    | '-' :: b => (true, b)
    | '+' :: b => (false, b)
    | b => (false, b)
  let isHexadecimal (c : Char) : Bool := (Shell.digitValue? 16 c).isSome
  let hexadecimal? := match body with
    | '0' :: x :: b => if x.toLower = 'x' then pointFront isHexadecimal 'p' b else none
    | _ => none
  let lower := body.map Char.toLower
  match (namedReals negative).find? fun (name, _) => name.isPrefixOf lower, hexadecimal? with
  | some (name, value), _ => some (value, name.length = body.length, true)
  | none, some (digits, places, exponent, rest) =>
    let exact : Exact := .finite negative (Shell.digitsOf 16 digits).1 (exponent - 4 * places)
    let v := f.decode (f.round exact)
    some (v, rest.isEmpty, isInRange f v (v.equals exact))
  | none, none =>
    (pointFront Char.isDigit 'e' body).map fun (digits, places, exponent, rest) =>
      let d : Decimal := ⟨negative, digitsValue digits, exponent - places⟩
      let v := f.decode (f.round (d.toExact f))
      (v, rest.isEmpty, isInRange f v (digits.all (· = '0')))

/-- An argument as a number with a point. -/
def real (style : FormatStyle) : FormatM Exact := do
  let s := (← argument?).getD []
  if s.isEmpty then pure .zero
  else match ← character? style s with
    | some n => pure (.ofNat n)
    | none => checked style s .zero (realFront style.numbers s)

/-- The largest width. -/
def greatestWidth : Nat := 0x7fffffff

/-- A number in the range of a width, going round where it is out of that. -/
def wrapped (n : Int) : Int :=
  let least : Nat := greatestWidth + 1
  Int.emod (n + least) (2 * least) - least

/-- A width, or a number of places, and whether it asks for the left side. -/
def width (style : FormatStyle) (isPlaces : Bool) :
    Option FormatWidth → FormatM (Option Nat × Bool)
  | none => pure (none, false)
  | some (.fixed n) => do
    if greatestWidth < n then fail style .tooMuch
    pure (some n, false)
  | some .fromArgument => do
    let word := ((← get).arguments.head?).getD []
    let n ← integer style true
    let isOutside : Bool := if n < 0 then !isPlaces && greatestWidth + 1 < n.natAbs
      else greatestWidth < n.natAbs
    if !style.isStrict then pure ((wrapped n).natAbs, wrapped n < 0)
    else
      if isOutside then fail style (if isPlaces then .badPlaces word else .badWidth word)
      pure (some n.natAbs, n < 0)

end FormatM

/-! ## Laying out -/

/-- Fills text up to a width; `zeros` go behind the sign. -/
def padText (width : Nat) (left zeros : Bool) (sign body : ByteText) : ByteText :=
  let missing := width - (sign.length + body.length)
  if left then sign ++ body ++ List.replicate missing ' '
  else if zeros then sign ++ List.replicate missing '0' ++ body
  else List.replicate missing ' ' ++ sign ++ body

/-- The sign of a number. -/
def signText (flags : List Char) (negative : Bool) : ByteText :=
  if negative then ['-']
  else if flags.contains '+' then ['+']
  else if flags.contains ' ' then [' ']
  else []

/-- The digits of an integer and what stands before them. -/
def integerParts (d : Directive) (places : Option Nat) (n : Int) : ByteText × ByteText :=
  let base := match d.conversion with
    | 'o' => 8
    | 'x' | 'X' => 16
    | _ => 10
  let digits := if n = 0 ∧ places = some 0 then [] else Nat.toDigits base n.natAbs
  let digits := if d.conversion = 'X' then digits.map Char.toUpper else digits
  let digits := List.replicate (places.getD 1 - digits.length) '0' ++ digits
  let isSigned := d.conversion = 'd' || d.conversion = 'i'
  if isSigned then (signText d.flags (n < 0), digits)
  else if !d.flags.contains '#' then ([], digits)
  else if d.conversion = 'o' then
    ([], if digits.head? = some '0' then digits else '0' :: digits)
  else if base = 16 ∧ n ≠ 0 then (['0', d.conversion], digits)
  else ([], digits)

/-- Digits with a power of ten behind them, of two digits at least. -/
def scientific (places : Nat) (v : Exact) : ByteText :=
  let text := (scientificText places v).toList
  let front := text.takeWhile (· ≠ 'e')
  let front := if places = 0 then front.filter (· ≠ '.') else front
  let power := text.drop ((text.takeWhile (· ≠ 'e')).length + 1)
  let (sign, digits) : Char × ByteText := match power with
    | '-' :: ds => ('-', ds)
    | ds => ('+', ds)
  front ++ 'e' :: sign :: List.replicate (2 - digits.length) '0' ++ digits

/-- The power of ten that a text in powers ends in. -/
def powerOf (text : ByteText) : Int :=
  match text.drop ((text.takeWhile (· ≠ 'e')).length + 1) with
  | '-' :: ds => -(digitsValue ds : Int)
  | ds => digitsValue (ds.filter (·.isDigit))

/-- Takes zeros at the end of a fraction away, and the point if nothing is left behind it. -/
def withoutZeros (text : ByteText) : ByteText :=
  let mantissa := text.takeWhile (· ≠ 'e')
  let kept := if mantissa.contains '.' then
      (mantissa.reverse.dropWhile (· = '0')).dropWhile (· = '.') |>.reverse
    else mantissa
  kept ++ text.drop mantissa.length

/-- A number with a point, without its sign. -/
def realText (conversion : Char) (places : Nat) (alternate : Bool) (v : Exact) : ByteText :=
  let text := match conversion with
    | 'f' => (fixedText places v).toList
    | 'e' => scientific places v
    | _ =>
      let digits := max places 1
      let power := powerOf (scientific (digits - 1) v)
      let full := if -4 ≤ power ∧ power < digits then
          (fixedText (digits - 1 - power).toNat v).toList
        else scientific (digits - 1) v
      if alternate then full else withoutZeros full
  if alternate ∧ !text.contains '.' then
    let front := text.takeWhile (· ≠ 'e')
    front ++ '.' :: text.drop front.length
  else text

/-- A number in hexadecimal digits with a power of two behind them, without its sign and the `0x`.
Numbers of the precision that fills a word begin with a digit of four bits, others with one bit. -/
def hexadecimalText (precision : Nat) (places : Option Nat) (alternate : Bool) (v : Exact) :
    ByteText :=
  let leading := if precision % 4 = 0 then 4 else 1
  let digits := (precision - leading) / 4
  let wanted := places.getD digits
  let (whole, power) : Nat × Int := match v with
    | .finite _ mantissa exponent =>
      if mantissa = 0 then (0, 0)
      else
        let shift := precision - (Nat.log2 mantissa + 1)
        let full := mantissa * Nat.pow 2 shift
        let unit := Nat.pow 16 (digits - wanted)
        let kept := full / unit
        let twice := 2 * (full % unit)
        let isUp : Bool := unit < twice || (twice = unit && kept % 2 = 1)
        let kept := if isUp then kept + 1 else kept
        let power := exponent - shift + (precision - leading : Nat)
        let shown := min wanted digits
        if Nat.pow 16 (shown + 1) ≤ kept then (Nat.pow 16 shown, power + 4) else (kept, power)
    | _ => (0, 0)
  let shown := min wanted digits
  let text := Nat.toDigits 16 whole
  let text := List.replicate (shown + 1 - text.length) '0' ++ text
  let fraction := text.drop (text.length - shown)
  let fraction := match places with
    | some n => fraction ++ List.replicate (n - shown) '0'
    | none => (fraction.reverse.dropWhile (· = '0')).reverse
  let point : ByteText := if fraction.isEmpty && !alternate then [] else ['.']
  let sign := if power < 0 then '-' else '+'
  text.take (text.length - shown) ++ point ++ fraction ++ 'p' :: sign :: decimalText power.natAbs

/-- Whether a number is below zero, or the zero that counts as that. -/
def isNegative : Exact → Bool
  | .nan => false
  | .infinite s => s
  | .finite s _ _ => s

/-- Writes what a directive stands for, in a width and with a number of places. -/
def Directive.putWithin (style : FormatStyle) (d : Directive) (width : Nat) (left : Bool)
    (places : Option Nat) : FormatM Unit := do
  let cut (s : ByteText) : ByteText := match places with
    | some n => s.take n
    | none => s
  match d.conversion with
  | 's' => do
    let s := (← FormatM.argument?).getD []
    FormatM.put (padText width left false [] (cut s))
  | 'q' => do
    let s := ((← FormatM.argument?).map shellWord).getD []
    FormatM.put (padText width left false [] (cut s))
  | 'b' => do
    let (s, ending) := style.argumentEscapes.replace 0 ((← FormatM.argument?).getD [])
    FormatM.put (padText width left false [] (cut s))
    match ending with
    | .whole => pure ()
    | .stopped => FormatM.stop style
    | .fault f => FormatM.fail style (.escape f)
  | 'c' => do
    let s := (← FormatM.argument?).getD []
    FormatM.put (padText width left false [] [s.headD '\x00'])
  | 'd' | 'i' | 'o' | 'u' | 'x' | 'X' => do
    let n ← FormatM.integer style (d.conversion = 'd' || d.conversion = 'i')
    let (sign, digits) := integerParts d places n
    FormatM.put (padText width left (d.flags.contains '0' && places.isNone) sign digits)
  | c => do
    let v ← FormatM.real style
    let nameOf? : Option ByteText := match v with
      | .nan => some (byteText "nan")
      | .infinite _ => some (byteText "inf")
      | .finite .. => none
    let alternate := d.flags.contains '#'
    let isHexadecimal : Bool := c.toLower = 'a' && nameOf?.isNone
    let text := nameOf?.getD
      (if isHexadecimal then hexadecimalText style.numbers.precision places alternate v.abs
        else realText c.toLower (places.getD 6) alternate v.abs)
    let sign := signText d.flags (isNegative v) ++ if isHexadecimal then ['0', 'x'] else []
    let raise (s : ByteText) : ByteText := if c.isUpper then s.map Char.toUpper else s
    let zeros := d.flags.contains '0' && nameOf?.isNone
    FormatM.put (padText width left zeros (raise sign) (raise text))

/-- Writes what a directive stands for. -/
def Directive.put (style : FormatStyle) (d : Directive) : FormatM Unit := do
  let (width, toLeft) ← FormatM.width style false d.width
  if (← get).stopped then return
  let (places, dropsPlaces) ← FormatM.width style true d.places
  if (← get).stopped then return
  d.putWithin style (width.getD 0) (toLeft || d.flags.contains '-')
    (if dropsPlaces then none else places)

/-- Writes items until one of them stops everything. -/
def putItems (style : FormatStyle) : List FormatItem → FormatM Unit
  | [] => pure ()
  | item :: rest => do
    match item with
    | .text s => FormatM.put s
    | .stop => FormatM.stop style
    | .fault f => FormatM.fail style (.escape f)
    | .directive d => d.put style
    | .unknown text ends sizes => do
      for (isPlaces, size) in sizes do
        if !(← get).stopped then discard (FormatM.width style isPlaces size)
      if !(← get).stopped then
        FormatM.fail style (if ends then .noConversion text else .unknownDirective text)
    if !(← get).stopped then putItems style rest

/-- Repeats a format as long as it takes arguments and some are left. -/
def putRounds (style : FormatStyle) (items : List FormatItem) : (most : Nat) → FormatM Unit
  | 0 => pure ()
  | most + 1 => do
    let before := (← get).arguments.length
    putItems style items
    let s ← get
    if s.stopped ∨ s.arguments.isEmpty then pure ()
    else if s.arguments.length = before then
      if style.isStrict then
        modify fun s => { s with faults := .excess (s.arguments.headD []) :: s.faults }
    else putRounds style items most

/-- Text as a format and arguments ask for it: the text, what is complained about, and the
status. -/
def formatted (style : FormatStyle) (format : ByteText) (arguments : List ByteText) :
    ByteText × List ByteText × Nat :=
  let start : FormatState := ⟨arguments, [], [], 0, false⟩
  let (_, s) := (putRounds style (style.read 0 format) (arguments.length + 1)).run start
  (s.output, s.faults.reverse.map style.wording, s.status)

end KernelLink
