import KernelLink.Tool.Lines

/-!
# Sequences

Numbers from one to another in equal steps. They are counted in units of the last decimal place that
any of them has, so that no step is ever rounded.
-/

namespace KernelLink

/-- A number as it is written: its digits as a whole, how many of them are behind the point, and
how much room it takes. -/
structure SequenceNumber where
  digits : Int
  places : Nat
  width : Int
  /-- Whether it is the zero with a sign. -/
  isSignedZero : Bool

/-- Reads an operand of a sequence. An exponent moves the point; a whole number may be written in
hexadecimal digits. -/
def sequenceNumber? (s : ByteText) : Option SequenceNumber :=
  let s := s.dropWhile fun c => Shell.isSpace c || c = '+'
  let (negative, body) : Bool × ByteText := match s with
    | '-' :: body => (true, body)
    | body => (false, body)
  if ["inf", "infinity"].contains (String.ofList (body.map Char.toLower)) then
    some ⟨if negative then -(farAway : Int) else farAway, 0, 0, false⟩
  else match hexadecimal? body with
    | some n => some ⟨if negative then -(n : Int) else n, 0, 0, negative && n = 0⟩
    | none => decimal? negative s.length body
where
  /-- A number that no sequence gets to. -/
  farAway : Nat := Nat.pow 10 40
  /-- A whole number in hexadecimal digits. -/
  hexadecimal? (body : ByteText) : Option Nat :=
    match body with
    | '0' :: x :: d :: rest =>
      let (n, after) := Shell.digitsOf 16 (d :: rest)
      if x.toLower = 'x' ∧ (Shell.digitValue? 16 d).isSome ∧ after.isEmpty then some n else none
    | _ => none
  /-- A number in decimal digits, which is so long with its sign. -/
  decimal? (negative : Bool) (length : Nat) (body : ByteText) : Option SequenceNumber :=
    let whole := body.takeWhile (·.isDigit)
    let (fraction, rest) : ByteText × ByteText := match body.drop whole.length with
      | '.' :: rest => (rest.takeWhile (·.isDigit), rest.dropWhile (·.isDigit))
      | rest => ([], rest)
    let exponent? : Option Int := match rest with
      | [] => some 0
      | 'e' :: '-' :: ds | 'E' :: '-' :: ds =>
        if !ds.isEmpty && ds.all (·.isDigit) then some (-(digitsValue ds : Int)) else none
      | 'e' :: ds | 'E' :: ds =>
        let ds := if ds.head? = some '+' then ds.drop 1 else ds
        if !ds.isEmpty && ds.all (·.isDigit) then some (digitsValue ds) else none
      | _ => none
    if whole.isEmpty ∧ fraction.isEmpty ∨ exponent?.any fun n => 4000 < n.natAbs then none
    else exponent?.map fun (exponent : Int) =>
      let n : Int := digitsValue (whole ++ fraction)
      let n := if negative then -n else n
      let places : Int := fraction.length - exponent
      let hasPoint : Bool := (body.drop whole.length).head? = some '.'
      let kept : Nat := (fraction.length - exponent).toNat
      let written : Int := length - rest.length
      let pointWidth : Int := if !hasPoint then 0 else if fraction.isEmpty then -1
        else if whole.isEmpty then 1 else 0
      let movedWidth : Int := if rest.isEmpty then 0
        else if exponent < 0 then
          exponent.natAbs + if hasPoint ∧ !fraction.isEmpty then 0 else 1
        else (exponent - min (fraction.length : Int) exponent) -
          if hasPoint ∧ kept = 0 ∧ !fraction.isEmpty then 1 else 0
      let scaled := if places < 0 then n * Nat.pow 10 places.natAbs else n
      ⟨scaled, kept, written + pointWidth + movedWidth, negative && n = 0⟩

/-- The digits of a number with so many places behind the point. -/
def SequenceNumber.scaled (n : SequenceNumber) (places : Nat) : Int :=
  n.digits * Nat.pow 10 (places - n.places)

/-- The room that a number takes with so many places behind the point. -/
def SequenceNumber.room (n : SequenceNumber) (places : Nat) : Nat :=
  let point : Int := if n.places = 0 ∧ 0 < places then 1
    else if 0 < n.places ∧ places = 0 then -1
    else 0
  (n.width + places - n.places + point).toNat

/-- A number whose last digits stand behind a point. -/
def pointText (places : Nat) (n : Int) : ByteText :=
  let digits := decimalText n.natAbs
  let digits := List.replicate (places + 1 - digits.length) '0' ++ digits
  let front := digits.length - places
  (if n < 0 then ['-'] else []) ++ digits.take front ++
    if places = 0 then [] else '.' :: digits.drop front

/-- The numbers from one to another, at most so many. -/
def countUp (step last : Int) : (most : Nat) → Int → List Int
  | 0, _ => []
  | most + 1, n =>
    if (0 < step ∧ last < n) ∨ (step < 0 ∧ n < last) then []
    else n :: countUp step last most (n + step)

/-- How many numbers of a sequence are written. What is too long to be read to its end is written as
far as it takes to fill what is between two programs. -/
def writtenCount (count : Nat) : Nat := if 10000000 < count then 20000 else count

def sequenceTable : OptionTable where
  flags := [('w', "equal-width")]
  valued := [('s', "separator"), ('f', "format")]

/-- Why a format cannot be used for the numbers of a sequence. -/
def sequenceFormatFault? (format : ByteText) : Option (List ByteText) :=
  let parts := splitAtEach '%' (removePairs format)
  let quoted := byteText "format " ++ wordQuoted format
  match parts with
  | [_, part] =>
    let rest := part.dropWhile fun c => "-+#0 \x27".toList.contains c || c.isDigit || c = '.'
    match rest with
    | [] => some [quoted, byteText " ends in %"]
    | c :: _ =>
      if "efgaEFGA".toList.contains c then none
      else some [quoted, byteText " has unknown %", [c], byteText " directive"]
  | [_] => some [quoted, byteText " has no % directive"]
  | _ => some [quoted, byteText " has too many % directives"]
where
  /-- A format without the percent signs that stand for themselves. -/
  removePairs : ByteText → ByteText
    | '%' :: '%' :: s => removePairs s
    | c :: s => c :: removePairs s
    | [] => []

/-- Options and operands of a sequence; a number below zero is no option. -/
def sequenceArguments (args : List ByteText) : List ByteText × List ByteText :=
  match args with
  | [] => ([], [])
  | arg :: rest =>
    let isNegative : Bool := match arg with
      | '-' :: c :: _ => c.isDigit || c = '.'
      | _ => false
    if arg = ['-', '-'] then ([], rest)
    else if isNegative || arg.head? ≠ some '-' then ([], arg :: rest)
    else
      match arg, rest with
      | ['-', 's'], value :: rest | ['-', 'f'], value :: rest =>
        let (options, operands) := sequenceArguments rest
        (arg :: value :: options, operands)
      | _, rest =>
        let (options, operands) := sequenceArguments rest
        (arg :: options, operands)

def sequenceTool : Tool := fun call t =>
  let (options, operands) := sequenceArguments call.args
  withArguments sequenceTable 1 { call with args := options } t fun a =>
    let separator := (a.value? 's').getD ['\n']
    let formatFault? := (a.value? 'f').bind sequenceFormatFault?
    if operands.isEmpty then (call.usage [byteText "missing operand"], t)
    else if operands.length > 3 then
      (call.usage [byteText "extra operand ", wordQuoted (operands.getD 3 [])], t)
    else if let some reason := formatFault? then (call.complain reason, t)
    else if a.has 'w' ∧ (a.value? 'f').isSome then
      (call.usage [byteText
        "format string may not be specified when printing equal width strings"], t)
    else match operands.find? fun s => (sequenceNumber? s).isNone with
    | some s =>
      let what := if s.map Char.toLower = byteText "nan" then "\x27not-a-number\x27 argument: "
        else "floating point argument: "
      (call.usage [byteText ("invalid " ++ what), wordQuoted s], t)
    | none =>
      let write (first step last : SequenceNumber) (shown : ByteText) : Reply × FileTree :=
        let places := max first.places step.places
        let finest := max places last.places
        let stride := step.scaled finest
        if stride = 0 then
          (call.usage [byteText "invalid Zero increment value: ", wordQuoted shown], t)
        else
          let start := first.scaled finest
          let stop := last.scaled finest
          let all := countUp stride stop
            (writtenCount ((stop - start).natAbs / stride.natAbs + 1)) start
          let width := max (first.room places) (last.room places)
          let line (n : Int) (number : Nat) : ByteText :=
            let isSigned := number = 0 && first.isSignedZero
            let n := n / Nat.pow 10 (finest - places)
            match a.value? 'f' with
            | some format =>
              let text := pointText places n
              let text := if isSigned then '-' :: text else text
              (formatted plainFormat (format.flatMap literally) [text]).1
            | none =>
              let text := pointText places n.natAbs
              let sign : ByteText := if n < 0 || isSigned then ['-'] else []
              if a.has 'w' then padText width false true sign text else sign ++ text
          (if all.isEmpty then .quiet
           else .said (separator.intercalate (all.mapIdx fun number n => line n number) ++
            ['\n']), t)
      let one : SequenceNumber := ⟨1, 0, 1, false⟩
      match operands.filterMap sequenceNumber? with
      | [last] => write one one last []
      | [first, last] => write first one last []
      | [first, step, last] => write first step last (operands.getD 1 [])
      | _ => (.quiet, t)
where
  /-- A character that is no beginning of an escape. -/
  literally (c : Char) : ByteText := if c = '\\' then [c, c] else [c]
  /-- Formats of which only one directive is used. -/
  plainFormat : FormatStyle :=
    { escapes := ⟨false, false, false, false, false⟩
      argumentEscapes := ⟨false, false, false, false, false⟩
      sizes := ['L']
      numbers := ⟨64, 15⟩
      wording := fun _ => []
      badFormat := 1
      isStrict := true }

end KernelLink
