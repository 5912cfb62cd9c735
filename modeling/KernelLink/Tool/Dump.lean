import KernelLink.Tool.Lines
import KernelLink.Tool.Operands

/-!
# Files as numbers

A listing of the bytes of files: so many on a line, as numbers of some size or as characters, with
the place of the first one in front. Bytes that are missing at the end count as zeros. Each line is
written once for each way in which its bytes are shown.
-/

namespace KernelLink

/-- What bytes are shown as. -/
inductive DumpKind where
  | octal
  | hexadecimal
  | unsigned
  | signed
  | real
  | char
  | name
deriving DecidableEq, Repr

/-- Units of so many bytes that are shown as one thing. -/
structure DumpStyle where
  kind : DumpKind
  size : Nat
  /-- Whether the characters of a line stand behind it. -/
  hasText : Bool

namespace DumpStyle

/-- How many characters a unit takes. -/
def width (s : DumpStyle) : Nat :=
  let values := Nat.pow 256 s.size
  match s.kind with
  | .octal => (Nat.toDigits 8 (values - 1)).length
  | .hexadecimal => 2 * s.size
  | .unsigned => (decimalText (values - 1)).length
  | .signed => (decimalText (values / 2)).length + 1
  | .real => if s.size = 4 then 15 else 24
  | .char | .name => 3

/-- A byte as a character, or as the escape that stands for it. -/
def charText (c : Char) : ByteText :=
  match c with
  | '\x00' => ['\\', '0']
  | '\x07' => ['\\', 'a']
  | '\x08' => ['\\', 'b']
  | '\t' => ['\\', 't']
  | '\n' => ['\\', 'n']
  | '\x0b' => ['\\', 'v']
  | '\x0c' => ['\\', 'f']
  | '\r' => ['\\', 'r']
  | c =>
    if isPlainChar c then [c]
    else padText 3 false true [] (Nat.toDigits 8 c.toNat)

/-- The names of the characters that are not visible. -/
def controlNames : List String :=
  ["nul", "soh", "stx", "etx", "eot", "enq", "ack", "bel", "bs", "ht", "nl", "vt", "ff", "cr", "so",
   "si", "dle", "dc1", "dc2", "dc3", "dc4", "nak", "syn", "etb", "can", "em", "sub", "esc", "fs",
   "gs", "rs", "us", "sp"]

/-- A byte by its name, of which the highest bit is no part. -/
def nameText (c : Char) : ByteText :=
  let n := c.toNat % 128
  if n = 127 then byteText "del"
  else match controlNames[n]? with
    | some name => byteText name
    | none => [Char.ofNat n]

/-- Whether a number with so many digits reads back as the same word. -/
def readsBack (f : Format) (v : Exact) (digits : Nat) : Bool :=
  match readUnsigned? false (scientificText (digits - 1) v).toList with
  | some n => f.round (n.decimal.toExact f) = f.round v
  | none => false

/-- A word as the shortest number that reads back, but never of fewer digits than any number of the
format keeps, unless it is close to zero. -/
def realUnit (f : Format) (bits : Nat) : ByteText :=
  let least := if f = .binary32 then 6 else 15
  let most := if f = .binary32 then 9 else 17
  let v := f.decode bits
  let sign : ByteText := if bits / f.signBit % 2 = 1 then ['-'] else []
  match v with
  | .nan => sign ++ byteText "nan"
  | .infinite _ => sign ++ byteText "inf"
  | .finite .. =>
    let isNormal : Bool := Nat.pow 2 f.fractionWidth ≤ bits % f.signBit
    let start := if isNormal ∨ bits % f.signBit = 0 then least else 1
    let digits := ((List.range (most + 1 - start)).map (· + start)).find? (readsBack f v.abs)
    sign ++ realText 'g' (digits.getD most) false v.abs

/-- A unit as it is shown. The first of its bytes is the lowest one, unless `isBig`. -/
def unitText (s : DumpStyle) (isBig : Bool) (bytes : ByteText) : ByteText :=
  let bytes := bytes ++ List.replicate (s.size - bytes.length) '\x00'
  let n := (if isBig then bytes.reverse else bytes).foldr (fun c n => 256 * n + c.toNat) 0
  let half := Nat.pow 256 s.size / 2
  match s.kind with
  | .octal => padText s.width false true [] (Nat.toDigits 8 n)
  | .hexadecimal => padText s.width false true [] (Nat.toDigits 16 n)
  | .unsigned => decimalText n
  | .signed => signedText (if n < half then n else (n : Int) - 2 * half)
  | .real => realUnit (if s.size = 4 then .binary32 else .binary64) n
  | .char => charText (bytes.headD '\x00')
  | .name => nameText (bytes.headD '\x00')

/-- How many units a line has. -/
def unitCount (s : DumpStyle) (lineSize : Nat) : Nat := lineSize / max s.size 1

/-- The place at which a unit begins in what is left over of a line, which is shared out evenly. -/
def paddingBefore (s : DumpStyle) (lineSize padding n : Nat) : Nat :=
  padding * (s.unitCount lineSize - n) / max (s.unitCount lineSize) 1

/-- The units of a line, each in its column; `padding` is what the line is wider than its units. -/
def unitsText (s : DumpStyle) (isBig : Bool) (lineSize padding : Nat) : (most : Nat) →
    (n : Nat) → ByteText → ByteText
  | 0, _, _ | _, _, [] => []
  | most + 1, n, bytes =>
    let extra := s.paddingBefore lineSize padding n - s.paddingBefore lineSize padding (n + 1)
    padText (s.width + extra) false false [] (s.unitText isBig (bytes.take s.size)) ++
      s.unitsText isBig lineSize padding most (n + 1) (bytes.drop s.size)

end DumpStyle

/-! ## Lines -/

/-- How a listing is laid out. -/
structure DumpManner where
  styles : List DumpStyle
  radix : Char
  /-- How many bytes a line shows. -/
  width : Nat
  /-- Whether lines that repeat are shown. -/
  showsAll : Bool
  isBig : Bool

/-- A place in the way that was asked for. -/
def addressText (radix : Char) (n : Nat) : ByteText :=
  match radix with
  | 'n' => []
  | 'd' => padText 7 false true [] (decimalText n)
  | 'x' => padText 6 false true [] (Nat.toDigits 16 n)
  | _ => padText 7 false true [] (Nat.toDigits 8 n)

namespace DumpManner

/-- How many characters the units of a line take. -/
def lineWidth (m : DumpManner) : Nat :=
  m.styles.foldl (fun n s => max n ((s.width + 1) * s.unitCount m.width)) 0

/-- Some bytes in one style. -/
def row (m : DumpManner) (s : DumpStyle) (bytes : ByteText) : ByteText :=
  let count := s.unitCount m.width
  let padding := m.lineWidth - s.width * count
  let units := s.unitsText m.isBig m.width padding bytes.length 0 bytes
  if !s.hasText then units
  else
    let blank := (m.width - bytes.length) / max s.size 1
    units ++ List.replicate (blank * s.width + padding * blank / max count 1) ' ' ++
      byteText "  >" ++ bytes.map (fun c => if isPlainChar c then c else '.') ++ ['<']

/-- Lists bytes from a place on. A line like the one before it is left out, with a star for all
of those that follow each other. -/
def lines (m : DumpManner) (place : Nat) (before : Option ByteText) (starred : Bool) :
    (most : Nat) → ByteText → ByteText
  | 0, _ => []
  | _, [] =>
    let address := addressText m.radix place
    if address.isEmpty then [] else address ++ ['\n']
  | most + 1, text =>
    let block := text.take m.width
    let rest := text.drop m.width
    let next := place + block.length
    if !m.showsAll && before = some block && block.length = m.width then
      (if starred then [] else ['*', '\n']) ++ m.lines next before true most rest
    else
      let address := addressText m.radix place
      let margin := List.replicate address.length ' '
      let rows := m.styles.zipIdx.flatMap fun (s, n) =>
        (if n = 0 then address else margin) ++ m.row s block ++ ['\n']
      rows ++ m.lines next (some block) false most rest

end DumpManner

/-- Lists the texts of at least so many visible characters that end in a zero, each behind its
place; `run` is what has been read of one, backwards. -/
def dumpStrings (radix : Char) (least place : Nat) (run : ByteText) : ByteText → ByteText
  | [] => []
  | c :: rest =>
    if isPlainChar c then dumpStrings radix least (place + 1) (c :: run) rest
    else if c = '\x00' ∧ least ≤ run.length then
      let address := addressText radix (place - run.length)
      (if address.isEmpty then [] else address ++ [' ']) ++ run.reverse ++
        '\n' :: dumpStrings radix least (place + 1) [] rest
    else dumpStrings radix least (place + 1) [] rest

/-! ## Options -/

/-- Why the words of options say nothing. -/
inductive DumpFault where
  | badChar (c : Char) (s : ByteText)
  | badSize (isReal : Bool) (size : Nat) (s : ByteText)
  | badRadix (s : ByteText)
  | badNumber (option : String) (f : SizeFault) (isSuffix : Bool) (s : ByteText)
  | badEndian (f : ChoiceFault) (s : ByteText)

/-- The bytes of a unit that a letter or digits name. -/
def unitSize (letters : List (Char × Nat)) (standard : Nat) (s : ByteText) : Nat × ByteText :=
  match s.head?.bind fun c => letters.find? (·.1 = c) with
  | some (_, size) => (size, s.drop 1)
  | none =>
    let digits := s.takeWhile (·.isDigit)
    (if digits.isEmpty then standard else (Shell.digitsOf 10 digits).1, s.drop digits.length)

/-- Reads at most so many styles of a text, of which `s` is left. -/
def dumpStyles (whole : ByteText) : (most : Nat) → (s : ByteText) →
    Except DumpFault (List DumpStyle)
  | 0, _ | _, [] => .ok []
  | most + 1, c :: s => do
    let isReal := c = 'f'
    let kind? : Option DumpKind := match c with
      | 'o' => some .octal
      | 'x' => some .hexadecimal
      | 'u' => some .unsigned
      | 'd' => some .signed
      | 'f' => some .real
      | 'c' => some .char
      | 'a' => some .name
      | _ => none
    match kind? with
    | none => throw (.badChar c whole)
    | some kind =>
      let letters := if isReal then [('F', 4), ('D', 8), ('L', 16)]
        else [('C', 1), ('S', 2), ('I', 4), ('L', 8)]
      let (size, rest) : Nat × ByteText := match kind with
        | .char | .name => (1, s)
        | .real => unitSize letters 8 s
        | _ => unitSize letters 4 s
      let sizes := if isReal then [4, 8] else [1, 2, 4, 8]
      if !sizes.contains size then throw (.badSize isReal size whole)
      else
        let hasText : Bool := rest.head? = some 'z'
        let rest := if hasText then rest.drop 1 else rest
        pure (⟨kind, size, hasText⟩ :: (← dumpStyles whole most rest))

/-- The styles that options without a value stand for. -/
def letterStyle? : Char → Option (DumpKind × Nat)
  | 'a' => some (.name, 1)
  | 'b' => some (.octal, 1)
  | 'c' => some (.char, 1)
  | 'D' => some (.unsigned, 4)
  | 'd' => some (.unsigned, 2)
  | 'e' | 'F' => some (.real, 8)
  | 'f' => some (.real, 4)
  | 'H' | 'X' => some (.hexadecimal, 4)
  | 'h' | 'x' => some (.hexadecimal, 2)
  | 'I' | 'L' | 'l' => some (.signed, 8)
  | 'i' => some (.signed, 4)
  | 'O' => some (.octal, 4)
  | 'B' | 'o' => some (.octal, 2)
  | 's' => some (.signed, 2)
  | _ => none

def dumpTable : OptionTable where
  flags := ("abcDdeFfHXhxILliOBos".toList.map fun c => (c, "")) ++
    [('v', "output-duplicates"), ('\x01', "traditional")]
  valued :=
    [('A', "address-radix"), ('j', "skip-bytes"), ('N', "read-bytes"), ('t', "format"), ('S', ""),
     ('\x02', "endian"), ('w', "")]
  optional := [('\x03', "strings"), ('\x04', "width")]

/-- Puts the number behind options that may go without one. -/
def withDumpNumbers (args : List ByteText) : List ByteText :=
  args.map fun arg => if arg = ['-', 'w'] then byteText "--width" else arg

/-- A number with a base of its own. -/
def dumpNumber (letters : String) (s : ByteText) : Except (SizeFault × Bool) Nat :=
  let (base, digits) : Nat × ByteText := match s with
    | '0' :: 'x' :: rest | '0' :: 'X' :: rest => (16, rest)
    | '0' :: c :: rest => if c.isDigit then (8, c :: rest) else (10, s)
    | s => (10, s)
  let (n, suffix) := Shell.digitsOf base digits
  let isEmpty := suffix.length = digits.length
  match sizeFactor? letters suffix with
  | none => .error (.invalid, !isEmpty)
  | some factor =>
    if isEmpty ∧ suffix.isEmpty then .error (.invalid, false)
    else if largestSize < n * factor then .error (.tooLarge, false)
    else .ok ((if isEmpty then 1 else n) * factor)

def endianChoices : List (List String) := [["little"], ["big"]]

/-- The letters that counts of bytes may have. -/
def dumpLetters : String := "bEGKkMmPQRTYZ"

/-- The option that a number belongs to, by letter, and the letters that the number may have. -/
def dumpCount? : Char → Option (String × String)
  | 'j' => some ("-j", dumpLetters)
  | 'N' => some ("-N", dumpLetters)
  | 'S' | '\x03' => some ("-S", dumpLetters)
  | 'w' => some ("-w", "")
  | '\x04' => some ("--width", "")
  | _ => none

/-- The number that an option was given. -/
def countOf (o : GivenOption) : Except DumpFault Nat :=
  match dumpCount? o.letter with
  | none => .ok 0
  | some (option, letters) =>
    if !o.hasValue ∧ o.letter = '\x03' then .ok 3
    else if !o.hasValue ∧ o.letter = '\x04' then .ok 32
    else match dumpNumber letters o.value with
      | .ok n => .ok n
      | .error (f, isSuffix) => .error (.badNumber option f isSuffix o.value)

/-- The styles that an option asks for, if what it says can be read. -/
def optionStyles (o : GivenOption) : Except DumpFault (List DumpStyle) :=
  match o.letter with
  | 't' => dumpStyles o.value o.value.length o.value
  | '\x02' =>
    match choice endianChoices o.value with
    | .ok _ => .ok []
    | .error f => .error (.badEndian f o.value)
  | 'A' =>
    if (o.value.head?.any ['d', 'o', 'x', 'n'].contains) then .ok [] else .error (.badRadix o.value)
  | letter => do
    let _ ← countOf o
    pure ((letterStyle? letter).elim [] fun (kind, size) => [⟨kind, size, false⟩])

def DumpFault.reply (call : ToolCall) : DumpFault → Reply
  | .badChar c s => call.complain [byteText "invalid character \x27", [c],
      byteText "\x27 in type string ", wordQuoted s]
  | .badSize isReal size s => call.complain [byteText "invalid type string ", wordQuoted s,
      byteText ";\nthis system doesn\x27t provide a ", decimalText size,
      byteText (if isReal then "-byte floating point type" else "-byte integral type")]
  | .badRadix s => call.complain [byteText "invalid output address radix \x27", [s.headD '\x00'],
      byteText "\x27; it must be one character from [doxn]"]
  | .badNumber option .tooLarge _ s =>
    call.complain [byteText (option ++ " argument \x27"), s, byteText "\x27 too large"]
  | .badNumber option .invalid isSuffix s =>
    call.complain [byteText (if isSuffix then "invalid suffix in " else "invalid "),
      byteText (option ++ " argument \x27"), s, ['\x27']]
  | .badEndian f s => call.badChoice "--endian" endianChoices s f

/-- A place that is given as an operand: octal, unless it begins like a hexadecimal number. -/
def oldOffset? (s : ByteText) : Option Nat :=
  let digits := if s.head? = some '+' then s.drop 1 else s
  let (base, rest) : Nat × ByteText := match digits with
    | '0' :: 'x' :: rest | '0' :: 'X' :: rest => (16, rest)
    | rest => (8, rest)
  let (n, suffix) := Shell.digitsOf base rest
  if !(digits.head?.any (·.isDigit)) ∨ suffix.length = rest.length then none
  else match suffix with
    | [] => some n
    | ['b'] => some (n * 512)
    | ['B'] => some (n * 1024)
    | _ => none

/-- The operands without the place that the last of them may give, and that place. -/
def withoutOffset (a : Arguments) : List ByteText × Option Nat :=
  let isModern : Bool := ['A', 'j', 'N', 'S', 't', 'v', 'w', '\x02', '\x03', '\x04'].any a.has
  let isOld := a.has '\x01'
  if isModern ∧ !isOld then (a.operands, none)
  else match a.operands with
    | [s] => if isOld ∨ s.head? = some '+' then
        match oldOffset? s with
        | some n => ([], some n)
        | none => ([s], none)
      else ([s], none)
    | [file, s] =>
      if isOld ∨ s.head?.any fun c => c = '+' || c.isDigit then
        match oldOffset? s with
        | some n => ([file], some n)
        | none => ([file, s], none)
      else ([file, s], none)
    | operands => (operands, none)

/-! ## The tool -/

/-- The smallest number of bytes that units of all styles fill. -/
def leastLine (styles : List DumpStyle) : Nat := styles.foldl (fun n s => Nat.lcm n s.size) 1

/-- Lists the bytes of all operands as if they were one file. -/
def dumpTool : Tool := fun call t =>
  withArguments dumpTable 1 { call with args := withDumpNumbers call.args } t fun a =>
    let readings := a.options.map optionStyles
    let isFinal (f : DumpFault) : Bool := match f with
      | .badChar .. | .badSize .. => false
      | _ => true
    let faults := readings.filterMap fun
      | .error f => some f
      | .ok _ => none
    let shown := faults.takeWhile (!isFinal ·) ++ (faults.find? isFinal).toList
    match shown with
    | _ :: _ => ((shown.map (DumpFault.reply call)).foldl Reply.followedBy .quiet, t)
    | [] =>
      let styles := (readings.filterMap (·.toOption)).flatten
      let count? (letters : List Char) : Option Nat :=
        (a.options.reverse.find? fun o => letters.contains o.letter).bind fun o =>
          (countOf o).toOption
      let strings? := count? ['S', '\x03']
      if strings?.isSome ∧ !styles.isEmpty then
        (call.complain [byteText "no type may be specified when dumping strings"], t)
      else
        let styles := if styles.isEmpty then [⟨.octal, 2, false⟩] else styles
        let (operands, offset?) := withoutOffset a
        let operands := inputsOf operands
        let (text, complaints) := joinOperands call t operands
        let isOpened (p : ByteText) : Bool := match call.operandText t p with
          | .ok _ | .error .isADirectory => true
          | .error _ => false
        let skipped := (offset? <|> count? ['j']).getD 0
        let kept := (text.drop skipped).take ((count? ['N']).getD text.length)
        let radix := ((a.value? 'A').getD ['o']).headD 'o'
        let least := leastLine styles
        let standard := if least < 16 then least * (16 / least) else least
        let wanted? := count? ['w', '\x04']
        let isBad : Bool := wanted?.any fun n => n = 0 || n % least ≠ 0
        let warning : Reply := match wanted?, isBad with
          | some n, true => { call.complain [byteText "warning: invalid width ", decimalText n,
              byteText "; using ", decimalText least, byteText " instead"] with status := 0 }
          | _, _ => .quiet
        let width := if isBad then least else wanted?.getD standard
        let isBig : Bool := a.value? '\x02' |>.any fun s => s.head? = some 'b'
        let m : DumpManner := ⟨styles, radix, width, a.has 'v', isBig⟩
        let start := complaints.followedBy warning
        if !operands.any isOpened then (complaints, t)
        else if text.length < skipped then
          (start.followedBy (call.complain [byteText "cannot skip past end of combined input"]), t)
        else match strings? with
          | some least => (start.followedBy (.said (dumpStrings radix least skipped [] kept)), t)
          | none =>
            let lines := m.lines skipped none false (kept.length + 1) kept
            (start.followedBy (.said lines), t)

end KernelLink
