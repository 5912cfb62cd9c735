import KernelLink.Tool.Lines
import KernelLink.Tool.Operands

/-!
# Comparing bytes

Two files are compared byte by byte, up to the first difference or to the end of the shorter one.
-/

namespace KernelLink

/-- How two files are compared. -/
structure CompareManner where
  /-- Whether nothing is said. -/
  isSilent : Bool
  /-- Whether all differences are shown. -/
  showsAll : Bool
  /-- Whether the bytes that differ are shown. -/
  showsBytes : Bool

/-- Which bytes of two files are compared: so many are left out at their beginnings. -/
structure CompareRange where
  skippedFirst : Nat
  skippedSecond : Nat
  most : Option Nat

/-- A byte as it is shown. -/
def shownByte (c : Char) : ByteText :=
  if c = '\n' ∨ c = '\t' then ['^', Char.ofNat (c.toNat + 64)] else visibleChar c

/-- A byte in three octal digits. -/
def octalByte (c : Char) : ByteText := padText 3 false false [] (Nat.toDigits 8 c.toNat)

/-- The differences of two texts, counted from one. -/
def differences (a b : ByteText) : List (Nat × Char × Char) :=
  (a.zip b).zipIdx.filterMap fun ((x, y), n) => if x = y then none else some (n + 1, x, y)

/-- A line about one of many differences. -/
def CompareManner.differenceLine (m : CompareManner) (width : Nat) (d : Nat × Char × Char) :
    ByteText :=
  let (n, x, y) := d
  let shown (c : Char) (isLast : Bool) : ByteText :=
    if !m.showsBytes then []
    else ' ' :: if isLast then shownByte c else padText 4 true false [] (shownByte c)
  joinText [padText width false false [] (decimalText n), [' '], octalByte x, shown x false, [' '],
    octalByte y, shown y true, ['\n']]

/-- What is said of two texts that differ. -/
def CompareManner.reply (m : CompareManner) (call : ToolCall) (names : ByteText × ByteText)
    (width : Nat) (a b : ByteText) : Reply :=
  let found := differences a b
  let same := min a.length b.length
  let shorter := if a.length < b.length then names.1 else names.2
  let common := a.take same
  let lines := (common.filter (· = '\n')).length
  let ending : Reply :=
    if a.length = b.length then .ended 1
    else if same = 0 then call.complain [byteText "EOF on ", shorter, byteText " which is empty"]
    else
      let place := if m.showsAll then []
        else if common.getLast? = some '\n' then byteText ", line " ++ decimalText lines
        else byteText ", in line " ++ decimalText (lines + 1)
      call.complain [byteText "EOF on ", shorter, byteText " after byte ", decimalText same, place]
  if m.isSilent then .ended 1
  else if m.showsAll then
    (Reply.said (found.flatMap (m.differenceLine width))).followedBy ending
  else match found with
    | [] => ending
    | (n, x, y) :: _ =>
      let line := ((a.take (n - 1)).filter (· = '\n')).length + 1
      let (unit, bytes) : String × ByteText := if m.showsBytes then
          (" differ: byte ", joinText [byteText " is ", octalByte x, [' '], shownByte x, [' '],
            octalByte y, [' '], shownByte y])
        else (" differ: char ", [])
      { Reply.said (joinText [names.1, [' '], names.2, byteText unit, decimalText n,
        byteText ", line ", decimalText line, bytes, ['\n']]) with status := 1 }

/-! ## The tool -/

def compareTable : OptionTable where
  flags := [('b', "print-bytes"), ('c', "print-chars"), ('l', "verbose"), ('s', "quiet"),
    ('s', "silent")]
  valued := [('i', "ignore-initial"), ('n', "bytes")]

/-- The letters that counts of bytes may have. -/
def compareLetters : String := "kKMGTPEZY"

/-- How many bytes are left out of each file, as one count or as two with a colon between them. -/
def readSkips (s : ByteText) : Option (Nat × Nat) :=
  let front := s.takeWhile (· ≠ ':')
  let back := if front.length < s.length then s.drop (front.length + 1) else front
  match readSize compareLetters front, readSize compareLetters back with
  | .ok a, .ok b => some (a, b)
  | _, _ => none

/-- A complaint about arguments. Its second line names the tool like the first one. -/
def compareUsage (call : ToolCall) (texts : List ByteText) : Reply :=
  { call.complain (texts ++ [['\n'], call.name, [':', ' '], helpHint call.name]) with status := 2 }

/-- The bytes of a text that are compared. -/
def CompareRange.part (skipped : Nat) (r : CompareRange) (text : ByteText) : ByteText :=
  let rest := text.drop skipped
  r.most.elim rest rest.take

/-- Which bytes options and operands behind the names of files ask for. -/
def compareRange (call : ToolCall) (a : Arguments) : Except Reply CompareRange :=
  let bad (option : String) (s : ByteText) : Except Reply CompareRange :=
    .error (compareUsage call [byteText ("invalid " ++ option ++ " value \x27"), s, ['\x27']])
  let skips := (a.options.filter (·.letter = 'i')).map fun o => (o.value, readSkips o.value)
  let most := (a.value? 'n').map fun s => (s, readSize compareLetters s)
  let behind := ((a.operands.drop 2).take 2).map fun s => (s, readSize compareLetters s)
  let wrong : Option ByteText := skips.findSome? fun (s, n?) => if n?.isNone then some s else none
  match wrong, most, a.operands.drop 4 with
  | some s, _, _ => bad "--ignore-initial" s
  | none, some (s, .error _), _ => bad "--bytes" s
  | none, most, extra =>
    match behind.find? (fun (_, n?) => !n?.isOk), extra with
    | some (s, _), _ => bad "--ignore-initial" s
    | none, one :: _ =>
      .error (compareUsage call [byteText "extra operand \x27", one, ['\x27']])
    | none, [] =>
      let number (n : Nat) : Nat := (behind[n]?.bind fun (_, n?) => n?.toOption).getD 0
      let first := skips.foldl (fun n (_, s) => max n (s.getD (0, 0)).1) (number 0)
      let second := skips.foldl (fun n (_, s) => max n (s.getD (0, 0)).2) (number 1)
      .ok ⟨first, second, most.bind fun (_, n?) => n?.toOption⟩

/-- Compares two files byte by byte. -/
def compareTool : Tool := fun call t =>
  let fail (texts : List ByteText) : Reply × FileTree :=
    ({ call.complain texts with status := 2 }, t)
  match compareTable.read false false call.args with
  | .error f =>
    let shown := (f.reply call.name 2).onStream true
    let line := shown.takeWhile (· ≠ '\n')
    (compareUsage call [line.drop (call.name.length + 2)], t)
  | .ok a =>
    let m : CompareManner := ⟨a.has 's', a.has 'l', a.has 'b' || a.has 'c'⟩
    match compareRange call { a with operands := [] } with
    | .error reply => (reply, t)
    | .ok _ =>
      if m.isSilent ∧ m.showsAll then
        (compareUsage call [byteText "options -l and -s are incompatible"], t)
      else match a.operands, compareRange call a with
        | [], _ =>
          (compareUsage call [byteText "missing operand after \x27", call.name, ['\x27']], t)
        | _, .error reply => (reply, t)
        | first :: rest, .ok r =>
          let second := rest.headD ['-']
          let taken := call.takenBy [first, second]
          match call.operandText t first, call.operandText t second with
          | .error f, _ => if m.isSilent then (.ended 2, t) else fail [first, byteText ": ", f.text]
          | _, .error f =>
            if m.isSilent then (.ended 2, t) else fail [second, byteText ": ", f.text]
          | .ok x, .ok y =>
            let x := r.part r.skippedFirst x
            let y := r.part r.skippedSecond y
            let isFile (p : ByteText) : Bool := p ≠ ['-'] || call.source.isSome
            let sizes := (if isFile first then [x.length] else []) ++
              (if isFile second then [y.length] else []) ++ r.most.toList
            let least := sizes.foldl min 9223372036854775807
            if x = y then ({ Reply.quiet with taken }, t)
            else
              let width := (decimalText least).length
              ({ m.reply call (first, second) width x y with taken }, t)

end KernelLink
