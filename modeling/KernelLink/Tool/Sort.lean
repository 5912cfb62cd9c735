import KernelLink.Text.Bytes
import KernelLink.Tool.Lines

/-!
# Lines in order

The order of versions, lines that are sorted by their keys, and lines that repeat each other.
-/

/-!
## The order of versions

Names with numbers in them, in the order in which people count: `x9` comes before `x10`. Stretches
without digits are compared character by character, with a tilde before everything and letters
before other characters; stretches of digits are compared as numbers.
-/

namespace KernelLink.Version

def isDigitAt (s : ByteText) : Bool := s.head?.any (·.isDigit)

/-- The rank of the character at the front of a text outside numbers. -/
def rank (s : ByteText) : Int :=
  match s with
  | [] => -1
  | c :: _ =>
    if c.isDigit then 0
    else if c.isAlpha then c.toNat
    else if c = '~' then -2
    else c.toNat + 256

/-- Compares the fronts without digits; without a difference, gives what follows them. -/
def compareWords : (most : Nat) → ByteText → ByteText → Except Ordering (ByteText × ByteText)
  | 0, a, b => .ok (a, b)
  | most + 1, a, b =>
    if (!a.isEmpty && !isDigitAt a) || (!b.isEmpty && !isDigitAt b) then
      match compare (rank a) (rank b) with
      | .eq => compareWords most (a.drop 1) (b.drop 1)
      | o => .error o
    else .ok (a, b)

/-- The digits at the front without zeros in front of them, and what follows. -/
def numberFront (s : ByteText) : ByteText × ByteText :=
  let s := s.dropWhile (· = '0')
  (s.takeWhile (·.isDigit), s.dropWhile (·.isDigit))

/-- Compares texts as stretches with and without digits that take turns. -/
def comparePlain : (most : Nat) → ByteText → ByteText → Ordering
  | 0, _, _ => .eq
  | _, [], [] => .eq
  | most + 1, a, b =>
    match compareWords (a.length + b.length) a b with
    | .error o => o
    | .ok (a, b) =>
      let (m, a) := numberFront a
      let (n, b) := numberFront b
      ((compare m.length n.length).then (compare m n)).then (comparePlain most a b)

/-- How long a name is without the suffixes at its end, each a point with a letter behind it. -/
def stemLength (s : ByteText) : Nat :=
  let isSuffixChar (c : Char) : Bool := c.isAlphanum || c = '~'
  let rec skipSuffixes (most : Nat) (s : ByteText) : ByteText :=
    match most, s with
    | most + 1, '.' :: c :: rest =>
      if c.isAlpha || c = '~' then skipSuffixes most (rest.dropWhile isSuffixChar) else s
    | _, s => s
  let isStem (n : Nat) : Bool := (skipSuffixes s.length (s.drop n)).isEmpty
  ((List.range s.length).find? fun n => 0 < n && isStem n).getD s.length

/-- Names that begin with a point come first, and the two that stand for directories before them. -/
def dotRank (s : ByteText) : Nat :=
  match s with
  | [] => 0
  | ['.'] => 1
  | ['.', '.'] => 2
  | '.' :: _ => 3
  | _ => 4

/-- Compares names; suffixes count only where nothing else differs. -/
def order (a b : ByteText) : Ordering :=
  let most := a.length + b.length + 1
  match compare (dotRank a) (dotRank b) with
  | .eq =>
    if dotRank a < 3 then .eq
    else (comparePlain most (a.take (stemLength a)) (b.take (stemLength b))).then
      (comparePlain most a b)
  | o => o

end KernelLink.Version

/-!
## Sorting

Lines are compared by keys, parts of them that are read in one of several ways, and where all keys
are equal by the lines themselves. The order is stable, so that lines that are equal in every way
that counts stay as they came.
-/

namespace KernelLink

/-! ### Ways to compare -/

/-- The digits at the front of a text as a whole number, with how many of them are behind a
point. -/
def leadingNumber (s : ByteText) : Int × Nat :=
  let (negative, s) : Bool × ByteText := match s with
    | '-' :: s => (true, s)
    | s => (false, s)
  let whole := s.takeWhile (·.isDigit)
  let fraction := match s.drop whole.length with
    | '.' :: rest => rest.takeWhile (·.isDigit)
    | _ => []
  let n : Int := (Shell.digitsOf 10 (whole ++ fraction)).1
  (if negative then -n else n, fraction.length)

/-- What separates the fields of a line, and stands for nothing in front of numbers. -/
def isFieldBlank (c : Char) : Bool := c = ' ' || c = '\t' || c = '\n'

def compareNumbers (a b : ByteText) : Ordering :=
  let (x, p) := leadingNumber (a.dropWhile isFieldBlank)
  let (y, q) := leadingNumber (b.dropWhile isFieldBlank)
  compare (x * Nat.pow 10 q) (y * Nat.pow 10 p)

/-- The power of a thousand that a letter behind a number means. -/
def unitOrder (s : ByteText) : Int :=
  let s := s.dropWhile isFieldBlank
  let (negative, body) : Bool × ByteText := match s with
    | '-' :: s => (true, s)
    | s => (false, s)
  let whole := body.takeWhile (·.isDigit)
  let (digits, rest) : ByteText × ByteText := match body.drop whole.length with
    | '.' :: rest => (whole ++ rest.takeWhile (·.isDigit), rest.dropWhile (·.isDigit))
    | rest => (whole, rest)
  let letter := rest.headD ' '
  let order := if letter = 'k' then 1 else ("KMGTPEZYRQ".toList.idxOf? letter).elim 0 (· + 1)
  if digits.all (· = '0') then 0 else if negative then -order else order

/-- The number of a month whose name begins like this one; no month has none. -/
def monthNumber (s : ByteText) : Nat :=
  let name := ((s.dropWhile isFieldBlank).take 3).map Char.toUpper
  let names := ["JAN", "FEB", "MAR", "APR", "MAY", "JUN", "JUL", "AUG", "SEP", "OCT", "NOV", "DEC"]
  (names.idxOf? (String.ofList name)).elim 0 (· + 1)

/-- Numbers with a point and an exponent; what is none of them comes first, then what is not a
number by definition. -/
def compareReals (a b : ByteText) : Ordering :=
  let real (s : ByteText) : Option Exact := (FormatM.realFront ⟨64, 15⟩ s).map (·.1)
  match real a, real b with
  | none, none => .eq
  | none, some _ => .lt
  | some _, none => .gt
  | some x, some y =>
    match x.isNan, y.isNan with
    | true, true => .eq
    | true, false => .lt
    | false, true => .gt
    | false, false => (x.compare? y).getD .eq

/-- What decides the order of texts. -/
inductive SortKind where
  | bytes
  | numbers
  | reals
  | units
  | months
  | versions
  /-- Any order that puts equal texts together. -/
  | groups

def SortKind.compare : SortKind → ByteText → ByteText → Ordering
  | bytes, a, b | groups, a, b => Ord.compare a b
  | numbers, a, b => compareNumbers a b
  | reals, a, b => compareReals a b
  | units, a, b => (Ord.compare (unitOrder a) (unitOrder b)).then (compareNumbers a b)
  | months, a, b => Ord.compare (monthNumber a) (monthNumber b)
  | versions, a, b => Version.order a b

/-- The letters that say how texts are compared, as they are listed in complaints. -/
def sortLetters : List Char := "bdfghiMnRrV".toList

/-- What letters mean. -/
def sortKind (letters : List Char) : SortKind :=
  if letters.contains 'n' then .numbers
  else if letters.contains 'g' then .reals
  else if letters.contains 'h' then .units
  else if letters.contains 'M' then .months
  else if letters.contains 'R' then .groups
  else if letters.contains 'V' then .versions
  else .bytes

/-- The text that counts of a key. -/
def sortedText (letters : List Char) (s : ByteText) : ByteText :=
  let isKept (c : Char) : Bool :=
    if letters.contains 'd' then c.isAlphanum || c = ' ' || c = '\t' || c = '\n'
    else if letters.contains 'i' then isPlainChar c
    else true
  let s := s.filter isKept
  if letters.contains 'f' then s.map Char.toUpper else s

def compareTexts (letters : List Char) (a b : ByteText) : Ordering :=
  let o := (sortKind letters).compare (sortedText letters a) (sortedText letters b)
  if letters.contains 'r' then o.swap else o

/-! ### Keys -/

/-- A place in a line: so many fields, then so many characters. -/
structure KeyPlace where
  fields : Nat
  chars : Nat
  /-- Whether blanks at the front of the field do not count. -/
  skipsBlanks : Bool

/-- A part of each line. Without an end it reaches to the end of the line. -/
structure SortKey where
  start : KeyPlace
  finish : Option KeyPlace
  letters : List Char

/-- Why a key cannot be read. -/
inductive KeyFault where
  | badCount (what : String) (rest : ByteText)
  | badField (what : String)

/-- A count, which has to begin with a digit. -/
def keyCount (what : String) (s : ByteText) : Except KeyFault (Nat × ByteText) :=
  if s.head?.any (·.isDigit) then .ok (Shell.digitsOf 10 s)
  else .error (.badCount what s)

/-- Reads the letters behind a place. -/
def keyLetters (s : ByteText) : List Char × ByteText :=
  (s.takeWhile sortLetters.contains, s.dropWhile sortLetters.contains)

/-- Reads a key. -/
def readKey (s : ByteText) : Except KeyFault SortKey := do
  let (field, rest) ← keyCount "invalid number at field start" s
  if field = 0 then throw (.badField "field number is zero")
  let (char, rest) ← match rest with
    | '.' :: rest => keyCount "invalid number after '.'" rest
    | rest => pure (1, rest)
  if char = 0 then throw (.badField "character offset is zero")
  let (letters, rest) := keyLetters rest
  let start : KeyPlace := ⟨field - 1, char - 1, letters.contains 'b'⟩
  match rest with
  | ',' :: rest => do
    let (last, rest) ← keyCount "invalid number after ','" rest
    if last = 0 then throw (.badField "field number is zero")
    let (lastChar, rest) ← match rest with
      | '.' :: rest => keyCount "invalid number after '.'" rest
      | rest => pure (0, rest)
    let (lastLetters, rest) := keyLetters rest
    if !rest.isEmpty then throw (.badField "stray character in field spec")
    let finish : KeyPlace := ⟨last - 1, lastChar, lastLetters.contains 'b'⟩
    pure ⟨start, some finish, letters ++ lastLetters⟩
  | [] => pure ⟨start, none, letters⟩
  | _ => throw (.badField "stray character in field spec")

/-- How long the fields at the front of a line are: of a number of them, with the separator behind
the last one only where `through` says so. -/
def fieldsLength (separator : Option Char) (through : Bool) : (fields : Nat) → ByteText → Nat
  | 0, _ => 0
  | fields + 1, s =>
    match separator with
    | some c =>
      let field := s.takeWhile (· ≠ c)
      let passed := if field.length < s.length ∧ (fields > 0 ∨ through) then field.length + 1
        else field.length
      passed + fieldsLength separator through fields (s.drop passed)
    | none =>
      let blanks := s.takeWhile isFieldBlank
      let field := (s.drop blanks.length).takeWhile fun c => !isFieldBlank c
      let passed := blanks.length + field.length
      passed + fieldsLength separator through fields (s.drop passed)

/-- Where a place is in a line whose first fields are so long. -/
def KeyPlace.position (p : KeyPlace) (line : ByteText) (fields : Nat) : Nat :=
  let blanks := if p.skipsBlanks then ((line.drop fields).takeWhile isFieldBlank).length else 0
  min line.length (fields + blanks + p.chars)

/-- The text of a key in a line. -/
def SortKey.text (k : SortKey) (separator : Option Char) (line : ByteText) : ByteText :=
  let start := k.start.position line (fieldsLength separator true k.start.fields line)
  let finish := match k.finish with
    | none => line.length
    | some p =>
      if p.chars = 0 then fieldsLength separator false (p.fields + 1) line
      else p.position line (fieldsLength separator true p.fields line)
  (line.take finish).drop start

/-- How lines are sorted. -/
structure SortManner where
  keys : List SortKey
  letters : List Char
  separator : Option Char
  stable : Bool
  unique : Bool

/-- The letters of a key; those given for all keys count where it has none. -/
def SortManner.keyLetters (m : SortManner) (k : SortKey) : List Char :=
  if k.letters.isEmpty then m.letters else k.letters

def SortManner.keyText (m : SortManner) (k : SortKey) (line : ByteText) : ByteText :=
  if k.letters.isEmpty ∧ m.letters.contains 'b' then
    let skipping (p : KeyPlace) : KeyPlace := { p with skipsBlanks := true }
    let wider : SortKey := { k with start := skipping k.start, finish := k.finish.map skipping }
    wider.text m.separator line
  else k.text m.separator line

def SortManner.compareKeys (m : SortManner) (a b : ByteText) : Ordering :=
  if m.keys.isEmpty then
    let trimmed (s : ByteText) : ByteText :=
      if m.letters.contains 'b' then s.dropWhile isFieldBlank else s
    compareTexts m.letters (trimmed a) (trimmed b)
  else m.keys.foldl (fun o k =>
    o.then (compareTexts (m.keyLetters k) (m.keyText k a) (m.keyText k b))) .eq

/-- The order of lines; those that are equal by their keys are compared as a whole. -/
def SortManner.le (m : SortManner) (a b : ByteText) : Bool :=
  let last : Ordering := if m.stable || m.unique then .eq
    else if m.letters.contains 'r' then compare b a else compare a b
  (m.compareKeys a b).then last ≠ .gt

/-- Leaves the first of lines that are equal and follow each other. -/
def dropRepeated (same : ByteText → ByteText → Bool) (before : Option ByteText) :
    List ByteText → List ByteText
  | [] => []
  | line :: rest =>
    if before.any (same · line) then dropRepeated same before rest
    else line :: dropRepeated same (some line) rest

/-- The first line that is out of order, with its number. -/
def firstDisorder (m : SortManner) (number : Nat) : List ByteText → Option (Nat × ByteText)
  | a :: b :: rest =>
    let isOrdered := if m.unique then m.compareKeys a b = .lt else m.le a b
    if isOrdered then firstDisorder m (number + 1) (b :: rest) else some (number + 1, b)
  | _ => none

/-! ### The tool -/

def sortTable : OptionTable where
  flags :=
    [('n', "numeric-sort"), ('r', "reverse"), ('u', "unique"), ('f', "ignore-case"),
     ('b', "ignore-leading-blanks"), ('d', "dictionary-order"), ('c', ""), ('C', ""),
     ('s', "stable"), ('g', "general-numeric-sort"), ('i', "ignore-nonprinting"), ('m', "merge"),
     ('h', "human-numeric-sort"), ('V', "version-sort"), ('M', "month-sort"), ('R', "random-sort"),
     ('z', "zero-terminated")]
  valued :=
    [('k', "key"), ('t', "field-separator"), ('o', "output"), ('S', "buffer-size"),
     ('T', "temporary-directory"), ('\x01', "parallel"), ('\x02', "sort"), ('\x03', "batch-size"),
     ('\x04', "random-source"), ('\x05', "compress-program"), ('\x07', "files0-from")]
  optional := [('\x06', "check")]

/-- The ways to sort that have a name, and their letters. -/
def namedSorts : List (List String) :=
  ["general-numeric", "human-numeric", "month", "numeric", "random", "version"].map fun s => [s]

/-- What may be done with a line that is out of order. -/
def namedChecks : List (List String) := [["quiet", "silent"], ["diagnose-first"]]

/-- The letter of an option; what was given by name has one of its own. -/
def sortOptionLetter (o : GivenOption) : Char :=
  match o.letter, choice namedSorts o.value, choice namedChecks o.value with
  | '\x02', .ok n, _ => ['g', 'h', 'M', 'n', 'R', 'V'].getD n ' '
  | '\x06', _, .ok 0 => 'C'
  | '\x06', _, _ => 'c'
  | c, _, _ => c

/-- What is wrong with the value of an option that asks for nothing here, or is one of some
words. -/
def sortOptionFault? (call : ToolCall) (o : GivenOption) : Option Reply :=
  let fail (texts : List ByteText) : Option Reply := some { call.complain texts with status := 2 }
  let isNumber : Bool := !o.value.isEmpty && o.value.all (·.isDigit)
  let number := (Shell.digitsOf 10 o.value).1
  match o.letter, choice namedSorts o.value, choice namedChecks o.value with
  | '\x02', .error f, _ => some (call.badChoice "--sort" namedSorts o.value f)
  | '\x06', _, .error f =>
    if !o.hasValue then none else some (call.badChoice "--check" namedChecks o.value f)
  | '\x01', _, _ =>
    if !isNumber then fail [byteText "invalid --parallel argument \x27", o.value, ['\x27']]
    else if number = 0 then fail [byteText "number in parallel must be nonzero"]
    else none
  | '\x03', _, _ =>
    if !isNumber then fail [byteText "invalid --batch-size argument \x27", o.value, ['\x27']]
    else if number < 2 then
      fail [byteText "invalid --batch-size argument ", wordQuoted o.value, ['\n'], call.name,
        byteText ": minimum --batch-size argument is '2'"]
    else none
  | 'S', _, _ =>
    if o.value.head?.any (·.isDigit) then none
    else fail [byteText "invalid -S argument \x27", o.value, ['\x27']]
  | _, _, _ => none

/-- Keys in the old way: a plus sign and how many fields come before, which a minus sign and how
many there are up to the end may follow. -/
def oldKeys : List ByteText → List ByteText
  | ('+' :: d :: ds) :: rest =>
    let place (s : ByteText) : Nat × Nat × ByteText :=
      let (fields, s) := Shell.digitsOf 10 s
      match s with
      | '.' :: s =>
        let (chars, s) := Shell.digitsOf 10 s
        (fields, chars, s)
      | s => (fields, 0, s)
    if d.isDigit then
      let (fields, chars, letters) := place (d :: ds)
      let start := joinText [decimalText (fields + 1), ['.'], decimalText (chars + 1), letters]
      match rest with
      | ('-' :: e :: es) :: rest =>
        if e.isDigit then
          let (last, lastChars, lastLetters) := place (e :: es)
          let finish := if lastChars = 0 then decimalText last
            else joinText [decimalText (last + 1), ['.'], decimalText lastChars]
          byteText "-k" :: (start ++ ',' :: finish ++ lastLetters) :: oldKeys rest
        else byteText "-k" :: start :: ('-' :: e :: es) :: oldKeys rest
      | rest => byteText "-k" :: start :: oldKeys rest
    else ('+' :: d :: ds) :: oldKeys rest
  | arg :: rest => arg :: oldKeys rest
  | [] => []

/-- Letters that ask for different orders at once, as they are named in the complaint. -/
def incompatibleLetters? (letters : List Char) : Option ByteText :=
  let count (all : List Char) : Nat := if all.any letters.contains then 1 else 0
  let kinds := count ['n'] + count ['g'] + count ['h'] + count ['M'] + count ['V', 'R', 'd', 'i']
  if kinds ≤ 1 then none
  else some (sortLetters.filter fun c =>
    letters.contains c && c ≠ 'b' && c ≠ 'r' && !(c = 'i' && letters.contains 'd'))

/-- What is wrong with a separator. -/
def separatorFault? (values : List ByteText) : Option (List ByteText) :=
  let isLong (s : ByteText) : Bool := s.length > 1 && s ≠ ['\\', '0']
  if values.contains [] then some [byteText "empty tab"]
  else match values.find? isLong with
    | some s => some [byteText "multi-character tab ", wordQuoted s]
    | none =>
      if values.any (some · ≠ values.head?) then some [byteText "incompatible tabs"] else none

/-- What is wrong with an option behind some others. -/
def sortReadFault? (call : ToolCall) (before : List GivenOption) (o? : Option GivenOption) :
    Option Reply :=
  let fail (texts : List ByteText) : Option Reply := some { call.complain texts with status := 2 }
  o?.bind fun o =>
    match o.letter with
    | 'k' =>
      match readKey o.value with
      | .error (.badCount what rest) =>
        fail [byteText what, byteText ": invalid count at start of ", wordQuoted rest]
      | .error (.badField what) =>
        fail [byteText what, byteText ": invalid field specification ", wordQuoted o.value]
      | .ok _ => none
    | 't' =>
      (separatorFault? (((before.filter (·.letter = 't')).map (·.value)) ++ [o.value])).bind fail
    | _ => sortOptionFault? call o

/-- The operands, or what a file lists. -/
def sortSources (call : ToolCall) (t : FileTree) (a : Arguments) : Except Reply (List ByteText) :=
  let fail (texts : List ByteText) : Except Reply (List ByteText) :=
    .error { call.complain texts with status := 2 }
  match a.value? '\x07', a.operands with
  | none, operands => .ok (inputsOf operands)
  | some _, one :: _ =>
    .error { call.usage [byteText "extra operand ", wordQuoted one,
      byteText "\nfile operands cannot be combined with --files0-from"] with status := 2 }
  | some list, [] =>
    match call.operandText t list with
    | .error .isADirectory => fail [byteText "cannot read file names from ", shellQuoted list]
    | .error f => fail [byteText "open failed: ", shellQuoted list, byteText ": ", f.text]
    | .ok text =>
      let names := linesEndedBy '\x00' text
      let isInput : Bool := list = ['-']
      if names.isEmpty then fail [byteText "no input from ", shellQuoted list]
      else if isInput ∧ names.contains ['-'] then
        fail [byteText "when reading file names from stdin, no file name of '-' allowed"]
      else match names.findIdx? (·.isEmpty) with
        | some n => fail [quotedIfNeeded list, [':'], decimalText (n + 1),
            byteText ": invalid zero-length file name"]
        | none => .ok names

/-- Sorts lines, merges lines that are sorted, or finds the first one that is out of order. -/
def sortTool : Tool := fun call t =>
  withArguments sortTable 2 { call with args := oldKeys call.args } t fun a =>
    let fail (texts : List ByteText) : Reply × FileTree :=
      ({ call.complain texts with status := 2 }, t)
    let values (c : Char) : List ByteText :=
      (a.options.filter (·.letter = c)).map (·.value)
    let given := a.options.map sortOptionLetter
    let letters := sortLetters.filter given.contains
    let keys : List (ByteText × Except KeyFault SortKey) := (values 'k').map fun s => (s, readKey s)
    let goodKeys := keys.filterMap fun (_, k) => k.toOption
    let effective := if goodKeys.isEmpty then [letters]
      else goodKeys.map fun k => if k.letters.isEmpty then letters else k.letters
    let separator := (values 't').head?.bind fun s =>
      if s = ['\\', '0'] then some '\x00' else s.head?
    let m : SortManner := ⟨goodKeys, letters, separator, given.contains 's', given.contains 'u'⟩
    let checks := given.contains 'c' || given.contains 'C'
    let fault? := (List.range a.options.length).findSome? fun n =>
      sortReadFault? call (a.options.take n) a.options[n]?
    match fault?, effective.findSome? incompatibleLetters? with
    | some reply, _ => (reply, t)
    | none, some conflict => fail [byteText "options '-", conflict, byteText "' are incompatible"]
    | none, none =>
      if (values 'o').any (some · ≠ (values 'o').head?) then
        fail [byteText "multiple output files specified"]
      else if given.contains 'c' && given.contains 'C' then
        fail [byteText "options '-cC' are incompatible"]
      else if checks && a.operands.length > 1 then
        fail [byteText "extra operand ", shellQuoted (a.operands.getD 1 []),
          byteText (if given.contains 'c' then " not allowed with -c" else " not allowed with -C")]
      else if checks && !(values 'o').isEmpty then
        fail [byteText (if given.contains 'c' then "options '-co' are incompatible"
          else "options '-Co' are incompatible")]
      else
        match sortSources call t a with
        | .error reply => (reply, t)
        | .ok operands =>
          match operands.find? fun p => !(call.operandText t p).isOk with
          | some p =>
            let reason := match call.operandText t p with
              | .error f => f.text
              | .ok _ => []
            let verb := if reason = FileFault.isADirectory.text then "read failed: "
              else if checks then "open failed: "
              else "cannot read: "
            fail [byteText verb, quotedIfNeeded p, byteText ": ", reason]
          | none =>
            let finish := if given.contains 'z' then '\x00' else '\n'
            let files := operands.map fun p =>
              linesEndedBy finish ((call.operandText t p).toOption.getD [])
            let taken := call.takenBy operands
            if checks then
              match firstDisorder m 1 files.flatten with
              | none => ({ Reply.quiet with taken }, t)
              | some (number, line) =>
                if given.contains 'C' then ({ Reply.ended 1 with taken }, t)
                else ({ call.complain [operands.headD [], [':'], decimalText number,
                  byteText ": disorder: ", line] with taken }, t)
            else
              let sorted := if given.contains 'm' then
                  files.foldl (fun merged lines => merged.merge lines m.le) []
                else files.flatten.mergeSort m.le
              let kept := if m.unique then
                  dropRepeated (fun x y => m.compareKeys x y = .eq) none sorted
                else sorted
              let text := kept.flatMap fun line => line ++ [finish]
              match (values 'o').head? with
              | none => ({ Reply.said text with taken }, t)
              | some path =>
                match t.write call.base (pathOf path) (bytesOf text) with
                | .ok t => ({ Reply.quiet with taken }, t)
                | .error f =>
                  fail [byteText "open failed: ", quotedIfNeeded path, byteText ": ", f.text]

/-!
## Repeated lines

Lines that follow each other and are equal where they are compared form a group. Options say which
lines of a group are written, how groups are counted, and what stands between them.
-/

/-- Which lines are written, by the groups that they belong to. -/
structure RepeatManner where
  /-- Whether the line of a group of one is written. -/
  writesSingle : Bool
  /-- Whether one line of a longer group is written. -/
  writesFirst : Bool
  /-- Whether the others are written too. -/
  writesLater : Bool
  counts : Bool

/-- The lines of a group that are written. -/
def RepeatManner.kept (m : RepeatManner) (group : List ByteText) : List ByteText :=
  match group with
  | [] => []
  | [line] => if m.writesSingle then [line] else []
  | line :: rest =>
    if m.writesLater then if m.writesFirst then line :: rest else (line :: rest).dropLast
    else if m.writesFirst then [line] else []

/-- Where a blank line is written. -/
inductive GroupBreaks where
  | none
  | before
  | behind
  | between
  | around
deriving DecidableEq, Repr

/-- Texts of groups with blank lines where they belong. -/
def GroupBreaks.apply (breaks : GroupBreaks) (finish : Char) (groups : List ByteText) : ByteText :=
  match breaks with
  | none => groups.flatten
  | before => groups.flatMap fun text => finish :: text
  | behind => groups.flatMap fun text => text ++ [finish]
  | between => [finish].intercalate groups
  | around => if groups.isEmpty then [] else groups.flatMap (fun text => finish :: text) ++ [finish]

/-- What of a line is compared. -/
structure ComparedPart where
  skippedFields : Nat
  skippedChars : Nat
  most : Option Nat
  ignoresCase : Bool

/-- A line without so many fields. -/
def withoutFields : Nat → ByteText → ByteText
  | 0, s => s
  | n + 1, s =>
    let isBlank (c : Char) : Bool := c = ' ' || c = '\t' || c = '\n'
    withoutFields n ((s.dropWhile isBlank).dropWhile fun c => !isBlank c)

/-- The part of a line that is compared. -/
def ComparedPart.of (p : ComparedPart) (line : ByteText) : ByteText :=
  let s := (withoutFields p.skippedFields line).drop p.skippedChars
  let s := p.most.elim s s.take
  if p.ignoresCase then s.map Char.toLower else s

/-! ### Options -/

def uniqueTable : OptionTable where
  flags := [('c', "count"), ('d', "repeated"), ('u', "unique"), ('i', "ignore-case"), ('D', ""),
    ('z', "zero-terminated")] ++ "0123456789".toList.map fun c => (c, "")
  valued := [('f', "skip-fields"), ('s', "skip-chars"), ('w', "check-chars")]
  optional := [('\x01', "all-repeated"), ('\x02', "group")]

/-- The words for what stands between groups, by option. -/
def breakChoices : Char → String × List (List String)
  | '\x01' => ("--all-repeated", [["none"], ["prepend"], ["separate"]])
  | _ => ("--group", [["prepend"], ["append"], ["separate"], ["both"]])

/-- The blank lines that the value of an option asks for. -/
def readBreaks (o : GivenOption) : Except ChoiceFault GroupBreaks :=
  if !o.hasValue then .ok (if o.letter = '\x01' then .none else .between)
  else do
    let n ← choice (breakChoices o.letter).2 o.value
    let meanings : List GroupBreaks :=
      if o.letter = '\x01' then [.none, .before, .between]
      else [.before, .behind, .between, .around]
    pure (meanings.getD n .none)

/-- What is wrong with the value of an option. -/
def uniqueOptionFault? (call : ToolCall) (o : GivenOption) : Option Reply :=
  let counted? : Option String := match o.letter with
    | 'f' => some "fields to skip"
    | 's' => some "bytes to skip"
    | 'w' => some "bytes to compare"
    | _ => none
  match counted?, readBreaks o with
  | some what, _ =>
    if !o.value.isEmpty && o.value.all (·.isDigit) then none
    else some (call.complain [o.value, byteText (": invalid number of " ++ what)])
  | none, .error f =>
    if o.letter = '\x01' || o.letter = '\x02' then
      let (option, groups) := breakChoices o.letter
      some (call.badChoice option groups o.value f)
    else none
  | none, .ok _ => none

/-- The number that a plus sign in front of an operand makes a count of bytes. -/
def oldSkip? (operand : ByteText) : Option Nat :=
  match operand with
  | '+' :: ds =>
    if !ds.isEmpty && ds.all (·.isDigit) then some (Shell.digitsOf 10 ds).1 else none
  | _ => none

/-! ### The tool -/

/-- Writes lines without those that are repeated, or only some of them. -/
def uniqueTool : Tool := fun call t =>
  withArguments uniqueTable 1 call t fun a =>
    let operands := a.operands.filter fun s => (oldSkip? s).isNone
    let allRepeated : Bool := a.has 'D' || a.has '\x01'
    let isSelective : Bool := allRepeated || a.has 'd' || a.has 'u'
    match a.options.findSome? (uniqueOptionFault? call), operands with
    | some reply, _ => (reply, t)
    | none, _ :: _ :: third :: _ => (call.usage [byteText "extra operand ", wordQuoted third], t)
    | none, operands =>
      if a.has '\x02' ∧ (isSelective ∨ a.has 'c') then
        (call.usage [byteText "--group is mutually exclusive with -c/-d/-D/-u"], t)
      else if allRepeated ∧ a.has 'c' then
        (call.usage
          [byteText "printing all duplicated lines and repeat counts is meaningless"], t)
      else
        let source := operands.headD ['-']
        match call.operandText t source with
        | .error .isADirectory => (call.about "error reading" source .isADirectory, t)
        | .error f => (call.unreadable source f, t)
        | .ok text =>
          let number? (c : Char) : Option Nat := (a.value? c).map fun s => (Shell.digitsOf 10 s).1
          let oldFields := (Shell.digitsOf 10
            ((a.options.filter fun o => o.letter.isDigit).map (·.letter))).1
          let part : ComparedPart :=
            { skippedFields := (number? 'f').getD oldFields
              skippedChars := (number? 's' <|> a.operands.findSome? oldSkip?).getD 0
              most := number? 'w'
              ignoresCase := a.has 'i' }
          let m : RepeatManner :=
            { writesSingle := !(a.has 'd' || allRepeated)
              writesFirst := !a.has 'u'
              writesLater := allRepeated || a.has '\x02'
              counts := a.has 'c' }
          let finish := if a.has 'z' then '\x00' else '\n'
          let groups := (linesEndedBy finish text).splitBy fun x y => part.of x = part.of y
          let write (group : List ByteText) : ByteText :=
            (m.kept group).flatMap fun line =>
              (if m.counts then padText 7 false false [] (decimalText group.length) ++ [' ']
                else []) ++ line ++ [finish]
          let breaks := ((a.options.reverse.find? fun o => o.letter = '\x01' || o.letter =
          '\x02').map fun o => (readBreaks o).toOption.getD .none).getD .none
          let out := breaks.apply finish
            ((groups.map write).filter fun text => !text.isEmpty)
          let taken := call.takenBy [source]
          match operands.drop 1 with
          | target :: _ =>
            if target = ['-'] then ({ Reply.said out with taken }, t)
            else match t.write call.base (pathOf target) (bytesOf out) with
              | .ok t => ({ Reply.quiet with taken }, t)
              | .error f => (call.unreadable target f, t)
          | [] => ({ Reply.said out with taken }, t)

end KernelLink
