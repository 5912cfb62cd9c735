import KernelLink.Tool.Copy
import KernelLink.Tool.Format
import KernelLink.Tool.Operands

/-!
# Whole files and their lines

Tools that write files, or their input where no file is named, as a whole or line by line.
-/

namespace KernelLink

/-! ## Reading operands -/

/-- What an operand holds; a dash stands for the input. -/
def ToolCall.operandText (call : ToolCall) (t : FileTree) (operand : ByteText) :
    Except FileFault ByteText :=
  if operand = ['-'] then .ok call.input else call.content t operand

/-- The operands to be read; without any, the input. -/
def inputsOf (operands : List ByteText) : List ByteText :=
  if operands.isEmpty then [['-']] else operands

/-- How much of its input a tool takes that reads some operands. -/
def ToolCall.takenBy (call : ToolCall) (operands : List ByteText) : Nat :=
  if operands.any fun p => p = ['-'] ∨ isInputPath p then call.input.length else 0

/-- A complaint about an operand that cannot be read. -/
def ToolCall.unreadable (call : ToolCall) (operand : ByteText) (f : FileFault) : Reply :=
  call.complain [quotedIfNeeded operand, byteText ": ", f.text]

/-- Reads operands one after the other; what cannot be read is complained about. -/
def readOperands (call : ToolCall) (t : FileTree) (treat : ByteText → ByteText → Reply)
    (operands : List ByteText) : Reply :=
  let replies := operands.map fun p =>
    match call.operandText t p with
    | .ok text => treat p text
    | .error f => call.unreadable p f
  let reply := replies.foldl Reply.followedBy .quiet
  { reply with taken := call.takenBy operands }

/-- The text of all operands together, and what was complained about. -/
def joinOperands (call : ToolCall) (t : FileTree) (operands : List ByteText) : ByteText × Reply :=
  let reply := readOperands call t (fun _ text => .said text) operands
  (reply.onStream false, { reply with writes := reply.writes.filter (·.1) })

/-- The lines of a text with any character behind each of them. -/
def linesEndedBy (finish : Char) (text : ByteText) : List ByteText :=
  let parts := splitAtEach finish text
  if parts.getLast? = some [] then parts.dropLast else parts

/-! ## Writing files -/

def concatenateTable : OptionTable where
  flags :=
    [('A', "show-all"), ('b', "number-nonblank"), ('e', ""), ('E', "show-ends"), ('n', "number"),
     ('s', "squeeze-blank"), ('t', ""), ('T', "show-tabs"), ('u', ""), ('v', "show-nonprinting")]
  valued := []

/-- A character as it is shown where everything is to be seen. -/
def visibleChar (c : Char) : ByteText :=
  let low (n : Nat) : ByteText :=
    if n < 32 then ['^', Char.ofNat (n + 64)] else if n = 127 then ['^', '?'] else [Char.ofNat n]
  if c = '\n' ∨ c = '\t' then [c]
  else if c.toNat < 128 then low c.toNat
  else ['M', '-'] ++ low (c.toNat - 128)

/-- How lines are shown. -/
structure ShowManner where
  numbers : Bool
  skipsBlank : Bool
  ends : Bool
  tabs : Bool
  visible : Bool
  squeezes : Bool

/-- Shows lines; `number` is that of the next one, and `blank` says that the one before was
blank. -/
def ShowManner.lines (m : ShowManner) (number : Nat) (blank : Bool) : List ByteText → ByteText
  | [] => []
  | line :: rest =>
    let isBlank := line = ['\n']
    if m.squeezes ∧ blank ∧ isBlank then m.lines number blank rest
    else
      let isNumbered := m.numbers && !(m.skipsBlank && isBlank)
      let digits := decimalText number
      let front := if isNumbered then List.replicate (6 - digits.length) ' ' ++ digits ++ ['\t']
        else []
      let body := withoutNewline line
      let isEnded := line.getLast? = some '\n'
      let returns : Bool := m.ends && !m.visible && isEnded && body.getLast? = some '\r'
      let body := (if returns then body.dropLast else body).flatMap fun c =>
        if c = '\t' ∧ m.tabs then ['^', 'I'] else if m.visible then visibleChar c else [c]
      let finish : ByteText := (if returns then ['^', 'M'] else []) ++
        if isEnded then (if m.ends then ['$', '\n'] else ['\n']) else []
      front ++ body ++ finish ++ m.lines (if isNumbered then number + 1 else number) isBlank rest

/-- Writes files after each other. A file that is being written cannot be read at the same time. -/
def concatenateTool : Tool := fun call t =>
  withArguments concatenateTable 1 call t fun a =>
    let all := a.has 'A'
    let manner : ShowManner :=
      ⟨a.has 'n' || a.has 'b', a.has 'b', all || a.has 'e' || a.has 'E',
        all || a.has 't' || a.has 'T', all || a.has 'e' || a.has 't' || a.has 'v', a.has 's'⟩
    let operands := inputsOf a.operands
    let isPlain := a.options.all fun o => o.letter = 'u'
    let isOutput (p : ByteText) : Bool :=
      let place? := if p = ['-'] then call.source else call.place? t p
      place?.isSome && place? = call.output
    let texts := operands.map fun p =>
      match call.operandText t p with
      | .ok text =>
        if isOutput p ∧ !text.isEmpty then
          call.complain [quotedIfNeeded p, byteText ": input file is output file"]
        else .said text
      | .error f => call.unreadable p f
    let reply := texts.foldl Reply.followedBy .quiet
    let reply := { reply with taken := call.takenBy operands }
    if isPlain then (reply, t)
    else
      let lines := manner.lines 1 false (byteLines (reply.onStream false))
      ({ reply with writes := reply.writes.filter (·.1) ++ [(false, lines)] }, t)

def teeTable : OptionTable where
  flags := [('a', "append"), ('i', "ignore-interrupts"), ('p', "")]
  valued := []
  optional := [('\x01', "output-error")]

/-- What may be done when an output cannot be written. -/
def teeChoices : List (List String) := [["warn"], ["warn-nopipe"], ["exit"], ["exit-nopipe"]]

/-- Writes the input to the output and to files. -/
def teeTool : Tool := fun call t =>
  withArguments teeTable 1 call t fun a =>
    let one (path : ByteText) (t : FileTree) : Reply × FileTree :=
      if isNowhere path then (.quiet, t)
      else if let some errors := streamPath? path then (⟨0, [(errors, call.input)], 0⟩, t)
      else
        let before := if a.has 'a' then (call.content t path).toOption.getD [] else []
        match t.write call.base (pathOf path) (bytesOf (before ++ call.input)) with
        | .ok t => (.quiet, t)
        | .error f => (call.unreadable path f, t)
    let bad? := a.options.findSome? fun o =>
      if o.letter ≠ '\x01' ∨ !o.hasValue then none
      else match choice teeChoices o.value with
        | .ok _ => none
        | .error f => some (call.badChoice "--output-error" teeChoices o.value f)
    match bad? with
    | some reply => (reply, t)
    | none =>
      let (reply, t) := eachOperand one a.operands t
      ({ reply with writes := reply.writes ++ [(false, call.input)], taken := call.input.length },
       t)

/-!
## Counting

Lines, words and bytes of files, in columns that are as wide as the largest of the numbers could be.
-/

/-- What is counted of a text. -/
structure Counts where
  lines : Nat
  words : Nat
  bytes : Nat
  longest : Nat

/-- Counts words: stretches between blanks in which something is visible. -/
def countWords (inWord : Bool) : ByteText → Nat
  | [] => 0
  | c :: s =>
    if Shell.isSpace c then countWords false s
    else if inWord || !isPlainChar c then countWords inWord s
    else countWords true s + 1

/-- The most columns that any line of a text takes; `column` is where the text begins. Tabs go to
every eighth column, and what cannot be seen takes none. -/
def widestLine (column : Nat) : ByteText → Nat
  | [] => column
  | c :: s =>
    if c = '\n' ∨ c = '\r' ∨ c = '\x0c' then max column (widestLine 0 s)
    else if c = '\t' then widestLine (column + 8 - column % 8) s
    else widestLine (if isPlainChar c then column + 1 else column) s

namespace Counts

def of (text : ByteText) : Counts :=
  ⟨(text.filter (· = '\n')).length, countWords false text, text.length, widestLine 0 text⟩

def none : Counts := ⟨0, 0, 0, 0⟩

def add (a b : Counts) : Counts :=
  ⟨a.lines + b.lines, a.words + b.words, a.bytes + b.bytes, max a.longest b.longest⟩

end Counts

/-! ### Columns -/

def countTable : OptionTable where
  flags :=
    [('c', "bytes"), ('m', "chars"), ('l', "lines"), ('L', "max-line-length"), ('w', "words")]
  valued := [('\x01', "files0-from"), ('\x02', "total")]

/-- The counts that are wanted, in columns. -/
def countColumns (a : Arguments) (c : Counts) : List Nat :=
  let isPlain := !(['c', 'm', 'l', 'L', 'w'].any a.has)
  (if isPlain || a.has 'l' then [c.lines] else []) ++
    (if isPlain || a.has 'w' then [c.words] else []) ++
    (if a.has 'm' then [c.bytes] else []) ++
    (if isPlain || a.has 'c' then [c.bytes] else []) ++
    (if a.has 'L' then [c.longest] else [])

/-- How wide the columns are. A single number needs no column, and what is no file has a wide
one. -/
def columnWidth (call : ToolCall) (t : FileTree) (columns : Nat) (operands : List ByteText) : Nat :=
  let size? (p : ByteText) : Option (Option Nat) :=
    if p = ['-'] ∨ isInputPath p then
      some (call.source.map fun place => ((t.get? place).map fun
        | .file content => content.size
        | .directory => 0).getD 0)
    else match t.lookup call.base (pathOf p) with
      | .ok (.file content) => some (some content.size)
      | .ok .directory => some none
      | .error _ => if isNowhere p then some none else none
  let sizes := operands.map size?
  if operands.length ≤ 1 ∧ columns ≤ 1 then 1
  else
    let total := sizes.foldl (fun n s => n + ((s.bind id).getD 0)) 0
    let least := if sizes.any fun s => s = some none then 7 else 1
    max least (decimalText total).length

/-! ### The tool -/

/-- When sums are written. -/
inductive SumChoice where
  | ifSeveral
  | always
  | alone
  | never
deriving DecidableEq, Repr

def sumChoices : List (List String) := [["auto"], ["always"], ["only"], ["never"]]

/-- What is counted: operands, with the name of the list that they come from, if it is one. -/
structure CountSources where
  paths : List ByteText
  list : Option ByteText

/-- The operands, or what a file lists. -/
def countSources (call : ToolCall) (t : FileTree) (a : Arguments) : Except Reply CountSources :=
  match a.value? '\x01', a.operands with
  | none, operands => .ok ⟨inputsOf operands, none⟩
  | some _, one :: _ =>
    .error (call.usage [byteText "extra operand ", shellQuoted one,
      byteText "\nfile operands cannot be combined with --files0-from"])
  | some list, [] =>
    match call.operandText t list with
    | .ok text => .ok ⟨linesEndedBy '\x00' text, some list⟩
    | .error f =>
      .error (call.complain [byteText "cannot open ", shellQuoted list,
        byteText " for reading: ", f.text])

/-- Counts what is in one source; `number` is its place in a list. -/
def countOne (call : ToolCall) (t : FileTree) (sources : CountSources) (path : ByteText)
    (number : Nat) : Except Reply Counts × Option Counts :=
  match path, sources.list with
  | [], none => (.error (call.complain [byteText "invalid zero-length file name"]), none)
  | [], some list =>
    (.error (call.complain [quotedIfNeeded list, [':'], decimalText number,
      byteText ": invalid zero-length file name"]), none)
  | path, _ =>
    match call.operandText t path with
    | .ok text => (.ok (Counts.of text), none)
    | .error .isADirectory => (.error (call.unreadable path .isADirectory), some .none)
    | .error f => (.error (call.unreadable path f), none)

/-- Counts lines, words and bytes. -/
def countTool : Tool := fun call t =>
  withArguments countTable 1 call t fun a =>
    let whenText := (a.value? '\x02').getD (byteText "auto")
    match choice sumChoices whenText, countSources call t a with
    | .error f, _ => (call.badChoice "--total" sumChoices whenText f, t)
    | .ok _, .error reply => (reply, t)
    | .ok n, .ok sources =>
      let sums := ([.ifSeveral, .always, .alone, .never] : List SumChoice).getD n .ifSeveral
      let columns := (countColumns a .none).length
      let isListed : Bool := sources.list.any fun list => list = ['-'] && call.source.isNone
      let width := if sums = .alone || isListed then 1
        else columnWidth call t columns sources.paths
      let line (name : ByteText) (c : Counts) : ByteText :=
        let cells := (countColumns a c).map fun n => padText width false false [] (decimalText n)
        [' '].intercalate cells ++ (if name.isEmpty then [] else ' ' :: name) ++ ['\n']
      let isUnnamed : Bool := a.operands.isEmpty && sources.list.isNone
      let step (state : Reply × Counts) (source : ByteText × Nat) : Reply × Counts :=
        let (sofar, sum) := state
        let (path, n) := source
        let name := if isUnnamed then [] else path
        match countOne call t sources path (n + 1) with
        | (.ok c, _) => (sofar.followedBy (.said (line name c)), sum.add c)
        | (.error reply, some c) =>
          ((sofar.followedBy reply).followedBy (.said (line name c)), sum)
        | (.error reply, none) => (sofar.followedBy reply, sum)
      let (reply, sum) := sources.paths.zipIdx.foldl step (.quiet, .none)
      let isSummed : Bool := match sums with
        | .ifSeveral => sources.paths.length > 1
        | .always | .alone => true
        | .never => false
      let reply := if sums = .alone then { reply with writes := reply.writes.filter (·.1) }
        else reply
      let title := if sums = .alone then [] else byteText "total"
      let reply := if isSummed then reply.followedBy (.said (line title sum)) else reply
      ({ reply with taken := call.takenBy (sources.list.toList ++ sources.paths) }, t)

/-!
## Beginnings and ends

The first or last lines or bytes of files. A count leaves out what it counts instead of asking for
it where it is taken from the other side.
-/

/-- The lines of a text with any character at the end of each of them, which is kept. -/
def linesWith (finish : Char) : ByteText → List ByteText
  | [] => []
  | c :: s =>
    if c = finish then [c] :: linesWith finish s
    else match linesWith finish s with
      | line :: rest => (c :: line) :: rest
      | [] => [[c]]

/-- Which part of a file is wanted. -/
structure PartWanted where
  /-- Whether bytes are counted, and not lines. -/
  bytes : Bool
  count : Nat
  /-- Whether the count is that of what is left out. -/
  isRest : Bool
  finish : Char

namespace PartWanted

/-- The units of a text. -/
def units (w : PartWanted) (text : ByteText) : List ByteText :=
  if w.bytes then text.map ([·]) else linesWith w.finish text

/-- The beginning of a text; without so many units from its end where the count is that of the
rest. -/
def head (w : PartWanted) (text : ByteText) : ByteText :=
  let units := w.units text
  (units.take (if w.isRest then units.length - w.count else w.count)).flatten

/-- The end of a text; from a unit on where the count is that of the rest. -/
def tail (w : PartWanted) (text : ByteText) : ByteText :=
  let units := w.units text
  (units.drop (if w.isRest then w.count - 1 else units.length - w.count)).flatten

end PartWanted

/-- Which of two ends a tool is about. -/
inductive FileEnd where
  | front
  | back
deriving DecidableEq, Repr

/-! ### Options -/

/-- Digits count as options, so that they can be refused where they mean nothing. -/
def digitFlags : List (Char × String) := "0123456789".toList.map fun c => (c, "")

def frontTable : OptionTable where
  flags := [('q', "quiet"), ('q', "silent"), ('v', "verbose"), ('z', "zero-terminated"),
    ('\x03', "-presume-input-pipe")] ++ digitFlags
  valued := [('n', "lines"), ('c', "bytes")]

def backTable : OptionTable where
  flags := [('q', "quiet"), ('q', "silent"), ('v', "verbose"), ('z', "zero-terminated"), ('f', ""),
    ('F', ""), ('\x02', "retry"), ('\x03', "-presume-input-pipe")] ++ digitFlags
  valued := [('n', "lines"), ('c', "bytes"), ('s', "sleep-interval"), ('\x04', "pid"),
    ('\x05', "max-unchanged-stats")]
  optional := [('\x06', "follow")]

/-- The letters that counts may have. -/
def partLetters : String := "bkKmMGTPEZYRQ"

/-- Letters behind a count that is given without an option: which options they stand for, and the
letter that multiplies. -/
def oldFrontLetters (multiplier : ByteText) (isLines : Bool) (others : List ByteText) :
    ByteText → Except Char (List ByteText × Bool × ByteText)
  | [] => .ok (others, isLines, multiplier)
  | c :: rest =>
    if c = 'c' then oldFrontLetters [] false others rest
    else if ['b', 'k', 'm'].contains c then oldFrontLetters [c] false others rest
    else if c = 'l' then oldFrontLetters multiplier true others rest
    else if ['q', 'v', 'z'].contains c then
      oldFrontLetters multiplier isLines (others ++ [['-', c]]) rest
    else .error c

/-- Arguments with a count that is given without an option replaced by the option that it means. -/
def withFrontCount (args : List ByteText) : Except Char (List ByteText) :=
  match args with
  | ('-' :: c :: cs) :: rest =>
    if !c.isDigit then .ok args
    else
      let digits := (c :: cs).takeWhile (·.isDigit)
      match oldFrontLetters [] true [] ((c :: cs).drop digits.length) with
      | .error letter => .error letter
      | .ok (others, isLines, multiplier) =>
        let option := if isLines then ['-', 'n'] else ['-', 'c']
        .ok (others ++ option :: (digits ++ multiplier) :: rest)
  | args => .ok args

/-- Arguments with a count that is given without an option replaced by the option that it means.
Besides it there may be one operand. -/
def withBackCount (args : List ByteText) : List ByteText :=
  let isAlone (rest : List ByteText) : Bool := match rest with
    | [] => true
    | [['-', '-']] | [['-', '-'], _] => true
    | [operand] => operand = ['-'] || operand.head? ≠ some '-'
    | _ => false
  match args with
  | (sign :: cs) :: rest =>
    let digits := cs.takeWhile (·.isDigit)
    let suffix := cs.drop digits.length
    let option? : Option (ByteText × ByteText) := match suffix with
      | [] | ['l'] => some (['-', 'n'], digits)
      | ['c'] => some (['-', 'c'], digits)
      | ['b'] => some (['-', 'c'], digits ++ ['b'])
      | _ => none
    let isCount : Bool := (sign = '+' || sign = '-') && isAlone rest &&
      !(sign = '-' && (cs.isEmpty || cs = ['c']))
    match isCount, option? with
    | true, some (option, count) =>
      let count := if digits.isEmpty then (if suffix = ['b'] then byteText "5120" else ['1', '0'])
        else count
      option :: (if sign = '+' then '+' :: count else count) :: rest
    | _, _ => args
  | _ => args

/-- The part that an option asks for. -/
def readPart (side : FileEnd) (call : ToolCall) (finish : Char) (o : GivenOption) :
    Except Reply PartWanted :=
  let isRest : Bool := o.value.head? = some (if side = .front then '-' else '+')
  let digits := if o.value.head? = some '-' then o.value.drop 1 else o.value
  match readSize partLetters digits with
  | .ok n => .ok ⟨o.letter = 'c', n, isRest, finish⟩
  | .error f =>
    let what := if o.letter = 'c' then "invalid number of bytes: " else "invalid number of lines: "
    .error (call.complain [byteText what, wordQuoted digits, byteText f.reason])

/-- What is wrong with the value of an option. -/
def partOptionFault? (side : FileEnd) (call : ToolCall) (o : GivenOption) : Option Reply :=
  let isNumber (s : ByteText) : Bool := !s.isEmpty && s.all fun c => c.isDigit
  let isTime : Bool := isNumber (o.value.filter (· ≠ '.'))
  let bad (what : String) : Option Reply :=
    some (call.complain [byteText ("invalid " ++ what ++ ": "), wordQuoted o.value])
  match o.letter with
  | 'n' | 'c' => match readPart side call '\n' o with
    | .error reply => some reply
    | .ok _ => none
  | 's' => if isTime then none else bad "number of seconds"
  | '\x04' => if isNumber o.value then none else bad "PID"
  | '\x05' => if isNumber o.value then none
    else bad "maximum number of unchanged stats between opens"
  | c =>
    if !c.isDigit then none
    else if side = .front then some (call.usage [byteText "invalid trailing option -- ", [c]])
    else some (call.complain [byteText "option used in invalid context -- ", [c]])

/-- What is said of options that make no difference. -/
def uselessOptions (call : ToolCall) (a : Arguments) : Reply :=
  let follows : Bool := ['f', 'F', '\x06'].any a.has
  let warn (given : Bool) (text : String) : Reply :=
    if given && !follows then { call.complain [byteText text] with status := 0 } else .quiet
  (warn (a.has '\x02') "warning: --retry ignored; --retry is useful only when following").followedBy
    (warn (a.has '\x04') "warning: PID ignored; --pid=PID is useful only when following")

/-! ### The tools -/

/-- How many bytes are read from something that is no file at a time. -/
def readBlock : Nat := 8192

/-- Whether nothing is wanted, so that nothing is read. -/
def PartWanted.wantsNothing (w : PartWanted) : Bool := w.count = 0 && !w.isRest

/-- How much of its input a tool takes that wanted a part of it. From a file it takes what it
writes; otherwise it takes blocks until it has seen enough. -/
def PartWanted.takes (w : PartWanted) (side : FileEnd) (call : ToolCall) (part : ByteText) : Nat :=
  if side = .back then call.input.length
  else if call.source.isSome ∨ (w.bytes ∧ !w.isRest) then part.length
  else if w.isRest then call.input.length
  else min call.input.length ((part.length + readBlock - 1) / readBlock * readBlock)

/-- What has been said so far, what is left of the input, and whether a title has been written. -/
structure PartState where
  reply : Reply
  call : ToolCall
  isTitled : Bool

/-- Writes the part of one operand. -/
def PartWanted.one (w : PartWanted) (side : FileEnd) (titled : Bool) (t : FileTree) (s : PartState)
    (path : ByteText) : PartState :=
  let name := if path = ['-'] then byteText "standard input" else path
  let title : Reply := if !titled then .quiet
    else .said (joinText [if s.isTitled then ['\n'] else [], byteText "==> ", name,
      byteText " <==\n"])
  let goOn (reply : Reply) (isTitled : Bool) : PartState :=
    ⟨s.reply.followedBy reply, s.call.after reply, isTitled⟩
  match s.call.operandText t path with
  | .ok text =>
    let part := if side = .front then w.head text else w.tail text
    let taken := if path = ['-'] ∨ isInputPath path then w.takes side s.call part else 0
    goOn (title.followedBy { Reply.said part with taken }) true
  | .error .isADirectory =>
    let complaint : Reply := if w.wantsNothing then .quiet
      else s.call.about "error reading" path .isADirectory
    goOn (title.followedBy complaint) true
  | .error f =>
    goOn (s.call.complain [byteText "cannot open ", shellQuoted path, byteText " for reading: ",
      f.text]) s.isTitled

/-- Writes a part of each file, under its name if there are several. -/
def partTool (side : FileEnd) : Tool := fun call t =>
  let args := if side = .front then withFrontCount call.args else .ok (withBackCount call.args)
  match args with
  | .error c => (call.usage [byteText "invalid trailing option -- ", [c]], t)
  | .ok args =>
    let table := if side = .front then frontTable else backTable
    withArguments table 1 { call with args } t fun a =>
      let finish := if a.has 'z' then '\x00' else '\n'
      let given? := a.options.reverse.find? fun o => o.letter = 'n' || o.letter = 'c'
      let wanted : Except Reply PartWanted :=
        given?.elim (.ok ⟨false, 10, false, finish⟩) (readPart side call finish)
      match a.options.findSome? (partOptionFault? side call), wanted with
      | some reply, _ | none, .error reply => (reply, t)
      | none, .ok w =>
        let operands := inputsOf a.operands
        let last := (a.options.filter fun o => o.letter = 'q' || o.letter = 'v').getLast?
        let titled : Bool := match last with
          | some o => o.letter = 'v'
          | none => operands.length > 1
        let start : PartState := ⟨uselessOptions call a, call, false⟩
        if side = .back ∧ w.wantsNothing ∧ !(['f', 'F', '\x06'].any a.has) then (start.reply, t)
        else
          let s := operands.foldl (w.one side titled t) start
          (s.reply, t)

def headTool : Tool := partTool .front

def tailTool : Tool := partTool .back

end KernelLink
