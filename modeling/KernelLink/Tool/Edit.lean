import KernelLink.Tool.EditScript
import KernelLink.Tool.Lines

/-!
# Editing lines

The stream editor reads a line, runs its script on it and writes what has become of it. Text that is
added behind a line waits until the line has been written.
-/

namespace KernelLink.Edit

/-- How far a range of lines has been followed. -/
inductive RangeState where
  | waiting
  /-- Inside, up to a line number if that is known. -/
  | inside (last : Option Nat)

/-- A line with whether a newline ends it, and the file that it comes from. -/
structure Line where
  text : ByteText
  complete : Bool
  file : ByteText

/-- What is met while files are read one after the other. -/
inductive Entry where
  | line (l : Line)
  /-- A file begins that is edited for itself. -/
  | newFile
  /-- A file cannot be read; what is said about that, and whether the run ends with it. -/
  | unreadable (said : ByteText) (stops : Bool)

/-- Where something is written. -/
inductive Channel where
  /-- Where the edited lines go. -/
  | result
  | output
  | errors
deriving DecidableEq

structure State where
  /-- What is to come. -/
  input : List Entry
  number : Nat
  space : ByteText
  /-- Whether a newline ended the line. -/
  complete : Bool
  /-- The file that the line comes from. -/
  file : ByteText
  held : ByteText
  heldComplete : Bool
  /-- What was written, the last first. -/
  output : List (Channel × ByteText)
  /-- The files whose last line was written without a newline, because it had none; none stands for
  the edited lines. -/
  unfinished : List (Option ByteText)
  queue : List ByteText
  ranges : List (Nat × RangeState)
  replaced : Bool
  lastRegex : Option Regex
  tree : FileTree
  /-- What goes to the end of files when the run is over, the last first. -/
  unwritten : List (ByteText × ByteText)
  /-- What is left of the files that are read line by line. -/
  sources : List (ByteText × List Line)
  /-- Whether a file could not be read. -/
  failed : Bool

/-- The state before the first line of a file that is edited for itself. -/
def State.atNewFile (s : State) : State :=
  { s with number := 0, ranges := [], held := [], sources := [] }

/-- Why a script stops in the middle. -/
inductive EditFault where
  /-- The last expression is asked for, but there is none. -/
  | noRegex
  /-- A directory is to be read. -/
  | noLines

abbrev EditM := ExceptT EditFault (StateM State)

/-- How a script goes on behind a command. -/
inductive Flow where
  | onward
  | goTo (place : Nat)
  /-- The line is done and is written. -/
  | endLine
  /-- The line is done and is not written. -/
  | dropLine
  /-- The script begins again without reading a line. -/
  | again
  /-- The line is done, and it is the last one. -/
  | finish (status : Nat)
  | stop (status : Nat)

/-- What surrounds a run. -/
structure Surroundings where
  isQuiet : Bool
  separator : Char
  /-- How wide lines are where everything is to be seen. -/
  width : Nat
  read : FileTree → ByteText → Option ByteText
  /-- Runs a command of the shell. -/
  run : ByteText → FileTree → Reply × FileTree

/-! ## Writing -/

/-- Writes text as it is to the edited lines or to a file. -/
def emit (target : Option ByteText) (text : ByteText) : EditM Unit :=
  modify fun s =>
    match target with
    | none => { s with output := (.result, text) :: s.output }
    | some path =>
      match String.ofList path with
      | "/dev/stdout" => { s with output := (.output, text) :: s.output }
      | "/dev/stderr" => { s with output := (.errors, text) :: s.output }
      | _ => { s with unwritten := (path, text) :: s.unwritten }

/-- Writes the newline that the last line lacks. -/
def finishLine (around : Surroundings) (target : Option ByteText) : EditM Unit := do
  let unfinished := (← get).unfinished
  if unfinished.contains target then
    emit target [around.separator]
    modify fun s => { s with unfinished := unfinished.filter (· ≠ target) }

/-- Writes a line. -/
def putLine (around : Surroundings) (target : Option ByteText) (text : ByteText)
    (complete : Bool) : EditM Unit := do
  finishLine around target
  emit target (if complete then text ++ [around.separator] else text)
  if !complete then modify fun s => { s with unfinished := target :: s.unfinished }

/-- Writes text behind whole lines. -/
def putText (around : Surroundings) (text : ByteText) : EditM Unit := do
  finishLine around none
  emit none text

/-- Writes text that a command brings with it; its end is that of a line. -/
def putOwn (around : Surroundings) (text : ByteText) : EditM Unit :=
  if text.isEmpty then finishLine around none else putLine around none text.dropLast true

def putSpace (around : Surroundings) (target : Option ByteText) : EditM Unit := do
  let s ← get
  putLine around target s.space s.complete

/-- Writes the first line of the space. -/
def putFirst (around : Surroundings) (target : Option ByteText) : EditM Unit := do
  let s ← get
  let first := s.space.takeWhile (· ≠ around.separator)
  putLine around target first (s.complete || first.length < s.space.length)

/-- Writes what waits behind a line. -/
def flushQueue (around : Surroundings) : EditM Unit := do
  let waiting := (← get).queue
  modify fun s => { s with queue := [] }
  waiting.forM (putText around)

/-- Runs a command and gives what it wrote. -/
def runCommand (around : Surroundings) (command : ByteText) : EditM ByteText := do
  let s ← get
  let (reply, tree) := around.run command s.tree
  let errors := reply.onStream true
  set { s with
    tree, output := if errors.isEmpty then s.output else (.errors, errors) :: s.output }
  pure (reply.onStream false)

/-- Runs the line as a command; what that writes takes its place. -/
def runSpace (around : Surroundings) : EditM Unit := do
  let text ← runCommand around (← get).space
  let line := if text.getLast? = some around.separator then text.dropLast else text
  modify fun s => { s with space := line }

/-- Says that a file cannot be read. -/
def refuse (said : ByteText) (stops : Bool) (rest : List Entry) : EditM Unit := do
  modify fun s => { s with
    input := rest, failed := true, output := (.errors, said) :: s.output }
  if stops then throw .noLines

def takeLineFrom : List Entry → EditM (Option ByteText)
  | [] => do
    modify fun s => { s with input := [] }
    pure none
  | .line l :: rest => do
    modify fun s => { s with
      input := rest, number := s.number + 1, complete := l.complete, file := l.file
      replaced := false }
    pure (some l.text)
  | .newFile :: rest => do
    modify State.atNewFile
    takeLineFrom rest
  | .unreadable said stops :: rest => do
    refuse said stops rest
    takeLineFrom rest

/-- Reads the next line, if there is one. -/
def takeLine : EditM (Option ByteText) := do takeLineFrom (← get).input

def isAtEndOf : List Entry → EditM Bool
  | .unreadable said stops :: rest => do
    refuse said stops rest
    isAtEndOf rest
  | .line _ :: _ => pure false
  | _ => pure true

/-- Whether there is no line behind this one; files that begin for themselves do not count. -/
def isAtEnd : EditM Bool := do isAtEndOf (← get).input

/-! ## Addresses -/

def LinePattern.subject (p : LinePattern) (s : ByteText) : Regex.Subject :=
  ⟨s.toArray, p.ignoresCase, p.hasLines⟩

/-- The expression that a pattern means. -/
def regexOf (p : LinePattern) : EditM Regex := do
  match p.regex with
  | some r =>
    modify fun s => { s with lastRegex := some r }
    pure r
  | none =>
    match (← get).lastRegex with
    | some r => pure r
    | none => throw .noRegex

def isAt (a : Address) : EditM Bool := do
  let s ← get
  match a with
  | .line n => pure (s.number = max n 1)
  | .every first step =>
    pure (if step = 0 then s.number = first else first ≤ s.number && (s.number - first) % step = 0)
  | .last => isAtEnd
  | .fits p => do pure ((← regexOf p).find? (p.subject s.space) 0).isSome

def setRange (place : Nat) (r : RangeState) : EditM Unit :=
  modify fun s => { s with ranges := (place, r) :: s.ranges.filter (·.1 ≠ place) }

/-- Whether a line in a range is the last one of it, and whether it is still in it. -/
def leavesRange (finish : RangeEnd) (known : Option Nat) : EditM (Bool × Bool) := do
  let n := (← get).number
  match finish, known with
  | .at (.fits p), _ => do pure (← isAt (.fits p), true)
  | .at .last, _ => do pure (← isAt .last, true)
  | _, some final => pure (decide (final ≤ n), decide (n ≤ final))
  | .at a, none => do pure (← isAt a, true)
  | _, none => pure (true, true)

/-- Whether a range begins with the line; a range may end with its first line. -/
def beginsRange (place : Nat) (finish : RangeEnd) : EditM Unit := do
  let n := (← get).number
  let inside (final : Nat) : EditM Unit :=
    if n < final then setRange place (.inside (some final)) else pure ()
  match finish with
  | .at (.line final) => inside final
  | .after count => inside (n + count)
  | .multiple m => inside (if m = 0 then n else (n / m + 1) * m)
  | .at _ => setRange place (.inside none)

def isFor (place : Nat) : Lines → EditM Bool
  | .all => pure true
  | .one a => isAt a
  | .range first finish => do
    let s ← get
    let state? := (s.ranges.find? (·.1 = place)).map (·.2)
    let fromStart : Bool := match first, state? with
      | .line 0, none => true
      | _, _ => false
    let state : RangeState := if fromStart then .inside none else state?.getD .waiting
    match state with
    | .inside known => do
      let (leaves, belongs) ← leavesRange finish known
      setRange place (if leaves then .waiting else .inside known)
      pure belongs
    | .waiting => do
      if ← isAt first then
        beginsRange place finish
        pure true
      else pure false

/-! ## Substitutions -/

/-- Text in the case that was asked for. -/
def inCase (lasting once : CaseChange) (s : ByteText) : ByteText :=
  let all := match lasting with
    | .upper => s.map Char.toUpper
    | .lower => s.map Char.toLower
    | _ => s
  match once, all with
  | .nextUpper, c :: rest => c.toUpper :: rest
  | .nextLower, c :: rest => c.toLower :: rest
  | _, all => all

/-- The text that replaces a match. -/
def replacementText (line : ByteText) (m : Regex.Match) (lasting once : CaseChange) :
    List Replacement → ByteText
  | [] => []
  | .case c :: rest =>
    match c with
    | .nextUpper | .nextLower => replacementText line m lasting c rest
    | c => replacementText line m c .none rest
  | .text s :: rest =>
    inCase lasting once s ++ replacementText line m lasting (if s.isEmpty then once else .none) rest
  | .group n :: rest =>
    let place? := if n = 0 then some (m.first, m.last)
      else (m.groups.find? (·.1 = n)).map (·.2)
    let s := match place? with
      | some (first, last) => (line.drop first).take (last - first)
      | none => []
    inCase lasting once s ++ replacementText line m lasting (if s.isEmpty then once else .none) rest

/-- Replaces matches from a place on; `count` is how many came before, and `before` where the last
one ended. The result says whether anything was replaced. -/
def replaceFrom (x : Substitution) (r : Regex) (line : ByteText) :
    (most : Nat) → (start count : Nat) → (before : Option Nat) → ByteText × Bool
  | 0, start, _, _ => (line.drop start, false)
  | most + 1, start, count, before =>
    let s := x.pattern.subject line
    match r.find? s start with
    | none => (line.drop start, false)
    | some m =>
      let skipped := (line.drop start).take (m.first - start)
      let oneMore := (line.drop m.last).take 1
      let goOn (front : ByteText) (count : Nat) (done : Bool) : ByteText × Bool :=
        if m.last = m.first then
          if line.length ≤ m.last then (front, done)
          else
            let (rest, more) := replaceFrom x r line most (m.last + 1) count (some m.last)
            (front ++ oneMore ++ rest, done || more)
        else
          let (rest, more) := replaceFrom x r line most m.last count (some m.last)
          (front ++ rest, done || more)
      if m.last = m.first ∧ before = some m.first then goOn skipped count false
      else if count + 1 < x.number then
        goOn (skipped ++ (line.drop m.first).take (m.last - m.first)) (count + 1) false
      else
        let front := skipped ++ replacementText line m .none .none x.replacement
        if x.isGlobal then goOn front (count + 1) true else (front ++ line.drop m.last, true)

def substitute (around : Surroundings) (x : Substitution) : EditM Unit := do
  let r ← regexOf x.pattern
  let line := (← get).space
  let (after, done) := replaceFrom x r line (line.length + 2) 0 0 none
  if done then
    modify fun s => { s with space := after, replaced := true }
    if x.prints && x.printsFirst then putSpace around none
    if x.runs then runSpace around
    if x.prints && !x.printsFirst then putSpace around none
    match x.file with
    | some path => putSpace around (some path)
    | none => pure ()

/-! ## Commands -/

/-- A character as it is shown where everything is to be seen. -/
def shownChar (c : Char) : ByteText :=
  match c with
  | '\\' => ['\\', '\\']
  | '\x07' => ['\\', 'a']
  | '\x08' => ['\\', 'b']
  | '\x0c' => ['\\', 'f']
  | '\n' => ['\\', 'n']
  | '\r' => ['\\', 'r']
  | '\t' => ['\\', 't']
  | '\x0b' => ['\\', 'v']
  | c => if isPlainChar c then [c] else shellEscape c

/-- Text with everything to be seen and its end, in lines of a width, or in one if that is zero;
`done` is how much of the line has been written. -/
def visibleText (width done : Nat) : ByteText → ByteText
  | [] => ['$']
  | c :: s =>
    let shown := shownChar c
    if width ≠ 0 ∧ width - 1 < done + shown.length then
      ['\\', '\n'] ++ shown ++ visibleText width shown.length s
    else shown ++ visibleText width (done + shown.length) s

/-- The lines of a file. -/
def fileLines (separator : Char) (file text : ByteText) : List Line :=
  let parts := splitAtEach separator text
  let whole := parts.dropLast.map fun line => ⟨line, true, file⟩
  match parts.getLast? with
  | some [] | none => whole
  | some line => whole ++ [⟨line, false, file⟩]

/-- The next line of a file that is read line by line. -/
def nextLineOf (around : Surroundings) (path : ByteText) : EditM (Option Line) := do
  let s ← get
  let left := match s.sources.find? (·.1 = path) with
    | some (_, left) => left
    | none => fileLines around.separator path ((around.read s.tree path).getD [])
  let others := s.sources.filter (·.1 ≠ path)
  set { s with sources := (path, left.drop 1) :: others }
  pure left.head?

/-- Adds the next line to the space; without one the line is done. -/
def addNext (around : Surroundings) : EditM Flow := do
  if ← isAtEnd then pure .endLine
  else
    flushQueue around
    match ← takeLine with
    | some line =>
      modify fun s => { s with space := s.space ++ around.separator :: line }
      pure .onward
    | none => pure .endLine

def runAction (around : Surroundings) (place : Nat) (c : Command) : EditM Flow := do
  match c.action with
  | .block _ | .nothing => pure .onward
  | .append text =>
    modify fun s => { s with queue := s.queue ++ [text] }
    pure .onward
  | .insert text =>
    putOwn around text
    pure .onward
  | .change text => do
    let isInside := match (← get).ranges.find? (·.1 = place) with
      | some (_, .inside _) => true
      | _ => false
    if !isInside then putOwn around text
    pure .dropLine
  | .jump place => pure (.goTo place)
  | .jumpIfReplaced wanted place => do
    let replaced := (← get).replaced
    modify fun s => { s with replaced := false }
    pure (if replaced = wanted then .goTo place else .onward)
  | .delete => pure .dropLine
  | .deleteFirst => do
    let space := (← get).space
    if space.contains around.separator then
      modify fun s => { s with space := (space.dropWhile (· ≠ around.separator)).drop 1 }
      pure .again
    else pure .dropLine
  | .getHold adds =>
    modify fun s =>
      { s with
        space := if adds then s.space ++ around.separator :: s.held else s.held
        complete := s.heldComplete }
    pure .onward
  | .hold adds =>
    modify fun s =>
      { s with
        held := if adds then s.held ++ around.separator :: s.space else s.space
        heldComplete := s.complete }
    pure .onward
  | .exchange =>
    modify fun s => { s with
      space := s.held, complete := s.heldComplete, held := s.space, heldComplete := s.complete }
    pure .onward
  | .next => do
    if ← isAtEnd then pure .endLine
    else
      if !around.isQuiet then putSpace around none
      flushQueue around
      match ← takeLine with
      | some line =>
        modify fun s => { s with space := line }
        pure .onward
      | none => pure .endLine
  | .nextAdded => addNext around
  | .print =>
    putSpace around none
    pure .onward
  | .printFirst => do
    putFirst around none
    pure .onward
  | .printNumber => do
    putLine around none (decimalText (← get).number) true
    pure .onward
  | .printVisible width => do
    putLine around none (visibleText (width.getD around.width) 0 (← get).space) true
    pure .onward
  | .printName => do
    putLine around none (← get).file true
    pure .onward
  | .quit finishes status => pure (if finishes then .finish status else .stop status)
  | .readFile path => do
    let text := (around.read (← get).tree path).getD []
    modify fun s => { s with queue := s.queue ++ [text] }
    pure .onward
  | .showFile path => do
    putText around ((around.read (← get).tree path).getD [])
    pure .onward
  | .readLine path => do
    match ← nextLineOf around path with
    | some line =>
      let text := if line.complete then line.text ++ [around.separator] else line.text
      modify fun s => { s with queue := s.queue ++ [text] }
    | none => pure ()
    pure .onward
  | .writeFile path => do
    putSpace around (some path)
    pure .onward
  | .writeFirst path => do
    putFirst around (some path)
    pure .onward
  | .substitute x =>
    substitute around x
    pure .onward
  | .translate pairs =>
    modify fun s => { s with space := s.space.map fun c =>
      ((pairs.find? (·.1 = c)).map (·.2)).getD c }
    pure .onward
  | .clear =>
    modify fun s => { s with space := [] }
    pure .onward
  | .run command => do
    finishLine around none
    emit none (← runCommand around command)
    pure .onward
  | .runLine => do
    runSpace around
    modify fun s => { s with complete := true }
    pure .onward

/-! ## Runs -/

/-- Runs a script on the line in the space. -/
def runScript (around : Surroundings) (script : Array Command) : (most : Nat) → Nat → EditM Flow
  | 0, _ => pure .endLine
  | most + 1, place => do
    match script[place]? with
    | none => pure .endLine
    | some c =>
      if (← isFor place c.lines) != c.negated then
        match ← runAction around place c with
        | .onward => runScript around script most (place + 1)
        | .goTo target => runScript around script most target
        | flow => pure flow
      else
        match c.action with
        | .block finish => runScript around script most finish
        | _ => runScript around script most (place + 1)

/-- How many steps a run takes at most. -/
def stepLimit : Nat := 1000000

/-- Edits lines until there are none or the script quits; the result is the status if it does. -/
def runLines (around : Surroundings) (script : Array Command) : (most : Nat) → (reads : Bool) →
    EditM (Option Nat)
  | 0, _ => pure none
  | most + 1, reads => do
    let line? ← if reads then takeLine else do pure (some (← get).space)
    match line? with
    | none => pure none
    | some line => do
      modify fun s => { s with space := line }
      match ← runScript around script stepLimit 0 with
      | .dropLine =>
        flushQueue around
        runLines around script most true
      | .again => runLines around script most false
      | .finish status =>
        if !around.isQuiet then putSpace around none
        finishLine around none
        flushQueue around
        pure (some status)
      | .stop status => pure (some status)
      | _ =>
        if !around.isQuiet then putSpace around none
        flushQueue around
        runLines around script most true

def State.start (tree : FileTree) : State where
  input := []
  number := 0
  space := []
  complete := true
  file := ['-']
  held := []
  heldComplete := true
  output := []
  unfinished := []
  queue := []
  ranges := []
  replaced := false
  lastRegex := none
  tree
  unwritten := []
  sources := []
  failed := false

/-- Edits lines and gives what was written, and how that ended early if it did. -/
def runAll (around : Surroundings) (script : Array Command) (s : State) (input : List Entry) :
    List (Channel × ByteText) × Except EditFault (Option Nat) × State :=
  let size := input.foldl (fun n entry => match entry with
    | .line l => n + l.text.length + 1
    | _ => n) 0
  let (status, s) := (runLines around script (2 * size + 2) true).run.run
    { s with input, output := [], unfinished := s.unfinished.filter (·.isSome) }
  (s.output.reverse, status, s)

/-- What goes to the two streams of a program. Unless each line is written at once, lines come
behind all that is said about errors. -/
def streamsOf (isPrompt : Bool) (out : List (Channel × ByteText)) : List (Bool × ByteText) :=
  let all := out.map fun (channel, text) => (channel = .errors, text)
  if isPrompt then all else all.filter (·.1) ++ all.filter (!·.1)

end KernelLink.Edit

namespace KernelLink

open Edit

def editTable : OptionTable where
  flags :=
    [('E', "regexp-extended"), ('r', "regexp-extended"), ('\x03', "debug"),
     ('\x05', "follow-symlinks"), ('z', "null-data"), ('n', "quiet"), ('\x02', "posix"),
     ('\x01', "silent"), ('\x04', "sandbox"), ('s', "separate"), ('u', "unbuffered")]
  valued := [('e', "expression"), ('f', "file"), ('l', "line-length")]

/-- Whether an argument asks for files to be edited in place, and the end of the names of their
copies. -/
def inPlace? (arg : ByteText) : Option ByteText :=
  match arg with
  | '-' :: 'i' :: suffix => some suffix
  | '-' :: '-' :: _ =>
    if arg = byteText "--in-place" then some []
    else if (byteText "--in-place=").isPrefixOf arg then some (arg.drop 11)
    else none
  | _ => none

/-- Arguments without those that ask for editing in place, which may stand behind other letters. -/
def withoutInPlace : List ByteText → List ByteText × Option ByteText
  | [] => ([], none)
  | arg :: rest =>
    let (args, found) := withoutInPlace rest
    match inPlace? arg, arg with
    | some suffix, _ => (args, some suffix)
    | none, ['-', c, 'i'] => if c = '-' then (arg :: args, found) else (['-', c] :: args, some [])
    | none, _ => (arg :: args, found)

/-- Writes a whole file if that is possible. -/
def ToolCall.overwrite (call : ToolCall) (path text : ByteText) (t : FileTree) : FileTree :=
  if isNowhere path || ["/dev/stdout", "/dev/stderr"].contains (String.ofList path) then t
  else (t.write call.base (pathOf path) (bytesOf text)).toOption.getD t

/-- Opens the files that a script writes, which makes them empty. The result says which file cannot
be opened, and why, if there is one. -/
def ToolCall.openWritten (call : ToolCall) (t : FileTree) :
    List ByteText → FileTree × Option (ByteText × FileFault)
  | [] => (t, none)
  | path :: rest =>
    if isStream path then call.openWritten t rest
    else match t.write call.base (pathOf path) .empty with
      | .ok t => call.openWritten t rest
      | .error f => (t, some (path, f))

/-- What is said when a script stops in the middle; `expressions` is how many it was made of. -/
def ToolCall.editFault (call : ToolCall) (expressions : Nat) : Edit.EditFault → Reply
  | .noRegex => .failed 1 (joinText [call.name, byteText ": -e expression #",
      decimalText expressions, byteText ", char 0: no previous regular expression"])
  | .noLines => .ended 4

/-- The files after a run, with all that was to be written to them. -/
def ToolCall.editedTree (call : ToolCall) (s : Edit.State) : FileTree :=
  s.unwritten.reverse.foldl (fun t (path, text) =>
    call.overwrite path ((call.content t path).toOption.getD [] ++ text) t) s.tree

/-- Edits each file in its place. -/
def editInPlace (call : ToolCall) (around : Edit.Surroundings) (script : Array Edit.Command)
    (suffix : ByteText) (expressions : Nat) (s : Edit.State) : List ByteText → Reply × Edit.State
  | [] => (.quiet, s)
  | path :: rest =>
    let refused (status : Nat) (texts : List ByteText) : Reply :=
      .failed status (joinText (call.name :: [':', ' '] :: texts))
    match call.stat s.tree path with
    | .ok (.file content) =>
      let lines := fileLines around.separator path (byteTextOf content)
      let (out, status?, after) := runAll around script s.atNewFile (lines.map .line)
      let said : Reply := ⟨0, streamsOf false (out.filter (·.1 ≠ .result)), 0⟩
      let name := if suffix.isEmpty then none
        else if suffix.contains '*' then
          let name := suffix.flatMap fun c => if c = '*' then lastName path else [c]
          some (if path.contains '/' then nameInside (directoryOf path) name else name)
        else some (path ++ suffix)
      let tree := match name with
        | some name => call.overwrite name (byteTextOf content) after.tree
        | none => after.tree
      let written := joinText ((out.filter (·.1 = .result)).map (·.2))
      let edited := { after with tree := call.overwrite path written tree }
      match status? with
      | .error f => (said.followedBy (call.editFault expressions f), after)
      | .ok (some status) => (said.followedBy (.ended status), edited)
      | .ok none =>
        let (later, s) := editInPlace call around script suffix expressions edited rest
        (said.followedBy later, s)
    | .ok .directory =>
      (refused 4 [byteText "couldn\x27t edit ", path, byteText ": not a regular file"], s)
    | .error f =>
      let said := refused 2 [byteText "can\x27t read ", path, byteText ": ", f.text]
      let (later, s) := editInPlace call around script suffix expressions s rest
      (said.followedBy later, s)

/-- What is met where a file is read. -/
def ToolCall.editEntries (call : ToolCall) (separator : Char) (t : FileTree) (path : ByteText) :
    List Edit.Entry :=
  let refused (stops : Bool) (what : String) (f : FileFault) : List Edit.Entry :=
    let said := joinText [call.name, byteText (": " ++ what ++ " "), path, byteText ": ", f.text,
      ['\n']]
    [.unreadable said stops]
  match call.operandText t path with
  | .ok text => (fileLines separator path text).map .line
  | .error .isADirectory => refused true "read error on" .isADirectory
  | .error f => refused false "can\x27t read" f

/-- Edits files one after the other, each for itself or all as one, and writes what comes of it. -/
def editThrough (call : ToolCall) (around : Edit.Surroundings) (script : Array Edit.Command)
    (separate isPrompt : Bool) (expressions : Nat) (start : Edit.State)
    (operands : List ByteText) : Reply × FileTree :=
  let input := operands.flatMap fun path =>
    let entries := call.editEntries around.separator start.tree path
    if separate then .newFile :: entries else entries
  let (out, ended, s) := runAll around script start input
  let said : Reply := ⟨0, streamsOf isPrompt out, 0⟩
  let reply := match ended with
    | .error f => said.followedBy (call.editFault expressions f)
    | .ok status? =>
      if s.failed then { said with status := 2 } else { said with status := status?.getD 0 }
  ({ reply with taken := call.takenBy operands }, call.editedTree s)

/-- What surrounds a run of the editor. -/
def ToolCall.editSurroundings (call : ToolCall) (isQuiet isZero : Bool) (width : Nat) :
    Edit.Surroundings where
  isQuiet
  separator := if isZero then '\x00' else '\n'
  width
  read t path := (call.content t path).toOption
  run command t :=
    match call.launch call.base [byteText "sh", byteText "-c", command] [] t with
    | (.ok reply, t) => (reply, t)
    | (.error _, t) => (.ended 127, t)

/-- What is said about how the editor is used, when it cannot know what to do. -/
def editUsage (name : ByteText) : ByteText :=
  let lines :=
    [" [OPTION]... \x7bscript-only-if-no-other-script\x7d [input-file]...",
     "",
     "  -n, --quiet, --silent",
     "                 suppress automatic printing of pattern space",
     "      --debug",
     "                 annotate program execution",
     "  -e script, --expression=script",
     "                 add the script to the commands to be executed",
     "  -f script-file, --file=script-file",
     "                 add the contents of script-file to the commands to be executed",
     "  --follow-symlinks",
     "                 follow symlinks when processing in place",
     "  -i[SUFFIX], --in-place[=SUFFIX]",
     "                 edit files in place (makes backup if SUFFIX supplied)",
     "  -l N, --line-length=N",
     "                 specify the desired line-wrap length for the \x60l\x27 command",
     "  --posix",
     "                 disable all GNU extensions.",
     "  -E, -r, --regexp-extended",
     "                 use extended regular expressions in the script",
     "                 (for portability use POSIX -E).",
     "  -s, --separate",
     "                 consider files as separate rather than as a single,",
     "                 continuous long stream.",
     "      --sandbox",
     "                 operate in sandbox mode (disable e/r/w commands).",
     "  -u, --unbuffered",
     "                 load minimal amounts of data from the input files and flush",
     "                 the output buffers more often",
     "  -z, --null-data",
     "                 separate lines by NUL characters",
     "      --help     display this help and exit",
     "      --version  output version information and exit",
     "",
     "If no -e, --expression, -f, or --file option is given, then the first",
     "non-option argument is taken as the sed script to interpret.  All",
     "remaining arguments are names of input files; if no input files are",
     "specified, then the standard input is read."]
  joinText [byteText "Usage: ", name, ['\n'].intercalate (lines.map byteText)]

/-- Edits files, or the input, line by line. -/
def editTool : Tool := fun call t =>
  let (args, suffix?) := withoutInPlace call.args
  match editTable.read false false args with
  | .error f =>
    let line := ((f.reply call.name 1).onStream true).takeWhile (· ≠ '\n') ++ ['\n']
    (.failed 1 (line ++ editUsage call.name), t)
  | .ok a =>
    let part (o : GivenOption) : Edit.Source :=
      if o.letter = 'e' then ⟨none, .ok o.value⟩
      else ⟨some o.value, match call.operandText t o.value with
        | .error .isADirectory => .ok []
        | text => text⟩
    let given := (a.options.filter fun o => o.letter = 'e' || o.letter = 'f').map part
    let (parts, operands) : List Edit.Source × List ByteText :=
      if given.isEmpty then
        ((a.operands.take 1).map fun text => ⟨none, .ok text⟩, a.operands.drop 1)
      else (given, a.operands)
    if parts.isEmpty then (.failed 1 (editUsage call.name), t)
    else
      let style : RegexStyle := ⟨a.has 'E' || a.has 'r', true, true⟩
      let read := Edit.readScript style (a.has '\x04') parts
      let written := match read with
        | .ok (_, written) => written
        | .error f => f.written
      let (emptied, closed?) := call.openWritten t written
      match closed?, read with
      | some (path, f), _ =>
        (.failed 4 (joinText [call.name, byteText ": couldn\x27t open file ", path,
          byteText ": ", f.text]), emptied)
      | none, .error f =>
        let reply : Reply := match f.kind with
          | .noLabel _ | .regex .bareClass | .unreadable .. =>
            .failed 4 (joinText [call.name, byteText ": ", f.kind.reason])
          | kind =>
            .failed 1 (joinText [call.name, byteText ": ", f.location parts,
              byteText ": ", kind.reason])
        (reply, emptied)
      | none, .ok (script, _) =>
        let isQuiet := a.has 'n' || a.has '\x01' ||
          parts.head?.any fun part => (byteText "#n").isPrefixOf (part.text.toOption.getD [])
        let width := (a.value? 'l').elim 70 fun s => (Shell.digitsOf 10 s).1
        let around := call.editSurroundings isQuiet (a.has 'z') width
        let start := State.start emptied
        let expressions := (parts.filter (·.file.isNone)).length
        match suffix? with
        | some suffix =>
          let (reply, s) :=
            editInPlace call around script.toArray suffix expressions start operands
          (reply, call.editedTree s)
        | none =>
          editThrough call around script.toArray (a.has 's') (a.has 'u') expressions start
            (inputsOf operands)

end KernelLink
