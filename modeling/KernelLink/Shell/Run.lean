import KernelLink.Shell.Batch
import KernelLink.Shell.Builtin
import KernelLink.Shell.Errand
import KernelLink.Shell.Grammar

/-!
# Running commands

A command leaves its status in the state of the shell. Commands contain commands, and builtins run
text as commands, so the functions here are given what runs a part of their command, and one
recursion on a bound of nesting ties them together at the end.

Whether a failing command ends the shell that was told to stop at errors depends on where it stands:
where its status is looked at it is said to be tested, and then nothing happens.
-/

namespace KernelLink.Shell

/-- What runs the parts of a command. -/
structure Runner where
  command : (tested : Bool) → Command → ShellM Unit
  /-- Runs text as commands of the same shell. -/
  script : (tested : Bool) → ByteText → (line : Nat) → ShellM Unit
  /-- Runs another shell with arguments, in a state that has been made for it. -/
  shell : List ByteText → ShellM Unit
  /-- The tools by name. -/
  tool? : ByteText → Option Tool

namespace Runner

open ShellM

variable (r : Runner)

/-! ## Traps -/

/-- Runs the commands of a trap; they do not change the status unless they end the shell. -/
def runTrap (action : ByteText) : ShellM Unit := do
  let before ← get
  set { before with resumed := some before.status }
  r.script false action 1
  modify fun s => { s with status := before.status, resumed := before.resumed }

/-- Does what was asked for when signals come that have come. -/
def runPending : ShellM Unit := do
  let waiting := (← get).pending
  modify fun s => { s with pending := [] }
  waiting.forM fun n => do
    match (← get).traps.find? (·.1 = n) with
    | some (_, action) => r.runTrap action
    | none => pure ()

/-- Runs something and then what was asked for at the end of the shell. -/
def untilEnd (m : ShellM Unit) : ShellM Unit := do
  match ← attempt m with
  | some (.signal n) => throw (.signal n)
  | _ =>
    match (← get).traps.find? (·.1 = 0) with
    | none => pure ()
    | some (_, action) =>
      let status := (← get).status
      modify fun s =>
        { s with traps := s.traps.filter (·.1 ≠ 0), resumed := some status, loops := 0 }
      match ← attempt (r.script false action 1) with
      | some (.signal n) => throw (.signal n)
      | some .exit | some .fault => pure ()
      | _ => setStatus status

/-! ## Subshells -/

/-- Delivers the signals that subshells have sent here. -/
def receive : ShellM Unit := do
  let s ← get
  if s.isSubshell then pure ()
  else
    let (mine, others) := s.sent.partition (·.1 = s.process)
    set { s with sent := others }
    mine.reverse.forM fun (_, n) => Builtin.signalSelf n

/-- The status of a process that ended in a way; the end by a signal is mentioned. -/
def endStatus (stop : Option Stop) (status : Nat) : ShellM Nat := do
  match stop with
  | some (.signal n) =>
    if n ≠ 2 ∧ n ≠ 13 then discard (write 2 (byteText (signalNotice n ++ "\n")))
    pure (128 + n)
  | _ => pure status

/-- Runs something in a subshell and gives its status. -/
def inSubshell (m : ShellM Unit) : ShellM Nat := do
  let (stop, status) ← apart (r.untilEnd m)
  let status ← endStatus stop status
  receive
  pure status

/-- Runs a command substitution. -/
def substitute : Substitute := fun script line => do
  let pipe ← openChannel (.pipe [])
  let status ← r.inSubshell do
    useStreams (·.set 1 pipe)
    r.script false script line
  modify fun s => { s with substituted := some status }
  let output := (← get).machine.remaining pipe
  modify fun s => { s with machine := s.machine.advance pipe output.length }
  pure output

/-! ## Programs -/

/-- The directories that tools are in. -/
def toolDirectories : List String := ["/bin", "/usr/bin"]

/-- How the search for a program ended. The name of a tool is not always what it is called by. -/
inductive Found where
  | tool (name path : ByteText)
  /-- A file that may be run. -/
  | script (path content : ByteText)
  | notExecutable
  | missing

/-- Looks at one path. -/
def atPath (directory name : ByteText) : ShellM Found := do
  let s ← get
  let files := s.machine.files
  let path := if directory.isEmpty then name else directory ++ '/' :: name
  if toolDirectories.contains (String.ofList directory) ∧ (r.tool? name).isSome then
    pure (.tool name path)
  else match files.lookup s.base ⟨stringOf path⟩, files.locate s.base ⟨stringOf path⟩ with
    | .ok (.file content), .ok place =>
      pure (if files.mayRun place then .script path (byteTextOf content) else .notExecutable)
    | .ok .directory, _ => pure .notExecutable
    | _, _ => pure .missing

/-- Looks at the directories of a search path. A file that may not be run counts if there is
nothing better. -/
def search (name : ByteText) : List ByteText → ShellM Found
  | [] => pure .missing
  | directory :: rest => do
    match ← r.atPath directory name with
    | .notExecutable => do
      let s ← get
      let isFile := s.machine.files.isFile s.base ⟨stringOf (directory ++ '/' :: name)⟩
      match ← search name rest with
      | .missing => pure (if isFile then .notExecutable else .missing)
      | better => pure better
    | .missing => search name rest
    | found => pure found

/-- Finds the program that a word names. -/
def find (name : ByteText) : ShellM Found := do
  if name.isEmpty then pure .missing
  else if name.contains '/' then
    let last := (name.reverse.takeWhile (· ≠ '/')).reverse
    let directory := name.take (name.length - last.length - 1)
    r.atPath directory last
  else
    match ← value? "PATH".toList with
    | some path =>
      r.search name ((splitAtEach ':' path).map fun d => if d.isEmpty then ['.'] else d)
    | none => pure .missing

/-- Finds the program that another program means, which looks in fixed places if no variable says
where to look. -/
def findFor (name : ByteText) : ShellM Found := do
  if name.contains '/' ∨ (← value? "PATH".toList).isSome then r.find name
  else r.search name (toolDirectories.map byteText)

/-- A program with its arguments: what it is, and what it is called by. -/
structure Start where
  tool : ByteText
  name : ByteText
  args : List ByteText

/-- The program that a file names on its first line, with an argument. -/
def interpreter? (content : ByteText) : Option (ByteText × List ByteText) :=
  match content with
  | '#' :: '!' :: rest =>
    let isBlank (c : Char) : Bool := c = ' ' || c = '\t'
    let line := (rest.takeWhile (· ≠ '\n')).dropWhile isBlank
    let line := (line.reverse.dropWhile isBlank).reverse
    let program := line.takeWhile fun c => !isBlank c
    let argument := (line.drop program.length).dropWhile isBlank
    if program.isEmpty then none
    else some (program, if argument.isEmpty then [] else [argument])
  | _ => none

/-- What is started when something was found under a word. A file that names no program is run by a
shell, if that is allowed. -/
def start (usesShell : Bool) : (most : Nat) → Found → (word : ByteText) → List ByteText →
    ShellM (Except FileFault Start)
  | 0, _, _, _ => pure (.error .permissionDenied)
  | most + 1, found, word, args => do
    match found with
    | .tool tool _ => pure (.ok ⟨tool, word, args⟩)
    | .notExecutable => pure (.error .permissionDenied)
    | .missing => pure (.error .notFound)
    | .script path content =>
      match interpreter? content with
      | some (program, argument) =>
        let found ← if program.contains '/' then r.find program else r.atPath [] program
        start usesShell most found program (argument ++ path :: args)
      | none =>
        if usesShell then pure (.ok ⟨byteText "sh", path, path :: args⟩)
        else pure (.error .notAProgram)

/-- The file that a stream goes to. -/
def fileBehind (stream : Nat) : ShellM (Option Location) := do
  let s ← get
  pure (match (s.streams.channel? stream).map s.machine.channel with
    | some (.file place ..) => some place
    | _ => none)

/-- Writes what a program said, and takes its status. -/
def answer (reply : Reply) : ShellM Unit := do
  reply.pieces.forM fun (errors, text) => discard (write (if errors then 2 else 1) text)
  setStatus reply.status

/-- Runs something as a program of its own: its output and its errors are collected, and only what
it did to the files stays. -/
def launcher (s : State) (run : ByteText → List ByteText → ShellM (Option FileFault)) : Launcher :=
  fun base words input files =>
    let body : ShellM (Except FileFault Reply) := do
      let channel ← openChannel (.pipe input)
      let output ← openChannel (.pipe [])
      let errors ← openChannel (.pipe [])
      useStreams fun _ => [(0, channel), (1, output), (2, errors)]
      match ← run (words.headD []) (words.drop 1) with
      | some f => pure (.error f)
      | none =>
        let s ← get
        let taken := input.length - (s.machine.remaining channel).length
        pure (.ok ⟨s.status,
          [(false, s.machine.remaining output), (true, s.machine.remaining errors)], taken⟩)
    match body.run.run { s with base, machine := { s.machine with files } } with
    | (.ok (.ok reply), after) => (.ok reply, after.machine.files)
    | (.ok (.error f), _) => (.error f, files)
    | (.error _, after) => (.ok (.ended after.status), after.machine.files)

/-- Runs a tool on the streams of the shell. -/
def useTool (run : ByteText → List ByteText → ShellM (Option FileFault)) (tool : Tool)
    (name : ByteText) (args : List ByteText) : ShellM Unit := do
  let input := (← remaining 0).getD []
  let source ← fileBehind 0
  let output ← fileBehind 1
  let s ← get
  let call : ToolCall :=
    { name, args, base := s.base, input, source, output, mask := s.mask
      valueOf? := fun name =>
        ((s.bindings.find? (·.1 = name)).filter (·.2.exported)).bind (·.2.value)
      launch := launcher s run }
  let (reply, files) := tool call s.machine.files
  let files := if s.mask = 0o22 then files else files.masked s.mask s.machine.files
  set { s with machine := { s.machine with files } }
  advance 0 reply.taken
  answer reply

/-- The state that a new shell starts in. -/
def freshState (s : State) : State :=
  { s with
    bindings := variablesFrom (s.bindings.filter (·.2.exported)) s.base
    functions := [], aliases := [], documents := [], name := byteText "sh", arguments := [],
    options := []
    status := 0, substituted := none, line := 0, speaker := none, loops := 0, locals := none
    traps := s.traps.filter (·.2.isEmpty), pending := [], background := none, resumed := none
    letters := 0, isSubshell := false, process := s.process + 2 }

/-- The signal that something was stopped by. -/
def signalOf? : Option Stop → Option Nat
  | some (.signal n) => some n
  | _ => none

/-- Runs another shell as a program. The result is the signal that ended it, if one did. -/
def runShell (name : ByteText) (args : List ByteText) : ShellM (Option Nat) := do
  let (stop, status) ← apart do
    modify fun s => { freshState s with name }
    r.untilEnd (r.shell args)
  setStatus status
  receive
  pure (signalOf? stop)

/-- Runs something with only the variables that programs see, in the order in which they see
them. -/
def withEnvironment (m : ShellM (Option Nat)) : ShellM (Option Nat) := do
  let before := (← get).bindings
  let shown ← ShellM.environment
  modify fun s =>
    { s with bindings := shown.map fun (name, value) => (name, ⟨some value, true, false⟩) }
  let result ← m
  modify fun s => { s with bindings := before }
  pure result

/-- Changes the variables and the directory as a program was asked to before it runs another one.
The result is why it cannot be done. -/
def prepare (name : ByteText) (errand : Errand) : ShellM (Option ByteText) := do
  if errand.isBare then modify fun s => { s with bindings := [] }
  errand.unset.forM fun name => put name none
  errand.set.forM fun (name, value) => put name (some ⟨some value, true, false⟩)
  modify fun s => { s with niceness := Errand.adjusted s.niceness errand.adjustment }
  discard (write 2 errand.notes)
  match errand.directory with
  | none => pure none
  | some directory =>
    let s ← get
    let path : Path := ⟨stringOf directory⟩
    let refused (f : FileFault) : Option ByteText := some (joinText
      [name, byteText ": cannot change directory to ", shellQuoted directory, byteText ": ",
       f.text])
    match s.machine.files.lookup s.base path, s.machine.files.locate s.base path with
    | .ok .directory, .ok place => do
      set { s with base := place }
      pure none
    | .ok _, _ => pure (refused .notADirectory)
    | .error f, _ => pure (refused f)

/-- Runs a program that has been found, by the name that it is called by. Some programs run others.
The result is the signal that ended it, if one did. -/
def launch : (most : Nat) → (tool name : ByteText) → List ByteText → ShellM (Option Nat)
  | 0, _, _, _ => do
    setStatus 126
    pure none
  | most + 1, tool, name, args => do
    let start (word : ByteText) (args : List ByteText) : ShellM (Except FileFault Start) := do
      r.start true most (← r.findFor word) word args
    let run (word : ByteText) (args : List ByteText) : ShellM (Option FileFault) := do
      match ← start word args with
      | .ok s => do
        if let some n ← launch most s.tool s.name s.args then setStatus (128 + n)
        pure none
      | .error f => pure (some f)
    match Errand.of? (variableIn (← get)) (← get).niceness tool name args with
    | some (.error reply) => do
      answer reply
      pure none
    | some (.ok errand) =>
      let before ← get
      let signal ← match ← prepare name errand, errand.words with
        | some reason, _ => do
          answer (.failed 125 reason)
          pure none
        | none, [] => do
          let ending := [errand.finish]
          discard (write 1 ((← ShellM.inherited).flatMap fun (name, value) =>
            name ++ '=' :: value ++ ending))
          setStatus 0
          pure none
        | none, word :: args => do
          discard (write 2 errand.announcement)
          match ← start word args with
          | .error f => do
            discard (write 2 (Errand.refusal tool name word f))
            setStatus (if f = FileFault.notFound then 127 else 126)
            pure none
          | .ok s =>
            match errand.limit.bind fun limit =>
              ((waitingTime? s.tool s.args).bind limit.overrun?).map (limit, ·) with
            | none => launch most s.tool s.name s.args
            | some (limit, o) => do
              discard (write 2 (limit.mention name word o))
              setStatus (overrunStatus limit o)
              pure (if o.fatal = some 9 ∧ !limit.isForeground then some 9 else none)
      modify fun s =>
        { s with bindings := before.bindings, base := before.base, niceness := before.niceness }
      pure signal
    | none =>
      match String.ofList tool, r.tool? tool with
      | "sh", _ | "dash", _ => r.runShell name args
      | "xargs", _ => do
        let s ← get
        let text (file : Option ByteText) : Except Reply ByteText :=
          match file with
          | none => .ok ((s.streams.channel? 0).elim [] s.machine.remaining)
          | some path =>
            match s.machine.files.lookup s.base ⟨stringOf path⟩ with
            | .ok (.file content) => .ok (byteTextOf content)
            | .ok .directory => .ok []
            | .error f => .error (.failed 1 (joinText
                [name, byteText ": Cannot open input file ", wordQuoted path, byteText ": ",
                 f.text]))
        match Batch.read name args text with
        | .error reply => do
          answer reply
          pure none
        | .ok batch => do
          let say (text : ByteText) : ShellM Unit :=
            discard (write 2 (joinText [name, byteText ": ", text, ['\n']]))
          let readsInput : Bool := (Errand.options Batch.table 1 name args).toOption.all
            fun a => !a.has 'a'
          if readsInput then advance 0 ((← remaining 0).getD []).length
          batch.notes.forM say
          let input : Nat ← if readsInput then openChannel .nowhere
            else pure ((s.streams.channel? 0).getD 0)
          setStatus 0
          let mut isOver := false
          for step in batch.steps do
            if isOver then pure ()
            else match step with
              | .mention text => say text
              | .stop text => do
                say text
                setStatus 1
                isOver := true
              | .run words => do
                let before := (← get).status
                let shown := [' '].intercalate (words.map shellWord)
                if batch.shows then
                  discard (write 2 (shown ++ if batch.asks then [] else ['\n']))
                if batch.asks then
                  say (byteText "failed to open /dev/tty for reading: No such device or address")
                  setStatus 1
                  isOver := true
                else
                  let word := words.headD []
                  match ← start word (words.drop 1) with
                  | .error f => do
                    discard (write 2 (Errand.refusal tool name word f))
                    setStatus (if f = FileFault.notFound then 127 else 126)
                    isOver := true
                  | .ok p => do
                    let streams := (← get).streams
                    useStreams (·.set 0 input)
                    let signal ← launch most p.tool p.name p.args
                    useStreams fun _ => streams
                    let after := (← get).status
                    match signal with
                    | some n => do
                      say (joinText [word, byteText ": terminated by signal ", decimalText n])
                      setStatus 125
                      isOver := true
                    | none =>
                      if after = 255 then
                        say (word ++ byteText ": exited with status 255; aborting")
                        setStatus 124
                        isOver := true
                      else setStatus (if after = 0 then before else 123)
          pure none
      | _, some tool => do
        useTool run tool name args
        pure none
      | _, none => do
        setStatus 127
        pure none
where
  /-- The value of a variable that programs see. -/
  variableIn (s : State) (name : ByteText) : Option ByteText :=
    (s.bindings.find? (·.1 = name)).bind (·.2.value)
  /-- The status of a program that stopped waiting for another one. -/
  overrunStatus (limit : TimeLimit) (o : Overrun) : Nat :=
    match o.fatal with
    | some 9 => 137
    | some n => if limit.keepsStatus then 128 + n else 124
    | none => if limit.keepsStatus then 0 else 124

/-- How deeply programs run programs. -/
def launchDepth : Nat := 20

/-- Runs a program by its name. -/
def runProgram (name : ByteText) (args : List ByteText) : ShellM Unit := do
  match ← r.start true launchDepth (← r.find name) name args with
  | .ok s => do
    if let some n ← withEnvironment (r.launch launchDepth s.tool s.name s.args) then
      setStatus (← endStatus (some (.signal n)) 0)
  | .error .notFound =>
    complain (name ++ byteText (if name.isEmpty then ": Permission denied" else ": not found"))
    setStatus 127
  | .error _ =>
    complain (name ++ byteText ": Permission denied")
    setStatus 126

/-! ## Functions and builtins that run commands -/

/-- Goes on behind something that a function or a sourced script may leave. -/
def catchLeave (m : ShellM Unit) : ShellM Unit := do
  match ← attempt m with
  | none | some .leave => pure ()
  | some stop => throw stop

/-- Calls a function. -/
def call (tested : Bool) (body : Command) (args : List ByteText) : ShellM Unit := do
  let before ← get
  set { before with arguments := args, loops := 0, locals := some [], letters := 0 }
  ensuring (catchLeave (r.command tested body)) do
    let saved := ((← get).locals).getD []
    saved.forM fun (name, outside) => put name outside
    modify fun s =>
      { s with
        arguments := before.arguments, loops := before.loops, locals := before.locals
        letters := before.letters }

/-- Runs the text of a file in the same shell. -/
def source (args : List ByteText) : ShellM Unit := do
  match args with
  | [] => setStatus 0
  | file :: _ => do
    let s ← get
    let directories := splitAtEach ':' ((← value? "PATH".toList).getD [])
    let candidates := if file.contains '/' then [file]
      else directories.map fun d => d ++ '/' :: file
    let texts := candidates.filterMap fun path =>
      ((s.machine.files.read s.base ⟨stringOf path⟩).toOption).map fun content =>
        (path, byteTextOf content)
    match texts with
    | (path, text) :: _ =>
      modify fun s => { s with speaker := some path }
      setStatus 0
      catchLeave (r.script false text 1)
    | [] =>
      if file.contains '/' then fault (byteText "cannot open " ++ file ++ byteText ": No such file")
      else faultAbout file "not found"

/-- Whether a word names a command of the shell itself. -/
def isOwn (name : ByteText) : Bool :=
  let text := String.ofList name
  (Builtin.special ++ Builtin.regular).any (·.1 = text) ||
    [".", "eval", "exec", "command", "hash", "type"].contains text

/-- Keywords, as `type` knows them. -/
def describeWord (brief : Bool) (name : ByteText) : ShellM Nat := do
  let s ← get
  let text := String.ofList name
  let tell (description : ByteText) : ShellM Nat :=
    Builtin.say ((if brief then name else name ++ description) ++ ['\n'])
  if keywords.contains text then tell (byteText " is a shell keyword")
  else if let some (_, value) := s.aliases.find? (·.1 = name) then
    if brief then Builtin.say (byteText "alias " ++ Builtin.aliasText name value)
    else tell (byteText " is an alias for " ++ value)
  else if s.functions.any (·.1 = name) then tell (byteText " is a shell function")
  else if (Builtin.special.any (·.1 = text) ∧ text ≠ "local") ∨
      [".", "eval", "exec"].contains text then
    tell (byteText " is a special shell builtin")
  else if Builtin.regular.any (·.1 = text) ∨ ["command", "type", "local"].contains text then
    tell (byteText " is a shell builtin")
  else
    let path? : Option ByteText := match ← r.find name with
      | .tool _ path | .script path _ => some path
      | .notExecutable => if name.contains '/' then some name else none
      | .missing => none
    match path? with
    | some path => Builtin.say ((if brief then path else name ++ byteText " is " ++ path) ++ ['\n'])
    | none =>
      if brief then pure 127
      else
        discard (Builtin.say (name ++ byteText ": not found\n"))
        pure 127

/-- Describes words; the last status that is no success counts. -/
def describe (brief : Bool) : List ByteText → ShellM Nat
  | [] => pure 0
  | name :: rest => do
    let status ← r.describeWord brief name
    let later ← describe brief rest
    pure (if later = 0 then status else later)

/-- Finds programs that are to be run later. -/
def locate (args : List ByteText) : ShellM Nat := do
  let (_, names) ← Builtin.options ['r'] [] args
  let statuses ← names.mapM fun name => do
    let s ← get
    let isKnown : Bool := name.contains '/' || s.functions.any (·.1 = name) || isOwn name
    match isKnown, ← r.find name with
    | false, .missing =>
      complain (name ++ byteText ": not found")
      pure 1
    | _, _ => pure 0
  pure (statuses.foldl max 0)

/-- Runs a builtin under its name. -/
def asBuiltin (name : ByteText) (m : ShellM Unit) : ShellM Unit := do
  let speaker := (← get).speaker
  modify fun s => { s with speaker := some name }
  ensuring m (modify fun s => { s with speaker })

/-- Keeps a fault from ending the shell. -/
def forgiving (m : ShellM Unit) : ShellM Unit := do
  match ← attempt m with
  | none => pure ()
  | some .fault => setStatus 2
  | some stop => throw stop

/-- Builtins whose faults end the shell. -/
def isSpecial (name : ByteText) : Bool :=
  Builtin.special.any (·.1 = String.ofList name) ||
    [".", "eval", "exec"].contains (String.ofList name)

/-- Replaces the shell by a program. -/
def become (words : List ByteText) : ShellM Unit := do
  match words with
  | [] => setStatus 0
  | name :: args => do
    match ← r.find name with
    | .tool .. | .script .. => modify fun s => { s with traps := [] }
    | _ => pure ()
    r.runProgram name args
    throw .exit

/-- The option letters in front of what `command` is to run. -/
def commandLetters : List ByteText → List Char × List ByteText
  | ['-', '-'] :: words => ([], words)
  | ('-' :: c :: cs) :: rest =>
    let (letters, words) := commandLetters rest
    (c :: cs ++ letters, words)
  | words => ([], words)

/-- Runs the fields of a command, without functions if that is asked for. -/
def runFields (tested : Bool) : (most : Nat) → (functions : Bool) → List ByteText → ShellM Unit
  | 0, _, _ => pure ()
  | _, _, [] => pure ()
  | most + 1, functions, name :: args => do
    let text := String.ofList name
    let builtin (b : Builtin) : ShellM Unit := asBuiltin name do setStatus (← b args)
    match (← get).functions.find? (·.1 = name) with
    | some (_, body) =>
      if functions then r.call tested body args else other most text name args builtin
    | none => other most text name args builtin
where
  other (most : Nat) (text : String) (name : ByteText) (args : List ByteText)
      (builtin : Builtin → ShellM Unit) : ShellM Unit := do
    match text with
    | "eval" => asBuiltin name (r.script tested ([' '].intercalate args) 1)
    | "." => asBuiltin name (r.source args)
    | "exec" => asBuiltin name (r.become args)
    | "type" => builtin (r.describe false)
    | "hash" => forgiving (builtin r.locate)
    | "command" =>
      let (letters, words) := commandLetters args
      match letters.find? fun c => !(['p', 'v', 'V'].contains c) with
      | some c => asBuiltin name (fault (byteText "Illegal option -" ++ [c]))
      | none =>
        let brief := !letters.contains 'V'
        if !brief || letters.contains 'v' then
          builtin fun _ => r.describe brief (words.take 1)
        else if words.isEmpty then setStatus 0
        else forgiving (runFields tested most false words)
    | text =>
      match (Builtin.special ++ Builtin.regular).find? (·.1 = text) with
      | some (_, b) => if isSpecial name then builtin b else forgiving (builtin b)
      | none => r.runProgram name args

/-! ## Simple commands -/

/-- Whether arguments that look like assignments are expanded like them. -/
def takesAssignments (fields : List ByteText) : Bool :=
  let name := match fields with
    | first :: second :: _ => if String.ofList first = "command" then second else first
    | first :: _ => first
    | [] => []
  ["export", "readonly", "local"].contains (String.ofList name)

/-- Expands the words of a command. -/
def expandWords (words : List Word) : ShellM (List ByteText) :=
  words.foldlM (fun fields w => do
    if takesAssignments fields ∧ (assignment? w).isSome then
      pure (fields ++ [← Word.whole r.substitute w .all])
    else pure (fields ++ (← Word.fields r.substitute w))) []

/-- Assigns what stands in front of a command. -/
def runAssignments (exported : Bool) (assignments : List Word) : ShellM (List ByteText) :=
  assignments.mapM fun w => do
    match assignment? w with
    | some (name, value) => do
      let value ← Word.whole r.substitute value .all
      assign name value
      if exported then
        match ← lookup name with
        | some v => put name (some { v with exported := true })
        | none => pure ()
      pure (name ++ '=' :: value)
    | none => pure []

/-- Shows a command before it is run, if that is asked for. -/
def trace (streams : StreamTable) (texts : List ByteText) : ShellM Unit := do
  if (← hasOption 'x') ∧ !texts.isEmpty then
    let start := (← value? "PS4".toList).getD (byteText "+ ")
    withStreams do
      useStreams fun _ => streams
      discard (write 2 (start ++ [' '].intercalate texts ++ ['\n']))

/-- Opens the streams of a command; the result says whether that went well. -/
def openStreams (mayEnd : Bool) (rs : List Redirection) : ShellM Bool := do
  match ← attempt (redirect r.substitute rs) with
  | none => pure true
  | some .fault =>
    setStatus 2
    if mayEnd then throw .fault else pure false
  | some stop => throw stop

/-- Sets variables for the time of a command. -/
def withVariables (names : List ByteText) (m : ShellM Unit) : ShellM Unit := do
  let before ← names.mapM fun name => do pure (name, ← lookup name)
  ensuring m (before.forM fun (name, v) => put name v)

def runSimple (tested : Bool) (line : Nat) (assignments words : List Word)
    (rs : List Redirection) : ShellM Unit := do
  modify fun s => { s with line, substituted := none }
  let fields ← r.expandWords words
  let streams := (← get).streams
  let special : Bool := match fields with
    | name :: _ => isSpecial name
    | [] => false
  let keepsStreams := fields = [byteText "exec"]
  let opened : ShellM Unit := do
    if ← r.openStreams special rs then
      let names := assignments.filterMap fun w => (assignment? w).map (·.1)
      let isBare := fields.isEmpty || special
      let body : ShellM Unit := do
        let given ← r.runAssignments (!isBare) assignments
        trace streams (given ++ fields)
        match fields with
        | [] => setStatus ((← get).substituted.getD 0)
        | fields => r.runFields tested (fields.length + 1) true fields
      if isBare then body else withVariables names body
  if keepsStreams then opened else withStreams opened

/-! ## Compound commands -/

/-- Ends the shell after a failure, if that is asked for. -/
def checkFailure (tested : Bool) : ShellM Unit := do
  if !tested && (← hasOption 'e') && (← get).status ≠ 0 then throw .exit

/-- Runs the body of a loop once; the result says whether the loop goes on. -/
def onceInLoop (body : ShellM Unit) : ShellM Bool := do
  modify fun s => { s with loops := s.loops + 1 }
  let stop ← attempt body
  modify fun s => { s with loops := s.loops - 1 }
  match stop with
  | none => pure true
  | some (.breakLoops levels) => if levels ≤ 1 then pure false else throw (.breakLoops (levels - 1))
  | some (.continueLoop levels) =>
    if levels ≤ 1 then pure true else throw (.continueLoop (levels - 1))
  | some stop => throw stop

/-- How often a loop is run at most. -/
def loopLimit : Nat := 1000000

/-- Runs a loop; `status` is that of its body so far. -/
def runLoop (tested untilTrue : Bool) (test body : Command) : (most : Nat) → (status : Nat) →
    ShellM Unit
  | 0, _ => pure ()
  | most + 1, status => do
    let goesOn ← onceInLoop (r.command true test)
    let holds := ((← get).status = 0) != untilTrue
    if !goesOn then setStatus 0
    else if !holds then setStatus status
    else
      let goesOn ← onceInLoop (r.command tested body)
      if goesOn then runLoop tested untilTrue test body most (← get).status

def runEach (tested : Bool) (name : ByteText) (body : Command) : List ByteText → ShellM Unit
  | [] => pure ()
  | value :: rest => do
    assign name value
    if ← onceInLoop (r.command tested body) then runEach tested name body rest

/-- Runs the first case with a pattern that fits. -/
def runCases (tested : Bool) (subject : ByteText) :
    List (List Word × Option Command) → ShellM Unit
  | [] => setStatus 0
  | (patterns, body) :: rest => do
    let fits ← patterns.anyM fun w => do pure ((← Word.pattern r.substitute w).fits subject)
    if fits then
      match body with
      | some c => r.command tested c
      | none => setStatus 0
    else runCases tested subject rest

/-- Runs commands that feed each other. -/
def runPiped (tested : Bool) (input : Option Nat) : List Command → ShellM Unit
  | [] => pure ()
  | c :: rest => do
    let output ← if rest.isEmpty then pure none else do pure (some (← openChannel (.pipe [])))
    let status ← r.inSubshell do
      match input with
      | some channel => useStreams (·.set 0 channel)
      | none => pure ()
      match output with
      | some channel => useStreams (·.set 1 channel)
      | none => pure ()
      r.command tested c
    setStatus status
    if !rest.isEmpty then runPiped tested output rest

/-- Runs a command that does not keep the shell waiting. -/
def runBehind (line : Nat) (body : Command) : ShellM Unit := do
  modify fun s => { s with line }
  let status ← r.inSubshell do
    let channel ← openChannel .nowhere
    useStreams (·.set 0 channel)
    r.command false body
  modify fun s => { s with status := 0, background := some status }

/-- Runs a command whose parts the runner runs. -/
def runCommand (tested : Bool) (c : Command) : ShellM Unit := do
  if ← hasOption 'n' then return
  match c with
  | .simple line assignments words rs => do
    r.runSimple tested line assignments words rs
    checkFailure tested
  | .redirected line body rs => do
    modify fun s => { s with line }
    withStreams do
      if ← r.openStreams false rs then r.command tested body
    checkFailure tested
  | .subshell line body rs => do
    modify fun s => { s with line }
    let status ← r.inSubshell do
      redirect r.substitute rs
      r.command tested body
    setStatus status
    checkFailure tested
  | .background line body => r.runBehind line body
  | .pipeline commands => do
    r.runPiped tested none commands
    checkFailure tested
  | .negated body => do
    r.command true body
    setStatus (if (← get).status = 0 then 1 else 0)
  | .both first second => do
    r.command true first
    if (← get).status = 0 then r.command tested second
  | .either first second => do
    r.command true first
    if (← get).status ≠ 0 then r.command tested second
  | .sequence first second => do
    r.command tested first
    r.command tested second
  | .choice test body otherwise => do
    r.command true test
    if (← get).status = 0 then r.command tested body
    else
      match otherwise with
      | some c => r.command tested c
      | none => setStatus 0
  | .loop untilTrue test body => r.runLoop tested untilTrue test body loopLimit 0
  | .each line name words body => do
    modify fun s => { s with line }
    let values ← words.flatMapM (Word.fields r.substitute)
    setStatus 0
    r.runEach tested name body values
  | .select line subject cases => do
    modify fun s => { s with line }
    let subject ← Word.whole r.substitute subject .front
    r.runCases tested subject cases
  | .define name body => do
    modify fun s =>
      { s with functions := (name, body) :: s.functions.filter (·.1 ≠ name), status := 0 }

/-! ## Scripts -/

/-- Runs a script line by line; `status` is what a script without commands ends with. -/
def runLines (tested : Bool) : (most : Nat) → Script → ShellM Unit
  | 0, _ => pure ()
  | most + 1, script => do
    let (next, script) := script.nextLine (← get).aliases
    modify fun s => { s with documents := script.documents, nextDocument := script.next }
    match next with
    | .finish => pure ()
    | .blank => runLines tested most script
    | .command c => do
      r.command tested c
      runLines tested most script
    | .fault f => do
      modify fun s => { s with line := f.line }
      fault (byteText f.message)

/-- Runs text as commands of the shell. -/
def runScript (tested : Bool) (text : ByteText) (line : Nat) : ShellM Unit := do
  let s ← get
  r.runLines tested (text.length + 1) ⟨text, line, s.documents, s.nextDocument⟩

/-! ## Whole shells -/

/-- What a shell was asked to do. -/
structure ShellCall where
  takesText : Bool
  readsInput : Bool

/-- Sets the options of a shell that stand in front of its operands. -/
def shellOptions (call : ShellCall) : List ByteText → ShellM (ShellCall × List ByteText)
  | [] => pure (call, [])
  | ['-', '-'] :: rest | ['-'] :: rest => pure (call, rest)
  | arg :: rest =>
    match arg with
    | sign :: c :: cs => do
      if sign = '-' ∨ sign = '+' then
        let letters := c :: cs
        let (own, set) := letters.partition fun c => sign = '-' && (c = 'c' || c = 'l')
        let call := { call with
          takesText := call.takesText || own.contains 'c'
          readsInput := call.readsInput || set.contains 's' }
        if ← Builtin.setLetters (sign = '-') set then
          match rest with
          | [] => shellOptions call []
          | name :: rest => do
            discard (Builtin.setOptions [[sign, 'o'], name])
            shellOptions call rest
        else shellOptions call rest
      else pure (call, arg :: rest)
    | _ => pure (call, arg :: rest)

/-- Runs a shell in a fresh state. -/
def runShellCall (args : List ByteText) : ShellM Unit := do
  let (call, operands) ← shellOptions ⟨false, false⟩ args
  let start (name : ByteText) (arguments : List ByteText) (text : ByteText) : ShellM Unit := do
    modify fun s => { s with name, arguments }
    r.script false text 1
  let name := (← get).name
  if call.takesText then
    match operands with
    | [] => fault (byteText "-c requires an argument")
    | [text] => start name [] text
    | text :: name :: arguments => start name arguments text
  else if call.readsInput ∨ operands.isEmpty then
    let text := (← remaining 0).getD []
    advance 0 text.length
    start name operands text
  else
    match operands with
    | [] => pure ()
    | file :: arguments => do
      let s ← get
      match s.machine.files.lookup s.base ⟨stringOf file⟩ with
      | .ok (.file content) => start file arguments (byteTextOf content)
      | .ok .directory => pure ()
      | .error _ => fault (byteText "cannot open " ++ file ++ byteText ": No such file")

/-! ## Nesting -/

/-- Runs commands that are nested no deeper than a number. -/
def nested (tool? : ByteText → Option Tool) : (depth : Nat) → Runner
  | 0 =>
    { command := fun _ _ => throw .exit
      script := fun _ _ _ => throw .exit
      shell := fun _ => throw .exit
      tool? }
  | depth + 1 =>
    { command := fun tested c s => (do
        runPending (nested tool? depth)
        runCommand (nested tool? depth) tested c
        runPending (nested tool? depth) : ShellM Unit) s
      script := fun tested text line s => runScript (nested tool? depth) tested text line s
      shell := fun args s => runShellCall (nested tool? depth) args s
      tool? }

end Runner

end KernelLink.Shell
