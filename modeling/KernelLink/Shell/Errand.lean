import KernelLink.Shell.State
import KernelLink.Tool.Operands

/-!
# Programs that run another program

Some programs only change what another program finds when it starts: its variables, its directory,
or how long it may take. What they were asked to do is read off their arguments here; who can run
programs does it.
-/

namespace KernelLink.Shell

/-- How long a program may take, and what happens when it takes longer. -/
structure TimeLimit where
  length : Nat
  signal : Nat
  /-- When the program is ended for good after it was sent a signal. -/
  patience : Option Nat
  keepsStatus : Bool
  isForeground : Bool
  /-- Whether signals are mentioned as they are sent. -/
  mentions : Bool

/-- A program to be run with changed variables. -/
structure Errand where
  words : List ByteText
  /-- Whether the program starts without any variables. -/
  isBare : Bool := false
  unset : List ByteText := []
  set : List (ByteText × ByteText) := []
  directory : Option ByteText := none
  /-- What ends each variable where variables are written. -/
  finish : Char := '\n'
  /-- What is said on the errors beforehand. -/
  notes : ByteText := []
  /-- What is said as the program is run. -/
  announcement : ByteText := []
  limit : Option TimeLimit := none
  /-- How much the program gives way to others beyond what it did before. -/
  adjustment : Int := 0

namespace Errand

/-- The settings in front of a command. -/
def settings : List ByteText → List (ByteText × ByteText) × List ByteText
  | [] => ([], [])
  | arg :: rest =>
    let name := arg.takeWhile (· ≠ '=')
    if name.length < arg.length then
      let (more, words) := settings rest
      ((name, arg.drop (name.length + 1)) :: more, words)
    else ([], arg :: rest)

/-- Reads arguments up to the first operand. -/
def options (table : OptionTable) (status : Nat) (name : ByteText) (args : List ByteText) :
    Except Reply Arguments :=
  (table.read true false args).mapError fun f => f.reply name status

/-- A complaint about arguments that ends in a hint. -/
def misuse (name : ByteText) (status : Nat) (texts : List ByteText) : Reply :=
  .failed status (joinText (texts ++ [helpHint name]))

/-! ## Changed variables -/

def environmentTable : OptionTable where
  flags := [('i', "ignore-environment"), ('0', "null"), ('v', "debug")]
  valued := [('u', "unset"), ('C', "chdir"), ('S', "split-string")]

/-- Why a text cannot be split into arguments. -/
inductive SplitFault where
  | openQuote
  | badVariable (rest : ByteText)
  | badEscape (c : Char)
  | endInEscape
  | stopInQuotes

def SplitFault.message : SplitFault → ByteText
  | openQuote => byteText "no terminating quote in -S string"
  | badVariable rest => byteText "only $\x7bVARNAME\x7d expansion is supported, error at: " ++ rest
  | badEscape c => byteText "invalid sequence \x27\\" ++ c :: byteText "\x27 in -S"
  | endInEscape => byteText "invalid backslash at end of string in -S"
  | stopInQuotes => byteText "\x27\\c\x27 must not appear in double-quoted -S string"

/-- The name of a variable between braces behind a dollar sign. -/
def bracedName? (s : ByteText) : Option ByteText :=
  match s with
  | '\x7b' :: c :: rest =>
    let isInner (c : Char) : Bool := c.isAlphanum || c = '_'
    let more := rest.takeWhile isInner
    if (c.isAlpha || c = '_') ∧ (rest.drop more.length).head? = some '\x7d' then some (c :: more)
    else none
  | _ => none

/-- What an escape between arguments stands for. -/
def splitEscape? (c : Char) : Option Char :=
  match c with
  | '"' | '#' | '$' | '\x27' | '\\' => some c
  | 'f' => some '\x0c'
  | 'n' => some '\n'
  | 'r' => some '\r'
  | 't' => some '\t'
  | 'v' => some '\x0b'
  | _ => none

/-- Splits a text into arguments, passing over `skip` characters first. `current` is the argument
that has begun, and `quote` the quote that is open. -/
def splitText (valueOf? : ByteText → Option ByteText) (skip : Nat) (current : Option ByteText)
    (quote : Option Char) : ByteText → Except SplitFault (List ByteText)
  | [] => if quote.isSome then .error .openQuote else .ok current.toList
  | c :: s =>
    let begun := current.getD []
    let go (skip : Nat) (current : Option ByteText) : Except SplitFault (List ByteText) :=
      splitText valueOf? skip current quote s
    let split (skip : Nat) : Except SplitFault (List ByteText) :=
      (go skip none).map (current.toList ++ ·)
    if skip > 0 then go (skip - 1) current
    else if (c = '\x27' ∨ c = '"') ∧ (quote = none ∨ quote = some c) then
      splitText valueOf? 0 (some begun) (if quote = none then some c else none) s
    else if isSpace c ∧ quote = none then split 0
    else if c = '#' ∧ current = none ∧ quote = none then .ok []
    else if c = '$' ∧ quote ≠ some '\x27' then
      match bracedName? s with
      | none => .error (.badVariable (c :: s))
      | some name =>
        go (name.length + 2) (match valueOf? name with
          | some value => some (begun ++ value)
          | none => current)
    else if c = '\\' ∧ (quote ≠ some '\x27' ∨ s.head? = some '\\' ∨ s.head? = some '\x27') then
      match s.head? with
      | none => .error .endInEscape
      | some '_' => if quote = some '"' then go 1 (some (begun ++ [' '])) else split 1
      | some 'c' => if quote = some '"' then .error .stopInQuotes else .ok current.toList
      | some d =>
        match splitEscape? d with
        | some e => go 1 (some (begun ++ [e]))
        | none => .error (.badEscape d)
    else go 0 (some (begun ++ [c]))

/-- Arguments with the text that one of them holds, and what stands before and behind it. -/
structure PackedArguments where
  before : List ByteText
  text : ByteText
  behind : List ByteText

/-- Finds the option that holds arguments. `isValue` says that the first argument is the value of an
option. -/
def packed? (isValue : Bool) : List ByteText → Option PackedArguments
  | [] => none
  | arg :: rest =>
    let next (isValue : Bool) : Option PackedArguments :=
      (packed? isValue rest).map fun p => { p with before := arg :: p.before }
    if isValue then next false
    else match arg with
      | ['-', '-'] => none
      | '-' :: '-' :: name =>
        match environmentTable.readName rest.head? name with
        | .ok (o, usesNext) =>
          if o.letter = 'S' then some ⟨[], o.value, if usesNext then rest.drop 1 else rest⟩
          else next usesNext
        | .error _ => none
      | '-' :: letter :: letters =>
        let flags := (letter :: letters).takeWhile fun c => !(['u', 'C', 'S'].contains c)
        let kept : List ByteText := if flags.isEmpty then [] else ['-' :: flags]
        match (letter :: letters).drop flags.length, rest with
        | ['S'], text :: rest => some ⟨kept, text, rest⟩
        | ['S'], [] => none
        | 'S' :: text, rest => some ⟨kept, text, rest⟩
        | [_], _ => next true
        | _, _ => next false
      | _ => none

/-- Arguments after those that options hold have been taken out, with what is to be said about
that. -/
def unpack (name : ByteText) (valueOf? : ByteText → Option ByteText) :
    (most : Nat) → List ByteText → Except Reply (ByteText × List ByteText)
  | 0, args => .ok ([], args)
  | most + 1, args =>
    match packed? false args with
    | none => .ok ([], args)
    | some p =>
      match splitText valueOf? 0 none none p.text with
      | .error f => .error (.failed 125 (joinText [name, byteText ": ", f.message]))
      | .ok words => do
        let mentions := p.before.any fun arg => arg.head? = some '-' && arg.contains 'v'
        let quoted (word : ByteText) : ByteText := '\x27' :: word ++ ['\x27']
        let shown : ByteText := if mentions then
            joinText [byteText "split -S:  ", quoted (p.text.flatMap doubled),
              byteText "\n into:    ", (byteText "\n     &    ").intercalate (words.map quoted),
              ['\n']]
          else []
        let (notes, args) ← unpack name valueOf? most (p.before ++ words ++ p.behind)
        pure (shown ++ notes, args)
where
  /-- A character as it is shown between quotes. -/
  doubled (c : Char) : ByteText := if c = '\\' then [c, c] else [c]

/-- What `env` was asked to do. -/
def ofEnvironment (valueOf? : ByteText → Option ByteText) (name : ByteText)
    (args : List ByteText) : Except Reply Errand := do
  let (said, args) ← unpack name valueOf? 10 args
  let a ← options environmentTable 125 name args
  let dash := a.operands.head? = some ['-']
  let (set, words) := settings (if dash then a.operands.drop 1 else a.operands)
  let isBare := a.has 'i' || dash
  let unset := if isBare then [] else (a.options.filter (·.letter = 'u')).map (·.value)
  let directory := a.value? 'C'
  match unset.find? fun name => name.isEmpty || name.contains '=' with
  | some bad =>
    throw (.failed 125 (joinText
      [name, byteText ": cannot unset ", wordQuoted bad, byteText ": Invalid argument"]))
  | none => pure ()
  if a.has '0' ∧ !words.isEmpty then
    throw (misuse name 125 [name, byteText ": cannot specify --null (-0) with command\n"])
  if directory.isSome ∧ words.isEmpty then
    throw (misuse name 125 [name, byteText ": must specify command with --chdir (-C)\n"])
  let line (texts : List ByteText) : ByteText := if a.has 'v' then joinText texts ++ ['\n'] else []
  let notes := joinText
    ([said, if isBare then line [byteText "cleaning environ"] else []] ++
      unset.map (fun name => line [byteText "unset:    ", name]) ++
      set.map (fun (name, value) => line [byteText "setenv:   ", name, ['='], value]) ++
      (directory.map fun d => line [byteText "chdir:    ", shellQuoted d]).toList)
  let announcement := joinText
    ((words.head?.map fun word => line [byteText "executing: ", word]).toList ++
      words.zipIdx.map fun (word, n) =>
        line [byteText "   arg[", decimalText n, byteText "]= ", ['\x27'], word, ['\x27']])
  let finish := if a.has '0' then '\x00' else '\n'
  pure { words, isBare, unset, set, directory, notes, announcement, finish }

/-! ## Other changes -/

/-- Whether a text is an integer. -/
def isInteger (s : ByteText) : Bool :=
  let digits := if s.head? = some '-' ∨ s.head? = some '+' then s.drop 1 else s
  !digits.isEmpty && digits.all (·.isDigit)

/-- How much a program gives way after an adjustment; there is a most and a least. -/
def adjusted (niceness adjustment : Int) : Int := max (-20) (min 19 (niceness + adjustment))

/-- What `nice` was asked to do. -/
def ofPriority (niceness : Int) (name : ByteText) (args : List ByteText) : Except Reply Errand := do
  let isShort (arg : ByteText) : Bool := arg.head? = some '-' && isInteger (arg.drop 1)
  let a ← match args with
    | arg :: rest =>
      if isShort arg then pure ⟨[⟨'n', arg.drop 1, true⟩], rest⟩
      else options { flags := [], valued := [('n', "adjustment")] } 125 name args
    | [] => pure ⟨[], []⟩
  let adjustment : Int ← match a.value? 'n' with
    | some n =>
      let size : Int := digitsValue (n.filter (·.isDigit))
      if !isInteger n then
        throw (.failed 125 (joinText [name, byteText ": invalid adjustment ", wordQuoted n]))
      else if a.operands.isEmpty then
        throw (misuse name 125
          [name, byteText ": a command must be given with an adjustment\n"])
      else pure (if n.head? = some '-' then -size else size)
    | none =>
      if a.operands.isEmpty then throw (.said (signedText niceness ++ ['\n'])) else pure 10
  pure { words := a.operands, adjustment }

/-- What a program was asked to do that takes nothing but the program to be run. -/
def ofWords (flags : List (Char × String)) (status : Nat) (missing : String) (name : ByteText)
    (args : List ByteText) : Except Reply Errand := do
  let a ← options { flags, valued := [] } status name args
  if a.operands.isEmpty then
    throw (misuse name status [name, byteText (": " ++ missing ++ "\n")])
  pure { words := a.operands }

/-- What `timeout` was asked to do. -/
def ofDuration (name : ByteText) (args : List ByteText) : Except Reply Errand := do
  let table : OptionTable :=
    { flags := [('\x01', "foreground"), ('\x02', "preserve-status"), ('v', "verbose")]
      valued := [('s', "signal"), ('k', "kill-after")] }
  let a ← options table 125 name args
  let time (s : ByteText) : Except Reply Nat :=
    match duration? s with
    | some n => .ok n
    | none => .error (misuse name 125
        [name, byteText ": invalid time interval ", wordQuoted s, ['\n']])
  let patience ← (a.value? 'k').mapM time
  let signal ← match a.value? 's' with
    | none => pure 15
    | some s =>
      let upper := s.map Char.toUpper
      match signal? (if (byteText "SIG").isPrefixOf upper then upper.drop 3 else upper) with
      | some n => pure n
      | none => throw (misuse name 125
          [name, byteText ": ", wordQuoted s, byteText ": invalid signal\n"])
  match a.operands with
  | duration :: word :: rest =>
    let length ← time duration
    let limit : TimeLimit := ⟨length, signal, patience, a.has '\x02', a.has '\x01', a.has 'v'⟩
    pure { words := word :: rest, limit := if length = 0 then none else some limit }
  | _ => throw (misuse name 125 [])

/-- What a program was asked to do that runs another one once. -/
def of? (valueOf? : ByteText → Option ByteText) (niceness : Int) (tool name : ByteText)
    (args : List ByteText) : Option (Except Reply Errand) :=
  match String.ofList tool with
  | "env" => some (ofEnvironment valueOf? name args)
  | "nice" => some (ofPriority niceness name args)
  | "nohup" => some (ofWords [] 125 "missing operand" name args)
  | "setsid" =>
    let flags := [('f', "fork"), ('w', "wait"), ('c', "ctty")]
    some (ofWords flags 1 "no command specified" name args)
  | "timeout" => some (ofDuration name args)
  | _ => none

/-- How a program complains that it cannot run another one. -/
def refusal (tool name word : ByteText) (f : FileFault) : ByteText :=
  let about := match String.ofList tool with
    | "nohup" => byteText "failed to run command " ++ shellQuoted word
    | "timeout" => byteText "failed to run command " ++ wordQuoted word
    | "setsid" => byteText "failed to execute " ++ word
    | "xargs" => word
    | _ => wordQuoted word
  let advice : ByteText :=
    if String.ofList tool = "env" ∧ f = .notFound ∧ word.any isSpace then
      joinText [name, byteText ": use -[v]S to pass options in shebang lines\n"]
    else []
  joinText [name, byteText ": ", about, byteText ": ", f.text, ['\n'], advice]

end Errand

/-! ## Running out of time -/

/-- How long a tool waits that does nothing else. -/
def waitingTime? (tool : ByteText) (args : List ByteText) : Option Nat :=
  if String.ofList tool = "sleep" ∧ !args.isEmpty then
    (args.mapM duration?).map fun times => times.foldl (· + ·) 0
  else none

/-- How a program ended that took too long. -/
structure Overrun where
  /-- The signals that it was sent. -/
  signals : List Nat
  /-- The one that ended it, if one did. -/
  fatal : Option Nat

/-- What happens to a program that takes some time. -/
def TimeLimit.overrun? (limit : TimeLimit) (time : Nat) : Option Overrun :=
  if time ≤ limit.length then none
  else if limit.signal ≠ 0 ∧ !harmlessSignals.contains limit.signal then
    some ⟨[limit.signal], some limit.signal⟩
  else if limit.patience.any fun p => p > 0 && limit.length + p < time then
    some ⟨[limit.signal, 9], some 9⟩
  else some ⟨[limit.signal], none⟩

/-- What is said about signals as they are sent. -/
def TimeLimit.mention (limit : TimeLimit) (name word : ByteText) (o : Overrun) : ByteText :=
  if !limit.mentions then []
  else o.signals.flatMap fun n =>
    let signal := ((signalNames.find? (·.2 = n)).map (·.1)).getD ""
    joinText [name, byteText (": sending signal " ++ signal ++ " to command "), wordQuoted word,
      ['\n']]

end KernelLink.Shell
