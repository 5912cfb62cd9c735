import KernelLink.Machine.Permissions
import KernelLink.Shell.Condition
import KernelLink.Shell.Cursor
import KernelLink.Shell.Redirect
import KernelLink.Tool.Format

/-!
# Builtins

The commands that are part of the shell because they change it or ask it something. A builtin gets
its arguments and gives a status; a fault ends it with a complaint that names it. What a fault then
means for the shell is not decided here, because it depends on how the builtin was called.
-/

namespace KernelLink.Shell

abbrev Builtin := List ByteText → ShellM Nat

namespace Builtin

open ShellM

/-! ## Writing and reading arguments -/

/-- Writes on the output. What cannot be written is an error, which names the builtin twice. -/
def say (text : ByteText) : ShellM Nat := do
  if text.isEmpty then pure 0
  else if ← write 1 text then pure 0
  else
    let name := ((← get).speaker).getD []
    complain (name ++ byteText ": I/O error")
    pure 1

def illegalNumber {α : Type} (s : ByteText) : ShellM α := fault (byteText "Illegal number: " ++ s)

/-- An argument that has to be a count. -/
def count (s : ByteText) : ShellM Nat := do
  match numberOf? (digitsOf 10) s with
  | some n => if 0 ≤ n ∧ n ≤ 0x7fffffff then pure n.toNat else illegalNumber s
  | none => illegalNumber s

/-- Reads option letters in front; those in `valued` take a value. -/
def options (letters valued : List Char) :
    List ByteText → ShellM (List (Char × ByteText) × List ByteText)
  | [] => pure ([], [])
  | ['-', '-'] :: rest => pure ([], rest)
  | ('-' :: c :: cs) :: rest => do
    let (given, missing) ← readLetters (c :: cs)
    match missing, rest with
    | none, rest => do
      let (more, operands) ← options letters valued rest
      pure (given ++ more, operands)
    | some c, value :: rest => do
      let (more, operands) ← options letters valued rest
      pure (given ++ (c, value) :: more, operands)
    | some c, [] => fault (byteText "No arg for -" ++ c :: byteText " option")
  | rest => pure ([], rest)
where
  /-- The options of one argument, and the one whose value is the next argument. -/
  readLetters : List Char → ShellM (List (Char × ByteText) × Option Char)
    | [] => pure ([], none)
    | c :: cs => do
      if valued.contains c then
        pure (if cs.isEmpty then ([], some c) else ([(c, cs)], none))
      else if letters.contains c then do
        let (more, missing) ← readLetters cs
        pure ((c, []) :: more, missing)
      else fault (byteText "Illegal option -" ++ [c])

/-- A value between single quotes, so that it can be read back. -/
def quoted (value : ByteText) : ByteText :=
  if value.isEmpty then ['\x27', '\x27']
  else
    let step (c : Char) : ByteText :=
      if c = '\x27' then ['\x27', '"', '\x27', '"', '\x27'] else [c]
    '\x27' :: value.flatMap step ++ ['\x27']

/-! ## Ends and loops -/

def succeed : Builtin := fun _ => pure 0

def fail : Builtin := fun _ => pure 1

/-- The status that an argument asks for, or the one there is. -/
def wantedStatus (args : List ByteText) : ShellM Nat := do
  match args with
  | [] => pure (← get).status
  | n :: _ => count n

def exit : Builtin := fun args => do
  let status ← match args, (← get).resumed with
    | [], some status => pure status
    | args, _ => wantedStatus args
  setStatus (status % 256)
  throw .exit

def leave : Builtin := fun args => do
  setStatus (← wantedStatus args)
  throw .leave

/-- Leaves loops, at most as many as there are. -/
def jump (stop : Nat → Stop) : Builtin := fun args => do
  let levels ← match args with
    | [] => pure 1
    | n :: _ => count n
  if levels = 0 then illegalNumber (args.headD [])
  else
    let levels := min levels (← get).loops
    setStatus 0
    if levels = 0 then pure 0 else throw (stop levels)

/-! ## Variables -/

def isVariable (name : ByteText) : ShellM Unit :=
  if isName name then pure () else faultAbout name "bad variable name"

/-- Lists the variables that are marked in a way. -/
def listVariables (start : String) (isMarked : Variable → Bool) : ShellM Nat := do
  let marked := (← get).bindings.filter fun (_, v) => isMarked v
  let sorted := marked.mergeSort fun a b => inOrder a.1 b.1
  say (sorted.flatMap fun (name, v) =>
    byteText start ++ name ++ (match v.value with
      | some value => '=' :: quoted value
      | none => []) ++ ['\n'])

/-- Marks variables, which may be given values at the same time. -/
def mark (start : String) (isMarked : Variable → Bool) (change : Variable → Variable) : Builtin :=
  fun args => do
    let (_, names) ← options ['p'] [] args
    if names.isEmpty then listVariables start isMarked
    else
      names.forM fun arg => do
        let name := arg.takeWhile (· ≠ '=')
        isVariable name
        if name.length < arg.length then assign name (arg.drop (name.length + 1))
        let v := (← lookup name).getD ⟨none, false, false⟩
        put name (some (change v))
      pure 0

def localVariables : Builtin := fun args => do
  if (← get).locals.isNone then fault (byteText "not in a function")
  else
    args.forM fun arg => do
      let name := arg.takeWhile (· ≠ '=')
      if arg = ['-'] then pure ()
      else
        isVariable name
        makeLocal name
        if name.length < arg.length then assign name (arg.drop (name.length + 1))
    pure 0

def forget : Builtin := fun args => do
  let (given, names) ← options ['v', 'f'] [] args
  let functions := (given.getLast?.map (·.1)) = some 'f'
  names.forM fun name => do
    if functions then
      modify fun s => { s with functions := s.functions.filter (·.1 ≠ name) }
    else
      isVariable name
      unset name
  pure 0

/-! ## Options and arguments -/

/-- The options that `set` knows, by letter and name. -/
def optionNames : List (Char × String) :=
  [('e', "errexit"), ('f', "noglob"), ('I', "ignoreeof"), ('i', "interactive"), ('m', "monitor"),
   ('n', "noexec"), ('s', "stdin"), ('x', "xtrace"), ('v', "verbose"), ('V', "vi"), ('E', "emacs"),
   ('C', "noclobber"), ('a', "allexport"), ('b', "notify"), ('u', "nounset"), ('p', "privileged"),
   (' ', "nolog"), ('!', "debug")]

def setOption (c : Char) (on : Bool) : ShellM Unit :=
  modify fun s =>
    let others := s.options.filter (· ≠ c)
    { s with options := if on then c :: others else others }

def illegalOption {α : Type} (on : Bool) (text : ByteText) : ShellM α :=
  fault (byteText "Illegal option " ++ (if on then '-' else '+') :: text)

/-- Lists the options and whether they are set, as a table or as commands that set them so. -/
def listOptions (asTable : Bool) : ShellM Nat := do
  let options := (← get).options
  let line : Char × String → ByteText := fun (c, name) =>
    let isSet := options.contains c
    if asTable then
      name.toList ++ List.replicate (16 - name.length) ' ' ++
        byteText (if isSet then "on\n" else "off\n")
    else byteText (if isSet then "set -o " else "set +o ") ++ name.toList ++ ['\n']
  let title := byteText (if asTable then "Current option settings\n" else "")
  say (title ++ optionNames.flatMap line)

/-- Sets options by their letters; the result says whether a name follows. -/
def setLetters (on : Bool) : List Char → ShellM Bool
  | [] => pure false
  | 'o' :: _ => pure true
  | c :: cs => do
    if c ≠ ' ' ∧ optionNames.any (·.1 = c) then
      setOption c on
      setLetters on cs
    else illegalOption on [c]

/-- Sets the options at the front, and gives what follows if it is to replace the arguments. -/
def setOptions : List ByteText → ShellM (Option (List ByteText))
  | [] => pure none
  | ['-', '-'] :: rest => pure (some rest)
  | ['-'] :: rest => do
    setOption 'x' false
    setOption 'v' false
    pure (if rest.isEmpty then none else some rest)
  | arg :: rest =>
    match arg with
    | sign :: c :: cs => do
      if sign = '-' ∨ sign = '+' then
        let on := sign = '-'
        if ← setLetters on (c :: cs) then
          match rest with
          | [] =>
            discard (listOptions on)
            pure none
          | name :: rest => do
            match optionNames.find? fun o => byteText o.2 = name with
            | some (c, _) =>
              setOption c on
              setOptions rest
            | none => illegalOption on (byteText "o " ++ name)
        else setOptions rest
      else pure (some (arg :: rest))
    | _ => pure (some (arg :: rest))

def setArguments (arguments : List ByteText) : ShellM Unit :=
  modify fun s => { s with arguments, letters := 0 }

def setBuiltin : Builtin := fun args => do
  if args.isEmpty then listVariables "" (·.value.isSome)
  else
    match ← setOptions args with
    | some arguments => setArguments arguments
    | none => pure ()
    pure 0

def shift : Builtin := fun args => do
  let n ← match args with
    | [] => pure 1
    | n :: _ => count n
  let arguments := (← get).arguments
  if arguments.length < n then fault (byteText "can't shift that many")
  else
    setArguments (arguments.drop n)
    pure 0

/-- What the next option of `getopts` is: its letter or a complaint's, its value, and how far the
reading has come. -/
structure NextOption where
  letter : Char
  value : Option ByteText
  index : Nat
  letters : Nat
  complaint : Option String

/-- The next option among arguments, if there is one. `index` is the argument to be read. -/
def nextOption? (known : ByteText) (args : List ByteText) (index letters : Nat) :
    Option NextOption :=
  match args[index - 1]? with
  | some ('-' :: cs) =>
    if cs.isEmpty ∨ cs = ['-'] then none
    else match cs.drop letters with
      | [] => none
      | c :: rest =>
        let next : Nat × Nat := if rest.isEmpty then (index + 1, 0) else (index, letters + 1)
        let after := (known.dropWhile (· ≠ c)).drop 1
        if c = ':' ∨ !known.contains c then
          some ⟨'?', some [c], next.1, next.2, some "Illegal option -"⟩
        else if after.head? = some ':' then
          if !rest.isEmpty then some ⟨c, some rest, index + 1, 0, none⟩
          else match args[index]? with
            | some value => some ⟨c, some value, index + 2, 0, none⟩
            | none => some ⟨':', some [c], index + 1, 0, some "No arg for -"⟩
        else some ⟨c, none, next.1, next.2, none⟩
  | _ => none

def getopts : Builtin := fun args => do
  match args with
  | known :: name :: given => do
    let given ← if given.isEmpty then do pure (← get).arguments else pure given
    let index := ((← value? "OPTIND".toList).bind (numberOf? (digitsOf 10))).getD 1
    let index := max index.toNat 1
    let isQuiet := known.head? = some ':'
    match nextOption? known given index (← get).letters with
    | none =>
      let isEnd := given[index - 1]? = some ['-', '-']
      assign "OPTIND".toList (decimalText (if isEnd then index + 1 else index))
      assign name ['?']
      pure 1
    | some o =>
      assign "OPTIND".toList (decimalText o.index)
      modify fun s => { s with letters := o.letters }
      match o.complaint with
      | some text =>
        if isQuiet then
          assign "OPTARG".toList (o.value.getD [])
          assign name [o.letter]
        else
          let suffix := if o.letter = ':' then byteText " option" else []
          discard (write 2 (byteText text ++ o.value.getD [] ++ suffix ++ ['\n']))
          unset "OPTARG".toList
          assign name ['?']
      | none =>
        match o.value with
        | some value => assign "OPTARG".toList value
        | none => unset "OPTARG".toList
        assign name [o.letter]
      pure 0
  | _ => fault (byteText "Usage: getopts optstring var [arg...]")

/-! ## Text -/

def echoEscapes : EscapeStyle := ⟨false, false, true, true, false⟩

def echo : Builtin := fun args => do
  let (ends, words) : Bool × List ByteText := match args with
    | ['-', 'n'] :: words => (false, words)
    | words => (true, words)
  let (text, ending) := echoEscapes.replace 0 ([' '].intercalate words)
  say (text ++ if ends ∧ ending = .whole then ['\n'] else [])

def formatWording : FormatFault → ByteText
  | .noNumber s => s ++ byteText ": expected numeric value"
  | .partNumber s => s ++ byteText ": not completely converted"
  | .outOfRange s => s ++ byteText ": Numerical result out of range"
  | .unknownDirective s => s ++ byteText ": invalid directive"
  | .noConversion _ => byteText "missing format character"
  | .tooMuch => byteText "xvsnprintf failed"
  | .excess _ | .behindCharacter _ | .escape _ | .badWidth _ | .badPlaces _ => []

def formatStyle : FormatStyle where
  escapes := ⟨false, false, false, false, false⟩
  argumentEscapes := echoEscapes
  sizes := []
  numbers := .binary64
  wording := formatWording
  badFormat := 2
  isStrict := false

def printf : Builtin := fun args => do
  match (← options [] [] args).2 with
  | [] => fault (byteText "usage: printf format [arg ...]")
  | format :: args => do
    let (text, complaints, status) := formatted formatStyle format args
    complaints.forM complain
    let said ← say text
    pure (max status said)

def test (isBracket : Bool) : Builtin := fun args => do
  let s ← get
  match conditionHolds ⟨s.machine.files, s.base⟩ isBracket args with
  | .ok true => pure 0
  | .ok false => pure 1
  | .error f => fault f.text

/-! ## Reading lines -/

/-- The characters of the next line with whether each was protected by a backslash, and how much
was taken; without the newline, which may be missing. -/
def lineChars (raw : Bool) : ByteText → List (Char × Bool) × Nat × Bool
  | [] => ([], 0, false)
  | '\n' :: _ => ([], 1, true)
  | '\\' :: c :: s =>
    if raw then
      let (cs, n, complete) := lineChars raw (c :: s)
      (('\\', false) :: cs, n + 1, complete)
    else
      let (cs, n, complete) := lineChars raw s
      (if c = '\n' then cs else (c, true) :: cs, n + 2, complete)
  | c :: s =>
    let (cs, n, complete) := lineChars raw s
    (if c = '\x00' then cs else (c, false) :: cs, n + 1, complete)

/-- Cuts the first field off a line. -/
def firstField (separators : ByteText) (line : List (Char × Bool)) :
    List (Char × Bool) × List (Char × Bool) :=
  let isSeparator : Char × Bool → Bool := fun (c, kept) => !kept && separators.contains c
  let isBlank : Char × Bool → Bool := fun (c, kept) =>
    isSeparator (c, kept) && standardSeparators.contains c
  let line := line.dropWhile isBlank
  let field := line.takeWhile fun c => !isSeparator c
  let rest := (line.drop field.length).dropWhile isBlank
  let rest := match rest with
    | c :: more => if isSeparator c then more.dropWhile isBlank else rest
    | [] => []
  (field, rest)

/-- The texts of a line for so many variables; the last one gets what is left. -/
def lineFields (separators : ByteText) : (count : Nat) → List (Char × Bool) → List ByteText
  | 0, _ => []
  | 1, line =>
    let isBlank : Char × Bool → Bool := fun (c, kept) =>
      !kept && separators.contains c && standardSeparators.contains c
    let (field, rest) := firstField separators line
    let whole := ((line.dropWhile isBlank).reverse.dropWhile isBlank).reverse
    [(if rest.isEmpty then field else whole).map (·.1)]
  | count + 1, line =>
    let (field, rest) := firstField separators line
    field.map (·.1) :: lineFields separators count rest

def readLine : Builtin := fun args => do
  let (given, names) ← options ['r'] ['p'] args
  if names.isEmpty then fault (byteText "arg count")
  else
    let raw := given.any (·.1 = 'r')
    let (line, taken, complete) := lineChars raw ((← remaining 0).getD [])
    advance 0 taken
    let separators := (← ShellM.separators).getD standardSeparators
    let values := lineFields separators names.length line
    (names.zip values).forM fun (name, value) => do
      isVariable name
      assign name value
    pure (if complete then 0 else 1)

/-! ## Places -/

def workingDirectory : Builtin := fun args => do
  discard (options ['L', 'P'] [] args)
  say (placePath (← get).base ++ ['\n'])

def changeDirectory : Builtin := fun args => do
  let (_, operands) ← options ['L', 'P'] [] args
  let back := operands = [['-']]
  let target ← match operands with
    | [] => do pure ((← value? "HOME".toList).getD [])
    | operand :: _ =>
      if back then do pure ((← value? "OLDPWD".toList).getD []) else pure operand
  if target.isEmpty then
    if back then say (placePath (← get).base ++ ['\n']) else pure 0
  else
    let s ← get
    let path : Path := ⟨stringOf target⟩
    match s.machine.files.lookup s.base path, s.machine.files.locate s.base path with
    | .ok .directory, .ok place =>
      modify fun s => { s with base := place }
      assign "OLDPWD".toList (placePath s.base)
      assign "PWD".toList (placePath place)
      if back then say (placePath place ++ ['\n']) else pure 0
    | _, _ => fault (byteText "can't cd to " ++ target)

/-! ## Signals -/

/-- Sends a signal to the shell itself. -/
def signalSelf (n : Nat) : ShellM Unit := do
  if n = 0 ∨ harmlessSignals.contains n then pure ()
  else match (← get).traps.find? (·.1 = n) with
    | some (_, action) =>
      if n = 9 ∨ n = 19 then throw (.signal n)
      else if action.isEmpty then pure ()
      else modify fun s => { s with pending := s.pending ++ [n] }
    | none => throw (.signal n)

/-- Sends a signal to a shell around this one. -/
def send (process n : Nat) : ShellM Unit :=
  modify fun s => { s with sent := (process, n) :: s.sent }

/-- Sends a signal to each process. -/
def signalAll (n : Nat) : List ByteText → ShellM Nat
  | [] => pure 0
  | process :: rest => do
    let number ← match process with
      | '-' :: digits => do pure (-(← count digits : Int))
      | digits => do pure (← count digits : Int)
    let s ← get
    let status ← if number.natAbs = s.process ∨ number = 0 then do
        if s.isSubshell then send s.process n else signalSelf n
        pure 0
      else if firstProcess ≤ number ∧ number < s.process then do
        send number.toNat n
        pure 0
      else if number = s.backgroundProcess ∧ s.background.isSome then pure 0
      else do
        complain (byteText "No such process\n")
        pure 1
    let later ← signalAll n rest
    pure (max status later)

def signalName (n : Nat) : ByteText :=
  match signalNames.find? (·.2 = n) with
  | some (name, _) => byteText name
  | none => decimalText n

def killUsage {α : Type} : ShellM α :=
  fault (byteText
    "Usage: kill [-s sigspec | -signum | -sigspec] [pid | job]... or\nkill -l [exitstatus]")

def kill : Builtin := fun args => do
  match args with
  | [] => killUsage
  | ['-', 'l'] :: rest =>
    match rest with
    | [] =>
      say (['0', '\n'] ++ (List.range 64).flatMap fun n => signalName (n + 1) ++ ['\n'])
    | n :: _ => do
      let number ← count n
      let number := if number > 128 then number - 128 else number
      if 0 < number ∧ number ≤ 64 then say (signalName number ++ ['\n'])
      else fault (byteText "invalid signal number or exit status: " ++ n)
  | ['-', 's'] :: rest =>
    match rest with
    | [] => fault (byteText "No arg for -s option")
    | name :: processes =>
      match signal? name with
      | some n => if processes.isEmpty then killUsage else signalAll n processes
      | none => fault (byteText "invalid signal number or name: " ++ name)
  | ['-', '-'] :: processes => if processes.isEmpty then killUsage else signalAll 15 processes
  | ('-' :: c :: name) :: processes =>
    match signal? (c :: name) with
    | some n => if processes.isEmpty then killUsage else signalAll n processes
    | none => fault (byteText "Illegal option -" ++ [c])
  | processes => signalAll 15 processes

/-- Sets or takes away what is done for signals. -/
def setTraps (action : Option ByteText) : List ByteText → ShellM Nat
  | [] => pure 0
  | name :: rest => do
    match signal? name with
    | none =>
      discard (write 2 (byteText "trap: " ++ name ++ byteText ": bad trap\n"))
      pure 1
    | some n =>
      modify fun s =>
        let others := s.traps.filter (·.1 ≠ n)
        { s with traps := match action with
          | some action => (n, action) :: others
          | none => others }
      setTraps action rest

def trap : Builtin := fun args => do
  let (_, args) ← options [] [] (if args = [['-']] then [] else args)
  match args with
  | [] =>
    let sorted := (← get).traps.mergeSort fun a b => a.1 ≤ b.1
    say (sorted.flatMap fun (n, action) =>
      byteText "trap -- " ++ quoted action ++ ' ' :: signalName n ++ ['\n'])
  | [name] => setTraps none [name]
  | action :: names =>
    if action = ['-'] then setTraps none names
    else if !action.isEmpty && action.all (·.isDigit) then setTraps none (action :: names)
    else setTraps (some action) names

/-! ## The rest -/

/-- A job that there cannot be. -/
def noSuchJob {α : Type} (job : ByteText) : ShellM α := fault (byteText "No such job: " ++ job)

def wait : Builtin := fun args => do
  let s ← get
  match args with
  | [] => pure 0
  | process :: _ =>
    if process.head? = some '%' then noSuchJob process
    else
      let number ← count process
      pure (if number = s.backgroundProcess then s.background.getD 127 else 127)

/-- What new files do not permit, which is shown or changed. -/
def mask : Builtin := fun args => do
  let (given, operands) ← options ['S'] [] args
  let mask := (← get).mask
  match operands with
  | [] =>
    if given.isEmpty then
      let digits := Nat.toDigits 8 mask
      say (List.replicate (4 - digits.length) '0' ++ digits ++ ['\n'])
    else say (Permissions.text (0o777 - mask) ++ ['\n'])
  | text :: _ =>
    let mask ← if text.head?.any (·.isDigit) then
        match numberOf? (digitsOf 8) text with
        | some n => pure (n.toNat % 0o1000)
        | none => illegalNumber text
      else match Permissions.clauses? text with
        | some steps => pure (0o777 - Permissions.after 0 false (0o777 - mask) steps % 0o1000)
        | none => fault (byteText "Illegal mode: " ++ text)
    modify fun s => { s with mask }
    pure 0

def limit : Builtin := fun _ => say (byteText "unlimited\n")

def times : Builtin := fun _ =>
  say (byteText "0m0.000000s 0m0.000000s\n0m0.000000s 0m0.000000s\n")

/-- An alias as a command that would make it. -/
def aliasText (name value : ByteText) : ByteText := name ++ '=' :: quoted value ++ ['\n']

/-- The place of a name in the order in which aliases are listed. -/
def aliasOrder (name : ByteText) : Nat :=
  (((name.headD '\x00').toNat * 16) + name.foldl (fun n c => n + c.toNat) 0) % 39

def nameAliases : Builtin := fun args => do
  if args.isEmpty then
    let sorted := (← get).aliases.mergeSort fun a b => aliasOrder a.1 ≤ aliasOrder b.1
    say (sorted.flatMap fun (name, value) => aliasText name value)
  else
    let statuses ← args.mapM fun arg => do
      let name := arg.takeWhile (· ≠ '=')
      if name.length < arg.length ∧ !name.isEmpty then
        let value := arg.drop (name.length + 1)
        modify fun s =>
          { s with
            aliases := if s.aliases.any (·.1 = name)
              then s.aliases.map fun a => if a.1 = name then (name, value) else a
              else s.aliases ++ [(name, value)] }
        pure 0
      else match (← get).aliases.find? (·.1 = arg) with
        | some (name, value) => say (aliasText name value)
        | none =>
          discard (write 2 (byteText "alias: " ++ arg ++ byteText " not found\n"))
          pure 1
    pure (statuses.foldl max 0)

def unalias : Builtin := fun args => do
  let (given, names) ← options ['a'] [] args
  if !given.isEmpty then
    modify fun s => { s with aliases := [] }
    pure 0
  else
    let statuses ← names.mapM fun name => do
      if (← get).aliases.any (·.1 = name) then
        modify fun s => { s with aliases := s.aliases.filter (·.1 ≠ name) }
        pure 0
      else
        discard (write 2 (byteText "unalias: " ++ name ++ byteText " not found\n"))
        pure 1
    pure (statuses.foldl max 0)

/-- Continues a job, of which there is none. -/
def resume : Builtin := fun args =>
  match args with
  | [] => fault (byteText "No current job")
  | job :: _ => noSuchJob job

def jobs : Builtin := fun args =>
  match args with
  | [] => pure 0
  | job :: _ => noSuchJob job

/-- The builtins whose faults end the shell. -/
def special : List (String × Builtin) :=
  [(":", succeed), ("break", jump .breakLoops), ("continue", jump .continueLoop), ("exit", exit),
   ("export", mark "export " (·.exported) fun v => { v with exported := true }),
   ("local", localVariables),
   ("readonly", mark "readonly " (·.isFixed) fun v => { v with isFixed := true }),
   ("return", leave), ("set", setBuiltin), ("shift", shift), ("times", times), ("trap", trap),
   ("unset", forget)]

/-- The other ones. -/
def regular : List (String × Builtin) :=
  [("[", test true), ("alias", nameAliases), ("bg", resume), ("cd", changeDirectory),
   ("chdir", changeDirectory), ("echo", echo), ("false", fail), ("fg", resume),
   ("getopts", getopts), ("jobs", jobs), ("kill", kill), ("printf", printf),
   ("pwd", workingDirectory), ("read", readLine), ("test", test false), ("true", succeed),
   ("ulimit", limit), ("umask", mask), ("unalias", unalias), ("wait", wait)]

end Builtin

end KernelLink.Shell
