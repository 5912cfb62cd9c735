import KernelLink.Machine.Streams

/-!
# Tools

The small programs that stand in for compilers and linkers on a machine without any, and that
scripts are made of. A tool is a function of its arguments, its input and the files. It replies with
a status, with what it wrote to its two streams in the order in which it was written, and with how
much of its input it took.
-/

namespace KernelLink

/-- What a tool leaves besides changed files. -/
structure Reply where
  status : Nat
  /-- What was written, and whether it was written to the errors. -/
  writes : List (Bool × ByteText)
  taken : Nat

namespace Reply

def ended (status : Nat) : Reply := ⟨status, [], 0⟩

def quiet : Reply := ended 0

def said (text : ByteText) : Reply := ⟨0, [(false, text)], 0⟩

/-- A complaint without an end of the tool: a line on the errors. -/
def complaint (line : ByteText) : Reply := ⟨1, [(true, line ++ ['\n'])], 0⟩

/-- A failure with a line of explanation. -/
def failed (status : Nat) (line : ByteText) : Reply := ⟨status, [(true, line ++ ['\n'])], 0⟩

/-- Two replies after each other; the first failure decides the status. -/
def followedBy (a b : Reply) : Reply :=
  ⟨if a.status = 0 then b.status else a.status, a.writes ++ b.writes, a.taken + b.taken⟩

/-- What was written to one of the streams. -/
def onStream (r : Reply) (errors : Bool) : ByteText :=
  r.writes.flatMap fun (e, text) => if e = errors then text else []

/-- What was written, in one piece as long as it went to one stream. -/
def pieces (r : Reply) : List (Bool × ByteText) :=
  (r.writes.splitBy fun a b => a.1 == b.1).map fun run => (run.any (·.1), run.flatMap (·.2))

/-- The reply of a tool that keeps its output back until it ends. -/
def held (r : Reply) : Reply :=
  { r with writes := [(true, r.onStream true), (false, r.onStream false)] }

end Reply

/-- Runs a program with its arguments in a directory and on an input of its own; a program that
cannot be run changes no files. -/
abbrev Launcher :=
  Location → List ByteText → ByteText → FileTree → Except FileFault Reply × FileTree

/-- How a tool is called. -/
structure ToolCall where
  name : ByteText
  args : List ByteText
  base : Location
  input : ByteText
  /-- The file that the input comes from, if it comes from one. -/
  source : Option Location
  /-- The file that the output goes to, if it goes to one. -/
  output : Option Location
  /-- What new files do not permit. -/
  mask : Nat
  /-- The variables that the tool sees. -/
  valueOf? : ByteText → Option ByteText
  /-- Runs other programs. -/
  launch : Launcher

abbrev Tool := ToolCall → FileTree → Reply × FileTree

/-- The path that bytes spell. -/
def pathOf (s : ByteText) : Path := ⟨stringOf s⟩

def FileFault.text (f : FileFault) : ByteText := byteText f.reason

/-- Text between others, for messages. -/
def joinText (texts : List ByteText) : ByteText := texts.flatten

/-! ## Names in messages -/

/-- Whether a character shows in a message as it is. -/
def isPlainChar (c : Char) : Bool := 32 ≤ c.toNat && c.toNat ≤ 126

/-- The characters that a shell would not leave alone anywhere in a word. -/
def needsShellQuotes (c : Char) : Bool :=
  [' ', '!', '"', '$', '&', '(', ')', '*', ';', '<', '=', '>', '?', '[', '\\', '^', '\x60', '|',
   '\x27'].contains c || !isPlainChar c

/-- A character between shell quotes that cannot stand there as it is. -/
def shellEscape (c : Char) : ByteText :=
  match c with
  | '\x07' => ['\\', 'a']
  | '\x08' => ['\\', 'b']
  | '\t' => ['\\', 't']
  | '\n' => ['\\', 'n']
  | '\x0b' => ['\\', 'v']
  | '\x0c' => ['\\', 'f']
  | '\r' => ['\\', 'r']
  | c =>
    let digits := Nat.toDigits 8 c.toNat
    '\\' :: List.replicate (3 - digits.length) '0' ++ digits

/-- The rest of a name between single quotes. `inEscape` says that the quotes are those of an
escape. -/
def shellQuotedRest (inEscape : Bool) : ByteText → ByteText
  | [] => ['\x27']
  | c :: s =>
    if isPlainChar c then
      let opening : ByteText := if inEscape then ['\x27', '\x27'] else []
      if c = '\x27' then opening ++ ['\x27', '\\', '\x27', '\x27'] ++ shellQuotedRest false s
      else opening ++ c :: shellQuotedRest false s
    else
      let opening : ByteText := if inEscape then [] else ['\x27', '$', '\x27']
      opening ++ shellEscape c ++ shellQuotedRest true s

/-- A name as a shell could read it back, always between quotes. A name with single quotes stands
between double quotes where that is safe. -/
def shellQuoted (s : ByteText) : ByteText :=
  if s.contains '\x27' &&
      s.all (fun c => isPlainChar c && !(['"', '$', '\x60', '\\', '!'].contains c))
  then '"' :: s ++ ['"']
  else match s with
    | c :: _ =>
      if isPlainChar c then '\x27' :: shellQuotedRest false s
      else '\x27' :: shellQuotedRest false s
    | [] => ['\x27', '\x27']

/-- A word in a message: between single quotes, with a backslash before a quote and before another
backslash. -/
def wordQuoted (s : ByteText) : ByteText :=
  let shown (c : Char) : ByteText :=
    if c = '\x27' ∨ c = '\\' then ['\\', c]
    else if isPlainChar c then [c]
    else shellEscape c
  '\x27' :: s.flatMap shown ++ ['\x27']

/-- Text as a word that a shell could read back, quoted only where that is needed. -/
def shellWord (s : ByteText) : ByteText :=
  let atFront := s.head?.any fun c => c = '#' || c = '~'
  if s.isEmpty || s.any needsShellQuotes || atFront then shellQuoted s else s

/-- A name that is quoted only where a shell would need it, or where it holds a colon. -/
def quotedIfNeeded (s : ByteText) : ByteText :=
  if s.contains ':' then shellQuoted s else shellWord s

/-! ## Arguments -/

/-- Options that take no value, by letter and long name, options that take one, and long options
that may take one. -/
structure OptionTable where
  flags : List (Char × String)
  valued : List (Char × String)
  optional : List (Char × String) := []
  /-- Letters with a value only if one follows at once. -/
  attached : List Char := []

/-- An option that was given. Options without a letter are named by a space and their long name. -/
structure GivenOption where
  letter : Char
  value : ByteText
  /-- Whether there is a value, which may be empty. -/
  hasValue : Bool

/-- Why arguments cannot be read. -/
inductive ArgumentFault where
  | unknownLetter (c : Char)
  | unknownName (s : ByteText)
  | missingLetterValue (c : Char)
  | missingNameValue (s : ByteText)
  | unwantedValue (s : ByteText)
  | ambiguous (s : ByteText) (names : List String)

structure Arguments where
  options : List GivenOption
  operands : List ByteText

namespace Arguments

def has (a : Arguments) (letter : Char) : Bool := a.options.any (·.letter = letter)

/-- The last value that was given for an option. -/
def value? (a : Arguments) (letter : Char) : Option ByteText :=
  ((a.options.reverse.find? (·.letter = letter)).map (·.value))

def add (a : Arguments) (o : GivenOption) : Arguments := { a with options := o :: a.options }

end Arguments

namespace OptionTable

/-- Reads the letters behind a dash; the value of one that takes a value is what follows it, or the
next argument. -/
def readLetters (table : OptionTable) (next : Option ByteText) :
    ByteText → Except ArgumentFault (List GivenOption × Bool)
  | [] => .ok ([], false)
  | c :: cs =>
    if table.valued.any (·.1 = c) then
      match cs, next with
      | [], none => .error (.missingLetterValue c)
      | [], some value => .ok ([⟨c, value, true⟩], true)
      | cs, _ => .ok ([⟨c, cs, true⟩], false)
    else if table.attached.contains c then .ok ([⟨c, cs, !cs.isEmpty⟩], false)
    else if table.flags.any (·.1 = c) then do
      let (options, usesNext) ← readLetters table next cs
      .ok (⟨c, [], false⟩ :: options, usesNext)
    else .error (.unknownLetter c)

/-- What an option does with a value. -/
inductive OptionKind where
  | flag
  | valued
  | optional
deriving DecidableEq

/-- Reads a long option; an unambiguous beginning of its name will do. -/
def readName (table : OptionTable) (next : Option ByteText) (s : ByteText) :
    Except ArgumentFault (GivenOption × Bool) :=
  let name := s.takeWhile (· ≠ '=')
  let value? := if name.length < s.length then some (s.drop (name.length + 1)) else none
  let all := table.flags.map (fun o => (o, OptionKind.flag)) ++
    table.valued.map (fun o => (o, OptionKind.valued)) ++
    table.optional.map fun o => (o, OptionKind.optional)
  let exact := all.filter fun o => o.1.2.toList = name
  let found := if exact.isEmpty then all.filter fun o => name.isPrefixOf o.1.2.toList else exact
  let isOne : Bool := found.head?.all fun first =>
    found.all fun o => o.1.2 = first.1.2 || (o.1.1 = first.1.1 && o.2 = first.2)
  let found := if isOne then found.take 1 else found
  match found with
  | [] => .error (.unknownName (['-', '-'] ++ s))
  | [((letter, long), kind)] =>
    match kind, value?, next with
    | .flag, some _, _ => .error (.unwantedValue (['-', '-'] ++ long.toList))
    | .valued, none, some value => .ok (⟨letter, value, true⟩, true)
    | .valued, none, none => .error (.missingNameValue (['-', '-'] ++ long.toList))
    | _, value?, _ => .ok (⟨letter, value?.getD [], value?.isSome⟩, false)
  | several =>
    let names := (several.map (·.1.2)).mergeSort fun a b => a ≤ b
    .error (.ambiguous (['-', '-'] ++ s) names)

/-- Reads arguments. Options and operands may be mixed; two dashes end the options. With `strict`
the first operand ends them too. -/
def read (table : OptionTable) (strict : Bool) (skip : Bool) :
    List ByteText → Except ArgumentFault Arguments
  | [] => .ok ⟨[], []⟩
  | arg :: rest =>
    if skip then read table strict false rest
    else match arg with
      | ['-', '-'] => .ok ⟨[], rest⟩
      | '-' :: '-' :: name => do
        let (o, usesNext) ← readName table rest.head? name
        let a ← read table strict usesNext rest
        .ok (a.add o)
      | '-' :: c :: cs => do
        let (options, usesNext) ← readLetters table rest.head? (c :: cs)
        let a ← read table strict usesNext rest
        .ok { a with options := options ++ a.options }
      | operand =>
        if strict then .ok ⟨[], operand :: rest⟩
        else do
          let a ← read table strict false rest
          .ok { a with operands := operand :: a.operands }

end OptionTable

/-- The hint at the end of a complaint about arguments. -/
def helpHint (name : ByteText) : ByteText :=
  joinText [byteText "Try '", name, byteText " --help' for more information."]

/-- What a tool says about arguments that it cannot read. -/
def ArgumentFault.reply (f : ArgumentFault) (name : ByteText) (status : Nat) : Reply :=
  let quote (s : ByteText) : ByteText := '\x27' :: s ++ ['\x27']
  let reason := match f with
    | .unknownLetter c => byteText "invalid option -- " ++ quote [c]
    | .unknownName s => byteText "unrecognized option " ++ quote s
    | .missingLetterValue c => byteText "option requires an argument -- " ++ quote [c]
    | .missingNameValue s =>
      joinText [byteText "option ", quote s, byteText " requires an argument"]
    | .unwantedValue s =>
      joinText [byteText "option ", quote s, byteText " doesn\x27t allow an argument"]
    | .ambiguous s names =>
      joinText [byteText "option ", quote s, byteText " is ambiguous; possibilities:",
        names.flatMap fun n => ' ' :: quote ("--" ++ n).toList]
  .failed status (joinText [name, byteText ": ", reason, ['\n'], helpHint name])

/-- Reads a tool's arguments, and goes on with them. -/
def withArguments (table : OptionTable) (status : Nat) (call : ToolCall) (t : FileTree)
    (use : Arguments → Reply × FileTree) : Reply × FileTree :=
  match table.read false false call.args with
  | .ok a => use a
  | .error f => (f.reply call.name status, t)

/-- Reads a tool's arguments where the first operand ends the options, and goes on with them. -/
def withLeadingOptions (table : OptionTable) (status : Nat) (call : ToolCall) (t : FileTree)
    (use : Arguments → Reply × FileTree) : Reply × FileTree :=
  match table.read true false call.args with
  | .ok a => use a
  | .error f => (f.reply call.name status, t)

/-! ## Complaints -/

/-- A complaint of a tool about a path. -/
def ToolCall.about (call : ToolCall) (before : String) (path : ByteText) (f : FileFault) : Reply :=
  .failed 1 (joinText [call.name, byteText (": " ++ before ++ " "), shellQuoted path,
    byteText ": ", f.text])

/-- A complaint about a directory that cannot be made. -/
def ToolCall.cannotMake (call : ToolCall) (path : ByteText) (f : FileFault) : Reply :=
  .failed 1 (joinText [call.name, byteText ": cannot create directory ", wordQuoted path,
    byteText ": ", f.text])

/-- A complaint of a tool that is one sentence. -/
def ToolCall.complain (call : ToolCall) (texts : List ByteText) : Reply :=
  .failed 1 (joinText (call.name :: [':', ' '] :: texts))

/-- A complaint that ends in a hint. -/
def ToolCall.usage (call : ToolCall) (texts : List ByteText) : Reply :=
  call.complain (texts ++ [['\n'], helpHint call.name])

/-- Why a word that an option was given says nothing. -/
inductive ChoiceFault where
  | invalid
  | ambiguous

/-- The place of the group that a word belongs to, or an unambiguous beginning of one. The words of
a group mean the same. -/
def choice (groups : List (List String)) (s : ByteText) : Except ChoiceFault Nat :=
  let places (fits : List Char → Bool) : List Nat := groups.zipIdx.filterMap fun (words, n) =>
    if words.any (fits ·.toList) then some n else none
  match places (· = s), places s.isPrefixOf with
  | n :: _, _ | [], [n] => .ok n
  | [], [] => .error .invalid
  | [], _ => .error .ambiguous

/-- A complaint about a word that an option was given, with those that it may be given. -/
def ToolCall.badChoice (call : ToolCall) (option : String) (groups : List (List String))
    (s : ByteText) (f : ChoiceFault) : Reply :=
  let kind := match f with
    | .invalid => "invalid argument "
    | .ambiguous => "ambiguous argument "
  let quote (word : String) : ByteText := byteText ("\x27" ++ word ++ "\x27")
  let lines := groups.map fun words =>
    byteText "\n  - " ++ (byteText ", ").intercalate (words.map quote)
  call.usage ([byteText kind, wordQuoted s, byteText (" for \x27" ++ option ++ "\x27"),
    byteText "\nValid arguments are:"] ++ lines)

/-! ## Files -/

/-- Whether a path names the input of the tool that gets it. -/
def isInputPath (path : ByteText) : Bool :=
  ["/dev/stdin", "/dev/fd/0"].contains (String.ofList path)

/-- Whether what is written to a path is lost, and nothing can be read from it. -/
def isNowhere (path : ByteText) : Bool := String.ofList path = "/dev/null"

/-- Whether a path names a source of zeros that does not end. -/
def isZeros (path : ByteText) : Bool := String.ofList path = "/dev/zero"

/-- More zeros than anything takes that stops reading. -/
def manyZeros : ByteText := List.replicate 1048576 '\x00'

/-- Whether what is written to a path goes to the output or to the errors instead; the result is
true for the errors. -/
def streamPath? (path : ByteText) : Option Bool :=
  let text := String.ofList path
  if ["/dev/stdout", "/dev/fd/1"].contains text then some false
  else if ["/dev/stderr", "/dev/fd/2"].contains text then some true
  else none

/-- Whether a path names no file but a stream, or nothing. -/
def isStream (path : ByteText) : Bool := isNowhere path || (streamPath? path).isSome

/-- What a path leads to for a tool. -/
def ToolCall.stat (call : ToolCall) (t : FileTree) (path : ByteText) : Except FileFault FileNode :=
  if isInputPath path then .ok (.file (bytesOf call.input))
  else if isNowhere path then .ok (.file .empty)
  else if isZeros path then .ok (.file (bytesOf manyZeros))
  else t.lookup call.base (pathOf path)

/-- The content of a file that a tool was given. -/
def ToolCall.content (call : ToolCall) (t : FileTree) (path : ByteText) :
    Except FileFault ByteText := do
  match ← call.stat t path with
  | .file content => .ok (byteTextOf content)
  | .directory => .error .isADirectory

/-- The same call after some of its input has been taken. -/
def ToolCall.after (call : ToolCall) (reply : Reply) : ToolCall :=
  { call with input := call.input.drop reply.taken }

/-- Asks whether something is to be done. A line of the input that begins with a y says yes; the
result is whether it did, and the question with what was taken. -/
def ToolCall.ask (call : ToolCall) (question : List ByteText) : Bool × Reply :=
  let line := (byteLines call.input).headD []
  let agrees := line.head? = some 'y' || line.head? = some 'Y'
  (agrees, ⟨0, [(true, joinText (call.name :: [':', ' '] :: question))], line.length⟩)

/-- Treats operands one after the other. -/
def eachOperand (treat : ByteText → FileTree → Reply × FileTree) :
    List ByteText → FileTree → Reply × FileTree
  | [], t => (.quiet, t)
  | operand :: rest, t =>
    let (reply, t) := treat operand t
    let (later, t) := eachOperand treat rest t
    (reply.followedBy later, t)

end KernelLink
