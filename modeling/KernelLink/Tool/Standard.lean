import KernelLink.Tool.Backward
import KernelLink.Tool.Blocks
import KernelLink.Tool.Columns
import KernelLink.Tool.Compare
import KernelLink.Tool.Dump
import KernelLink.Tool.Edit
import KernelLink.Tool.Expression
import KernelLink.Tool.Files
import KernelLink.Tool.Find
import KernelLink.Tool.Lines
import KernelLink.Tool.Listing
import KernelLink.Tool.Numbering
import KernelLink.Tool.Operands
import KernelLink.Tool.Ownership
import KernelLink.Tool.Search
import KernelLink.Tool.Sequence
import KernelLink.Tool.Sort
import KernelLink.Tool.Status
import KernelLink.Tool.Translate

/-!
# The standard tools

The tools that a machine without compilers has, by name. Tools that run other programs are here by
name only: whoever runs programs knows what to do with them.
-/

namespace KernelLink

/-! ## Small tools -/

/-- The letters of an argument that consists of options of `echo`. -/
def echoLetters? (arg : ByteText) : Option (List Char) :=
  match arg with
  | '-' :: c :: cs => if (c :: cs).all ['n', 'e', 'E'].contains then some (c :: cs) else none
  | _ => none

/-- Whether a newline is written and whether escapes count, and the words to be written. -/
def echoOptions (newline escapes : Bool) : List ByteText → Bool × Bool × List ByteText
  | [] => (newline, escapes, [])
  | arg :: rest =>
    match echoLetters? arg with
    | some letters =>
      let escapes : Bool := letters.foldl (fun e c => if c = 'n' then e else c == 'e') escapes
      echoOptions (newline && !letters.contains 'n') escapes rest
    | none => (newline, escapes, arg :: rest)

def echoTool : Tool := fun call t =>
  let (newline, escapes, words) := echoOptions true false call.args
  let text := [' '].intercalate words
  let style : EscapeStyle := ⟨false, true, true, true, false⟩
  let (text, ending) := if escapes then style.replace 0 text else (text, .whole)
  (.said (text ++ if newline && ending = .whole then ['\n'] else []), t)

def formatTool : Tool := fun call t =>
  let style : FormatStyle :=
    { escapes := ⟨true, true, true, false, true⟩
      argumentEscapes := ⟨true, true, true, true, true⟩
      sizes := ['l', 'h', 'L', 'j', 'z', 't']
      numbers := ⟨64, 15⟩
      wording := fun
        | .noNumber s => wordQuoted s ++ byteText ": expected a numeric value"
        | .partNumber s => wordQuoted s ++ byteText ": value not completely converted"
        | .outOfRange s => wordQuoted s ++ byteText ": Numerical result out of range"
        | .unknownDirective s => s ++ byteText ": invalid conversion specification"
        | .noConversion s => s ++ byteText ": invalid conversion specification"
        | .excess s =>
          byteText "warning: ignoring excess arguments, starting with " ++ wordQuoted s
        | .behindCharacter s => joinText [byteText "warning: ", s,
          byteText ": character(s) following character constant have been ignored"]
        | .escape .noDigits => byteText "missing hexadecimal number in escape"
        | .escape (.noCharacter s) => byteText "invalid universal character name " ++ s
        | .badWidth s => byteText "invalid field width: " ++ wordQuoted s
        | .badPlaces s => byteText "invalid precision: " ++ wordQuoted s
        | .tooMuch => byteText "write error"
      badFormat := 1
      isStrict := true }
  let args := if call.args.head? = some ['-', '-'] then call.args.drop 1 else call.args
  match args with
  | [] => (call.usage [byteText "missing operand"], t)
  | format :: args =>
    let (text, complaints, status) := formatted style format args
    let lines := complaints.map fun s => (true, joinText [call.name, [':', ' '], s, ['\n']])
    (⟨status, (false, text) :: lines, 0⟩, t)

def succeedTool : Tool := fun _ t => (.quiet, t)

def failTool : Tool := fun _ t => (.ended 1, t)

/-- Waits, which takes no time here. -/
def sleepTool : Tool := fun call t =>
  withArguments { flags := [], valued := [] } 1 call t fun a =>
    let complaints := (a.operands.filter fun s => (duration? s).isNone).map fun s =>
      call.complain [byteText "invalid time interval ", wordQuoted s]
    match a.operands, complaints with
    | [], _ => (call.usage [byteText "missing operand"], t)
    | _, [] => (.quiet, t)
    | _, complaints =>
      let said := complaints.foldl Reply.followedBy .quiet
      (said.followedBy (.failed 1 (helpHint call.name)), t)

def systemTable : OptionTable where
  flags :=
    [('a', "all"), ('s', "kernel-name"), ('n', "nodename"), ('r', "kernel-release"),
     ('v', "kernel-version"), ('m', "machine"), ('p', "processor"), ('i', "hardware-platform"),
     ('o', "operating-system")]
  valued := []

/-- Writes what the machine is, as far as that is known. -/
def systemTool : Tool := fun call t =>
  withArguments systemTable 1 call t fun a =>
    let asked (letters : List Char) : Bool := letters.any a.has
    let parts : List ByteText :=
      (if a.options.isEmpty || asked ['a', 's'] then [byteText "Linux"] else []) ++
      (if asked ['a', 'm', 'p', 'i'] then [byteText "x86_64"] else []) ++
      (if asked ['a', 'o'] then [byteText "GNU/Linux"] else [])
    match a.operands with
    | operand :: _ => (call.usage [byteText "extra operand ", wordQuoted operand], t)
    | [] => (.said ([' '].intercalate parts ++ ['\n']), t)

/-- Sees that files are kept, which they always are. -/
def settleTool : Tool := fun call t =>
  withArguments { flags := [('d', "data"), ('f', "file-system")], valued := [] } 1 call t fun a =>
    if a.has 'd' ∧ a.has 'f' then
      (call.complain [byteText "cannot specify both --data and --file-system"], t)
    else if a.has 'd' ∧ a.operands.isEmpty then
      (call.complain [byteText "--data needs at least one argument"], t)
    else
      eachOperand (fun path t =>
        match call.stat t path with
        | .ok _ => (.quiet, t)
        | .error f => (call.about "error opening" path f, t)) a.operands t

/-- Writes a line again and again, as often as it takes to fill what is between two programs. -/
def repeatTool : Tool := fun call t =>
  withArguments { flags := [], valued := [] } 1 call t fun a =>
    let words := a.operands
    let line := (if words.isEmpty then ['y'] else [' '].intercalate words) ++ ['\n']
    (.said (List.replicate (262144 / line.length + 1) line).flatten, t)

/-! ## All tools -/

/-- The tools that do not run other programs, except one that tells where tools are. -/
def ownTools : List (String × Tool) :=
  [("[", conditionTool true), ("basename", baseNameTool), ("cat", concatenateTool),
   ("chgrp", ownGroupTool), ("chmod", permitTool), ("chown", ownTool), ("cmp", compareTool),
   ("cp", copyTool), ("cut", cutTool), ("dd", blockTool), ("dirname", parentTool),
   ("echo", echoTool), ("egrep", extendedSearchTool), ("expr", expressionTool),
   ("false", failTool), ("fgrep", fixedSearchTool), ("find", findTool), ("grep", searchTool),
   ("head", headTool), ("id", identityTool), ("install", installTool), ("link", hardLinkTool),
   ("ln", linkTool), ("ls", listTool), ("mkdir", makeDirectoryTool), ("mv", moveTool),
   ("nl", numberTool), ("od", dumpTool), ("paste", pasteTool), ("printf", formatTool),
   ("pwd", workingDirectoryTool), ("readlink", linkTargetTool), ("realpath", realPathTool),
   ("rev", reversedTool), ("rm", removeTool), ("rmdir", removeDirectoryTool), ("sed", editTool),
   ("seq", sequenceTool), ("sleep", sleepTool), ("sort", sortTool), ("stat", statusTool),
   ("sync", settleTool), ("tac", reversedLinesTool), ("tail", tailTool), ("tee", teeTool),
   ("test", conditionTool false), ("touch", touchTool), ("tr", translateTool),
   ("true", succeedTool), ("truncate", resizeTool), ("uname", systemTool), ("uniq", uniqueTool),
   ("unlink", removeNameTool), ("wc", countTool), ("whoami", ownNameTool), ("yes", repeatTool)]

/-- The programs that run others. -/
def runningPrograms : List String :=
  ["sh", "dash", "env", "nice", "nohup", "setsid", "timeout", "xargs"]

/-- Writes where tools are. -/
def whichTool : Tool := fun call t =>
  let names := call.args.filter fun arg => arg.head? ≠ some '-'
  let isKnown (name : ByteText) : Bool :=
    let text := String.ofList name
    ownTools.any (·.1 = text) || runningPrograms.contains text || text = "which"
  let isProgram (path : ByteText) : Bool :=
    t.isFile call.base (pathOf path) && (call.place? t path).any t.mayRun
  let find? (name : ByteText) : Option ByteText :=
    if name.contains '/' then (if isProgram name then some name else none)
    else if isKnown name then some (byteText "/usr/bin/" ++ name)
    else none
  let found := names.filterMap find?
  let status := if found.length = names.length ∧ !names.isEmpty then 0 else 1
  ({ Reply.said (found.flatMap fun path => path ++ ['\n']) with status }, t)

/-- The tool of a name. -/
def standardTool? (name : ByteText) : Option Tool :=
  let text := String.ofList name
  if text = "which" then some whichTool
  else if runningPrograms.contains text then some succeedTool
  else (ownTools.find? (·.1 = text)).map (·.2)

end KernelLink
