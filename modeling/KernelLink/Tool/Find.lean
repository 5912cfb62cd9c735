import KernelLink.Machine.Permissions
import KernelLink.Shell.Pattern
import KernelLink.Tool.Format
import KernelLink.Tool.Regex
import KernelLink.Tool.Status

/-!
# Expressions about files

An expression decides about a file: tests, which may be combined, and actions, which mostly succeed.
Some words say how directories are searched instead; as terms they hold of every file.
-/

namespace KernelLink

/-- How a number is compared with the one that is asked for. -/
inductive Comparison where
  | less
  | equal
  | more

def Comparison.holds (c : Comparison) (asked n : Nat) : Bool :=
  match c with
  | less => n < asked
  | equal => n = asked
  | more => asked < n

/-- How permissions are compared with those that are asked for. -/
inductive ModeTest where
  | exactly
  | allOf
  | anyOf

/-- A piece of text that is written about a file. -/
inductive FindPiece where
  | text (s : ByteText)
  /-- Something that is known about the file, under a letter. -/
  | fact (flags : List Char) (width : Nat) (letter : Char)
  /-- Nothing more is written. -/
  | stop

/-- What has to be known about a file, from what is easily seen to what is hard to find out. -/
inductive FindEffort where
  | path
  | kind
  | facts
  | access
deriving DecidableEq

def FindEffort.rank : FindEffort → Nat
  | path => 0
  | kind => 1
  | facts => 2
  | access => 3

/-- What is asked about a file, and done with it. -/
inductive FindTerm where
  | named (p : Shell.Pattern) (whole folds : Bool)
  | spelled (r : Regex) (folds : Bool)
  | kinds (letters : List Char)
  | empty
  | size (c : Comparison) (asked unit : Nat)
  | links (c : Comparison) (asked : Nat)
  | permits (test : ModeTest) (bits : Nat)
  | runnable
  /-- What holds of all files alike, with what it would take to see that. -/
  | constant (result : Bool) (effort : FindEffort)
  | same (path : ByteText)
  /-- Writes about the file, to the output unless a file is named. -/
  | print (target : Option ByteText) (pieces : List FindPiece)
  | delete
  /-- Runs a program about the file, in its directory if that is asked for, perhaps after a question
  whether to do so. -/
  | run (inside asks : Bool) (words : List ByteText)
  /-- Runs a program about all files at once; the number tells it from others. -/
  | runAll (number : Nat) (inside : Bool) (words : List ByteText)
  | prune
  | quit
  | not (x : FindTerm)
  | and (x y : FindTerm)
  | or (x y : FindTerm)
  | list (x y : FindTerm)

namespace FindTerm

/-- Whether an expression does anything but decide. -/
def acts : FindTerm → Bool
  | print .. | delete | run .. | runAll .. | quit => true
  | not x => x.acts
  | and x y | or x y | list x y => x.acts || y.acts
  | _ => false

/-- Whether an expression does anything but decide, also about how files are searched. -/
def hasEffect : FindTerm → Bool
  | prune => true
  | not x => x.hasEffect
  | and x y | or x y | list x y => x.hasEffect || y.hasEffect
  | x => x.acts

/-- What an expression that only decides has to know. -/
def rank : FindTerm → Nat
  | kinds _ => FindEffort.kind.rank
  | empty | size .. | links .. | permits .. | same _ => FindEffort.facts.rank
  | runnable => FindEffort.access.rank
  | constant _ effort => effort.rank
  | not x => x.rank
  | and x y | or x y | list x y => max x.rank y.rank
  | _ => 0

/-- Two terms of which the last decides. Of terms that only decide the easier one is looked at
first, even though the other one decides then. -/
def inTurn (x y : FindTerm) : FindTerm :=
  if !x.hasEffect && !y.hasEffect && y.rank < x.rank then list y x else list x y

/-- The programs that are run about all files at once. -/
def batches : FindTerm → List (Nat × Bool × List ByteText)
  | runAll number inside words => [(number, inside, words)]
  | not x => x.batches
  | and x y | or x y | list x y => x.batches ++ y.batches
  | _ => []

/-- Writes paths, each with something behind it. -/
def printPath (finish : Char) : FindTerm := print none [.fact [] 0 'p', .text [finish]]

end FindTerm

/-! ## Reading expressions -/

/-- What is being read: the words that are left, and how directories are searched. -/
structure FindState where
  rest : List ByteText
  least : Nat
  most : Option Nat
  /-- Whether what is in a directory comes before the directory. -/
  deepFirst : Bool
  /-- Whether expressions that spell paths are extended; nothing means neither kind. -/
  extended : Option Bool
  /-- How many programs were named that are run about all files at once. -/
  batches : Nat
  /-- The files that are written. -/
  targets : List ByteText
  /-- The files that others are compared with. -/
  references : List ByteText
  warnings : List ByteText

def FindState.start (words : List ByteText) : FindState :=
  ⟨words, 0, none, false, none, 0, [], [], []⟩

/-- Why an expression cannot be read: what is said about it. -/
abbrev FindM := StateT FindState (Except (List ByteText))

namespace FindM

/-- A word between the quotes of these complaints. -/
def marked (s : ByteText) : ByteText := '\x60' :: s ++ ['\x27']

def peek : FindM (Option ByteText) := do pure (← get).rest.head?

def skip : FindM Unit := modify fun s => { s with rest := s.rest.drop 1 }

/-- The argument of a test. -/
def argument (test : ByteText) : FindM ByteText := do
  match ← peek with
  | none => throw [byteText "missing argument to ", marked test]
  | some s => do
    skip
    pure s

def pattern (test : ByteText) (folds : Bool) : FindM Shell.Pattern := do
  let s ← argument test
  pure (Shell.Pattern.ofText (if folds then s.map Char.toLower else s))

/-- How deep directories are entered. -/
def depth (test : ByteText) : FindM Nat := do
  let s ← argument test
  if !s.isEmpty && s.all (·.isDigit) then pure (Shell.digitsOf 10 s).1
  else throw [byteText "Expected a positive decimal integer argument to ", test,
    byteText ", but got ", wordQuoted s]

/-- A number with a sign in front that says how it is compared, and what follows it. -/
def compared (s : ByteText) : Comparison × Option Nat × ByteText :=
  let (c, s) : Comparison × ByteText := match s with
    | '+' :: s => (.more, s)
    | '-' :: s => (.less, s)
    | s => (.equal, s)
  let digits := s.takeWhile (·.isDigit)
  (c, if digits.isEmpty then none else some (Shell.digitsOf 10 digits).1, s.drop digits.length)

def comparison (test : ByteText) : FindM (Comparison × Nat) := do
  let s ← argument test
  match compared s with
  | (c, some n, []) => pure (c, n)
  | _ => throw [byteText "invalid argument ", marked s, byteText " to ", marked test]

/-- How the age of a file has to be. No file is older than the search by more than a moment; ages
count in whole days, and in whole minutes that have begun. -/
def age (test : ByteText) (inMinutes : Bool) : FindM FindTerm := do
  let s ← argument test
  let (c, body) : Comparison × ByteText := match s with
    | '+' :: body => (.more, body)
    | '-' :: body => (.less, body)
    | body => (.equal, body)
  let one := Exact.ofNat 1
  match FormatM.realFront .binary64 body with
  | some (n, true, _) =>
    let holds : Bool := match c, inMinutes with
      | .equal, false => n.equals .zero
      | .equal, true => Exact.zero.lt n && n.le one
      | .less, false => Exact.zero.le n
      | .less, true => Exact.zero.lt n
      | .more, false => n.lt .zero
      | .more, true => n.le .zero
    pure (.constant holds .facts)
  | _ => throw [byteText "invalid argument ", marked s, byteText " to ", marked test]

/-- The file that others are compared with. -/
def reference (test : ByteText) : FindM ByteText := do
  let path ← argument test
  modify fun s => { s with references := s.references ++ [path] }
  pure path

def size (test : ByteText) : FindM FindTerm := do
  let s ← argument test
  if s.isEmpty then throw [byteText "invalid null argument to -size"]
  let unit? : Char → Option Nat
    | 'b' => some 512
    | 'c' => some 1
    | 'w' => some 2
    | 'k' => some 1024
    | 'M' => some 1048576
    | 'G' => some 1073741824
    | c => if c.isDigit then some 512 else none
  let last := s.getLastD '0'
  let number := if last.isDigit then s else s.dropLast
  match unit? last, compared number with
  | none, _ => throw [byteText "invalid -size type ", marked [last]]
  | some unit, (c, some n, []) => pure (.size c n unit)
  | some _, _ => throw [byteText "Invalid argument ", marked s, byteText " to -size"]

def permissions (test : ByteText) : FindM FindTerm := do
  let s ← argument test
  let (kind, mode) : ModeTest × ByteText := match s with
    | '-' :: mode => (.allOf, mode)
    | '/' :: mode => (.anyOf, mode)
    | mode => (.exactly, mode)
  let change? := match mode with
    | '+' :: c :: _ => if c.isDigit then none else Permissions.change? mode
    | mode => Permissions.change? mode
  match change? with
  | some steps =>
    let bits := Permissions.after 0 false 0 steps
    pure (match kind with
      | .anyOf => if bits = 0 then .constant true .facts else .permits .anyOf bits
      | kind => .permits kind bits)
  | none => throw [byteText "invalid mode ", wordQuoted s]

/-- The letters of kinds, which commas separate. -/
def kinds (test : ByteText) : FindM FindTerm := do
  let s ← argument test
  let known := ['b', 'c', 'd', 'p', 'f', 'l', 's', 'D']
  if s.isEmpty then throw [byteText "Arguments to -type should contain at least one letter"]
  let parts := splitAtEach ',' s
  match parts.find? fun part => part.length ≠ 1 || !(part.all known.contains) with
  | none => pure (.kinds parts.flatten)
  | some part =>
    match part with
    | [] => throw [byteText "Last file type in list argument to -type is missing, i.e., list is ",
        byteText "ending on: ','"]
    | c :: _ =>
      if known.contains c then
        throw [byteText "Must separate multiple arguments to -type using: ','"]
      else throw [byteText "Unknown argument to -type: ", [c]]

/-- What is to be written about files, with what there is to warn about. -/
def pieces : (most : Nat) → ByteText → List FindPiece × List ByteText
  | 0, _ | _, [] => ([], [])
  | most + 1, c :: s =>
    let go (piece : FindPiece) (rest : ByteText) : List FindPiece × List ByteText :=
      let (more, warnings) := pieces most rest
      (piece :: more, warnings)
    match c, s with
    | '%', _ =>
      let flags := s.takeWhile ['-', '+', ' ', '0', '#'].contains
      let digits := (s.drop flags.length).takeWhile (·.isDigit)
      match s.drop (flags.length + digits.length) with
      | '%' :: rest => go (.text ['%']) rest
      | [] => ([.text ('%' :: s)], [])
      | letter :: rest =>
        if "bdDfFhHiklmMnpPsSuUgGyY".toList.contains letter then
          go (.fact flags (Shell.digitsOf 10 digits).1 letter) rest
        else
          let (more, warnings) := go (.text ['%', letter]) rest
          (more, joinText [byteText "warning: unrecognized format directive ",
            marked ['%', letter]] :: warnings)
    | '\\', 'c' :: _ => ([.stop], [])
    | '\\', e :: rest =>
      let digits := (s.take 3).takeWhile octalDigit
      if !digits.isEmpty then
        let n := digits.foldl (fun n d => 8 * n + (d.toNat - '0'.toNat)) 0
        go (.text [Char.ofNat (n % 256)]) (s.drop digits.length)
      else match escapeLetter? e with
        | some d => go (.text [d]) rest
        | none =>
          let (more, warnings) := go (.text ['\\', e]) rest
          (more, joinText [byteText "warning: unrecognized escape ", marked ['\\', e]] :: warnings)
    | c, rest => go (.text [c]) rest

/-- Whether a format ends in the middle of a directive. -/
def isCutOff (format : ByteText) : Bool := (format.reverse.takeWhile (· = '%')).length % 2 = 1

/-- Text that is written about each file, with a target if it does not go to the output. -/
def printed (target : Option ByteText) (format : ByteText) : FindM FindTerm := do
  if isCutOff format then throw [byteText "error: % at end of format string"]
  let (parts, warnings) := pieces format.length format
  modify fun s => { s with
    warnings := s.warnings ++ warnings, targets := s.targets ++ target.toList }
  pure (.print target parts)

/-- Whether a text has a place for a path in it. -/
def hasPlace : ByteText → Bool
  | '\x7b' :: '\x7d' :: _ => true
  | _ :: s => hasPlace s
  | [] => false

/-- A program to be run, up to a semicolon, or to a plus sign behind the place for the paths. -/
def program (test : ByteText) (inside asks : Bool) : FindM FindTerm := do
  let s ← get
  let isPlace (w : ByteText) : Bool := w = ['\x7b', '\x7d']
  let rec split (before : List ByteText) :
      List ByteText → Option (Bool × List ByteText × List ByteText)
    | [] => none
    | w :: rest =>
      if w = [';'] then some (false, before.reverse, rest)
      else if w = ['+'] ∧ !asks ∧ before.head?.any isPlace then
        some (true, before.reverse.dropLast, rest)
      else split (w :: before) rest
  match split [] s.rest with
  | none => throw [byteText "missing argument to ", marked test]
  | some (_, [], _) =>
    throw [byteText "invalid argument ", marked [';'], byteText " to ", marked test]
  | some (false, words, rest) =>
    set { s with rest }
    pure (.run inside asks words)
  | some (true, words, rest) =>
    if words.any hasPlace then
      throw [byteText "Only one instance of \x7b\x7d is supported with ", test, byteText " ... +"]
    set { s with rest, batches := s.batches + 1 }
    pure (.runAll s.batches inside words)

/-- An expression for whole paths. Unless something else was asked for, plus signs and question
marks are operators without backslashes. -/
def spelling (test : ByteText) (folds : Bool) : FindM FindTerm := do
  let s ← argument test
  let extended := (← get).extended
  let rec swapped : ByteText → ByteText
    | '\\' :: c :: s =>
      if c = '+' ∨ c = '?' then '[' :: c :: ']' :: swapped s else '\\' :: c :: swapped s
    | c :: s => if c = '+' ∨ c = '?' then '\\' :: c :: swapped s else c :: swapped s
    | [] => []
  let text := if extended.isNone then swapped s else s
  match Regex.read ⟨extended.getD false, false, false⟩ text with
  | .ok r => pure (.spelled (.both .textStart (.both (.group 0 r) .textEnd)) folds)
  | .error _ => throw [byteText "failed to compile regular expression ", wordQuoted s,
      byteText ": Invalid regular expression"]

/-- Changes how directories are searched. -/
def option (f : FindState → FindState) : FindM FindTerm := do
  modify f
  pure (.constant true .path)

/-- A test, an action or an option whose word has been read. -/
def term (word : ByteText) : FindM FindTerm := do
  let ignored : FindM FindTerm := do
    discard (argument word)
    pure (.constant true .facts)
  match String.ofList word with
  | "-name" => do pure (.named (← pattern word false) false false)
  | "-iname" => do pure (.named (← pattern word true) false true)
  | "-path" | "-wholename" => do pure (.named (← pattern word false) true false)
  | "-ipath" | "-iwholename" => do pure (.named (← pattern word true) true true)
  | "-regex" => spelling word false
  | "-iregex" => spelling word true
  | "-regextype" => do
    let s ← argument word
    match String.ofList s with
    | "posix-extended" | "posix-egrep" | "egrep" | "posix-awk" | "awk" | "gnu-awk" =>
      option fun s => { s with extended := some true }
    | "posix-basic" | "posix-minimal-basic" | "grep" | "ed" | "sed" =>
      option fun s => { s with extended := some false }
    | "emacs" | "findutils-default" => option fun s => { s with extended := none }
    | _ => throw [byteText "Unknown regular expression type ", wordQuoted s,
        byteText "; valid types are 'findutils-default', 'ed', 'emacs', 'gnu-awk', 'grep', ",
        byteText "'posix-awk', 'awk', 'posix-basic', 'posix-egrep', 'egrep', 'posix-extended', ",
        byteText "'posix-minimal-basic', 'sed'."]
  | "-type" | "-xtype" => kinds word
  | "-empty" => pure .empty
  | "-size" => size word
  | "-perm" => permissions word
  | "-links" => do
    let (c, n) ← comparison word
    pure (.links c n)
  | "-uid" | "-gid" => do
    let (c, n) ← comparison word
    pure (.constant (c.holds n 0) .facts)
  | "-user" | "-group" => do
    let s ← argument word
    if s.isEmpty then throw (if word = byteText "-user" then
        [byteText "The argument to -user should not be empty"]
      else [byteText "argument to -group is empty, but should be a group name"])
    else if s = byteText "root" ∨ s = ['0'] then pure (.constant true .facts)
    else if s.all (·.isDigit) then pure (.constant false .facts)
    else throw [wordQuoted s, byteText (if word = byteText "-user" then
        " is not the name of a known user" else " is not the name of an existing group")]
  | "-false" => pure (.constant false .path)
  | "-nouser" | "-nogroup" => pure (.constant false .facts)
  | "-readable" | "-writable" => pure (.constant true .access)
  | "-true" | "-mount" | "-xdev" | "-daystart" | "-noleaf" |
    "-follow" | "-nowarn" | "-warn" | "-ignore_readdir_race" | "-noignore_readdir_race" =>
    pure (.constant true .path)
  | "-executable" => pure .runnable
  | "-mtime" | "-atime" | "-ctime" => age word false
  | "-mmin" | "-amin" | "-cmin" => age word true
  | "-samefile" => do pure (.same (← reference word))
  | "-fstype" => ignored
  | "-newer" | "-anewer" | "-cnewer" => do
    discard (reference word)
    pure (.constant false .facts)
  | "-depth" | "-d" => option fun s => { s with deepFirst := true }
  | "-print" => pure (.printPath '\n')
  | "-print0" => pure (.printPath '\x00')
  | "-printf" => do printed none (← argument word)
  | "-fprint" => do printed (some (← argument word)) (byteText "%p\\n")
  | "-fprint0" => do printed (some (← argument word)) (byteText "%p\\0")
  | "-fprintf" => do
    let target ← argument word
    printed (some target) (← argument word)
  | "-exec" => program word false false
  | "-execdir" => program word true false
  | "-ok" => program word false true
  | "-okdir" => program word true true
  | "-prune" => pure .prune
  | "-quit" => pure .quit
  | "-delete" => do
    modify fun s => { s with deepFirst := true }
    pure .delete
  | "-maxdepth" => do
    let n ← depth word
    option fun s => { s with most := some n }
  | "-mindepth" => do
    let n ← depth word
    option fun s => { s with least := n }
  | _ =>
    if word.head? = some '-' then throw [byteText "unknown predicate ", marked word]
    else throw [byteText "paths must precede expression: ", marked word]

/-- What is said where an operator stands with nothing before it. -/
def bareOperator {α : Type} (word : ByteText) : FindM α :=
  throw [byteText "invalid expression; you have used a binary operator \x27", word,
    byteText "\x27 with nothing before it."]

mutual

/-- A term behind a word, which may be negated or stand in parentheses. -/
def single : (most : Nat) → (before : ByteText) → FindM FindTerm
  | 0, _ => pure (.constant true .path)
  | most + 1, before => do
    match ← peek with
    | none => throw [byteText "expected an expression after ", wordQuoted before]
    | some ['!'] => do
      skip
      pure (.not (← single most ['!']))
    | some ['('] => do
      skip
      if (← peek) = some [')'] then
        throw [byteText "invalid expression; empty parentheses are not allowed."]
      let x ← series most ['(']
      match ← peek with
      | some [')'] => do
        skip
        pure x
      | _ => throw [byteText
          "invalid expression; I was expecting to find a \x27)\x27 somewhere but did not see one."]
    | some [')'] => throw [byteText "invalid expression; you have too many \x27)\x27"]
    | some word => do
      skip
      if ["-o", "-or", "-a", "-and", ","].contains (String.ofList word) then bareOperator word
      else if word = byteText "-not" then pure (.not (← single most word)) else term word

/-- Terms of which all have to hold. -/
def conjunction : (most : Nat) → (before : ByteText) → FindM FindTerm
  | 0, _ => pure (.constant true .path)
  | most + 1, before => do
    let x ← single most before
    match ← peek with
    | none => pure x
    | some word => do
      match String.ofList word with
      | ")" | "-o" | "-or" | "," => pure x
      | text => do
        if ["-a", "-and"].contains text then skip
        pure (.and x (← conjunction most word))

/-- Terms of which one has to hold. -/
def alternatives : (most : Nat) → (before : ByteText) → FindM FindTerm
  | 0, _ => pure (.constant true .path)
  | most + 1, before => do
    let x ← conjunction most before
    match ← peek with
    | none => pure x
    | some word =>
      if ["-o", "-or"].contains (String.ofList word) then
        skip
        pure (.or x (← alternatives most word))
      else pure x

/-- Terms that are looked at one after the other, of which the last decides. -/
def series : (most : Nat) → (before : ByteText) → FindM FindTerm
  | 0, _ => pure (.constant true .path)
  | most + 1, before => do seriesBehind most (← alternatives most before)

/-- A series that begins with a term. -/
def seriesBehind : (most : Nat) → FindTerm → FindM FindTerm
  | 0, x => pure x
  | most + 1, x => do
    if (← peek) = some [','] then
      skip
      seriesBehind most (x.inTurn (← alternatives most [',']))
    else pure x

end

/-- A whole expression. -/
def whole (most : Nat) : FindM FindTerm := do
  let x ← series most []
  match ← peek with
  | none => pure x
  | some _ => throw [byteText "you have too many \x27)\x27"]

end FindM

/-!
## Searching directories

An expression decides about every file at and below some paths. Without an action, the paths of the
files for which it holds are written. What an action does is there for all that comes after it.
-/

/-- A file that was found: the path that was searched, its own path, how deep it lies, where it is,
and what it is. -/
structure FoundFile where
  origin : ByteText
  path : ByteText
  depth : Nat
  place : Location
  node : FileNode

/-- What has come of a search so far. -/
structure FindRun where
  tree : FileTree
  /-- What was written, the last first. -/
  writes : List (Bool × ByteText)
  status : Nat
  input : ByteText
  /-- The files that programs are to be run about, the last first. -/
  gathered : List (Nat × FoundFile)
  /-- Nothing below the file is looked at. -/
  prunes : Bool
  stops : Bool

namespace FindRun

def say (r : FindRun) (text : ByteText) : FindRun := { r with writes := (false, text) :: r.writes }

def complain (call : ToolCall) (r : FindRun) (texts : List ByteText) : FindRun :=
  let line := joinText (call.name :: [':', ' '] :: texts ++ [['\n']])
  { r with writes := (true, line) :: r.writes, status := 1 }

/-- Asks whether a program is to be run about a file. A line of the input that begins with a y says
yes. -/
def ask (r : FindRun) (program path : ByteText) : Bool × FindRun :=
  let line := (byteLines r.input).headD []
  let question := joinText [byteText "< ", program, byteText " ... ", path, byteText " > ? "]
  (line.head? = some 'y' || line.head? = some 'Y',
    { r with writes := (true, question) :: r.writes, input := r.input.drop line.length })

/-- Runs a program; the result is whether it succeeded. -/
def launch (call : ToolCall) (r : FindRun) (base : Location) (words : List ByteText) :
    Bool × FindRun :=
  match call.launch base words r.input r.tree with
  | (.ok reply, tree) =>
    (reply.status = 0,
      { r with
        tree, writes := reply.writes.reverse ++ r.writes, input := r.input.drop reply.taken })
  | (.error f, tree) =>
    (false, { (r.complain call [wordQuoted (words.headD []), byteText ": ", f.text]) with
      tree, status := r.status })

end FindRun

/-- Puts a path in every place that is meant for it. -/
def withPath (path : ByteText) : ByteText → ByteText
  | '\x7b' :: '\x7d' :: s => path ++ withPath path s
  | c :: s => c :: withPath path s
  | [] => []

/-- The last name of a path, with a slash behind it if there is one. -/
def lastPart (path : ByteText) : ByteText :=
  let name := lastName path
  if path.getLast? = some '/' ∧ name ≠ ['/'] then name ++ ['/'] else name

/-- What a path is called inside its directory. -/
def insideName (path : ByteText) : ByteText := ['.', '/'] ++ lastPart path

/-- The way from the path that was searched to a file. -/
def FoundFile.way (f : FoundFile) : ByteText :=
  let rest := f.path.drop f.origin.length
  rest.dropWhile (· = '/')

/-- What is in front of the last slash of a path. -/
def leadingPath (path : ByteText) : ByteText :=
  let front (path : ByteText) : ByteText := ((path.reverse.dropWhile (· ≠ '/')).drop 1).reverse
  let trimmed := (path.reverse.dropWhile (· = '/')).reverse
  if trimmed.contains '/' then front trimmed
  else if path.contains '/' then front path
  else ['.']

/-- Something that is known about a file. -/
def FoundFile.fact (f : FoundFile) (t : FileTree) (letter : Char) : ByteText :=
  let bits := t.mode f.place
  match letter with
  | 'p' => f.path
  | 'f' => lastPart f.path
  | 'h' => leadingPath f.path
  | 'P' => f.way
  | 'H' => f.origin
  | 'd' => decimalText f.depth
  | 's' => decimalText (FileTree.nodeSize f.node)
  | 'b' => decimalText (FileTree.nodeBlocks f.node)
  | 'k' => decimalText (FileTree.nodeBlocks f.node / 2)
  | 'y' | 'Y' => if f.node.isDirectory then ['d'] else ['f']
  | 'm' => Permissions.octal 1 bits
  | 'M' => t.modeMarks f.place f.node
  | 'n' => decimalText (t.nameCount f.place f.node)
  | 'u' | 'g' => ownerName
  | 'U' | 'G' => ['0']
  | _ => []

/-- What is written about a file. -/
def FoundFile.text (f : FoundFile) (t : FileTree) : List FindPiece → ByteText
  | [] | .stop :: _ => []
  | .text s :: rest => s ++ f.text t rest
  | .fact flags width letter :: rest =>
    padText width (flags.contains '-') false [] (f.fact t letter) ++ f.text t rest

/-- Decides about a file. -/
def FindTerm.decide (call : ToolCall) (x : FindTerm) (f : FoundFile) (r : FindRun) :
    Bool × FindRun :=
  match x with
  | named p whole folds =>
    let s := if whole then f.path else lastName f.path
    (p.fits (if folds then s.map Char.toLower else s), r)
  | spelled e folds => ((e.matchAt? ⟨f.path.toArray, folds, false⟩ 0).isSome, r)
  | kinds letters => (letters.contains (if f.node.isDirectory then 'd' else 'f'), r)
  | empty =>
    let result := match f.node with
      | .file content => content.isEmpty
      | .directory => (r.tree.below f.place).isEmpty
    (result, r)
  | size c asked unit => (c.holds asked ((FileTree.nodeSize f.node + unit - 1) / unit), r)
  | links c asked => (c.holds asked (r.tree.nameCount f.place f.node), r)
  | permits test bits =>
    let has := r.tree.mode f.place
    (match test with
      | .exactly => has = bits
      | .allOf => has &&& bits = bits
      | .anyOf => has &&& bits ≠ 0, r)
  | runnable => (r.tree.mayRun f.place, r)
  | constant result _ => (result, r)
  | same path => (call.place? r.tree path = some f.place, r)
  | print none pieces => (true, r.say (f.text r.tree pieces))
  | print (some target) pieces =>
    let text := f.text r.tree pieces
    if String.ofList target = "/dev/stdout" then (true, r.say text)
    else if String.ofList target = "/dev/stderr" then
      (true, { r with writes := (true, text) :: r.writes })
    else
      let before := (call.content r.tree target).toOption.getD []
      let tree := (r.tree.write call.base (pathOf target) (bytesOf (before ++ text))).toOption
      (true, { r with tree := tree.getD r.tree })
  | delete =>
    if lastName f.path = ['.'] then (true, r)
    else if f.node.isDirectory ∧ !(r.tree.below f.place).isEmpty then
      (false, r.complain call [byteText "cannot delete ", wordQuoted f.path,
        byteText ": Directory not empty"])
    else (true, { r with tree := r.tree.remove f.place })
  | run inside asks words =>
    let path := if inside then insideName f.path else f.path
    let base := if inside then f.place.dropLast else call.base
    let program := words.map (withPath path)
    if asks then
      let (agrees, r) := r.ask (program.headD []) f.path
      if agrees then
        let (succeeded, after) := ({ r with input := [] } : FindRun).launch call base program
        (succeeded, { after with input := r.input })
      else (false, r)
    else r.launch call base program
  | runAll number _ _ => (true, { r with gathered := (number, f) :: r.gathered })
  | prune => (true, { r with prunes := true })
  | quit => (true, { r with stops := true })
  | not x =>
    let (result, r) := x.decide call f r
    (!result, r)
  | and x y =>
    let (result, r) := x.decide call f r
    if result && !r.stops then y.decide call f r else (false, r)
  | or x y =>
    let (result, r) := x.decide call f r
    if result || r.stops then (true, r) else y.decide call f r
  | list x y =>
    let (result, r) := x.decide call f r
    if r.stops then (result, r) else y.decide call f r

/-- How directories are searched. -/
structure FindManner where
  term : FindTerm
  least : Nat
  most : Option Nat
  deepFirst : Bool

/-- What is in a directory, in order of names. -/
def FoundFile.inner (f : FoundFile) (t : FileTree) : List FoundFile :=
  let here := (t.below f.place).filterMap fun (way, node) => match way with
    | [name] => some (name, node)
    | _ => none
  let sorted := here.mergeSort fun a b => inOrder (byteText a.1) (byteText b.1)
  sorted.map fun (name, node) =>
    { f with
      path := nameInside f.path (byteText name), depth := f.depth + 1
      place := f.place ++ [name], node }

/-- Decides about a file if it lies deep enough. -/
def FindManner.treat (m : FindManner) (call : ToolCall) (f : FoundFile) (r : FindRun) : FindRun :=
  if m.least ≤ f.depth then (m.term.decide call f r).2 else r

/-- Searches files and what is in them, down to a depth at most. -/
def FindManner.search (m : FindManner) (call : ToolCall) :
    (levels : Nat) → List FoundFile → FindRun → FindRun
  | _, [], r => r
  | 0, files, r => files.foldl (fun r f => if r.stops then r else m.treat call f r) r
  | levels + 1, f :: rest, r =>
    if r.stops then r
    else
      let enters (r : FindRun) : Bool :=
        f.node.isDirectory && !r.stops && !(r.prunes && !m.deepFirst) &&
          m.most.all fun most => f.depth < most
      let r := if m.deepFirst then r else m.treat call f { r with prunes := false }
      let r := if enters r then m.search call levels (f.inner r.tree) r else r
      let r := if m.deepFirst && !r.stops then m.treat call f r else r
      m.search call (levels + 1) rest r

/-- Runs the programs that were to be run about all files at once. -/
def FindRun.finish (call : ToolCall) (x : FindTerm) (r : FindRun) : FindRun :=
  x.batches.foldl (fun r (number, inside, words) =>
    let files := (r.gathered.filter (·.1 = number)).reverse.map (·.2)
    let run (r : FindRun) (base : Location) (paths : List ByteText) : FindRun :=
      let (succeeded, r) := r.launch call base (words ++ paths)
      if succeeded then r else { r with status := 1 }
    if files.isEmpty then r
    else if inside then
      files.foldl (fun r f => run r f.place.dropLast [insideName f.path]) r
    else run r call.base (files.map (·.path))) r

/-- Whether an argument begins the expression. -/
def beginsExpression (arg : ByteText) : Bool :=
  (arg.head? = some '-' && arg.length > 1) || arg = ['!'] || arg = ['(']

/-- Empties a file that is going to be written. -/
def emptied (call : ToolCall) (t : FileTree) (target : ByteText) : FileTree :=
  if isStream target then t
  else (t.write call.base (pathOf target) .empty).toOption.getD t

/-- Searches directories. -/
def findTool : Tool := fun call t =>
  let args := call.args.dropWhile fun arg => ["-H", "-L", "-P"].contains (String.ofList arg)
  let given := args.takeWhile fun arg => !beginsExpression arg
  let paths := if given.isEmpty then [['.']] else given
  let words := args.drop given.length
  let most := 4 * words.length + 4
  let reader : FindM FindTerm :=
    if words.isEmpty then pure (.constant true .path) else FindM.whole most
  match reader.run (.start words) with
  | .error reason => (call.complain reason, t)
  | .ok (x, s) =>
    let missing := s.references.findSome? fun path => match call.stat t path with
      | .ok _ => none
      | .error f => some (path, f)
    let closed := s.targets.findSome? fun path =>
      if isStream path then none
      else match t.write call.base (pathOf path) .empty with
        | .ok _ => none
        | .error f => some (path, f)
    match missing <|> closed with
    | some (path, f) => (call.complain [wordQuoted path, byteText ": ", f.text], t)
    | none =>
      let term := if x.acts then x else .and x (.printPath '\n')
      let manner : FindManner := ⟨term, s.least, s.most, s.deepFirst⟩
      let warnings := s.warnings.map fun w => (true, joinText [call.name, [':', ' '], w, ['\n']])
      let start : FindRun :=
        ⟨s.targets.foldl (emptied call) t, warnings.reverse, 0, call.input, [], false, false⟩
      let run := paths.foldl (fun (r : FindRun) path =>
        if r.stops then r
        else match call.stat r.tree path, r.tree.locate call.base (pathOf path) with
          | .ok node, .ok place =>
            let levels := 2 + (r.tree.below place).foldl (fun n (way, _) => max n way.length) 0
            manner.search call levels [⟨path, path, 0, place, node⟩] r
          | .error f, _ | _, .error f => r.complain call [wordQuoted path, byteText ": ", f.text])
        start
      let run := run.finish call term
      (⟨run.status, run.writes.reverse, call.input.length - run.input.length⟩, run.tree)

end KernelLink
