import KernelLink.Shell.Pattern
import KernelLink.Tool.Lines
import KernelLink.Tool.Regex

/-!
# Searching lines

Lines that match one of several expressions are written or counted, with lines around them where
that is asked for. The status says whether there were any, unless something could not be read.
-/

namespace KernelLink

/-- How lines are looked at and what is made of them. -/
structure SearchManner where
  expressions : List Regex
  ignoresCase : Bool
  inverted : Bool
  numbers : Bool
  /-- Whether it is shown how many bytes are before what is written. -/
  offsets : Bool
  onlyMatches : Bool
  limit : Option Nat
  /-- How many lines are shown before and after a selected one, if that was said. -/
  context : Option (Nat × Nat)
  /-- What stands between groups of lines. -/
  separator : Option ByteText
  /-- What ends a line. -/
  finish : Char
  /-- Whether a name ends in a zero. -/
  endsNames : Bool
  /-- Whether lines begin at a tab. -/
  isAligned : Bool
  isColored : Bool

/-! ## Matching -/

/-- The first match of one of the expressions at a place or behind it; of those that begin there
the longest. -/
def firstMatch? (m : SearchManner) (s : Regex.Subject) (start : Nat) : Option Regex.Match :=
  let found := m.expressions.filterMap fun r => r.find? s start
  found.foldl (fun best x =>
    match best with
    | none => some x
    | some b =>
      if x.first < b.first ∨ (x.first = b.first ∧ b.last < x.last) then some x else some b) none

/-- The matches in a line, from left to right. -/
def matchesFrom (m : SearchManner) (s : Regex.Subject) : (most : Nat) → Nat → List Regex.Match
  | 0, _ => []
  | most + 1, start =>
    match firstMatch? m s start with
    | none => []
    | some x =>
      let next := if x.last = x.first then x.last + 1 else x.last
      x :: if s.chars.size < next then [] else matchesFrom m s most next

/-- Whether a line is one that is searched for. -/
def SearchManner.selects (m : SearchManner) (line : ByteText) : Bool :=
  (firstMatch? m ⟨line.toArray, m.ignoresCase, false⟩ 0).isSome != m.inverted

/-- Puts an expression between others that ask for a whole line or for whole words. -/
def bounded (wholeLines wholeWords : Bool) (r : Regex) : Regex :=
  if wholeLines then .both .lineStart (.both (.group 0 r) .lineEnd)
  else if wholeWords then .both (.noWord true) (.both r (.noWord false))
  else r

/-! ## Lines -/

/-- A line with its number and how many bytes are before it. -/
structure NumberedLine where
  number : Nat
  offset : Nat
  text : ByteText

/-- The lines of a text. -/
def numberedLines (finish : Char) (text : ByteText) : List NumberedLine :=
  let step (state : Nat × List NumberedLine) (line : ByteText × Nat) : Nat × List NumberedLine :=
    (state.1 + line.1.length + 1, ⟨line.2 + 1, state.1, line.1⟩ :: state.2)
  (((linesEndedBy finish text).zipIdx).foldl step (0, [])).2.reverse

/-- Lines, and whether each is selected; no more are selected than are wanted. -/
def SearchManner.mark (m : SearchManner) (wanted : Option Nat) :
    List NumberedLine → List (NumberedLine × Bool)
  | [] => []
  | line :: rest =>
    if wanted ≠ some 0 ∧ m.selects line.text then
      (line, true) :: m.mark (wanted.map (· - 1)) rest
    else (line, false) :: m.mark wanted rest

/-- Whether each line is at most so far behind a selected one. -/
def reachedFrom (reach : Nat) : (left : Nat) → List Bool → List Bool
  | _, [] => []
  | _, true :: rest => true :: reachedFrom reach reach rest
  | left, false :: rest => (left ≠ 0) :: reachedFrom reach (left - 1) rest

/-- The selected lines with those around them. -/
def SearchManner.withContext (m : SearchManner) (lines : List (NumberedLine × Bool)) :
    List (NumberedLine × Bool) :=
  let (before, after) := m.context.getD (0, 0)
  let flags := lines.map (·.2)
  let behind := reachedFrom after 0 flags
  let ahead := (reachedFrom before 0 flags.reverse).reverse
  ((lines.zip (behind.zip ahead)).filter fun (_, a, b) => a || b).map (·.1)

/-! ## Writing -/

/-- Text in a color, where colors are wanted. -/
def SearchManner.colored (m : SearchManner) (color : String) (text : ByteText) : ByteText :=
  if m.isColored then
    joinText [byteText ("\x1b[" ++ color ++ "m\x1b[K"), text, byteText "\x1b[m\x1b[K"]
  else text

/-- A sign between parts of a line. -/
def SearchManner.sign (m : SearchManner) (c : Char) : ByteText := m.colored "36" [c]

/-- The name of a file in front of something. -/
def SearchManner.name (m : SearchManner) (name : ByteText) (c : Char) : ByteText :=
  m.colored "35" name ++ if m.endsNames then ['\x00'] else m.sign c

/-- A line with its matches colored. -/
def SearchManner.highlighted (m : SearchManner) (text : ByteText) : (place : Nat) →
    List Regex.Match → ByteText
  | place, [] => text.drop place
  | place, x :: rest =>
    (text.drop place).take (x.first - place) ++
      m.colored "01;31" ((text.drop x.first).take (x.last - x.first)) ++
      m.highlighted text x.last rest

/-- Lines as they are written. `width` is how much room numbers take, `last` the number of the line
that was written before, and `isLater` says that there was something before these lines. -/
def SearchManner.written (m : SearchManner) (name : ByteText) (width : Nat) (isLater : Bool)
    (last : Option Nat) : List (NumberedLine × Bool) → ByteText
  | [] => []
  | (line, itself) :: rest =>
    let mark : Char := if itself then ':' else '-'
    let number (n : Nat) : ByteText :=
      let digits := decimalText n
      m.colored "32" (List.replicate (width - digits.length) ' ' ++ digits) ++ m.sign mark
    let front (before : Nat) : ByteText :=
      let parts := (if name.isEmpty then [] else m.name name mark) ++
        (if m.numbers then number line.number else []) ++
        (if m.offsets then number (line.offset + before) else [])
      if m.isAligned && !parts.isEmpty && !line.text.isEmpty then parts ++ ['\t'] else parts
    let isApart : Bool := m.context.isSome &&
      (match last with
        | some k => k + 1 < line.number
        | none => isLater)
    let gap : ByteText := match m.separator with
      | some s => if isApart then m.colored "36" s ++ ['\n'] else []
      | none => []
    let isMatching := itself != m.inverted
    let found : List Regex.Match := if isMatching && (m.onlyMatches || m.isColored) then
        (matchesFrom m ⟨line.text.toArray, m.ignoresCase, false⟩ (line.text.length + 2) 0).filter
          fun x => x.first < x.last
      else []
    let body : ByteText := if m.onlyMatches then
        found.flatMap fun x =>
          let part := (line.text.drop x.first).take (x.last - x.first)
          front x.first ++ m.colored "01;31" part ++ [m.finish]
      else front 0 ++ m.highlighted line.text 0 found ++ [m.finish]
    gap ++ body ++ m.written name width true (some line.number) rest

/-! ## Expressions -/

/-- The operators of an expression that have nothing to work on, in order. `atStart` says that the
next one has not. -/
def strayOperators (atStart : Bool) : (most : Nat) → ByteText → List String
  | 0, _ | _, [] => []
  | most + 1, c :: s =>
    match c, s with
    | '\\', e :: rest =>
      let isPlace := ['<', '>', 'b', 'B', '\x60', '\x27'].contains e
      strayOperators (atStart && isPlace) most rest
    | '[', s =>
      let inside := s.dropWhile (· = '^')
      let rest := ((inside.drop 1).dropWhile (· ≠ ']')).drop 1
      strayOperators false most rest
    | '(', s | '|', s => strayOperators true most s
    | '^', s | '$', s => strayOperators atStart most s
    | '\x7b', s =>
      let counts := s.takeWhile (· ≠ '\x7d')
      let isCount := counts.length < s.length &&
        counts.all (fun c => c.isDigit || c = ',') && !counts.isEmpty
      if atStart && isCount then
        "\x7b...\x7d" :: strayOperators false most (s.drop (counts.length + 1))
      else strayOperators (atStart && isCount) most s
    | c, s =>
      if ['*', '+', '?'].contains c then
        if atStart then String.singleton c :: strayOperators true most s
        else strayOperators false most s
      else strayOperators false most s

def basicSearch : RegexStyle := ⟨false, false, true⟩

def extendedSearch : RegexStyle := ⟨true, false, true⟩

/-- The expression that plain text stands for. -/
def literalRegex (s : ByteText) : Regex := s.foldr (fun c r => .both (.char c) r) .empty

/-!
## Searching files

Files are searched one after the other, directories with all that is in them where that is asked
for. Patterns may keep names from being searched.
-/

def searchTable : OptionTable where
  flags :=
    [('c', "count"), ('v', "invert-match"), ('i', "ignore-case"), ('y', ""), ('n', "line-number"),
     ('l', "files-with-matches"), ('L', "files-without-match"), ('q', "quiet"), ('q', "silent"),
     ('s', "no-messages"), ('o', "only-matching"), ('w', "word-regexp"), ('x', "line-regexp"),
     ('E', "extended-regexp"), ('F', "fixed-strings"), ('G', "basic-regexp"),
     ('P', "perl-regexp"), ('h', "no-filename"), ('H', "with-filename"), ('r', "recursive"),
     ('R', "dereference-recursive"), ('a', "text"), ('b', "byte-offset"), ('U', "binary"),
     ('z', "null-data"), ('Z', "null"), ('T', "initial-tab"), ('I', ""), ('u', ""),
     ('\x04', "line-buffered"), ('\x09', "no-ignore-case"), ('\x0a', "no-group-separator")]
  valued :=
    [('e', "regexp"), ('f', "file"), ('m', "max-count"), ('A', "after-context"),
     ('B', "before-context"), ('C', "context"), ('d', "directories"), ('D', "devices"),
     ('\x05', "include"), ('\x06', "exclude"), ('\x07', "label"), ('\x08', "exclude-dir"),
     ('\x0b', "binary-files"), ('\x0c', "group-separator"), ('\x0e', "exclude-from")]
  optional := [('\x02', "color"), ('\x02', "colour")]

/-- Arguments in which a number of lines that stands among letters is the value of an option.
`isValue` says that the first argument is the value of another one. -/
def contextArguments (isValue : Bool) : List ByteText → List ByteText
  | [] => []
  | arg :: rest =>
    if isValue then arg :: contextArguments false rest
    else match arg with
      | ['-', '-'] => arg :: rest
      | '-' :: '-' :: name =>
        let usesNext : Bool := match searchTable.readName (some []) name with
          | .ok (_, usesNext) => usesNext
          | .error _ => false
        arg :: contextArguments usesNext rest
      | '-' :: c :: cs =>
        let (parts, usesNext) := letters [] (c :: cs)
        parts.map ('-' :: ·) ++ contextArguments usesNext rest
      | operand => operand :: contextArguments false rest
where
  /-- The options among letters, each group on its own; `digits` are those of a number,
  backwards. -/
  letters (digits : ByteText) : ByteText → List ByteText × Bool
    | [] => (number digits, false)
    | c :: cs =>
      if c.isDigit then letters (c :: digits) cs
      else if searchTable.valued.any (·.1 = c) then (number digits ++ [c :: cs], cs.isEmpty)
      else
        let (later, usesNext) := letters [] cs
        (number digits ++ [c] :: later, usesNext)
  number (digits : ByteText) : List ByteText :=
    if digits.isEmpty then [] else ['C' :: digits.reverse]

/-- Why a search cannot begin. -/
def searchUsage (call : ToolCall) (line : ByteText) : Reply :=
  .failed 2 (joinText [line, byteText "Usage: ", call.name,
    byteText " [OPTION]... PATTERNS [FILE]...\n", helpHint call.name])

/-! ### Files to be searched -/

/-- Names that are searched or not: patterns, and whether what fits them is. -/
abbrev NameRules := List (Bool × Shell.Pattern)

/-- Whether one of several names is kept from being searched. The last rule that fits counts; if
none does, it depends on the first one. -/
def NameRules.excludes (rules : NameRules) (names : List ByteText) : Bool :=
  match rules.reverse.find? fun rule => names.any rule.2.fits, rules with
  | some (includes, _), _ => !includes
  | none, (includes, _) :: _ => includes
  | none, [] => false

/-- A path and what it ends in behind a slash. -/
def pathEndings : ByteText → List ByteText
  | [] => [[]]
  | c :: s =>
    let endings := pathEndings s
    (c :: s) :: if c = '/' then endings else endings.drop 1

/-- What may be done with directories. -/
def directoryChoices : List (List String) := [["read"], ["recurse"], ["skip"]]

/-- What is searched. -/
structure SearchScope where
  files : NameRules
  directories : NameRules
  /-- Whether directories are searched, and whether they are passed over. -/
  recurses : Bool
  skips : Bool
  /-- Whether names are shown; without a choice it depends on what is searched. -/
  names : Option Bool

/-- The files that an operand stands for, and whether their names are shown if nothing was said.
`isAlone` says that there is no other operand. -/
def SearchScope.paths (scope : SearchScope) (call : ToolCall) (t : FileTree) (isAlone : Bool)
    (path : ByteText) : List (ByteText × Bool) :=
  let trimmed := ((path.reverse.dropWhile (· = '/')).reverse)
  let trimmed := if trimmed.isEmpty then path else trimmed
  match call.stat t path, call.place? t path with
  | .ok .directory, some place =>
    if scope.skips || scope.directories.excludes (pathEndings trimmed) then []
    else if !scope.recurses then [(path, !isAlone)]
    else
      let isSearched (way : Location) : Bool :=
        let names := way.map byteText
        !(names.dropLast.any fun name => scope.directories.excludes [name]) &&
          !scope.files.excludes [names.getLastD []]
      let files := (t.below place).filterMap fun (way, node) =>
        if node.isDirectory || !isSearched way then none
        else some (nameInside trimmed (byteText ("/".intercalate way)))
      (files.mergeSort inOrder).map fun file => (file, true)
  | _, _ =>
    if path ≠ ['-'] ∧ scope.files.excludes (pathEndings path) then []
    else [(path, !isAlone)]

/-- What the operands stand for. -/
def SearchScope.all (scope : SearchScope) (call : ToolCall) (t : FileTree)
    (operands : List ByteText) : List (ByteText × Bool) :=
  let isAlone := operands.length ≤ 1
  if operands.isEmpty && scope.recurses then
    (({ scope with directories := [] } : SearchScope).paths call t true ['.']).filterMap
      fun (path, shown) =>
        let inner := path.drop 2
        let names := (splitAtEach '/' inner).dropLast
        if names.any fun name => scope.directories.excludes [name] then none
        else some (inner, shown)
  else (inputsOf operands).flatMap (scope.paths call t isAlone)

/-! ### Options -/

/-- A number that says how many, without limit if it is below zero. -/
inductive SearchCount where
  | exactly (n : Nat)
  | unlimited

/-- Reads a number; only some may be below zero. -/
def searchCount? (s : ByteText) : Option SearchCount :=
  let body := s.dropWhile Shell.isSpace
  let digits := if body.head? = some '-' ∨ body.head? = some '+' then body.drop 1 else body
  if digits.isEmpty || !digits.all (·.isDigit) then none
  else if body.head? = some '-' ∧ digitsValue digits ≠ 0 then some .unlimited
  else some (.exactly (digitsValue digits))

/-- How many lines of context a text asks for. -/
def contextCount? (s : ByteText) : Option Nat :=
  match searchCount? s with
  | some (.exactly n) => some n
  | _ => none

/-- The letters of forms of expressions. -/
def formLetters : List Char := ['E', 'F', 'G', 'P']

/-- The first thing that is wrong with an option. -/
def searchFault? (call : ToolCall) (a : Arguments) : Option Reply :=
  let complain (texts : List ByteText) : Reply := { call.complain texts with status := 2 }
  let forms := a.options.filter fun o => formLetters.contains o.letter
  let conflict : Option Reply :=
    if forms.any fun o => some o.letter ≠ forms.head?.map (·.letter) then
      some (complain [byteText "conflicting matchers specified"])
    else none
  conflict.orElse fun _ => a.options.findSome? fun o =>
    match o.letter with
    | 'A' | 'B' | 'C' =>
      if (contextCount? o.value).isSome then none
      else some (complain [o.value, byteText ": invalid context length argument"])
    | 'm' =>
      if (searchCount? o.value).isSome then none
      else some (complain [byteText "invalid max count"])
    | '\x0b' =>
      if ["binary", "text", "without-match"].contains (String.ofList o.value) then none
      else some (complain [byteText "unknown binary-files type"])
    | 'D' =>
      if ["read", "skip"].contains (String.ofList o.value) then none
      else some (complain [byteText "unknown devices method"])
    | 'd' =>
      match choice directoryChoices o.value with
      | .ok _ => none
      | .error f =>
        let said := (call.badChoice "--directories" directoryChoices o.value f).onStream true
        let body := said.take (said.length - (helpHint call.name).length - 1)
        some { searchUsage call body with status := 1 }
    | _ => none

/-- What is done with files that are no text. -/
inductive BinaryManner where
  | mention
  | asText
  | skip

/-- The last of some options. -/
def Arguments.last? (a : Arguments) (letters : List Char) : Option GivenOption :=
  a.options.reverse.find? fun o => letters.contains o.letter

/-- What was asked for about files that are no text. -/
def binaryManner (a : Arguments) : BinaryManner :=
  match a.last? ['a', 'I', '\x0b'] with
  | some o =>
    if o.letter = 'a' ∨ o.value = byteText "text" then .asText
    else if o.letter = 'I' ∨ o.value = byteText "without-match" then .skip
    else .mention
  | none => .mention

/-- The rules that options make, with the files of patterns that they name. -/
def nameRules (call : ToolCall) (t : FileTree) (a : Arguments) : NameRules :=
  a.options.flatMap fun o =>
    let rule (includes : Bool) (s : ByteText) : Bool × Shell.Pattern :=
      (includes, Shell.Pattern.ofText s)
    match o.letter with
    | '\x05' => [rule true o.value]
    | '\x06' => [rule false o.value]
    | '\x0e' =>
      (linesEndedBy '\n' ((call.operandText t o.value).toOption.getD [])).map (rule false)
    | _ => []

/-- The rules for directories. -/
def directoryRules (a : Arguments) : NameRules :=
  a.options.filterMap fun o =>
    if o.letter ≠ '\x08' then none
    else
      let name := (o.value.reverse.dropWhile (· = '/')).reverse
      some (false, Shell.Pattern.ofText name)

/-- The manner of a search. -/
def searchManner (a : Arguments) (expressions : List Regex) : SearchManner :=
  let common := ((a.last? ['C']).bind fun o => contextCount? o.value)
  let before := ((a.value? 'B').bind contextCount?).or common
  let after := ((a.value? 'A').bind contextCount?).or common
  let limit : Option Nat := match (a.value? 'm').bind searchCount? with
    | some (.exactly n) => some n
    | _ => none
  let colors : Bool := match a.last? ['\x02'] with
    | some o => ["always", "yes", "force"].contains (String.ofList o.value)
    | none => false
  let separator : Option ByteText := match a.last? ['\x0a', '\x0c'] with
    | some o => if o.letter = '\x0a' then none else some o.value
    | none => some ['-', '-']
  { expressions := expressions.map (bounded (a.has 'x') (a.has 'w'))
    ignoresCase := (a.last? ['i', 'y', '\x09']).any (·.letter ≠ '\x09')
    inverted := a.has 'v', numbers := a.has 'n', offsets := a.has 'b', onlyMatches := a.has 'o'
    limit
    context := if before.isSome || after.isSome then some (before.getD 0, after.getD 0) else none
    separator
    finish := if a.has 'z' then '\x00' else '\n'
    endsNames := a.has 'Z'
    isAligned := a.has 'T'
    isColored := colors }

/-! ### The search -/

/-- How far a search has come. -/
structure SearchState where
  reply : Reply
  found : Bool
  failed : Bool

/-- What is asked of a search as a whole. -/
structure SearchTask where
  manner : SearchManner
  binary : BinaryManner
  /-- Whether lines are only counted. -/
  counts : Bool
  /-- Whether files are only listed, and then whether those that have such lines are. -/
  lists : Option Bool
  isQuiet : Bool
  isSilent : Bool
  label : ByteText

/-- Whether nothing but the existence of one line counts. -/
def SearchTask.needsOne (task : SearchTask) : Bool :=
  task.isQuiet || task.lists.isSome

/-- What is written about a file as a whole: its name, or how many lines it has. -/
def SearchTask.summary? (task : SearchTask) (name shown : ByteText) (count : Nat) :
    Option ByteText :=
  let m := task.manner
  let nameEnd : ByteText := if m.endsNames then ['\x00'] else ['\n']
  if task.isQuiet then some []
  else match task.lists, task.counts with
    | some wanted, _ =>
      some (if wanted = (count ≠ 0) then m.colored "35" shown ++ nameEnd else [])
    | none, true =>
      some ((if name.isEmpty then [] else m.name name ':') ++ decimalText count ++ ['\n'])
    | none, false => none

/-- Searches one file. -/
def SearchTask.search (task : SearchTask) (call : ToolCall) (t : FileTree) (state : SearchState)
    (path : ByteText) (isNamed : Bool) : SearchState :=
  let m := task.manner
  let shown : ByteText := if path = ['-'] then task.label else path
  let name := if isNamed then shown else []
  let refused (f : FileFault) : SearchState :=
    let reply := if task.isSilent then state.reply
      else state.reply.followedBy (call.complain [path, byteText ": ", f.text])
    let summary := if f = .isADirectory then (task.summary? name shown 0).getD [] else []
    let reply := { reply with writes := reply.writes ++ [(false, summary)] }
    { state with reply, failed := true }
  let source := if path = ['-'] then call.source else call.place? t path
  match call.operandText t path with
  | .error f => refused f
  | .ok text =>
    let isOutput : Bool := !task.needsOne && !task.counts && m.limit ≠ some 1 &&
      source.isSome && source = call.output
    if isOutput then
      let reply := state.reply.followedBy
        (call.complain [shown, byteText ": input file is also the output"])
      { state with reply, failed := true }
    else
      let isBinary : Bool := match task.binary with
        | .asText => false
        | _ => m.finish = '\n' && text.contains '\x00'
      let isSkipped : Bool := match task.binary with
        | .skip => isBinary
        | _ => false
      let cut := if isBinary then text.map fun c => if c = '\x00' then '\n' else c else text
      let lines := if isSkipped then [] else m.mark m.limit (numberedLines m.finish cut)
      let count := (lines.filter (·.2)).length
      let any := count ≠ 0
      let digits := match source with
        | some _ => (decimalText (text.length + if m.numbers then 1 else 0)).length
        | none => 20
      let mentions : Bool := isBinary && !isSkipped
      let writes : List (Bool × ByteText) :=
        match task.summary? name shown count with
        | some summary => [(false, summary)]
        | none =>
        if mentions then
          if any then [(true, joinText [call.name, byteText ": ", shown,
            byteText ": binary file matches\n"])] else []
        else
          [(false, m.written name (if m.isAligned then digits else 0) state.found none
            (m.withContext lines))]
      let reply := { state.reply with writes := state.reply.writes ++ writes }
      { state with reply, found := state.found || any }

/-- A pattern, with what is said in front of its faults: where it was read, if in a file. -/
structure SearchPattern where
  text : ByteText
  place : ByteText
deriving DecidableEq

/-- Patterns that were given as an argument, a line each. -/
def givenPatterns (s : ByteText) : List SearchPattern := (splitAtEach '\n' s).map (⟨·, []⟩)

/-- The patterns in a file, a line each. -/
def filePatterns (name text : ByteText) : List SearchPattern :=
  (linesEndedBy '\n' text).zipIdx.map fun (line, n) =>
    ⟨line, joinText [name, [':'], decimalText (n + 1), byteText ": "]⟩

/-- The patterns and the operands behind them; a file of patterns may not be there. -/
def searchPatterns (call : ToolCall) (t : FileTree) (a : Arguments) :
    Except Reply (List SearchPattern × List ByteText) := do
  match searchFault? call a with
  | some reply => throw reply
  | none => pure ()
  let given ← a.options.filterMapM fun o =>
    if o.letter = 'e' then Except.ok (some (givenPatterns o.value))
    else if o.letter = 'f' then
      match call.operandText t o.value with
      | .ok text => .ok (some (filePatterns o.value text))
      | .error f =>
        .error { call.complain [o.value, byteText ": ", f.text] with status := 2 }
    else .ok none
  if a.options.any fun o => o.letter = 'e' || o.letter = 'f' then
    pure (given.flatten, a.operands)
  else match a.operands with
    | [] => .error (searchUsage call [])
    | pattern :: operands => pure (givenPatterns pattern, operands)

/-- Reads each pattern once. The result says what is wrong with those that cannot be read, or with
the first one that has a class without its brackets; `style` is none for plain text. -/
def readPatterns (call : ToolCall) (style : Option RegexStyle) (patterns : List SearchPattern) :
    Except Reply (List Regex × List (Bool × ByteText)) :=
  let once := patterns.foldl (fun kept p =>
    if kept.any (·.text = p.text) then kept else kept ++ [p]) []
  let warnings (some1 : List SearchPattern) : List (Bool × ByteText) :=
    if style ≠ some extendedSearch then []
    else some1.flatMap fun p =>
      (strayOperators true (p.text.length + 1) p.text).map fun operator =>
        (true, joinText [call.name, byteText (": warning: " ++ operator ++
          " at start of expression\n")])
  let read (p : SearchPattern) : Except (SearchPattern × RegexFault) Regex :=
    match style with
    | none => .ok (literalRegex p.text)
    | some style => (Regex.read style p.text).mapError fun f => (p, f)
  let results := once.map read
  let faults := results.filterMap fun
    | .error (p, f) => if f = .bareClass then none else some (p, f)
    | .ok _ => none
  let refusals := faults.map fun (p, f) => call.complain [p.place, byteText f.reason]
  if !refusals.isEmpty then .error { refusals.foldl Reply.followedBy .quiet with status := 2 }
  else match results.mapM id with
    | .ok expressions => .ok (expressions, warnings once)
    | .error (p, f) =>
      let before := warnings (once.takeWhile (·.text ≠ p.text))
      .error ((Reply.mk 0 before 0).followedBy
        { call.complain [byteText f.reason] with status := 2 })

/-- Searches files in one of the forms of expressions. -/
def searchFiles (form : Char) : Tool := fun call t =>
  let call := { call with name := byteText "grep" }
  let before : List ByteText := if form = 'G' then [] else [['-', form]]
  match searchTable.read false false (before ++ contextArguments false call.args) with
  | .error f =>
    let reply := f.reply call.name 2
    let text := (reply.onStream true).takeWhile (· ≠ '\n') ++ ['\n']
    (searchUsage call text, t)
  | .ok a =>
    let style := if a.has 'E' || a.has 'P' then some extendedSearch
      else if a.has 'F' then none
      else some basicSearch
    match searchPatterns call t a with
    | .error reply => (reply, t)
    | .ok (patterns, operands) =>
      match readPatterns call style patterns with
      | .error reply => (reply, t)
      | .ok (expressions, warned) =>
        let manner := searchManner a expressions
        let last? := a.last? ['d', 'r', 'R']
        let action := (last?.bind fun o => (choice directoryChoices o.value).toOption).getD 0
        let named? := (a.last? ['H', 'h']).map fun o => decide (o.letter = 'H')
        let scope : SearchScope :=
          { files := nameRules call t a
            directories := directoryRules a
            recurses := last?.any fun o => o.letter ≠ 'd' || action = 1
            skips := last?.any fun o => o.letter = 'd' && action = 2
            names := named? }
        let task : SearchTask :=
          { manner, binary := binaryManner a, counts := a.has 'c'
            lists := (a.last? ['l', 'L']).map fun o => decide (o.letter = 'l')
            isQuiet := a.has 'q', isSilent := a.has 's'
            label := (a.value? '\x07').getD (byteText "(standard input)") }
        let paths := scope.all call t operands
        let start : SearchState := ⟨.quiet, false, false⟩
        let state : SearchState := if manner.limit = some 0 ∧ !a.has 'L' then start
          else paths.foldl (fun state (path, shown) =>
            if task.isQuiet && state.found then state
            else task.search call t state path (scope.names.getD shown)) start
        let status := if state.failed && !(task.isQuiet && state.found) then 2
          else if state.found then 0 else 1
        ({ state.reply with
          writes := warned ++ state.reply.writes, status
          taken := call.takenBy (paths.map (·.1)) }, t)

def searchTool : Tool := searchFiles 'G'

def extendedSearchTool : Tool := searchFiles 'E'

def fixedSearchTool : Tool := searchFiles 'F'

end KernelLink
