import KernelLink.Tool.Basic
import KernelLink.Tool.Regex

/-!
# Editing scripts

The commands of the stream editor, and how scripts are read into them. Blocks and labels become
places in one list of commands, so that running a script is walking through that list.
-/

namespace KernelLink.Edit

/-- An expression; none stands for the last one that was used. -/
structure LinePattern where
  regex : Option Regex
  ignoresCase : Bool
  /-- Whether lines inside the text have a start and an end of their own. -/
  hasLines : Bool

inductive Address where
  | line (n : Nat)
  /-- Every so many lines from one on. -/
  | every (first step : Nat)
  | last
  | fits (p : LinePattern)

/-- Where a range of lines ends. -/
inductive RangeEnd where
  | at (a : Address)
  | after (count : Nat)
  | multiple (n : Nat)

/-- The lines that a command is for. -/
inductive Lines where
  | all
  | one (a : Address)
  | range (first : Address) (last : RangeEnd)

/-- How the case of replacement text changes from here on. -/
inductive CaseChange where
  | upper | lower | nextUpper | nextLower | none
deriving DecidableEq, Repr

inductive Replacement where
  | text (s : ByteText)
  | group (n : Nat)
  | case (c : CaseChange)

structure Substitution where
  pattern : LinePattern
  replacement : List Replacement
  number : Nat
  isGlobal : Bool
  prints : Bool
  /-- Whether the line is run as a command after that, and whether it is printed before it is. -/
  runs : Bool
  printsFirst : Bool
  file : Option ByteText

inductive Action where
  /-- A block; commands up to a place are passed over if it is not for the line. -/
  | block (finish : Nat)
  | nothing
  | append (text : ByteText)
  | insert (text : ByteText)
  | change (text : ByteText)
  | jump (place : Nat)
  | jumpIfReplaced (replaced : Bool) (place : Nat)
  | delete
  | deleteFirst
  | getHold (adds : Bool)
  | hold (adds : Bool)
  | exchange
  | next
  | nextAdded
  | print
  | printFirst
  | printNumber
  /-- Everything is to be seen, in lines of a width if one is given. -/
  | printVisible (width : Option Nat)
  | printName
  /-- Ends the run with the line, or at once. -/
  | quit (finishes : Bool) (status : Nat)
  | readFile (path : ByteText)
  /-- Shows a file before the first line. -/
  | showFile (path : ByteText)
  | readLine (path : ByteText)
  | writeFile (path : ByteText)
  | writeFirst (path : ByteText)
  | substitute (s : Substitution)
  | translate (pairs : List (Char × Char))
  | clear
  /-- Runs a command of its own and shows what that writes. -/
  | run (command : ByteText)
  /-- Runs the line as a command that writes another line. -/
  | runLine

structure Command where
  lines : Lines
  negated : Bool
  action : Action

/-! ## Faults -/

inductive FaultKind where
  | unknownCommand (c : Char)
  | unterminatedSubstitution
  | unterminatedTranslation
  | unterminatedAddress
  | unknownOption
  | missingCommand
  | noText
  | extraCharacters
  | openBlock
  | closedBlock
  | lengths
  | zeroLine
  | zeroNumber
  | repeatedNumber
  | repeatedFlag (c : Char)
  | badReference (n : Nat)
  | blockAddress
  | relativeFirst
  | emptyLabel
  | repeatedMark
  | newerVersion
  | noFile
  | disallowed
  | commentAddress
  | labelAddress
  | closingAddress
  | oneAddress
  | nestedEscape
  | unreadable (name : ByteText) (f : FileFault)
  | regex (f : RegexFault)
  | noLabel (name : ByteText)

def quotedCommand (c : Char) : String := "\x60" ++ String.singleton c ++ "\x27"

def FaultKind.reason : FaultKind → ByteText
  | .unknownCommand c => byteText "unknown command: \x60" ++ [c, '\x27']
  | .unterminatedSubstitution => byteText ("unterminated " ++ quotedCommand 's' ++ " command")
  | .unterminatedTranslation => byteText ("unterminated " ++ quotedCommand 'y' ++ " command")
  | .unterminatedAddress => byteText "unterminated address regex"
  | .unknownOption => byteText ("unknown option to " ++ quotedCommand 's')
  | .missingCommand => byteText "missing command"
  | .noText => byteText ("expected \\ after " ++ quotedCommand 'a' ++ ", " ++ quotedCommand 'c' ++
      " or " ++ quotedCommand 'i')
  | .extraCharacters => byteText "extra characters after command"
  | .openBlock => byteText ("unmatched " ++ quotedCommand '\x7b')
  | .closedBlock => byteText ("unexpected " ++ quotedCommand '\x7d')
  | .lengths => byteText ("strings for " ++ quotedCommand 'y' ++ " command are different lengths")
  | .zeroLine => byteText "invalid usage of line address 0"
  | .zeroNumber => byteText ("number option to " ++ quotedCommand 's' ++ " command may not be zero")
  | .repeatedNumber =>
    byteText ("multiple number options to " ++ quotedCommand 's' ++ " command")
  | .repeatedFlag c =>
    byteText ("multiple " ++ quotedCommand c ++ " options to " ++ quotedCommand 's' ++ " command")
  | .badReference n =>
    byteText ("invalid reference \\" ++ toString n ++ " on " ++ quotedCommand 's' ++
      " command\x27s RHS")
  | .blockAddress => byteText ("unexpected " ++ quotedCommand ',')
  | .relativeFirst => byteText "invalid usage of +N or ~N as first address"
  | .emptyLabel => byteText "\":\" lacks a label"
  | .repeatedMark => byteText "multiple \x60!\x27s"
  | .newerVersion => byteText "expected newer version of sed"
  | .noFile => byteText "missing filename in r/R/w/W commands"
  | .disallowed => byteText "e/r/w commands disabled in sandbox mode"
  | .commentAddress => byteText "comments don\x27t accept any addresses"
  | .labelAddress => byteText ": doesn\x27t want any addresses"
  | .closingAddress => byteText (quotedCommand '\x7d' ++ " doesn\x27t want any addresses")
  | .oneAddress => byteText "command only uses one address"
  | .nestedEscape => byteText "recursive escaping after \\c not allowed"
  | .unreadable name f => joinText [byteText "couldn\x27t open file ", name, byteText ": ", f.text]
  | .regex f => byteText f.reason
  | .noLabel name => byteText "can\x27t find label for jump to \x60" ++ name ++ ['\x27']

/-- A place in a script: the number of a part, and how many characters of it are in front. -/
structure ScriptPlace where
  part : Nat
  offset : Nat

/-- A fault with how far the script had been read, and the files that were to be written up to
there. -/
structure Fault where
  kind : FaultKind
  place : ScriptPlace
  written : List ByteText

/-! ## Reading -/

/-- A command that has been read; labels and blocks are still open. -/
inductive Draft where
  | done (a : Action)
  | opening
  | closing
  | label (name : ByteText)
  | jump (replaced : Option Bool) (name : ByteText)

/-- A command that has been read, with its lines and whether it is for all others. -/
abbrev DraftLine := Lines × Bool × Draft

structure Reader where
  /-- What is left of the part that is read. -/
  rest : ByteText
  place : ScriptPlace
  /-- Whether the text of the last command goes on in the next part. -/
  isPending : Bool
  /-- Whether a script may only change lines. -/
  confined : Bool
  /-- Where the blocks begin that are open, the innermost first. -/
  blocks : List ScriptPlace
  /-- The files that are written, the last first. -/
  written : List ByteText

abbrev ReadM := StateT Reader (Except Fault)

namespace ReadM

def fail {α : Type} (kind : FaultKind) : ReadM α := do
  let s ← get
  throw ⟨kind, s.place, s.written.reverse⟩

/-- Goes on behind some characters. -/
def skip (count : Nat) : ReadM Unit :=
  modify fun s => { s with
    rest := s.rest.drop count, place := { s.place with offset := s.place.offset + count } }

def peek : ReadM (Option Char) := do pure (← get).rest.head?

def char : ReadM (Option Char) := do
  let next ← peek
  skip (if next.isSome then 1 else 0)
  pure next

/-- Takes the characters at the front that fit. -/
def takeWhile (fits : Char → Bool) : ReadM ByteText := do
  let front := (← get).rest.takeWhile fits
  skip front.length
  pure front

def blanks : ReadM Unit := discard (takeWhile fun c => c = ' ' || c = '\t')

def number : ReadM Nat := do pure (Shell.digitsOf 10 (← takeWhile (·.isDigit))).1

/-- Where a reader of expressions is with respect to sets of characters. -/
inductive SetPlace where
  | outside
  /-- Where a sign may turn the set around. -/
  | opened
  /-- Where a closing bracket would be a member. -/
  | started
  | inside
  /-- Behind a bracket that may begin a name, behind the sign that does, and behind one that may
  end it. -/
  | bracket
  | named (sign : Char)
  | signed (sign : Char)
deriving DecidableEq

/-- The place behind a character of a set. -/
def SetPlace.behind (c : Char) : SetPlace → SetPlace
  | .opened => if c = '^' then .started else if c = ']' then .inside else member
  | .started => if c = ']' then .inside else member
  | .bracket =>
    if c = ']' then .outside
    else if ['.', ':', '='].contains c then .named c
    else member
  | .named sign => if c = sign then .signed sign else .named sign
  | .signed sign =>
    if c = ']' then .inside else if c = '[' then .signed sign else .named sign
  | _ => if c = ']' then .outside else member
where
  member : SetPlace := if c = '[' then .bracket else .inside

/-- Text up to a delimiter, which is taken with it; a newline ends the search and is left. A
backslash before the delimiter makes it an ordinary character, and in sets of characters it is one
anyway. -/
def upTo (delimiter : Char) (isRegex : Bool) : (most : Nat) → SetPlace → ReadM (Option ByteText)
  | 0, _ => pure none
  | most + 1, place => do
    match ← peek with
    | none | some '\n' => pure none
    | some c =>
      discard char
      let again (front : ByteText) (place : SetPlace) : ReadM (Option ByteText) := do
        pure ((← upTo delimiter isRegex most place).map (front ++ ·))
      if place ≠ .outside then again [c] (place.behind c)
      else if c = delimiter then pure (some [])
      else if c = '\\' then
        match ← char with
        | none => pure none
        | some d =>
          if d = delimiter then
            again (if isRegex ∨ delimiter ≠ '&' then [d] else ['\\', d]) .outside
          else if d = '\n' ∧ isRegex then again ['\n'] .outside
          else again ['\\', d] .outside
      else again [c] (if isRegex ∧ c = '[' then .opened else .outside)

/-- A number of at most so many digits at the front of a text, and what follows it. -/
def digitsUpTo (base most : Nat) (s : ByteText) : Option (Char × ByteText) :=
  let isDigit (c : Char) : Bool := (Shell.digitsOf base [c]).2.isEmpty
  let front := (s.take most).takeWhile isDigit
  if front.isEmpty then none
  else some (Char.ofNat ((Shell.digitsOf base front).1 % 256), s.drop front.length)

/-- The character that is meant by what stands behind a backslash, and what follows it. -/
def escape? : ByteText → Option (Char × ByteText)
  | 'a' :: s => some ('\x07', s)
  | 'f' :: s => some ('\x0c', s)
  | 'n' :: s => some ('\n', s)
  | 'r' :: s => some ('\r', s)
  | 't' :: s => some ('\t', s)
  | 'v' :: s => some ('\x0b', s)
  | ['c', '\\'] => none
  | 'c' :: '\\' :: _ :: s => some ('\x1c', s)
  | 'c' :: c :: s => some (Char.ofNat (c.toUpper.toNat ^^^ 0x40), s)
  | 'd' :: s => digitsUpTo 10 3 s
  | 'o' :: s => digitsUpTo 8 3 s
  | 'x' :: s => digitsUpTo 16 2 s
  | _ => none

/-- A text with the characters in it that were written behind backslashes by their names or
numbers. -/
def unescapedFrom : (most : Nat) → ByteText → ByteText
  | 0, s => s
  | _, [] => []
  | most + 1, c :: s =>
    if c ≠ '\\' then c :: unescapedFrom most s
    else match escape? s, s with
      | some (d, rest), _ => d :: unescapedFrom most rest
      | none, ['c'] => [c]
      | none, d :: rest => c :: d :: unescapedFrom most rest
      | none, [] => [c]

def unescaped (s : ByteText) : ByteText := unescapedFrom s.length s

/-- Whether a control character is to be made of a backslash that stands for something else. -/
def nestsEscape : ByteText → Bool
  | '\\' :: 'c' :: '\\' :: '\\' :: s => nestsEscape s
  | '\\' :: 'c' :: '\\' :: _ => true
  | '\\' :: _ :: s => nestsEscape s
  | _ :: s => nestsEscape s
  | [] => false

/-- Refuses text in which escapes are nested. -/
def checkEscapes (s : ByteText) : ReadM Unit := do
  if nestsEscape s then fail .nestedEscape

/-- An expression that has been cut out of a script. -/
def pattern (style : RegexStyle) (ignoresCase hasLines : Bool) (s : ByteText) :
    ReadM LinePattern := do
  if s.isEmpty then pure ⟨none, ignoresCase, hasLines⟩
  else
    checkEscapes s
    match Regex.read style (unescaped s) with
    | .ok r => pure ⟨some r, ignoresCase, hasLines⟩
    | .error f => fail (.regex f)

def address? (style : RegexStyle) : ReadM (Option Address) := do
  let most := (← get).rest.length + 1
  let fits (delimiter : Char) : ReadM (Option Address) := do
    match ← upTo delimiter true most .outside with
    | none => fail .unterminatedAddress
    | some s => do
      let flags ← takeWhile fun c => ['I', 'M', ' ', '\t'].contains c
      pure (some (.fits (← pattern style (flags.contains 'I') (flags.contains 'M') s)))
  match ← peek with
  | some '/' =>
    discard char
    fits '/'
  | some '\\' =>
    discard char
    match ← char with
    | some delimiter => fits delimiter
    | none => fail .unterminatedAddress
  | some '$' =>
    discard char
    pure (some .last)
  | some c =>
    if c = '+' ∨ c = '~' then
      discard char
      discard char
      fail .relativeFirst
    else if c.isDigit then
      let first ← number
      if (← peek) = some '~' then
        discard char
        let step ← number
        pure (some (if step = 0 then .line first else .every first step))
      else pure (some (.line first))
    else pure none
  | none => pure none

def lines (style : RegexStyle) : ReadM Lines := do
  match ← address? style with
  | none => pure .all
  | some first => do
    blanks
    if (← peek) = some ',' then
      discard char
      blanks
      match ← peek with
      | some '+' =>
        discard char
        pure (.range first (.after (← number)))
      | some '~' =>
        discard char
        pure (.range first (.multiple (← number)))
      | _ =>
        match ← address? style with
        | some final => pure (.range first (.at final))
        | none =>
          discard char
          fail .blockAddress
    else pure (.one first)

/-- Whether a replacement names a group that there is none of. -/
def missingGroup? (r : Option Regex) (parts : List Replacement) : Option Nat :=
  match r with
  | none => none
  | some r =>
    parts.findSome? fun
      | .group n => if groupCount r < n then some n else none
      | _ => none
where
  groupCount : Regex → Nat
    | .group n r => max n (groupCount r)
    | .both a b | .either a b => max (groupCount a) (groupCount b)
    | .repeated r _ _ => groupCount r
    | _ => 0

/-- The parts of a replacement. -/
def replacement : (most : Nat) → ByteText → List Replacement
  | 0, _ => []
  | _, [] => []
  | most + 1, c :: s =>
    if c = '&' then .group 0 :: replacement most s
    else if c = '\\' then
      match s with
      | [] | ['c'] => [.text ['\\']]
      | e :: rest =>
        match escape? s with
        | some (c, rest) => .text [c] :: replacement most rest
        | none =>
        let part : Replacement := match e with
          | 'U' => .case .upper
          | 'L' => .case .lower
          | 'u' => .case .nextUpper
          | 'l' => .case .nextLower
          | 'E' => .case .none
          | e => if e.isDigit then .group (e.toNat - '0'.toNat) else .text [e]
        part :: replacement most rest
    else
      let front := (c :: s).takeWhile fun c => c ≠ '&' && c ≠ '\\'
      .text front :: replacement most ((c :: s).drop front.length)

/-- The flags behind a substitution. -/
structure Flags where
  number : Option Nat
  isGlobal : Bool
  prints : Bool
  runs : Bool
  printsFirst : Bool
  ignoresCase : Bool
  hasLines : Bool
  file : Option ByteText

/-- Refuses what a script that may only change lines must not do. -/
def checkConfined : ReadM Unit := do
  if (← get).confined then fail .disallowed

/-- The name of a file behind a command, up to the end of the line. -/
def fileName : ReadM ByteText := do
  checkConfined
  blanks
  let path ← takeWhile (· ≠ '\n')
  discard char
  if path.isEmpty then fail .noFile else pure path

/-- The name of a file that is written. -/
def writtenFile : ReadM ByteText := do
  let path ← fileName
  modify fun s => { s with written := path :: s.written }
  pure path

def flags : (most : Nat) → Flags → ReadM Flags
  | 0, f => pure f
  | most + 1, f => do
    match ← peek with
    | some 'g' =>
      discard char
      if f.isGlobal then fail (.repeatedFlag 'g') else flags most { f with isGlobal := true }
    | some 'p' =>
      discard char
      if f.prints then fail (.repeatedFlag 'p')
      else flags most { f with prints := true, printsFirst := !f.runs }
    | some 'e' =>
      discard char
      checkConfined
      flags most { f with runs := true }
    | some 'i' | some 'I' =>
      discard char
      flags most { f with ignoresCase := true }
    | some 'm' | some 'M' =>
      discard char
      flags most { f with hasLines := true }
    | some ' ' | some '\t' =>
      discard char
      flags most f
    | some 'w' =>
      discard char
      pure { f with file := some (← writtenFile) }
    | some ';' | some '\n' =>
      discard char
      pure f
    | some '\r' =>
      discard char
      let next ← char
      if next = some '\n' then pure f else fail .unknownOption
    | some c =>
      if c.isDigit then
        let n ← number
        if f.number.isSome then fail .repeatedNumber
        else if n = 0 then fail .zeroNumber
        else flags most { f with number := some n }
      else if c = '\x7d' ∨ c = '#' then pure f
      else
        discard char
        fail .unknownOption
    | none => pure f

/-- Text that is written as a command's own: up to a newline that no backslash protects. A backslash
at the end of a part protects that end. -/
def ownText : (most : Nat) → ReadM ByteText
  | 0 => pure ['\n']
  | most + 1 => do
    match ← char with
    | none | some '\n' => pure ['\n']
    | some '\\' =>
      let s ← get
      match escape? s.rest with
      | some (c, rest) =>
        skip (s.rest.length - rest.length)
        pure (c :: (← ownText most))
      | none =>
        match ← char with
        | none =>
          modify fun s => { s with isPending := true }
          pure ['\n']
        | some c => pure (c :: (← ownText most))
    | some c => pure (c :: (← ownText most))

/-- The text of a command that adds lines. -/
def addedText : ReadM ByteText := do
  blanks
  let most := (← get).rest.length + 1
  match ← peek with
  | none => fail .noText
  | some '\\' =>
    discard char
    let after := (← get).rest.dropWhile fun c => c = ' ' || c = '\t'
    if after.head? = some '\n' then
      blanks
      discard char
    match ← peek with
    | none =>
      modify fun s => { s with isPending := true }
      pure []
    | some '\\' => ownText most
    | some '\n' =>
      discard char
      pure ['\n']
    | some c =>
      discard char
      pure (c :: (← ownText most))
  | _ => ownText most

/-- The characters of a translation, with their escapes replaced; behind other backslashes a
character stands for itself. -/
def translationChars : (most : Nat) → ByteText → ByteText
  | 0, s => s
  | _, [] => []
  | most + 1, c :: s =>
    if c ≠ '\\' then c :: translationChars most s
    else match escape? s, s with
      | some (d, rest), _ => d :: translationChars most rest
      | none, ['c'] | none, [] => [c]
      | none, d :: rest => d :: translationChars most rest

def substitution (style : RegexStyle) : ReadM Action := do
  let most := (← get).rest.length + 1
  match ← char with
  | none | some '\n' => fail .unterminatedSubstitution
  | some delimiter => do
    let some source ← upTo delimiter true most .outside | fail .unterminatedSubstitution
    let some target ← upTo delimiter false most .outside | fail .unterminatedSubstitution
    checkEscapes target
    let f ← flags most ⟨none, false, false, false, false, false, false, none⟩
    let p ← pattern style f.ignoresCase f.hasLines source
    let parts := replacement (target.length + 1) target
    match missingGroup? p.regex parts with
    | some n => fail (.badReference n)
    | none => pure (.substitute ⟨p, parts, f.number.getD 1, f.isGlobal, f.prints, f.runs,
        f.runs && f.printsFirst, f.file⟩)

def translation : ReadM Action := do
  let most := (← get).rest.length + 1
  match ← char with
  | none | some '\n' => fail .unterminatedTranslation
  | some delimiter => do
    let some source ← upTo delimiter false most .outside | fail .unterminatedTranslation
    checkEscapes source
    let some target ← upTo delimiter false most .outside | fail .unterminatedTranslation
    checkEscapes target
    let a := translationChars source.length source
    let b := translationChars target.length target
    if a.length ≠ b.length then fail .lengths else pure (.translate (a.zip b))

/-- A name behind a command: up to a blank, a semicolon, a closing brace or the end of the line. -/
def labelName : ReadM ByteText := do
  blanks
  takeWhile fun c => !([' ', '\t', '\n', '\r', ';', '\x7d'].contains c)

/-- What stands behind a command that is complete. -/
def commandEnd : ReadM Unit := do
  blanks
  match ← peek with
  | none | some '#' | some '\x7d' => pure ()
  | some ';' | some '\n' | some '\r' => discard char
  | some _ =>
    discard char
    fail .extraCharacters

/-- The addresses that a command does not take. -/
def addressFault? (lines : Lines) (c : Char) : Option FaultKind :=
  match lines, c with
  | .all, _ => none
  | _, '#' => some .commentAddress
  | _, ':' => some .labelAddress
  | _, '\x7d' => some .closingAddress
  | .range .., 'q' | .range .., 'Q' => some .oneAddress
  | _, _ => none

/-- A command behind its addresses. -/
def draft (style : RegexStyle) (lines : Lines) (c : Char) : ReadM Draft := do
  let simple (a : Action) : ReadM Draft := do
    commandEnd
    pure (.done a)
  if c = '\x7d' ∧ (← get).blocks.isEmpty then fail .closedBlock
  match addressFault? lines c with
  | some kind => fail kind
  | none => pure ()
  match c with
  | '#' =>
    discard (takeWhile (· ≠ '\n'))
    pure (.done .nothing)
  | '\x7b' =>
    modify fun s => { s with blocks := s.place :: s.blocks }
    pure .opening
  | '\x7d' =>
    modify fun s => { s with blocks := s.blocks.drop 1 }
    commandEnd
    pure .closing
  | '=' => simple .printNumber
  | 'a' => do pure (.done (.append (← addedText)))
  | 'i' => do pure (.done (.insert (← addedText)))
  | 'c' => do pure (.done (.change (← addedText)))
  | ':' => do
    let name ← labelName
    if name.isEmpty then fail .emptyLabel else pure (.label name)
  | 'b' => do pure (.jump none (← labelName))
  | 't' => do pure (.jump (some true) (← labelName))
  | 'T' => do pure (.jump (some false) (← labelName))
  | 'd' => simple .delete
  | 'D' => simple .deleteFirst
  | 'g' => simple (.getHold false)
  | 'G' => simple (.getHold true)
  | 'h' => simple (.hold false)
  | 'H' => simple (.hold true)
  | 'x' => simple .exchange
  | 'n' => simple .next
  | 'N' => simple .nextAdded
  | 'p' => simple .print
  | 'P' => simple .printFirst
  | 'l' => do
    blanks
    let digits ← takeWhile (·.isDigit)
    simple (.printVisible (if digits.isEmpty then none else some (Shell.digitsOf 10 digits).1))
  | 'F' => simple .printName
  | 'z' => simple .clear
  | 'q' | 'Q' => do
    blanks
    let status ← number
    simple (.quit (c = 'q') (status % 256))
  | 'r' => do pure (.done (.readFile (← fileName)))
  | 'R' => do pure (.done (.readLine (← fileName)))
  | 'w' => do pure (.done (.writeFile (← writtenFile)))
  | 'W' => do pure (.done (.writeFirst (← writtenFile)))
  | 'e' => do
    checkConfined
    blanks
    match ← peek with
    | none | some '\n' => pure (.done .runLine)
    | some _ => pure (.done (.run (← addedText)))
  | 'v' => do
    let version := (splitAtEach '.' (← labelName)).map fun s => (Shell.digitsOf 10 s).1
    if [4, 9] < version then fail .newerVersion else pure (.done .nothing)
  | 's' => do pure (.done (← substitution style))
  | 'y' => do
    let a ← translation
    simple a
  | c => fail (.unknownCommand c)

/-- Reads commands up to the end of a part. -/
def drafts (style : RegexStyle) : (most : Nat) → ReadM (List DraftLine)
  | 0 => pure []
  | most + 1 => do
    discard (takeWhile fun c => [' ', '\t', '\n', ';', '\r'].contains c)
    match ← peek with
    | none => pure []
    | some _ => do
      let lines ← lines style
      discard (takeWhile fun c => c = ' ' || c = '\t')
      let isMisplaced : Bool := match lines, ← peek with
        | .one (.line 0), some 'r' => false
        | .one (.line 0), _ => true
        | .range (.line 0) (.at (.fits _)), _ => false
        | .range (.line 0) _, _ => true
        | _, _ => false
      if isMisplaced then
        discard char
        fail .zeroLine
      let negated := (← peek) = some '!'
      if negated then
        discard char
        blanks
        if (← peek) = some '!' then
          discard char
          fail .repeatedMark
      match ← char with
      | none => fail .missingCommand
      | some c => do
        let d ← match lines, c with
          | .one (.line 0), 'r' => do pure (.done (.showFile (← fileName)))
          | _, c => draft style lines c
        pure ((lines, negated, d) :: (← drafts style most))

/-- Adds text to that of the last command. -/
def addedToLast (more : ByteText) : List DraftLine → List DraftLine
  | [] => []
  | [(lines, negated, .done (.append text))] => [(lines, negated, .done (.append (text ++ more)))]
  | [(lines, negated, .done (.insert text))] => [(lines, negated, .done (.insert (text ++ more)))]
  | [(lines, negated, .done (.change text))] => [(lines, negated, .done (.change (text ++ more)))]
  | d :: rest => d :: addedToLast more rest

/-- Reads a part of a script behind others. -/
def partDrafts (style : RegexStyle) (sofar : List DraftLine) (part : Nat) (text : ByteText) :
    ReadM (List DraftLine) := do
  let s ← get
  set { s with rest := text, place := ⟨part, 0⟩, isPending := false }
  let most := text.length + 1
  let sofar ← if s.isPending then do pure (addedToLast (← ownText most) sofar) else pure sofar
  pure (sofar ++ (← drafts style most))

/-- Refuses blocks that are still open. -/
def checkBlocks : ReadM Unit := do
  match (← get).blocks with
  | [] => pure ()
  | place :: _ =>
    modify fun s => { s with place }
    fail .openBlock

end ReadM

/-! ## Places -/

/-- The place behind the block that is open at a depth; a block ends at the latest with the
script. -/
def blockEnd (depth place : Nat) : List DraftLine → Nat
  | [] => place
  | (_, _, .opening) :: rest => blockEnd (depth + 1) (place + 1) rest
  | (_, _, .closing) :: rest =>
    match depth with
    | 0 => place
    | depth + 1 => blockEnd depth (place + 1) rest
  | _ :: rest => blockEnd depth (place + 1) rest

/-- The place of a label; the end if there is no name. -/
def labelPlace (all : List DraftLine) (name : ByteText) : Except FaultKind Nat :=
  if name.isEmpty then .ok all.length
  else
    let isLabel : DraftLine → Bool
      | (_, _, .label other) => other = name
      | _ => false
    match all.findIdx? isLabel with
    | some n => .ok n
    | none => .error (.noLabel name)

/-- Replaces names by places. -/
def placed (all : List DraftLine) (place : Nat) :
    List DraftLine → Except FaultKind (List Command)
  | [] => .ok []
  | (lines, negated, d) :: rest => do
    let action ← match d with
      | .done a => .ok a
      | .label _ | .closing => .ok Action.nothing
      | .opening => .ok (Action.block (blockEnd 0 (place + 1) rest))
      | .jump none name => do .ok (Action.jump (← labelPlace all name))
      | .jump (some replaced) name => do
        .ok (Action.jumpIfReplaced replaced (← labelPlace all name))
    .ok (⟨lines, negated, action⟩ :: (← placed all (place + 1) rest))

/-- A part of a script: an expression, or what a file of a name holds. -/
structure Source where
  file : Option ByteText
  text : Except FileFault ByteText

/-- Reads the parts of a script, which may only change lines if it is confined, and gives its
commands and the files that it writes. -/
def readScript (style : RegexStyle) (confined : Bool) (parts : List Source) :
    Except Fault (List Command × List ByteText) := do
  let readAll : ReadM (List DraftLine) := do
    let all ← parts.zipIdx.foldlM (fun sofar (part, n) =>
      match part.text with
      | .ok text => ReadM.partDrafts style sofar n text
      | .error f => ReadM.fail (.unreadable (part.file.getD []) f)) []
    ReadM.checkBlocks
    pure all
  let (all, after) ← readAll.run ⟨[], ⟨0, 0⟩, false, confined, [], []⟩
  let written := after.written.reverse
  let script ← (placed all 0 all).mapError fun kind => ⟨kind, ⟨0, 0⟩, written⟩
  pure (script, written)

/-- How a fault is said to lie in a script: the number of an expression and of a character in it, or
a line of a file. -/
def Fault.location (f : Fault) (parts : List Source) : ByteText :=
  let upTo := parts.take (f.place.part + 1)
  match upTo.getLast? with
  | some ⟨some name, text⟩ =>
    let front := (text.toOption.getD []).take f.place.offset
    let line := (front.filter (· = '\n')).length + 1
    joinText [byteText "file ", name, byteText " line ", decimalText line]
  | _ =>
    let number := (upTo.filter (·.file.isNone)).length
    let shown := match f.kind with
      | .openBlock => 0
      | _ => f.place.offset
    joinText [byteText "-e expression #", decimalText number, byteText ", char ",
      decimalText shown]

end KernelLink.Edit
