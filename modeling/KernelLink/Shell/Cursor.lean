import KernelLink.Shell.Syntax

/-!
# Reading characters

A reader looks at what is left of a script and counts lines. A backslash before a newline joins two
lines and is passed over nearly everywhere, so looking at the next character means looking behind
such joins.
-/

namespace KernelLink.Shell

/-! ## Faults -/

/-- Why a script cannot be read. -/
inductive SyntaxFaultKind where
  | unterminatedQuote
  | missingBrace
  | missingParentheses
  | openBackquote
  | badLoopVariable
  | badFunctionName
  | badStream
  | unexpected (what : String) (expected : Option String)
deriving DecidableEq, Repr

def SyntaxFaultKind.reason : SyntaxFaultKind → String
  | unterminatedQuote => "Unterminated quoted string"
  | missingBrace => "Missing '\x7d'"
  | missingParentheses => "Missing '))'"
  | openBackquote => "EOF in backquote substitution"
  | badLoopVariable => "Bad for loop variable"
  | badFunctionName => "Bad function name"
  | badStream => "Bad fd number"
  | unexpected what none => what ++ " unexpected"
  | unexpected what (some other) => what ++ " unexpected (expecting " ++ other ++ ")"

/-- A fault with the line that it was noticed on. -/
structure SyntaxFault where
  kind : SyntaxFaultKind
  line : Nat
deriving DecidableEq, Repr

def SyntaxFault.message (f : SyntaxFault) : String := "Syntax error: " ++ f.kind.reason

/-! ## Tokens -/

/-- A redirection before its target has been read. -/
inductive RedirectionStart where
  | file (stream : Nat) (mode : OpenMode)
  | join (stream : Nat)
  | document (stream : Nat) (stripsTabs : Bool)
deriving DecidableEq, Repr

inductive Token where
  | finish
  | newline
  | operator (text : String)
  | redirection (start : RedirectionStart)
  /-- A word; `quoted` says whether any part of it was. -/
  | word (w : Word) (quoted : Bool)
  | keyword (text : String)
deriving Repr

namespace Token

def inQuotes (s : String) : String := "\"" ++ s ++ "\""

/-- The token as faults name it. -/
def name : Token → String
  | finish => "end of file"
  | newline => "newline"
  | operator text => inQuotes text
  | redirection _ => "redirection"
  | word .. => "word"
  | keyword text => inQuotes text

def isOperator (t : Token) (text : String) : Bool :=
  match t with
  | operator other => other = text
  | _ => false

def isKeyword (t : Token) (text : String) : Bool :=
  match t with
  | keyword other => other = text
  | _ => false

/-- Whether a list of commands can stop before a token. -/
def endsList (t : Token) : Bool :=
  match t with
  | finish => true
  | operator text => [")", ";;", "\x60"].contains text
  | keyword text =>
    ["do", "done", "elif", "else", "esac", "fi", "then", "until", "while", "\x7d"].contains text &&
      !(["until", "while"].contains text)
  | _ => false

end Token

/-! ## The state of a reader -/

/-- A here-document whose text has not come yet. -/
structure AwaitedDocument where
  number : Nat
  finish : ByteText
  stripsTabs : Bool
  literal : Bool
deriving Repr

/-- An alias whose text is being read: how much of the script is behind that text, and whether the
text ends in a blank, which lets the word behind it be an alias too. -/
structure OpenAlias where
  name : ByteText
  behind : Nat
  endsBlank : Bool
deriving DecidableEq, Repr

structure Cursor where
  rest : ByteText
  line : Nat
  /-- The texts that stand for words where a command may begin. -/
  aliases : List (ByteText × ByteText)
  opened : List OpenAlias
  /-- Whether the last token may be an alias wherever it stands. -/
  eager : Bool
  /-- A token that was looked at and put back. -/
  held : Option Token
  awaited : List AwaitedDocument
  /-- The documents that have been read, by number. -/
  documents : List (Nat × Word)
  /-- The number of the next document. -/
  next : Nat
  /-- How much was left where the last token began. -/
  lastStart : Nat

abbrev ReadM := ExceptT SyntaxFault (StateM Cursor)

namespace ReadM

def fail {α : Type} (kind : SyntaxFaultKind) : ReadM α := do
  throw ⟨kind, (← get).line⟩

/-- The next character, whatever it is. -/
def rawChar : ReadM (Option Char) := do
  match (← get).rest with
  | [] => pure none
  | c :: rest =>
    modify fun s => { s with rest, line := if c = '\n' then s.line + 1 else s.line }
    pure (some c)

/-- Passes over joins. -/
def passJoins (line : Nat) : ByteText → ByteText × Nat
  | '\\' :: '\n' :: s => passJoins (line + 1) s
  | s => (s, line)

/-- The character behind joins, which is not taken. -/
def peek : ReadM (Option Char) := do
  modify fun s =>
    let (rest, line) := passJoins s.line s.rest
    { s with rest, line }
  pure (← get).rest.head?

/-- The character behind joins. -/
def char : ReadM (Option Char) := do
  discard peek
  rawChar

/-- Takes the character behind joins if it is the given one. -/
def take (c : Char) : ReadM Bool := do
  if (← peek) = some c then
    discard rawChar
    pure true
  else pure false

/-- Takes characters behind joins as long as they fit, at most `most` of them. -/
def takeWhile (fits : Char → Bool) : (most : Nat) → ReadM ByteText
  | 0 => pure []
  | most + 1 => do
    match ← peek with
    | some c =>
      if fits c then
        discard rawChar
        pure (c :: (← takeWhile fits most))
      else pure []
    | none => pure []

/-- A bound on how many characters can still be read, those of aliases included. -/
def remaining : ReadM Nat := do
  let s ← get
  pure (s.aliases.foldl (fun n (_, text) => n + text.length) s.rest.length + 1)

end ReadM

end KernelLink.Shell
