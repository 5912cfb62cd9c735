import KernelLink.Text.Bytes

/-!
# The shell language

Commands as a script writes them. A command substitution keeps the text between its parentheses:
the text is known to be a script when the word is read, and it is read again when it is run. A
here-document stands in its redirection as a number, because its text comes only after the line.
-/

namespace KernelLink.Shell

/-! ## Words -/

/-- What is made of a parameter's value. With `strict` an empty value counts as missing. -/
inductive Operation where
  | value
  | length
  /-- The other word if the value is missing. -/
  | otherwise (strict : Bool)
  /-- The same, and the parameter is set to it. -/
  | assign (strict : Bool)
  /-- A fault if the value is missing; the other word says why. -/
  | demand (strict : Bool)
  /-- The other word unless the value is missing. -/
  | replace (strict : Bool)
  /-- Cuts what matches a pattern off the front. -/
  | cutFront (longest : Bool)
  /-- Cuts what matches a pattern off the back. -/
  | cutBack (longest : Bool)
  /-- Something that is no operation. -/
  | unknown
deriving DecidableEq, Repr

/-- A part of a word. What a part that is not quoted stands for may fall apart into fields. Empty
quoted text marks a place where quotes were, which keeps an empty field. -/
inductive Part where
  | text (s : ByteText) (quoted : Bool)
  | parameter (name : ByteText) (op : Operation) (word : List Part) (quoted : Bool)
  | command (script : ByteText) (line : Nat) (quoted : Bool)
  | arithmetic (expression : List Part) (quoted : Bool)
deriving Repr

abbrev Word := List Part

/-- The text of a word that has no quotes and stands for itself. -/
def plainText? : Word → Option ByteText
  | [.text s false] => some s
  | _ => none

/-! ## Commands -/

/-- How a file is opened for a stream. -/
inductive OpenMode where
  | read
  | write
  /-- Writing that does not mind that files are protected. -/
  | overwrite
  | append
  | readWrite
deriving DecidableEq, Repr

inductive Redirection where
  | file (stream : Nat) (mode : OpenMode) (target : Word)
  /-- The stream goes where another one goes, or is closed. -/
  | join (stream : Nat) (other : Word)
  | document (stream : Nat) (number : Nat)
deriving Repr

inductive Command where
  | simple (line : Nat) (assignments words : List Word) (redirections : List Redirection)
  | redirected (line : Nat) (body : Command) (redirections : List Redirection)
  | subshell (line : Nat) (body : Command) (redirections : List Redirection)
  | background (line : Nat) (body : Command)
  | pipeline (commands : List Command)
  | negated (body : Command)
  | both (first second : Command)
  | either (first second : Command)
  | sequence (first second : Command)
  | choice (test body : Command) (otherwise : Option Command)
  | loop (untilTrue : Bool) (test body : Command)
  | each (line : Nat) (name : ByteText) (words : List Word) (body : Command)
  | select (line : Nat) (subject : Word) (cases : List (List Word × Option Command))
  | define (name : ByteText) (body : Command)

instance : Inhabited Command := ⟨.simple 0 [] [] []⟩

/-! ## Names -/

def isNameStart (c : Char) : Bool := c.isAlpha || c = '_'

def isNameChar (c : Char) : Bool := c.isAlphanum || c = '_'

def isName (s : ByteText) : Bool :=
  match s with
  | [] => false
  | c :: cs => isNameStart c && cs.all isNameChar

/-- The parameters whose name is one character other than a letter. -/
def isSpecialName (c : Char) : Bool := c.isDigit || ['$', '?', '#', '@', '*', '!', '-'].contains c

/-- Cuts an assignment at its equals sign. -/
def assignment? (w : Word) : Option (ByteText × Word) :=
  match w with
  | .text s false :: rest =>
    let name := s.takeWhile (· ≠ '=')
    if isName name ∧ name.length < s.length then
      some (name, .text (s.drop (name.length + 1)) false :: rest)
    else none
  | _ => none

end KernelLink.Shell
