import KernelLink.Machine.Files
import KernelLink.Shell.Arithmetic

/-!
# Conditions

The conditions that `test` and brackets decide. How many words there are decides first how they are
meant; only then are they read as operators and operands, so that an operand may look like an
operator where nothing else makes sense.
-/

namespace KernelLink.Shell

/-- What a condition needs to know about files. -/
structure FileView where
  files : FileTree
  base : Location

/-- Why a condition has no answer. -/
inductive ConditionFault where
  /-- A word that nothing leads on from. -/
  | unexpected (word : ByteText)
  | noOperand (operator : ByteText)
  | noParenthesis
  | noNumber (word : ByteText)
  | noBracket
deriving DecidableEq, Repr

/-- What a word is in a condition. -/
inductive Lexeme where
  | finish
  | operand
  | unary (letter : Char)
  | binary (operator : String)
  | negation
  | both
  | either
  | opening
  | closing
deriving DecidableEq, Repr

def unaryLetters : List Char := "rwxefdcbpugkstznhOGLS".toList

def binaryOperators : List String :=
  ["=", "!=", "<", ">", "-eq", "-ne", "-gt", "-ge", "-lt", "-le", "-nt", "-ot", "-ef"]

/-- What a word is on its own. -/
def lexeme? (w : ByteText) : Option Lexeme :=
  match w with
  | ['-', 'a'] => some .both
  | ['-', 'o'] => some .either
  | ['!'] => some .negation
  | ['('] => some .opening
  | [')'] => some .closing
  | ['-', c] => if unaryLetters.contains c then some (.unary c) else none
  | w => if binaryOperators.contains (String.ofList w) then some (.binary (String.ofList w))
      else none

def isBinary (w : ByteText) : Bool :=
  match lexeme? w with
  | some (.binary _) => true
  | _ => false

/-- What the first of some words is. An operator for one operand is an operand itself if nothing
follows, or if what follows is an operator for two. -/
def lexeme (words : List ByteText) : Lexeme :=
  match words with
  | [] => .finish
  | w :: rest =>
    match lexeme? w, rest with
    | none, _ => .operand
    | some (.unary _), [] => .operand
    | some (.unary c), [_] => .unary c
    | some (.unary c), next :: _ => if isBinary next then .operand else .unary c
    | some .opening, [] => .operand
    | some l, _ => l

/-- Reads a condition; the state is what begins with the word that was read last. -/
abbrev ConditionM := StateT (List ByteText) (Except ConditionFault)

/-- The paths that always lead somewhere. -/
def isDevice (path : ByteText) : Bool :=
  ["/dev/null", "/dev/stdin", "/dev/stdout", "/dev/stderr", "/dev/zero"].contains
    (String.ofList path)

namespace FileView

def isThere (v : FileView) (path : ByteText) : Bool :=
  isDevice path || v.files.isThere v.base ⟨stringOf path⟩

def isDirectory (v : FileView) (path : ByteText) : Bool :=
  v.files.isDirectory v.base ⟨stringOf path⟩

def mayRun (v : FileView) (path : ByteText) : Bool :=
  v.files.isFile v.base ⟨stringOf path⟩ &&
    ((v.files.locate v.base ⟨stringOf path⟩).toOption.any v.files.mayRun)

/-- Whether one of some bits is among the permissions of what is there. -/
def permits (v : FileView) (bits : Nat) (path : ByteText) : Bool :=
  v.files.isThere v.base ⟨stringOf path⟩ &&
    (v.files.locate v.base ⟨stringOf path⟩).toOption.any fun place =>
      v.files.mode place &&& bits ≠ 0

/-- What an operator says of one operand. -/
def unary (v : FileView) (c : Char) (s : ByteText) : Bool :=
  if c = 'z' then s.isEmpty
  else if c = 'n' then !s.isEmpty
  else if ['r', 'w', 'e', 'O', 'G'].contains c then v.isThere s
  else if c = 'f' then v.files.isFile v.base ⟨stringOf s⟩
  else if c = 'd' then v.isDirectory s
  else if c = 'x' then v.isDirectory s || v.mayRun s
  else if c = 's' then
    v.isDirectory s ||
      ((v.files.read v.base ⟨stringOf s⟩).toOption.any fun content => content.size ≠ 0)
  else if c = 'c' then isDevice s
  else if c = 'u' then v.permits 0o4000 s
  else if c = 'g' then v.permits 0o2000 s
  else if c = 'k' then v.permits 0o1000 s
  else false

def isSame (v : FileView) (a b : ByteText) : Bool :=
  v.isThere a && v.isThere b &&
    (v.files.locate v.base ⟨stringOf a⟩).toOption = (v.files.locate v.base ⟨stringOf b⟩).toOption

end FileView

def number (s : ByteText) : ConditionM Int :=
  match numberOf? (digitsOf 10) s with
  | some n => pure n
  | none => throw (.noNumber s)

/-- What an operator says of two operands. -/
def binary (v : FileView) (op : String) (a b : ByteText) : ConditionM Bool := do
  let compare (f : Int → Int → Bool) : ConditionM Bool := do
    let x ← number a
    pure (f x (← number b))
  match op with
  | "=" => pure (a = b)
  | "!=" => pure (a ≠ b)
  | "<" => pure (a < b)
  | ">" => pure (b < a)
  | "-eq" => compare fun x y => x = y
  | "-ne" => compare fun x y => x ≠ y
  | "-gt" => compare fun x y => y < x
  | "-ge" => compare fun x y => y ≤ x
  | "-lt" => compare fun x y => x < y
  | "-le" => compare fun x y => x ≤ y
  | "-ef" => pure (v.isSame a b)
  | _ => pure false

/-- Goes on to a later word. -/
def forward (count : Nat) : ConditionM Lexeme := do
  modify (·.drop count)
  pure (lexeme (← get))

/-- What the next word is. -/
def ahead : ConditionM Lexeme := do pure (lexeme ((← get).drop 1))

mutual

/-- A condition without connectives. -/
def primary (v : FileView) : (most : Nat) → Lexeme → ConditionM Bool
  | 0, _ => pure false
  | _, .finish => pure false
  | most + 1, .opening => do
    match ← forward 1 with
    | .closing => pure false
    | l =>
      let result ← alternatives v most l
      if (← forward 1) = .closing then pure result else throw .noParenthesis
  | _, .unary c => do
    discard (forward 1)
    match ← get with
    | [] => throw (.noOperand ['-', c])
    | s :: _ => do
      if c = 't' then discard (number s)
      pure (v.unary c s)
  | _, _ => do
    match ← get with
    | a :: op :: rest =>
      if isBinary op then do
        discard (forward 2)
        match rest with
        | b :: _ => binary v (String.ofList op) a b
        | [] => throw (.noOperand op)
      else pure (!a.isEmpty)
    | [a] => pure (!a.isEmpty)
    | [] => pure false

/-- A condition that may be negated. -/
def negatable (v : FileView) : (most : Nat) → Lexeme → ConditionM Bool
  | 0, _ => pure false
  | most + 1, .negation => do
    match ← ahead with
    | .finish => pure (!(← negatable v most .finish))
    | l =>
      discard (forward 1)
      pure (!(← negatable v most l))
  | most + 1, l => primary v most l

/-- Conditions of which all have to hold. -/
def conjunction (v : FileView) : (most : Nat) → Lexeme → ConditionM Bool
  | 0, _ => pure false
  | most + 1, l => do
    let first ← negatable v most l
    match ← ahead with
    | .both => do
      let others ← conjunction v most (← forward 2)
      pure (first && others)
    | _ => pure first

/-- Conditions of which one has to hold. -/
def alternatives (v : FileView) : (most : Nat) → Lexeme → ConditionM Bool
  | 0, _ => pure false
  | most + 1, l => do
    let first ← conjunction v most l
    match ← ahead with
    | .either => do
      let others ← alternatives v most (← forward 2)
      pure (first || others)
    | _ => pure first

end

/-- Reads words whose first one is known. -/
def decideWords (v : FileView) (words : List ByteText) (first : Lexeme) :
    Except ConditionFault Bool := do
  let (result, rest) ← (alternatives v (8 * words.length + 8) first).run words
  match rest with
  | w :: _ :: _ => throw (.unexpected w)
  | _ => pure result

/-- Whether a condition holds. -/
def holds (v : FileView) : List ByteText → Except ConditionFault Bool
  | [] => pure false
  | ['!'] :: a :: b :: rest =>
    if rest.isEmpty && isBinary a then decideWords v [['!'], a, b] .operand
    else if rest.length ≤ 1 then do pure (!(← holds v (a :: b :: rest)))
    else decideWords v (['!'] :: a :: b :: rest) .negation
  | [a, op, b] =>
    if isBinary op then decideWords v [a, op, b] .operand
    else if a = ['('] && b = [')'] then decideWords v [op] (lexeme [op])
    else decideWords v [a, op, b] (lexeme [a, op, b])
  | [a, b, c, d] =>
    if a = ['('] && d = [')'] then decideWords v [b, c] (lexeme [b, c])
    else decideWords v [a, b, c, d] (lexeme [a, b, c, d])
  | words => decideWords v words (lexeme words)

/-- Whether the condition of a command holds; brackets need their closing one. -/
def conditionHolds (v : FileView) (isBracket : Bool) (words : List ByteText) :
    Except ConditionFault Bool :=
  if isBracket then
    match words.getLast? with
    | some (']' :: _) => holds v words.dropLast
    | _ => throw .noBracket
  else holds v words

def ConditionFault.text : ConditionFault → ByteText
  | unexpected word =>
    (if word.isEmpty then [] else word ++ [':', ' ']) ++ byteText "unexpected operator"
  | noOperand operator => operator ++ byteText ": argument expected"
  | noParenthesis => byteText "closing paren expected"
  | noNumber word => byteText "Illegal number: " ++ word
  | noBracket => byteText "missing ]"

end KernelLink.Shell
