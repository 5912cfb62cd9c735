import KernelLink.Number.Text

/-!
# JSON values

The values that configurations and saved reports are made of. Numbers stay as written until a
reader asks for a certain kind of number, because the same text may be fine for one kind and out of
range for another. A string whose escapes do not name characters has no text, but does no harm
where nobody reads it.
-/

namespace KernelLink

inductive Json where
  | null
  | bool (value : Bool)
  | number (value : Numeral)
  | string (text : Option String)
  | array (items : List Json)
  | object (fields : List (Option String × Json))
deriving Repr, Inhabited

namespace Json

def ofNat (n : Nat) : Json := .number (.ofNat n)

def ofString (s : String) : Json := .string (some s)

/-- An object with the given fields, in order. -/
def ofFields (fields : List (String × Json)) : Json :=
  .object (fields.map fun (key, value) => (some key, value))

/-- A single precision number; infinities and NaN become null. -/
def ofSingle (x : Single) : Json := (x.jsonNumeral?.map .number).getD .null

/-- An optional value; nothing becomes null. -/
def ofOption {α : Type} (encode : α → Json) : Option α → Json
  | some x => encode x
  | none => .null

end Json

end KernelLink

/-!
## Printing JSON

Two layouts of the same tokens: one line without blanks, and the indented form that files are saved
in, two spaces per level and empty containers on one line.
-/

namespace KernelLink.Json

def hexDigit (n : Nat) : Char := (Nat.toDigits 16 n).headD '0'

/-- One character inside a string. Control characters without a short form are written by code. -/
def escapeChar (c : Char) : List Char :=
  if c = '"' then ['\\', '"']
  else if c = '\\' then ['\\', '\\']
  else if c = '\n' then ['\\', 'n']
  else if c = '\r' then ['\\', 'r']
  else if c = '\t' then ['\\', 't']
  else if c = '\x08' then ['\\', 'b']
  else if c = '\x0c' then ['\\', 'f']
  else if c.toNat < 0x20 then
    ['\\', 'u', '0', '0', hexDigit (c.toNat / 16), hexDigit (c.toNat % 16)]
  else [c]

def quoted (s : String) : String :=
  "\"" ++ String.ofList (s.toList.flatMap escapeChar) ++ "\""

/-- The text of a value without parts. A string without text is written as an empty one. -/
def scalarText : Json → String
  | .null => "null"
  | .bool b => if b then "true" else "false"
  | .number n => n.text "+"
  | .string s => quoted (s.getD "")
  | .array _ => "[]"
  | .object _ => "\x7b\x7d"

/-- The start of a line at a nesting level. -/
def lineStart (level : Nat) : String := "\n" ++ String.ofList (List.replicate (2 * level) ' ')

mutual

/-- The indented form; `level` is that of the line the value starts on. -/
def pretty (level : Nat) : Json → String
  | .array (x :: xs) => "[" ++ prettyItems (level + 1) (x :: xs) ++ lineStart level ++ "]"
  | .object (f :: fs) => "\x7b" ++ prettyFields (level + 1) (f :: fs) ++ lineStart level ++ "\x7d"
  | v => scalarText v

def prettyItems (level : Nat) : List Json → String
  | [] => ""
  | [x] => lineStart level ++ pretty level x
  | x :: xs => lineStart level ++ pretty level x ++ "," ++ prettyItems level xs

def prettyFields (level : Nat) : List (Option String × Json) → String
  | [] => ""
  | [(key, value)] => lineStart level ++ quoted (key.getD "") ++ ": " ++ pretty level value
  | (key, value) :: fs =>
    lineStart level ++ quoted (key.getD "") ++ ": " ++ pretty level value ++ "," ++
      prettyFields level fs

end

/-- The form that files are saved in. -/
def save (v : Json) : String := pretty 0 v

mutual

/-- The form on one line without blanks. -/
def compact : Json → String
  | .array xs => "[" ++ compactItems xs ++ "]"
  | .object fs => "\x7b" ++ compactFields fs ++ "\x7d"
  | v => scalarText v

def compactItems : List Json → String
  | [] => ""
  | [x] => compact x
  | x :: xs => compact x ++ "," ++ compactItems xs

def compactFields : List (Option String × Json) → String
  | [] => ""
  | [(key, value)] => quoted (key.getD "") ++ ":" ++ compact value
  | (key, value) :: fs =>
    quoted (key.getD "") ++ ":" ++ compact value ++ "," ++ compactFields fs

end

end KernelLink.Json
