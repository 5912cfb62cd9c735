import KernelLink.Json.Basic

/-!
# Reading JSON

A reader by recursive descent over the characters. Each step of the nested part is given one unit
of fuel and takes at least one character, so a text never has more steps than characters; `read?`
hands out enough and shows none of it.
-/

namespace KernelLink.Json

/-- Space, tab, newline and carriage return: the blanks between tokens. -/
def isJsonBlank (c : Char) : Bool := c = ' ' || c = '\t' || c = '\n' || c = '\r'

def skipBlanks (s : List Char) : List Char := s.dropWhile isJsonBlank

/-! ## Strings -/

/-- A character of a string, or an escape that gives sixteen bits. -/
inductive Piece where
  | char (c : Char)
  | code (bits : Nat)
deriving DecidableEq, Repr

def hexValue? (c : Char) : Option Nat :=
  if c.isDigit then some (c.toNat - '0'.toNat)
  else if 'a' ≤ c ∧ c ≤ 'f' then some (c.toNat - 'a'.toNat + 10)
  else if 'A' ≤ c ∧ c ≤ 'F' then some (c.toNat - 'A'.toNat + 10)
  else none

def hexCode? (a b c d : Char) : Option Nat := do
  let a ← hexValue? a
  let b ← hexValue? b
  let c ← hexValue? c
  let d ← hexValue? d
  some (((a * 16 + b) * 16 + c) * 16 + d)

/-- The characters that a backslash may stand before, and what they mean. -/
def shortEscape? : Char → Option Char
  | '"' => some '"'
  | '\\' => some '\\'
  | '/' => some '/'
  | 'b' => some '\x08'
  | 'f' => some '\x0c'
  | 'n' => some '\n'
  | 'r' => some '\r'
  | 't' => some '\t'
  | _ => none

/-- The pieces of a string up to its closing quote, and what follows the quote. -/
def readPieces : List Char → Option (List Piece × List Char)
  | [] => none
  | '"' :: s => some ([], s)
  | '\\' :: 'u' :: a :: b :: c :: d :: s => do
    let code ← hexCode? a b c d
    let (ps, rest) ← readPieces s
    some (.code code :: ps, rest)
  | '\\' :: e :: s => do
    let c ← shortEscape? e
    let (ps, rest) ← readPieces s
    some (.char c :: ps, rest)
  | c :: s =>
    if c = '\\' ∨ c.toNat < 0x20 then none
    else do
      let (ps, rest) ← readPieces s
      some (.char c :: ps, rest)

def isHighSurrogate (n : Nat) : Bool := 0xd800 ≤ n && n < 0xdc00

def isLowSurrogate (n : Nat) : Bool := 0xdc00 ≤ n && n < 0xe000

/-- The characters of a string. A high surrogate has to be followed at once by a low one, and a low
one has to follow a high one. -/
def joinPieces (high : Option Nat) : List Piece → Option (List Char)
  | [] => if high.isSome then none else some []
  | .char c :: ps => if high.isSome then none else (joinPieces none ps).map (c :: ·)
  | .code n :: ps =>
    match high with
    | some h =>
      if isLowSurrogate n then
        (joinPieces none ps).map
          (Char.ofNat (0x10000 + (h - 0xd800) * 0x400 + (n - 0xdc00)) :: ·)
      else none
    | none =>
      if isHighSurrogate n then joinPieces (some n) ps
      else if isLowSurrogate n then none
      else (joinPieces none ps).map (Char.ofNat n :: ·)

/-- Reads a string behind its opening quote. -/
def readString (s : List Char) : Option (Option String × List Char) := do
  let (pieces, rest) ← readPieces s
  some ((joinPieces none pieces).map String.ofList, rest)

/-! ## Numbers -/

/-- The digits before the point: a single zero or a run that does not start with one. -/
def readWhole? (s : List Char) : Option (List Char × List Char) :=
  match spanDigits s with
  | ([], _) => none
  | ('0' :: _ :: _, _) => none
  | (ds, rest) => some (ds, rest)

/-- The digits behind the point, when there is a point. -/
def readFraction? : List Char → Option (Option (List Char) × List Char)
  | '.' :: s =>
    let (ds, rest) := spanDigits s
    if ds.isEmpty then none else some (some ds, rest)
  | s => some (none, s)

def readNumber? (s : List Char) : Option (Numeral × List Char) := do
  let (negative, s) := match s with
    | '-' :: s => (true, s)
    | s => (false, s)
  let (whole, s) ← readWhole? s
  let (fraction, s) ← readFraction? s
  let (exponent, s) ← readExponent? s
  some (⟨negative, whole, fraction, exponent⟩, s)

/-! ## Values -/

mutual

/-- Reads one value, blanks before it included. -/
def readValue : Nat → List Char → Option (Json × List Char)
  | 0, _ => none
  | fuel + 1, s =>
    match skipBlanks s with
    | 'n' :: 'u' :: 'l' :: 'l' :: s => some (.null, s)
    | 't' :: 'r' :: 'u' :: 'e' :: s => some (.bool true, s)
    | 'f' :: 'a' :: 'l' :: 's' :: 'e' :: s => some (.bool false, s)
    | '"' :: s => do
      let (text, rest) ← readString s
      some (.string text, rest)
    | '[' :: s =>
      match skipBlanks s with
      | ']' :: s => some (.array [], s)
      | s => do
        let (items, rest) ← readItems fuel s
        some (.array items, rest)
    | '\x7b' :: s =>
      match skipBlanks s with
      | '\x7d' :: s => some (.object [], s)
      | s => do
        let (fields, rest) ← readFields fuel s
        some (.object fields, rest)
    | s => do
      let (n, rest) ← readNumber? s
      some (.number n, rest)

/-- Reads one or more items and the closing bracket. -/
def readItems : Nat → List Char → Option (List Json × List Char)
  | 0, _ => none
  | fuel + 1, s => do
    let (item, s) ← readValue fuel s
    match skipBlanks s with
    | ']' :: s => some ([item], s)
    | ',' :: s => do
      let (items, rest) ← readItems fuel s
      some (item :: items, rest)
    | _ => none

/-- Reads one or more fields and the closing brace. -/
def readFields : Nat → List Char → Option (List (Option String × Json) × List Char)
  | 0, _ => none
  | fuel + 1, s =>
    match skipBlanks s with
    | '"' :: s => do
      let (key, s) ← readString s
      match skipBlanks s with
      | ':' :: s => do
        let (value, s) ← readValue fuel s
        match skipBlanks s with
        | '\x7d' :: s => some ([(key, value)], s)
        | ',' :: s => do
          let (fields, rest) ← readFields fuel s
          some ((key, value) :: fields, rest)
        | _ => none
      | _ => none
    | _ => none

end

/-- Reads a text that holds one value and nothing else but blanks. -/
def read? (text : String) : Option Json := do
  let s := text.toList
  let (v, rest) ← readValue (2 * s.length + 2) s
  if (skipBlanks rest).isEmpty then some v else none

end KernelLink.Json
