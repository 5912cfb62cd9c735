import KernelLink.Text.Bytes

/-!
# Patterns

A star stands for any text, a question mark for any character, and brackets for one character of a
set. A pattern is read once into items, and what was quoted in it stands for itself.
-/

namespace KernelLink.Shell

/-- A character of a pattern; a quoted one stands for itself. -/
structure PatternChar where
  char : Char
  quoted : Bool
deriving DecidableEq, Repr

/-- The named sets of characters. -/
def namedClass? (name : ByteText) : Option (Char → Bool) :=
  match String.ofList name with
  | "alpha" => some Char.isAlpha
  | "digit" => some Char.isDigit
  | "alnum" => some Char.isAlphanum
  | "upper" => some Char.isUpper
  | "lower" => some Char.isLower
  | "space" => some fun c => c = ' ' || (9 ≤ c.toNat && c.toNat ≤ 13)
  | "blank" => some fun c => c = ' ' || c = '\t'
  | "punct" => some fun c => 33 ≤ c.toNat && c.toNat ≤ 126 && !c.isAlphanum
  | "cntrl" => some fun c => c.toNat < 32 || c.toNat = 127
  | "print" => some fun c => 32 ≤ c.toNat && c.toNat ≤ 126
  | "graph" => some fun c => 33 ≤ c.toNat && c.toNat ≤ 126
  | "xdigit" => some fun c => c.isDigit || ('a' ≤ c && c ≤ 'f') || ('A' ≤ c && c ≤ 'F')
  | _ => none

/-- A member of a set. -/
inductive SetItem where
  | range (low high : Char)
  | named (name : ByteText)
deriving DecidableEq, Repr

def SetItem.holds (c : Char) : SetItem → Bool
  | range low high => low ≤ c && c ≤ high
  | named name =>
    match namedClass? name with
    | some fits => fits c
    | none => false

inductive PatternItem where
  | char (c : Char)
  | any
  | star
  | set (negated : Bool) (items : List SetItem)
deriving DecidableEq, Repr

abbrev Pattern := List PatternItem

namespace Pattern

/-- The name of a set between colons, and what follows its closing bracket. -/
def className? (s : List PatternChar) : Option (ByteText × List PatternChar) :=
  let name := s.takeWhile fun c => c.char ≠ ':'
  match s.drop name.length with
  | ⟨':', _⟩ :: ⟨']', _⟩ :: rest => some (name.map (·.char), rest)
  | _ => none

/-- The members of a set up to its closing bracket, and what follows. A closing bracket right at
the front is a member. -/
def setItems (first : Bool) : (most : Nat) → List PatternChar →
    Option (List SetItem × List PatternChar)
  | 0, _ => none
  | _, [] => none
  | most + 1, ⟨c, quoted⟩ :: s =>
    if c = ']' ∧ !quoted ∧ !first then some ([], s)
    else
      let member (c : Char) (s : List PatternChar) : Option (List SetItem × List PatternChar) :=
        match s with
        | ⟨'-', false⟩ :: ⟨']', false⟩ :: _ =>
          (setItems false most s).map fun (items, rest) => (.range c c :: items, rest)
        | ⟨'-', false⟩ :: ⟨'\\', false⟩ :: high :: rest
        | ⟨'-', false⟩ :: high :: rest =>
          (setItems false most rest).map fun (items, rest) => (.range c high.char :: items, rest)
        | s => (setItems false most s).map fun (items, rest) => (.range c c :: items, rest)
      match c, quoted, s with
      | '[', false, ⟨':', false⟩ :: named =>
        match className? named with
        | some (name, rest) =>
          (setItems false most rest).map fun (items, rest) => (.named name :: items, rest)
        | none => member c s
      | '\\', false, e :: s => member e.char s
      | c, _, s => member c s

/-- The set behind an opening bracket, and what follows it. -/
def set? (s : List PatternChar) : Option (PatternItem × List PatternChar) :=
  let (negated, s) : Bool × List PatternChar := match s with
    | ⟨'!', false⟩ :: s | ⟨'^', false⟩ :: s => (true, s)
    | s => (false, s)
  (setItems true (s.length + 1) s).map fun (items, rest) => (.set negated items, rest)

/-- Reads a pattern of at most so many characters. -/
def read : (most : Nat) → List PatternChar → Pattern
  | 0, _ => []
  | _, [] => []
  | most + 1, ⟨c, quoted⟩ :: s =>
    if quoted then .char c :: read most s
    else match c, s with
      | '*', s => .star :: read most s
      | '?', s => .any :: read most s
      | '\\', e :: s => .char e.char :: read most s
      | '[', s =>
        match set? s with
        | some (item, rest) => item :: read most rest
        | none => .char '[' :: read most s
      | c, s => .char c :: read most s

/-- The pattern that characters write. -/
def ofChars (s : List PatternChar) : Pattern := read s.length s

/-- The characters of a pattern that is one word; a backslash protects the next one. -/
def charsOf : (escaped : Bool) → ByteText → List PatternChar
  | _, [] => []
  | false, '\\' :: s => charsOf true s
  | escaped, c :: s => ⟨c, escaped⟩ :: charsOf false s

/-- The pattern that a text writes. -/
def ofText (s : ByteText) : Pattern := ofChars (charsOf false s)

def holds (c : Char) : PatternItem → Bool
  | .char d => c = d
  | .any => true
  | .star => true
  | .set negated items => items.any (·.holds c) != negated

/-- The positions of a text that can be reached behind one more item, given those that can be
reached before it. -/
def step (positions : List Bool) (s : ByteText) (item : PatternItem) : List Bool :=
  match item with
  | .star =>
    let step : Bool × List Bool → Bool → Bool × List Bool := fun (seen, out) now =>
      (seen || now, (seen || now) :: out)
    (positions.foldl step (false, [])).2.reverse
  | item =>
    false :: (positions.zip s).map fun (now, c) => now && holds c item

/-- Which prefixes of a text match, by their length. -/
def matchingPrefixes (p : Pattern) (s : ByteText) : List Bool :=
  p.foldl (fun positions item => step positions s item) (true :: s.map fun _ => false)

/-- Whether a whole text matches. -/
def fits (p : Pattern) (s : ByteText) : Bool := (matchingPrefixes p s).getLast?.getD false

/-- The shortest or longest front that matches. -/
def front? (p : Pattern) (longest : Bool) (s : ByteText) : Option Nat :=
  let lengths := (matchingPrefixes p s).zipIdx.filterMap fun (ok, n) => if ok then some n else none
  if longest then lengths.getLast? else lengths.head?

/-- The length of what is left in front of the shortest or longest back that matches. -/
def back? (p : Pattern) (longest : Bool) (s : ByteText) : Option Nat :=
  let starts := (List.range (s.length + 1)).filter fun n => p.fits (s.drop n)
  if longest then starts.head? else starts.getLast?

/-- Whether a pattern stands for more than one text. -/
def isProper (p : Pattern) : Bool :=
  p.any fun
    | .char _ => false
    | _ => true

end Pattern

end KernelLink.Shell
