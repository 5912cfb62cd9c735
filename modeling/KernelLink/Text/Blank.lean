/-!
# Blanks, lines and words

Three notions of white space are in play and they are kept apart here: the Unicode property that
trimming and word splitting use, the five ASCII blanks that may stand between a parameter list and
a body, and the newline that counts lines.
-/

namespace KernelLink

/-- The code points with the Unicode property `White_Space`, as inclusive ranges. -/
def blankRanges : List (Nat × Nat) :=
  [(0x9, 0xd), (0x20, 0x20), (0x85, 0x85), (0xa0, 0xa0), (0x1680, 0x1680), (0x2000, 0x200a),
   (0x2028, 0x2029), (0x202f, 0x202f), (0x205f, 0x205f), (0x3000, 0x3000)]

def isBlank (c : Char) : Bool :=
  blankRanges.any fun (low, high) => low ≤ c.toNat && c.toNat ≤ high

/-- Space, tab, newline, form feed and carriage return. -/
def isAsciiBlank (c : Char) : Bool :=
  c = ' ' || c = '\t' || c = '\n' || c = '\x0c' || c = '\r'

/-- Drops a run at the end. -/
def dropEndWhile (p : Char → Bool) (s : List Char) : List Char :=
  s.foldr (fun c rest => if rest.isEmpty && p c then [] else c :: rest) []

/-- Drops a run at both ends. -/
def trimWhile (p : Char → Bool) (s : List Char) : List Char := dropEndWhile p (s.dropWhile p)

def trimBlanks (s : List Char) : List Char := trimWhile isBlank s

/-- The words of a text whose first word continues `current`. -/
def wordsFrom (current : List Char) : List Char → List (List Char)
  | [] => if current.isEmpty then [] else [current]
  | c :: s =>
    if isBlank c then
      if current.isEmpty then wordsFrom [] s else current :: wordsFrom [] s
    else wordsFrom (current ++ [c]) s

/-- The maximal runs without blanks. -/
def words (s : List Char) : List (List Char) := wordsFrom [] s

/-- Words separated by single spaces. -/
def unwords (ws : List (List Char)) : List Char := [' '].intercalate ws

def newlines (s : List Char) : Nat := s.count '\n'

end KernelLink
