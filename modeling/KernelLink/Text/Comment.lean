import KernelLink.Text.Blank

/-!
# Comments

Comments are removed by a machine that reads one character at a time. A line comment vanishes up
to its newline; a block comment leaves its newlines and then one space, so every kept character
stays on its line. A block comment that never ends is closed by the end of the text.

Having the state explicit is what makes stripping compositional: what a suffix contributes depends
on the text before it only through the state.
-/

namespace KernelLink.Comment

/-- Where the reader is. -/
inductive State where
  | code
  /-- After a `/` that may open a comment. -/
  | slash
  | line
  /-- Inside a block comment; the flag says that the last character was a `*`. -/
  | block (star : Bool)
deriving DecidableEq, Repr

/-- One character: the next state and what is written. -/
def step : State → Char → State × List Char
  | .code, c => if c = '/' then (.slash, []) else (.code, [c])
  | .slash, c =>
    if c = '/' then (.line, [])
    else if c = '*' then (.block false, [])
    else (.code, ['/', c])
  | .line, c => if c = '\n' then (.code, ['\n']) else (.line, [])
  | .block star, c =>
    if star && c = '/' then (.code, [' '])
    else (.block (c = '*'), if c = '\n' then ['\n'] else [])

/-- What the end of the text writes. -/
def finish : State → List Char
  | .slash => ['/']
  | .block _ => [' ']
  | _ => []

def strip (state : State) : List Char → List Char
  | [] => finish state
  | c :: s => (step state c).2 ++ strip (step state c).1 s

/-- The state after a text. -/
def after (state : State) (s : List Char) : State := s.foldl (fun q c => (step q c).1) state

end KernelLink.Comment

namespace KernelLink

/-- The text without its comments. -/
def stripComments (s : List Char) : List Char := Comment.strip .code s

/-- The layout-free form of a body: comments gone, blank runs as single spaces. -/
def normalizeBody (body : String) : String :=
  String.ofList (unwords (words (stripComments body.toList)))

end KernelLink
