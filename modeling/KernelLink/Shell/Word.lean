import KernelLink.Shell.Cursor

/-!
# Reading words

What a character means in a word depends on what encloses it: nothing, double quotes, the braces of
a parameter, the parentheses of a sum, or a here-document. Enclosures nest, and inside double quotes
everything counts as quoted however deep it is nested, except for the pattern that a parameter's
value is cut by.
-/

namespace KernelLink.Shell

/-- What encloses the characters that are being read. -/
inductive Enclosure where
  | none
  | quotes
  | braces (quoted : Bool)
  | sum
  | document
deriving DecidableEq, Repr

def Enclosure.isQuoted : Enclosure → Bool
  | none => false
  | braces quoted => quoted
  | _ => true

/-- The characters that end a word that nothing encloses. -/
def endsWord (c : Char) : Bool := [' ', '\t', '\n', ';', '&', '|', '<', '>', '(', ')'].contains c

/-- Adds a character to parts that are kept the last one first. -/
def addChar (c : Char) (quoted : Bool) : List Part → List Part
  | .text s q :: parts =>
    if q = quoted then .text (s ++ [c]) q :: parts else .text [c] quoted :: .text s q :: parts
  | parts => .text [c] quoted :: parts

def addText (s : ByteText) (quoted : Bool) (parts : List Part) : List Part :=
  .text s quoted :: parts

/-- How the inner language is read: a list of commands up to a closing parenthesis, or up to
whatever ends a list. -/
structure Inner where
  upToParenthesis : ReadM Unit
  whileList : ReadM Unit

namespace ReadM

/-- The rest of text between single quotes. -/
def singleQuoted : (most : Nat) → ReadM ByteText
  | 0 => fail .unterminatedQuote
  | most + 1 => do
    match ← rawChar with
    | some '\x27' => pure []
    | some c => pure (c :: (← singleQuoted most))
    | none => fail .unterminatedQuote

/-- The text between backquotes, where a backslash protects only what would be special. -/
def backquoted (quoted : Bool) : (most : Nat) → ReadM ByteText
  | 0 => fail .openBackquote
  | most + 1 => do
    match ← char with
    | some '\x60' => pure []
    | some '\\' =>
      match ← rawChar with
      | some c =>
        let special := ['\\', '\x60', '$'].contains c || (quoted && c = '"')
        let rest ← backquoted quoted most
        pure (if special then c :: rest else '\\' :: c :: rest)
      | none => fail .openBackquote
    | some c => pure (c :: (← backquoted quoted most))
    | none => fail .openBackquote

/-- Reads something on its own and goes on here as if nothing had happened, except that a fault
stays one and documents are kept. The result is where reading stopped. -/
def aside (text : ByteText) (m : ReadM Unit) : ReadM Cursor := do
  let here ← get
  set { here with rest := text, line := 1, held := none, awaited := [], aliases := [] }
  m
  let there ← get
  set { here with documents := there.documents, next := there.next }
  pure there

/-- A command substitution behind its opening parenthesis. Aliases do not matter for where it
ends. -/
def commandPart (inner : Inner) (quoted : Bool) : ReadM Part := do
  let before ← get
  set { before with held := none, awaited := [], aliases := [] }
  inner.upToParenthesis
  let after ← get
  set { after with held := before.held, awaited := before.awaited, aliases := before.aliases }
  let script := before.rest.take (before.rest.length - after.rest.length - 1)
  pure (.command script before.line quoted)

/-- A command substitution behind its opening backquote. Its lines are counted from one, and what
stands behind a list of commands in it does not matter. -/
def backquotePart (inner : Inner) (quoted : Bool) : ReadM Part := do
  let script ← backquoted quoted (← remaining)
  let after ← aside script inner.whileList
  let left := if after.held.isSome then after.lastStart else after.rest.length
  pure (.command (script.take (script.length - left)) 1 quoted)

/-- The operation behind a parameter's name in braces. -/
def operation : ReadM Operation := do
  let strict ← take ':'
  match ← peek with
  | some '-' => discard rawChar; pure (.otherwise strict)
  | some '=' => discard rawChar; pure (.assign strict)
  | some '?' => discard rawChar; pure (.demand strict)
  | some '+' => discard rawChar; pure (.replace strict)
  | some '}' => pure (if strict then .unknown else .value)
  | some '#' =>
    if strict then pure .unknown
    else
      discard rawChar
      pure (.cutFront (← take '#'))
  | some '%' =>
    if strict then pure .unknown
    else
      discard rawChar
      pure (.cutBack (← take '%'))
  | _ => pure .unknown

/-- The name of a parameter in braces; empty if there is none. -/
def bracedName : ReadM ByteText := do
  match ← peek with
  | some c =>
    if isNameStart c then takeWhile isNameChar (← remaining)
    else if c.isDigit then takeWhile Char.isDigit (← remaining)
    else if isSpecialName c then
      discard rawChar
      pure [c]
    else pure []
  | none => pure []

/-- Whether a number sign behind an opening brace asks for a length: it stands before a name, or
before a special character that the closing brace follows. -/
def asksLength : ByteText → Bool
  | c :: d :: _ => isNameChar c || (isSpecialName c && d = '}')
  | _ => false

/-- A parameter's name in braces and what is made of it. -/
def bracedHead : ReadM (ByteText × Operation) := do
  if (← peek) = some '#' ∧ asksLength ((← get).rest.drop 1) then
    discard rawChar
    let name ← bracedName
    pure (name, if (← peek) = some '}' then .length else .unknown)
  else
    let name ← bracedName
    if name.isEmpty then pure (name, .unknown) else pure (name, ← operation)

/-- The enclosure of the word behind an operation. -/
def wordEnclosure (around : Enclosure) : Operation → Enclosure
  | .cutFront _ | .cutBack _ => .braces false
  | _ => .braces around.isQuoted

/-- What a dollar sign stands for. `parts` reads the inside of an enclosure. -/
def dollarPart (inner : Inner) (parts : Enclosure → ReadM (List Part)) (around : Enclosure) :
    ReadM (Option Part) := do
  let quoted := around.isQuoted
  match ← peek with
  | some '(' =>
    discard rawChar
    if ← take '(' then pure (some (.arithmetic (← parts .sum) quoted))
    else pure (some (← commandPart inner quoted))
  | some '{' =>
    discard rawChar
    let (name, op) ← bracedHead
    pure (some (.parameter name op (← parts (wordEnclosure around op)) quoted))
  | some c =>
    if isNameStart c then
      pure (some (.parameter (← takeWhile isNameChar (← remaining)) .value [] quoted))
    else if isSpecialName c then
      discard rawChar
      pure (some (.parameter [c] .value [] quoted))
    else pure none
  | none => pure none

/-- What a backslash and the character behind it stand for. -/
def escapedText (around : Enclosure) (c : Char) : ByteText :=
  let bare : Bool := match around with
    | .none => true
    | .braces quoted => !quoted || ['"', '}'].contains c
    | .quotes => c = '"'
    | _ => false
  if bare || ['\\', '\x60', '$'].contains c then [c] else ['\\', c]

/-- Ends an enclosure at the end of the script, if it may end there. -/
def atEnd (around : Enclosure) : ReadM Unit :=
  match around with
  | .none | .document => pure ()
  | .quotes | .braces true => fail .unterminatedQuote
  | .braces false => fail .missingBrace
  | .sum => fail .missingParentheses

/-- Reads parts up to the end of an enclosure. `depth` counts the parentheses that are open in a
sum, and `sofar` holds the parts, the last one first. -/
def partsWithin (inner : Inner) :
    (most : Nat) → Enclosure → (depth : Nat) → (sofar : List Part) → ReadM (List Part)
  | 0, around, _, sofar => do
    atEnd around
    pure sofar.reverse
  | most + 1, around, depth, sofar => do
    let quoted := around.isQuoted
    let again (sofar : List Part) : ReadM (List Part) := partsWithin inner most around depth sofar
    match ← peek with
    | none =>
      atEnd around
      pure sofar.reverse
    | some c =>
      if around = .none ∧ endsWord c then return sofar.reverse
      discard rawChar
      match c with
      | '\\' =>
        match ← rawChar with
        | some e => again (addText (escapedText around e) true sofar)
        | none => again (addText ['\\'] true sofar)
      | '$' =>
        match ← dollarPart inner (fun e => partsWithin inner most e 0 []) around with
        | some part => again (part :: sofar)
        | none => again (addChar '$' quoted sofar)
      | '\x60' => again ((← backquotePart inner quoted) :: sofar)
      | '\x27' =>
        if around = .none ∨ around = .braces false then
          again (addText (← singleQuoted (← remaining)) true sofar)
        else again (addChar c quoted sofar)
      | '"' =>
        match around with
        | .none | .braces false =>
          let parts ← partsWithin inner most .quotes 0 []
          again (parts.reverse ++ addText [] true sofar)
        | .quotes => pure (addText [] true sofar).reverse
        | .braces true => again (addText [] true sofar)
        | .sum | .document => again (addChar c quoted sofar)
      | '}' =>
        match around with
        | .braces _ => pure sofar.reverse
        | _ => again (addChar c quoted sofar)
      | '(' => partsWithin inner most around (depth + 1) (addChar c quoted sofar)
      | ')' =>
        if around = .sum ∧ depth = 0 then
          if ← take ')' then pure sofar.reverse else again (addChar c quoted sofar)
        else partsWithin inner most around (depth - 1) (addChar c quoted sofar)
      | c => again (addChar c quoted sofar)

/-- Reads parts up to the end of an enclosure. -/
def parts (inner : Inner) (around : Enclosure) : ReadM (List Part) := do
  partsWithin inner (2 * (← remaining)) around 0 []

end ReadM

/-- Whether quotes were used in a word. -/
def Part.hasQuotes : Part → Bool
  | .text _ quoted => quoted
  | _ => false

end KernelLink.Shell
