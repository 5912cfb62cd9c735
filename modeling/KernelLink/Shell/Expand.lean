import KernelLink.Shell.Fields
import KernelLink.Shell.State

/-!
# What words stand for

Words are expanded from left to right: parameters, command substitutions and sums become text, and
only what they contributed outside quotes is cut into fields. How a substitution is run is left to
whoever runs commands.
-/

namespace KernelLink.Shell

/-- Runs a script whose text begins on a line, and gives what it wrote. -/
abbrev Substitute := ByteText → (line : Nat) → ShellM ByteText

/-- The value of a parameter. -/
inductive ParameterValue where
  | missing
  | text (s : ByteText)
  /-- The arguments, one by one or joined. -/
  | arguments (joined : Bool) (values : List ByteText)

/-- Where an expansion is used. -/
structure Manner where
  /-- Whether the text will be cut into fields. -/
  splits : Bool
  /-- Whether plain text outside quotes is cut as well. -/
  splitsText : Bool

namespace ParameterValue

/-- The text between arguments that are joined. -/
def joint (separators : Option ByteText) : ByteText :=
  match separators with
  | none => [' ']
  | some s => s.take 1

/-- The arguments one by one, if that is how they are used: what is cut into fields keeps them
apart, but for those that are joined between quotes and those that no separators are set for. -/
def each? (manner : Manner) (separators : Option ByteText) (quoted : Bool) :
    ParameterValue → Option (List ByteText)
  | arguments joined values =>
    if manner.splits && (if quoted then !joined else separators.isSome) then some values else none
  | _ => none

/-- The pieces of a value. -/
def pieces (manner : Manner) (separators : Option ByteText) (quoted : Bool)
    (value : ParameterValue) : List FieldPiece :=
  let cuts : Bool := manner.splits && !quoted
  match value with
  | missing => []
  | text s => textPieces s quoted cuts
  | arguments _ values =>
    let texts := values.map fun s => textPieces s quoted cuts
    if (value.each? manner separators quoted).isNone then
      (textPieces (joint separators) quoted cuts).intercalate texts
    else if quoted then [FieldPiece.cut].intercalate (texts.map fun pieces => .mark :: pieces)
    else [FieldPiece.gap].intercalate texts

/-- Whether a value counts as missing: if empty ones do too, then several arguments that are kept
apart are not empty whatever they hold. -/
def isMissing (manner : Manner) (separators : Option ByteText) (quoted strict : Bool)
    (value : ParameterValue) : Bool :=
  match value with
  | missing => true
  | _ =>
    strict && (FieldPiece.text (value.pieces ⟨false, false⟩ separators true)).isEmpty &&
      ((value.each? manner separators quoted).getD []).length < 2

end ParameterValue

/-- Arguments after one of them has been cut at its front. Only the first one is looked at; but if
as much as possible is to go and that is all of it, the others go with it. -/
def cutFronts (p : Pattern) (longest : Bool) : List ByteText → List ByteText
  | [] => []
  | first :: rest =>
    if longest ∧ p.fits first then [[]]
    else first.drop ((p.front? longest first).getD 0) :: rest

/-- Arguments after one of them has been cut at its end, with all that follow it gone: the last one
that can be cut, or the first one alone if as much as possible is to go. -/
def cutBacks (p : Pattern) (longest : Bool) (values : List ByteText) : List ByteText :=
  let cut? (s : ByteText) : Option ByteText := (p.back? longest s).map s.take
  if longest then
    match values with
    | [] => []
    | first :: rest => (cut? first).elim (first :: rest) fun kept => [kept]
  else
    let tried := values.zip (values.map cut?)
    let behind := (tried.reverse.takeWhile fun (_, kept?) => kept?.isNone).length
    match (tried.take (tried.length - behind)).getLast? with
    | some (_, some kept) => values.take (tried.length - behind - 1) ++ [kept]
    | _ => values

namespace ShellM

/-- The options as letters. -/
def optionLetters : ShellM ByteText := do
  let options := (← get).options
  pure ("pubaCEVvxsnmiIfe".toList.filter options.contains)

def parameter (name : ByteText) : ShellM ParameterValue := do
  let s ← get
  match name with
  | ['$'] => pure (.text (decimalText s.process))
  | ['?'] => pure (.text (decimalText s.status))
  | ['#'] => pure (.text (decimalText s.arguments.length))
  | ['-'] => pure (.text (← optionLetters))
  | ['!'] => pure (match s.background with
    | some _ => .text (decimalText s.backgroundProcess)
    | none => .missing)
  | ['@'] => pure (.arguments false s.arguments)
  | ['*'] => pure (.arguments true s.arguments)
  | name =>
    if name.all (·.isDigit) then
      match (digitsOf 10 name).1 with
      | 0 => pure (.text s.name)
      | n + 1 => pure (match s.arguments[n]? with
        | some value => .text value
        | none => .missing)
    else
      pure (match ← value? name with
        | some value => .text value
        | none => .missing)

def separators : ShellM (Option ByteText) := value? "IFS".toList

/-- Sets the parameter that a word gives a value to. -/
def assignParameter (name value : ByteText) : ShellM Unit :=
  if isName name then assign name value else faultAbout name "bad variable name"

/-! ## Sums -/

/-- A variable in a sum. -/
def numberOf (name : ByteText) : ShellM Int := do
  let value := (← value? name).getD []
  match variableNumber? value with
  | some n => pure n
  | none => fault (byteText "Illegal number: " ++ value)

/-- The number of the signal that a quotient without a place to go ends a shell with. -/
def arithmeticSignal : Nat := 8

def arithmeticFault {α : Type} (expression : ByteText) (f : SumFault) : ShellM α :=
  if f = .overflow then throw (.signal arithmeticSignal)
  else fault (byteText ("arithmetic expression: " ++ f.reason ++ ": \"") ++ expression ++ ['"'])

/-- The value of a sum. -/
def sumOf (expression : ByteText) : ShellM Int := do
  (Sum.read expression).value {
    get := numberOf
    set := fun name n => assign name (signedText n)
    fail := arithmeticFault expression }

end ShellM

/-! ## Parts -/

/-- A command substitution's output as text: without NUL, and without newlines at its end. -/
def substitutedText (output : ByteText) : ByteText :=
  ((output.filter (· ≠ '\x00')).reverse.dropWhile (· = '\n')).reverse

open ShellM

mutual

def partPieces (run : Substitute) (manner : Manner) : Part → ShellM (List FieldPiece)
  | .text s quoted =>
    pure (if quoted then .mark :: textPieces s true false
      else textPieces s false (manner.splits && manner.splitsText))
  | .command script line quoted => do
    let output ← run script line
    pure (textPieces (substitutedText output) quoted (manner.splits && !quoted))
  | .arithmetic expression quoted => do
    let text := FieldPiece.text (← partsPieces run ⟨false, false⟩ expression)
    pure (textPieces (signedText (← sumOf text)) quoted (manner.splits && !quoted))
  | .parameter name op word quoted => do
    let value ← parameter name
    let separators ← ShellM.separators
    let pieces := value.pieces manner separators quoted
    let text := FieldPiece.text (value.pieces ⟨false, false⟩ separators true)
    let isMissing := value.isMissing manner separators quoted
    let wordPieces : ShellM (List FieldPiece) := partsPieces run ⟨manner.splits, true⟩ word
    let wordText : ShellM ByteText := do
      pure (FieldPiece.text (← partsPieces run ⟨false, false⟩ word))
    let needed : ShellM Unit := do
      match value with
      | .missing => if ← hasOption 'u' then faultAbout name "parameter not set"
      | _ => pure ()
    match op with
    | .value => do
      needed
      pure pieces
    | .length => do
      needed
      pure (textPieces (decimalText text.length) quoted (manner.splits && !quoted))
    | .otherwise strict => if isMissing strict then wordPieces else pure pieces
    | .replace strict => if isMissing strict then pure [] else wordPieces
    | .assign strict =>
      if isMissing strict then do
        let given ← wordText
        assignParameter name given
        pure (textPieces given quoted (manner.splits && !quoted))
      else pure pieces
    | .demand strict =>
      if isMissing strict then do
        let reason ← wordText
        let standard := if strict then "parameter not set or null" else "parameter not set"
        fault (name ++ [':', ' '] ++ if word.isEmpty then byteText standard else reason)
      else pure pieces
    | .cutFront longest => do
      needed
      let p := FieldPiece.pattern (← partsPieces run ⟨false, false⟩ word)
      match value.each? manner separators quoted with
      | some values =>
        let cut := ParameterValue.arguments false (cutFronts p longest values)
        pure (cut.pieces manner separators quoted)
      | none =>
        let rest := text.drop ((p.front? longest text).getD 0)
        pure (textPieces rest quoted (manner.splits && !quoted))
    | .cutBack longest => do
      needed
      let p := FieldPiece.pattern (← partsPieces run ⟨false, false⟩ word)
      match value.each? manner separators quoted with
      | some values =>
        let cut := ParameterValue.arguments false (cutBacks p longest values)
        pure (cut.pieces manner separators quoted)
      | none =>
        let rest := text.take ((p.back? longest text).getD text.length)
        pure (textPieces rest quoted (manner.splits && !quoted))
    | .unknown => fault (byteText "Bad substitution")

/-- The pieces of parts. All arguments between quotes, and nothing else there, are no field at all
if there are none. -/
def partsPieces (run : Substitute) (manner : Manner) : List Part → ShellM (List FieldPiece)
  | [] => pure []
  | .text [] true :: .parameter name .value word true :: .text [] true :: rest => do
    let inner ← partPieces run manner (.parameter name .value word true)
    let later ← partsPieces run manner rest
    let isAll : Bool := manner.splits && name = ['@']
    pure (if isAll then inner ++ later else .mark :: inner ++ .mark :: later)
  | part :: rest => do
    let now ← partPieces run manner part
    let later ← partsPieces run manner rest
    pure (now ++ later)

end

/-! ## Words -/

/-- Which tildes at the front of names stand for the home directory. -/
inductive Tildes where
  | front
  /-- Those behind colons too. -/
  | all
deriving DecidableEq, Repr

/-- The parts of a word with its tildes replaced. -/
def withHome (home : Option ByteText) (tildes : Tildes) (w : Word) : Word :=
  match home, w with
  | some home, .text s false :: rest =>
    let isWhole := rest.isEmpty
    let ends (c : Char) : Bool := c = '/' || (tildes = .all && c = ':')
    let alone (s : ByteText) : Bool :=
      match s with
      | ['~'] => isWhole
      | '~' :: c :: _ => ends c
      | _ => false
    if alone s then .text home true :: .text (s.drop 1) false :: rest else w
  | _, w => w

namespace Word

def homed (w : Word) (tildes : Tildes) : ShellM Word := do
  match w with
  | .text ('~' :: _) false :: _ => pure (withHome (← value? "HOME".toList) tildes w)
  | w => pure w

/-- The pieces of a word that is not cut. -/
def wholePieces (run : Substitute) (w : Word) (tildes : Tildes) : ShellM (List FieldPiece) := do
  partsPieces run ⟨false, false⟩ (← homed w tildes)

/-- The one text that a word stands for. -/
def whole (run : Substitute) (w : Word) (tildes : Tildes) : ShellM ByteText := do
  pure (FieldPiece.text (← wholePieces run w tildes))

/-- The pattern that a word stands for. -/
def pattern (run : Substitute) (w : Word) : ShellM Pattern := do
  pure (FieldPiece.pattern (← wholePieces run w .front))

/-- The fields that a word stands for. -/
def fields (run : Substitute) (w : Word) : ShellM (List ByteText) := do
  let pieces ← partsPieces run ⟨true, false⟩ (← homed w .front)
  let separators := (← ShellM.separators).getD standardSeparators
  let s ← get
  let usesFiles := !s.options.contains 'f'
  let fields := cutFields separators none false pieces
  pure (fields.flatMap (expandField s.machine.files s.base usesFiles))

end Word

end KernelLink.Shell
