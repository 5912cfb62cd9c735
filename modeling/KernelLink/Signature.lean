import KernelLink.Text.Blank

/-!
# Signatures

Two functions link when their signatures are equal, so types need one spelling each. A type is read
as a list of tokens (words, and `*` or `&` each on its own) and written back with single spaces
between words and the pointer marks attached to what stands before them. Parameter names are not
part of a signature; `parameterType` drops one when the tokens show that it is there.
-/

namespace KernelLink

/-- A letter, digit or underscore, ASCII only. -/
def isWordChar (c : Char) : Bool := c.isAlphanum || c = '_'

/-- A letter or underscore followed by word characters. -/
def isIdentifier : List Char → Bool
  | [] => false
  | c :: s => (c.isAlpha || c = '_') && s.all isWordChar

/-! ## Type spellings -/

def isPointerMark (c : Char) : Bool := c = '*' || c = '&'

/-- The tokens of a type whose first word continues `current`. -/
def typeTokensFrom (current : List Char) : List Char → List (List Char)
  | [] => if current.isEmpty then [] else [current]
  | c :: s =>
    let flushed := if current.isEmpty then [] else [current]
    if isPointerMark c then flushed ++ [c] :: typeTokensFrom [] s
    else if isBlank c then flushed ++ typeTokensFrom [] s
    else typeTokensFrom (current ++ [c]) s

def typeTokens (s : List Char) : List (List Char) := typeTokensFrom [] s

def isPointerToken (token : List Char) : Bool := token = ['*'] || token = ['&']

/-- Adds one token to a spelling. -/
def spellToken (spelled token : List Char) : List Char :=
  if isPointerToken token || spelled.isEmpty then spelled ++ token else spelled ++ ' ' :: token

def spellTokens (tokens : List (List Char)) : List Char := tokens.foldl spellToken []

/-- The one spelling of a type. -/
def normalizeType (type : String) : String :=
  String.ofList (spellTokens (typeTokens type.toList))

/-- Words that qualify a type without being one. -/
def typeQualifiers : List String := ["device", "threadgroup", "constant", "thread", "const"]

/-- An identifier that can be the type itself. -/
def isTypeWord (token : List Char) : Bool :=
  isIdentifier token && !typeQualifiers.contains (String.ofList token)

/-- The tokens without a trailing parameter name. A last identifier is a name when a type word
stands before it. -/
def dropParameterName (tokens : List (List Char)) : List (List Char) :=
  match tokens.getLast? with
  | some last =>
    if isIdentifier last && tokens.dropLast.any isTypeWord then tokens.dropLast else tokens
  | none => tokens

/-- The type of one declared parameter, named or not. -/
def parameterType (parameter : String) : String :=
  normalizeType (String.ofList (unwords (dropParameterName (typeTokens parameter.toList))))

/-! ## Functions -/

/-- What linking compares: return type, name and parameter types. -/
structure Signature where
  returnType : String
  name : String
  paramTypes : List String
deriving DecidableEq, Repr, Inhabited

namespace Signature

/-- A signature with every type in its one spelling. -/
def normalized (returnType name : String) (paramTypes : List String) : Signature :=
  ⟨normalizeType returnType, name, paramTypes.map normalizeType⟩

/-- The signature as diagnostics show it. -/
def display (s : Signature) : String :=
  s.returnType ++ " " ++ s.name ++ "(" ++ ", ".intercalate s.paramTypes ++ ")"

end Signature

/-- A named parameter of a visible function. -/
structure Param where
  type : String
  name : String
deriving DecidableEq, Repr

/-- A declared visible function, parameter names included. -/
structure Declaration where
  returnType : String
  name : String
  params : List Param
deriving DecidableEq, Repr

def Declaration.signature (d : Declaration) : Signature :=
  .normalized d.returnType d.name (d.params.map (·.type))

end KernelLink
