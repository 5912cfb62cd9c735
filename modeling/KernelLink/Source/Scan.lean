import KernelLink.Signature
import KernelLink.Text.Comment
import KernelLink.Text.Delimiter

/-!
# Declarations in kernel text

A host needs four kinds of declarations: kernels, visible functions with a body (exports), visible
functions without one (imports), and bindings of compiler intrinsics. The scanner looks at every
position of the comment-free text in turn; where a declaration starts it reads it and passes over
its characters, everywhere else it moves on by one.

Positions are suffixes of the text. A line number is what the newlines before the suffix say.
-/

namespace KernelLink

structure ScannedFunction where
  signature : Signature
  body : String
deriving DecidableEq, Repr

/-- One declaration. -/
inductive ScannedItem where
  | kernel (f : ScannedFunction)
  | visibleDefinition (f : ScannedFunction)
  | visiblePrototype (s : Signature)
  | intrinsic (symbol : String)
deriving DecidableEq, Repr

/-- The declarations of a text, each kind in text order. -/
structure ScannedSource where
  kernels : List ScannedFunction
  exports : List ScannedFunction
  imports : List Signature
  intrinsics : List String
deriving DecidableEq, Repr

namespace ScannedSource

def ofItems (items : List ScannedItem) : ScannedSource where
  kernels := items.filterMap fun | .kernel f => some f | _ => none
  exports := items.filterMap fun | .visibleDefinition f => some f | _ => none
  imports := items.filterMap fun | .visiblePrototype s => some s | _ => none
  intrinsics := items.filterMap fun | .intrinsic s => some s | _ => none

def bindsIntrinsics (s : ScannedSource) : Bool := !s.intrinsics.isEmpty

/-- Kernels first, then exports. -/
def functionNames (s : ScannedSource) : List String :=
  (s.kernels ++ s.exports).map (·.signature.name)

/-- Whether no function is defined. -/
def isEmpty (s : ScannedSource) : Bool := s.kernels.isEmpty && s.exports.isEmpty

end ScannedSource

/-! ## Errors -/

/-- What the scanner needed and did not find. -/
inductive Expectation where
  | intrinsicSymbol
  | visibleParameters
  | visibleHeader
  | visibleBody
  | kernelParameters
  | kernelHeader
  | kernelBody
deriving DecidableEq, Repr

def Expectation.text : Expectation → String
  | intrinsicSymbol => "'(' after __asm"
  | visibleParameters => "parameter list after [[visible]]"
  | visibleHeader => "return type and name after [[visible]]"
  | visibleBody => "';' or function body"
  | kernelParameters => "kernel parameter list"
  | kernelHeader => "kernel return type and name"
  | kernelBody => "kernel body"

inductive ScanFault where
  | unbalanced (opening : Char) (line : Nat)
  | expected (what : Expectation) (line : Nat)
deriving DecidableEq, Repr

def ScanFault.message : ScanFault → String
  | unbalanced opening line =>
    toString line ++ ": error: unbalanced '" ++ String.ofList [opening] ++ "'"
  | expected what line => toString line ++ ": error: expected " ++ what.text

/-- The line on which a suffix of the text starts, counted from one. -/
def lineAt (text rest : List Char) : Nat := newlines text - newlines rest + 1

/-! ## Parts of a declaration -/

/-- Return type and name in front of a parameter list. Names are ASCII: a word that continues a
non-ASCII character is no name. -/
def readHeader? (header : List Char) : Option (String × String) :=
  let header := trimBlanks header
  let name := (header.reverse.takeWhile isWordChar).reverse
  let front := header.take (header.length - name.length)
  let returnType := trimBlanks front
  if front.getLast?.any (127 < ·.toNat) || name.isEmpty || returnType.isEmpty then none
  else some (normalizeType (String.ofList returnType), String.ofList name)

/-- The parameter types between the parentheses; `void` alone is none. -/
def readParameters (inside : List Char) : List String :=
  let inside := trimBlanks inside
  if inside.isEmpty || inside = "void".toList then []
  else (splitAtEach ',' inside).map fun p => parameterType (String.ofList p)

/-- A declaration, and what follows it. -/
abbrev Scanned := ScannedItem × List Char

/-- The parameter list that comes next: what stands before it, inside it and after it. -/
def readParameterList (text rest : List Char) (missing : Expectation) :
    Except ScanFault (List Char × List Char × List Char) :=
  match rest.span (· ≠ '(') with
  | (_, []) => .error (.expected missing (lineAt text rest))
  | (header, opened) =>
    match enclosed? '(' ')' opened with
    | some (inside, after) => .ok (header, inside, after)
    | none => .error (.unbalanced '(' (lineAt text opened))

/-- The body that starts with an opening brace. -/
def readBody (text opened : List Char) : Except ScanFault (List Char × List Char) :=
  match enclosed? '\x7b' '\x7d' opened with
  | some body => .ok body
  | none => .error (.unbalanced '\x7b' (lineAt text opened))

/-- Return type, name and parameter list. The header is judged before the parentheses are. -/
def readSignature (text rest : List Char) (parameters header : Expectation) :
    Except ScanFault (String × String × List Char × List Char) :=
  match rest.span (· ≠ '(') with
  | (_, []) => .error (.expected parameters (lineAt text rest))
  | (front, _) =>
    match readHeader? front with
    | none => .error (.expected header (lineAt text rest))
    | some (returnType, name) => do
      let (_, inside, after) ← readParameterList text rest parameters
      .ok (returnType, name, inside, after)

/-! ## Declarations -/

def intrinsicWord : List Char := "__asm".toList
def visibleMark : List Char := "[[visible]]".toList
def kernelWord : List Char := "kernel".toList

/-- Reads an intrinsic binding; `rest` starts with its word. -/
def readIntrinsic (text rest : List Char) : Except ScanFault Scanned := do
  let (_, inside, after) ← readParameterList text rest .intrinsicSymbol
  .ok (.intrinsic (String.ofList (trimWhile (· = '"') (trimBlanks inside))), after)

/-- Reads a visible function behind its mark. -/
def readVisible (text rest : List Char) : Except ScanFault Scanned := do
  let (returnType, name, inside, after) ← readSignature text rest .visibleParameters .visibleHeader
  let signature : Signature := ⟨returnType, name, readParameters inside⟩
  match after.dropWhile isAsciiBlank with
  | ';' :: after => .ok (.visiblePrototype signature, after)
  | '\x7b' :: opened => do
    let (body, after) ← readBody text ('\x7b' :: opened)
    .ok (.visibleDefinition ⟨signature, String.ofList body⟩, after)
  | _ => .error (.expected .visibleBody (lineAt text after))

/-- Reads a kernel behind its word. The types of its parameters are not kept. -/
def readKernel (text rest : List Char) : Except ScanFault Scanned := do
  let (returnType, name, _, after) ← readSignature text rest .kernelParameters .kernelHeader
  match after.dropWhile isAsciiBlank with
  | '\x7b' :: opened => do
    let (body, after) ← readBody text ('\x7b' :: opened)
    .ok (.kernel ⟨⟨returnType, name, []⟩, String.ofList body⟩, after)
  | _ => .error (.expected .kernelBody (lineAt text after))

/-- Whether a text starts with a word that is not part of a longer one. -/
def startsWithWord (word : List Char) (afterWord : Bool) (s : List Char) : Bool :=
  word.isPrefixOf s && !afterWord && !((s.drop word.length).head?.any isWordChar)

/-- Reads the declaration that starts here, if one does. -/
def declarationAt? (text : List Char) (afterWord : Bool) (rest : List Char) :
    Option (Except ScanFault Scanned) :=
  if startsWithWord intrinsicWord afterWord rest then some (readIntrinsic text rest)
  else if visibleMark.isPrefixOf rest then
    some (readVisible text (rest.drop visibleMark.length))
  else if startsWithWord kernelWord afterWord rest then
    some (readKernel text (rest.drop kernelWord.length))
  else none

/-! ## The scan -/

/--
The declarations from a suffix on. `skip` characters belong to the last declaration; `afterWord`
says whether the character before the suffix is a word character.
-/
def scanItems (text : List Char) (skip : Nat) (afterWord : Bool) :
    List Char → Except ScanFault (List ScannedItem)
  | [] => .ok []
  | c :: s =>
    if skip > 0 then scanItems text (skip - 1) (isWordChar c) s
    else match declarationAt? text afterWord (c :: s) with
      | none => scanItems text 0 (isWordChar c) s
      | some (.error fault) => .error fault
      | some (.ok (item, after)) =>
        (scanItems text (s.length - after.length) (isWordChar c) s).map (item :: ·)

/-- The declarations of a kernel text. -/
def scanSource (source : String) : Except ScanFault ScannedSource :=
  let text := stripComments source.toList
  (scanItems text 0 false text).map .ofItems

end KernelLink
