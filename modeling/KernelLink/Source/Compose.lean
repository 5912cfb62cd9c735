import KernelLink.Source.Fragment
import KernelLink.Text.Search

/-!
# Composing sources

A composed text depends only on the order of the fragments within each kind: kinds come in their
fixed order, every fragment is brought to end with a newline, and one blank line separates
neighbours.
-/

namespace KernelLink

/-- What a source was generated from. Constants are texts; a later one of the same key wins. -/
structure SourceParams where
  elements : Nat
  element : Element
  constants : List (String × String)
deriving DecidableEq, Repr, Inhabited

namespace SourceParams

def sized (elements : Nat) (element : Element) : SourceParams := ⟨elements, element, []⟩

/-- 32 single precision elements and no constants. -/
def standard : SourceParams := sized 32 .f32

def withConstant (p : SourceParams) (key value : String) : SourceParams :=
  { p with constants := (key, value) :: p.constants.filter (·.1 ≠ key) }

def constant? (p : SourceParams) (key : String) : Option String :=
  (p.constants.find? (·.1 = key)).map (·.2)

/-- A constant as a number; `fallback` when it is absent or is no number. -/
def number (p : SourceParams) (key : String) (fallback : Double) : Double :=
  ((p.constant? key).bind readConstant?).getD fallback

end SourceParams

/-- A composed text, its label and its parameters. -/
structure KernelSource where
  label : String
  text : String
  params : SourceParams
deriving DecidableEq, Repr, Inhabited

namespace KernelSource

/-- How a text binds compiler intrinsics. -/
def intrinsicMark : String := "__asm("

/-- Whether the intrinsic mark occurs in the text. -/
def bindsIntrinsics (s : KernelSource) : Bool :=
  occurs intrinsicMark.toList s.text.toList

end KernelSource

/-- The text with a newline at its end, added when it is missing. -/
def closeLine (text : String) : String :=
  if text.toList.getLast? = some '\n' then text else text ++ "\n"

/-- The fragments in the order in which they are written. -/
def ordered (fragments : List Fragment) : List Fragment :=
  FragmentKind.all.flatMap fun kind => fragments.filter (·.kind = kind)

/-- The composed text of a list of fragments. -/
def composedText (fragments : List Fragment) : String :=
  "\n".intercalate ((ordered fragments).map fun f => closeLine f.text)

def compose (label : String) (params : SourceParams) (fragments : List Fragment) : KernelSource :=
  ⟨label, composedText fragments, params⟩

end KernelLink
