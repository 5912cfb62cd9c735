import KernelLink.Text.Delimiter

/-!
# Paths

A path is kept as it was written, because messages and reports show it that way. Three questions
are asked of the text alone: where a name inside a directory is, what the parent is, and what the
last name is without its extension. Between slashes, an empty piece or a single dot stands for
nothing, except for a dot at the very front of a relative path.
-/

namespace KernelLink

structure Path where
  text : String
deriving DecidableEq, Repr, Inhabited

namespace Path

def isEmpty (p : Path) : Bool := p.text.isEmpty

/-- Absolute paths start at the root of the file tree. -/
def isAbsolute (p : Path) : Bool := p.text.toList.head? = some '/'

def endsWithSlash (p : Path) : Bool := p.text.toList.getLast? = some '/'

/-- A name inside a directory. An absolute name stands for itself. -/
def join (p : Path) (name : String) : Path :=
  if (Path.mk name).isAbsolute || p.isEmpty then ⟨name⟩
  else if p.endsWithSlash then ⟨p.text ++ name⟩
  else ⟨p.text ++ "/" ++ name⟩

/-- What stands between slashes. -/
def pieces (p : Path) : List String :=
  (splitAtEach '/' p.text.toList).map String.ofList

/-- The pieces behind the root, the last one first; pieces that stand for nothing are empty. -/
def backwards (p : Path) : List String :=
  let named := p.pieces.map fun piece => if piece = "." then "" else piece
  let body := match p.pieces, named with
    | "." :: _, _ :: rest => "." :: rest
    | _, named => named
  (if p.isAbsolute then body.drop 1 else body).reverse

/-- The path without its last name; the root and the empty path have no parent. -/
def parent? (p : Path) : Option Path :=
  match p.backwards.dropWhile (·.isEmpty) with
  | [] => none
  | _ :: above =>
    let kept := (above.dropWhile (·.isEmpty)).length
    let shown := (if p.isAbsolute then p.pieces.drop 1 else p.pieces).take kept
    some ⟨(if p.isAbsolute then "/" else "") ++ "/".intercalate shown⟩

/-- The name without what follows its last point. A point at the front is part of the name. -/
def withoutExtension (name : List Char) : List Char :=
  match name.reverse.dropWhile (· ≠ '.') with
  | _ :: stem => if stem.isEmpty then name else stem.reverse
  | [] => name

/-- The last name without its extension, if the path ends in a name. -/
def stem? (p : Path) : Option String :=
  match p.backwards.dropWhile (·.isEmpty) with
  | [] => none
  | name :: _ =>
    if name = "." ∨ name = ".." then none
    else some (String.ofList (withoutExtension name.toList))

/-- Parents from the nearest up, at most `count` of them. -/
def ancestorsUpTo : Nat → Path → List Path
  | 0, _ => []
  | count + 1, p =>
    match p.parent? with
    | some q => q :: ancestorsUpTo count q
    | none => []

/-- All parents, the nearest first. A path has fewer parents than characters. -/
def ancestors (p : Path) : List Path := ancestorsUpTo (p.text.length + 1) p

end Path

end KernelLink
