import KernelLink.Machine.Files
import KernelLink.Shell.Pattern

/-!
# Fields

The text that a word stands for is a list of pieces that remember where they come from: quoted text
stays together and means itself, what a parameter or a command contributed falls apart at
separators, and places where quotes stood keep a field alive that would otherwise be empty. Cutting
that list gives fields, and a field that is a pattern gives the names of the files it matches.
-/

namespace KernelLink.Shell

inductive FieldPiece where
  /-- A character; `splits` says that it came from a parameter or a command outside quotes. -/
  | char (c : Char) (quoted splits : Bool)
  /-- A place where quotes stood. -/
  | mark
  /-- The end of a field, however empty it is. -/
  | cut
  /-- The end of a field, if there is one. -/
  | gap
deriving DecidableEq, Repr

def textPieces (s : ByteText) (quoted splits : Bool) : List FieldPiece :=
  s.map fun c => .char c quoted splits

namespace FieldPiece

/-- The text alone. -/
def text (pieces : List FieldPiece) : ByteText :=
  pieces.filterMap fun
    | .char c _ _ => some c
    | _ => none

/-- The text as a pattern. -/
def pattern (pieces : List FieldPiece) : Pattern :=
  .ofChars (pieces.filterMap fun
    | .char c quoted _ => some ⟨c, quoted⟩
    | _ => none)

end FieldPiece

/-- The separators where nothing else was asked for. -/
def standardSeparators : ByteText := [' ', '\t', '\n']

/-- Cuts pieces into fields. `current` is the field that is being put together, the last character
first, and `blank` says that a separator that is no blank may still follow without ending another
field. -/
def cutFields (separators : ByteText) :
    (current : Option (List PatternChar)) → (blank : Bool) → List FieldPiece →
      List (List PatternChar)
  | current, _, [] => (current.map List.reverse).toList
  | current, blank, piece :: rest =>
    match piece with
    | .char c quoted splits =>
      if splits ∧ separators.contains c then
        let isBlank := standardSeparators.contains c
        match current with
        | some field => field.reverse :: cutFields separators none isBlank rest
        | none =>
          if isBlank then cutFields separators none blank rest
          else if blank then cutFields separators none false rest
          else [] :: cutFields separators none false rest
      else cutFields separators (some (⟨c, quoted⟩ :: current.getD [])) false rest
    | .mark => cutFields separators (some (current.getD [])) false rest
    | .cut => (current.getD []).reverse :: cutFields separators (some []) false rest
    | .gap =>
      match current with
      | some field => field.reverse :: cutFields separators none true rest
      | none => cutFields separators none blank rest

/-! ## Files that match -/

/-- A pattern cut at its slashes. -/
def patternPieces : Pattern → List Pattern
  | [] => [[]]
  | item :: rest =>
    match item, patternPieces rest with
    | .char '/', pieces => [] :: pieces
    | item, piece :: pieces => (item :: piece) :: pieces
    | item, [] => [[item]]

/-- The text of a pattern that stands for one text only. -/
def Pattern.literal (p : Pattern) : ByteText :=
  p.filterMap fun
    | .char c => some c
    | _ => none

/-- The names in a directory. -/
def namesIn (t : FileTree) (place : Location) : List ByteText :=
  (t.below place).filterMap fun (way, _) =>
    match way with
    | [name] => some (byteText name)
    | _ => none

/-- Whether a name matches. A point at the front has to be spelled out. -/
def Pattern.fitsName (p : Pattern) (name : ByteText) : Bool :=
  p.fits name && (name.head? ≠ some '.' || p.head? = some (.char '.'))

/-- The paths that match the pieces of a pattern behind a path that has been found. -/
def matchingPaths (t : FileTree) (base : Location) : (found : ByteText) → List Pattern →
    List ByteText
  | found, [] => [found]
  | found, [last] =>
    if last.isProper then
      let here : Path := ⟨stringOf (if found.isEmpty then ['.'] else found)⟩
      match t.lookup base here, t.locate base here with
      | .ok .directory, .ok place =>
        let special : List ByteText := [['.'], ['.', '.']]
        ((namesIn t place ++ special).filter last.fitsName).map fun name => found ++ name
      | _, _ => []
    else
      let path := found ++ last.literal
      if t.isThere base ⟨stringOf path⟩ then [path] else []
  | found, first :: rest =>
    if first.isProper then
      let here : Path := ⟨stringOf (if found.isEmpty then ['.'] else found)⟩
      match t.lookup base here, t.locate base here with
      | .ok .directory, .ok place =>
        let names := (namesIn t place).filter first.fitsName
        names.flatMap fun name => matchingPaths t base (found ++ name ++ ['/']) rest
      | _, _ => []
    else matchingPaths t base (found ++ first.literal ++ ['/']) rest

/-- What a field stands for: the paths it matches in order, or its own text if there are none. -/
def expandField (t : FileTree) (base : Location) (usesFiles : Bool) (field : List PatternChar) :
    List ByteText :=
  let itself := field.map (·.char)
  let p := Pattern.ofChars field
  if usesFiles ∧ p.isProper then
    let found := matchingPaths t base [] (patternPieces p)
    if found.isEmpty then [itself] else found.mergeSort inOrder
  else [itself]

end KernelLink.Shell
