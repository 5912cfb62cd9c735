import KernelLink.Number.Text
import KernelLink.Text.Blank

/-!
# Shading language versions

A version is `MAJOR.MINOR`, optionally behind `metal` or `macos-metal`. Reading accepts exactly
that grammar, with blanks around it and a `+` before either part.
-/

namespace KernelLink

/-- Why a version part is no number up to 255. -/
inductive PartFault where
  | empty
  | notADigit
  | tooLarge
deriving DecidableEq, Repr

def PartFault.message : PartFault → String
  | empty => "cannot parse integer from empty string"
  | notADigit => "invalid digit found in string"
  | tooLarge => "number too large to fit in target type"

/-- Reads digits into a number up to `limit`; the first character that cannot be taken decides the
fault. -/
def readDigitsUpTo (limit : Nat) (value : Nat) : List Char → Except PartFault Nat
  | [] => .ok value
  | c :: s =>
    if c.isDigit then
      let value := 10 * value + digitsValue [c]
      if value > limit then .error .tooLarge else readDigitsUpTo limit value s
    else .error .notADigit

/-- Reads an unsigned number up to `limit`, with an optional `+`. -/
def readUpTo (limit : Nat) (s : List Char) : Except PartFault Nat :=
  match s with
  | [] => .error .empty
  | ['+'] => .error .notADigit
  | '+' :: s => readDigitsUpTo limit 0 s
  | s => readDigitsUpTo limit 0 s

/-- A shading language revision. -/
structure LanguageVersion where
  major : UInt8
  minor : UInt8
deriving DecidableEq, Repr

/-- Why a text is not a version. The text is kept as it was given. -/
inductive VersionFault where
  | noPoint (text : String)
  | major (text : String) (fault : PartFault)
  | minor (text : String) (fault : PartFault)
deriving DecidableEq, Repr

def VersionFault.message : VersionFault → String
  | noPoint text => "language version '" ++ text ++ "' must look like MAJOR.MINOR"
  | major text fault => "invalid major version in '" ++ text ++ "': " ++ fault.message
  | minor text fault => "invalid minor version in '" ++ text ++ "': " ++ fault.message

namespace LanguageVersion

def display (v : LanguageVersion) : String :=
  toString v.major.toNat ++ "." ++ toString v.minor.toNat

/-- The value of the offline compiler's language option. -/
def stdFlag (v : LanguageVersion) : String := "macos-metal" ++ v.display

/-- Major number first. -/
def compare (a b : LanguageVersion) : Ordering :=
  (Ord.compare a.major.toNat b.major.toNat).then (Ord.compare a.minor.toNat b.minor.toNat)

def le (a b : LanguageVersion) : Bool := (a.compare b).isLE

/-- The words that may stand directly before the numbers, the longer first. -/
def families : List String := ["macos-metal", "metal"]

/-- The text behind the first family name that it starts with. -/
def dropFamily (s : List Char) : List Char :=
  match families.find? (fun family => family.toList.isPrefixOf s) with
  | some family => s.drop family.length
  | none => s

def read (text : String) : Except VersionFault LanguageVersion :=
  let digits := dropFamily (trimBlanks text.toList)
  match digits.span (· ≠ '.') with
  | (_, []) => .error (.noPoint text)
  | (major, _ :: minor) => do
    let major ← (readUpTo 255 major).mapError (.major text)
    let minor ← (readUpTo 255 minor).mapError (.minor text)
    .ok ⟨major.toUInt8, minor.toUInt8⟩

end LanguageVersion

end KernelLink
