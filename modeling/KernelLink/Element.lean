import KernelLink.Number.Text
import KernelLink.Text.Blank

/-!
# Element types

The four element types a kernel can be composed for, their spellings and the literals written
against them.
-/

namespace KernelLink

inductive Element where
  | f32
  | f16
  | i32
  | u32
deriving DecidableEq, Repr, Inhabited

namespace Element

/-- The type's name in kernel text. -/
def spelling : Element → String
  | f32 => "float"
  | f16 => "half"
  | i32 => "int"
  | u32 => "uint"

/-- The type as diagnostics show it. -/
def display : Element → String
  | f32 => "F32"
  | f16 => "F16"
  | i32 => "I32"
  | u32 => "U32"

/-- Bytes per element. -/
def size : Element → Nat
  | f16 => 2
  | _ => 4

/-- A constant as kernel text. Whole-number types drop the fraction and clamp to 64 bits. -/
def literal (e : Element) (value : Double) : String :=
  match e with
  | f32 => value.literalText ++ "f"
  | f16 => value.literalText ++ "h"
  | i32 => toString (value.clampToInt (-0x8000000000000000) 0x7fffffffffffffff)
  | u32 => toString (value.clampToInt 0 0xffffffffffffffff) ++ "u"

/-- Reads a name in any letter case, blanks around it allowed. The error is the name that was not
known, as it was compared. -/
def read (text : String) : Except String Element :=
  let name := String.ofList (lowerAscii (trimBlanks text.toList))
  if name = "float" ∨ name = "f32" then .ok f32
  else if name = "half" ∨ name = "f16" then .ok f16
  else if name = "int" ∨ name = "i32" then .ok i32
  else if name = "uint" ∨ name = "u32" then .ok u32
  else .error name

/-- The message for a name that `read` does not know. -/
def unknownMessage (name : String) : String := "unknown element type '" ++ name ++ "'"

end Element

end KernelLink
