import KernelLink.Json.Basic
import KernelLink.Text.Bytes

/-!
# From JSON to records

How the parts of a record are found and turned into values. A record may be an object, whose
unknown fields are ignored and whose known fields come at most once, or an array of its fields in
order. A field that is missing may have a default; an optional one may be missing from an object
but not from an array.
-/

namespace KernelLink.Json

/-! ## Numbers by kind -/

/-- The greatest number of 64 bits. -/
def wordLimit : Nat := 0xffffffffffffffff

/-- A number written as a natural number, up to a limit. -/
def nat? (limit : Nat) : Json → Option Nat
  | .number ⟨false, whole, none, none⟩ =>
    let n := digitsValue whole
    if n ≤ limit then some n else none
  | _ => none

/-- Takes digits while the number stays within 64 bits; also counts the digits left over. -/
def takeDigits (value : Nat) : List Char → Nat × Nat
  | [] => (value, 0)
  | d :: ds =>
    let next := 10 * value + digitsValue [d]
    if next ≤ wordLimit then takeDigits next ds else (value, ds.length + 1)

/-- The greatest power of ten that a double can hold. -/
def topPower : Nat := 308

/-- `value * 10 ^ power` by rounded steps, each by at most the top power. `none` when the result is
too large. -/
def scaleByPower (value : Double) (power : Int) : Option Double :=
  if power ≥ 0 then
    if power ≤ topPower then
      let scaled := value * .ofNat (Nat.pow 10 power.toNat)
      if scaled.isFinite then some scaled else none
    else if value.exact.equals .zero then some value
    else none
  else if power ≥ -(topPower : Int) then some (value.quotient (.ofNat (Nat.pow 10 (-power).toNat)))
  else if value.exact.equals .zero then some value
  else scaleByPower (value.quotient (.ofNat (Nat.pow 10 topPower))) (power + topPower)
termination_by (-power).toNat
decreasing_by unfold topPower at *; omega

/-- The greatest exponent that is read as a number. -/
def exponentLimit : Nat := 0x7fffffff

/--
A number as a double. As many digits as fit 64 bits count; they are rounded and then scaled by a
rounded power of ten. A number too large for a double is refused, one too small is zero.
-/
def numeralDouble? (n : Numeral) : Option Double :=
  let sign (x : Double) : Double := if n.negative then .ofExact x.exact.neg else x
  let (value, skipped) := takeDigits 0 n.whole
  let (value, left) := takeDigits value (n.fraction.getD [])
  let power : Int := skipped - ((n.fraction.getD []).length - left : Nat)
  match n.exponent with
  | none => (scaleByPower (.ofNat value) power).map sign
  | some e =>
    if e.natAbs > exponentLimit then
      if value ≠ 0 ∧ e > 0 then none else some (sign (.ofNat 0))
    else (scaleByPower (.ofNat value) (power + e)).map sign

/-- Whether a number is written as a whole one and fits 64 bits, with a sign or without. -/
def isWord (n : Numeral) : Bool :=
  let value := digitsValue n.whole
  n.fraction.isNone && n.exponent.isNone &&
    (if n.negative then 0 < value && value ≤ 0x8000000000000000 else value ≤ wordLimit)

/-- A number as a single. Whole numbers of 64 bits are rounded once, all others twice. -/
def single? : Json → Option Single
  | .number n =>
    if isWord n then some (.ofExact (.finite n.negative (digitsValue n.whole) 0))
    else (numeralDouble? n).map (·.toSingle)
  | _ => none

/-! ## Values as they are held -/

/-- A number as it is held: a whole number of 64 bits as it is, any other as a double. -/
def heldNumeral (n : Numeral) : Numeral :=
  if isWord n then n else ((numeralDouble? n).bind (·.jsonNumeral?)).getD n

/-- The fields of an object in the order of their keys; of equal keys the last one counts. -/
def heldFields (fields : List (Option String × Json)) : List (Option String × Json) :=
  let add (kept : List (Option String × Json)) (f : Option String × Json) :
      List (Option String × Json) :=
    kept.filter (·.1 ≠ f.1) ++ [f]
  let isEarlier (a b : Option String × Json) : Bool :=
    inOrder (byteText (a.1.getD "")) (byteText (b.1.getD ""))
  (fields.foldl add []).mergeSort isEarlier

mutual

/-- A value as it is held where nobody asks for a certain kind of value. -/
def held : Json → Json
  | .number n => .number (heldNumeral n)
  | .array items => .array (heldItems items)
  | .object fields => .object (heldFields (heldValues fields))
  | v => v

def heldItems : List Json → List Json
  | [] => []
  | v :: vs => held v :: heldItems vs

def heldValues : List (Option String × Json) → List (Option String × Json)
  | [] => []
  | (key, v) :: fs => (key, held v) :: heldValues fs

end

/-! ## Other scalars -/

def text? : Json → Option String
  | .string s => s
  | _ => none

def bool? : Json → Option Bool
  | .bool b => some b
  | _ => none

def list? {α : Type} (item : Json → Option α) : Json → Option (List α)
  | .array items => items.mapM item
  | _ => none

/-- A value, or null for none. -/
def nullable? {α : Type} (item : Json → Option α) : Json → Option (Option α)
  | .null => some none
  | v => (item v).map some

/-- One of several names, alone or as the only key of an object whose value is null. -/
def choice? {α : Type} (names : List (String × α)) : Json → Option α
  | .string (some s) => (names.find? (·.1 = s)).map (·.2)
  | .object [(some s, .null)] => (names.find? (·.1 = s)).map (·.2)
  | _ => none

/-! ## Records -/

/-- What a record holds for one of its fields. -/
inductive Slot where
  | given (value : Json)
  /-- The object does not name the field. -/
  | unnamed
  /-- The array ends before the field. -/
  | cutOff
deriving Repr

/-- The slots of a record, by field name. -/
abbrev Record := List (String × Slot)

/-- Whether a known field is named twice. -/
def hasRepeated (names : List String) (fields : List (String × Json)) : Bool :=
  names.any fun name => 1 < (fields.filter (·.1 = name)).length

/-- The slots of the named fields. `none` when the value is no record of these fields. -/
def record? (names : List String) : Json → Option Record
  | .object fields => do
    let fields ← fields.mapM fun (key, value) => key.map (·, value)
    if hasRepeated names fields then none
    else some (names.map fun name =>
      (name, match fields.find? (·.1 = name) with
        | some (_, value) => .given value
        | none => .unnamed))
  | .array items =>
    if items.length > names.length then none
    else some (names.zip (items.map Slot.given ++
      List.replicate (names.length - items.length) .cutOff))
  | _ => none

namespace Record

def slot (r : Record) (name : String) : Slot :=
  ((List.find? (·.1 = name) r).map (·.2)).getD .unnamed

/-- A field that has to be there. -/
def required {α : Type} (r : Record) (name : String) (read : Json → Option α) : Option α :=
  match r.slot name with
  | .given value => read value
  | _ => none

/-- A field that may be null, and may be missing from an object. -/
def optional {α : Type} (r : Record) (name : String) (read : Json → Option α) :
    Option (Option α) :=
  match r.slot name with
  | .given value => nullable? read value
  | .unnamed => some none
  | .cutOff => none

/-- A field with a default. -/
def defaulted {α : Type} (r : Record) (name : String) (fallback : α) (read : Json → Option α) :
    Option α :=
  match r.slot name with
  | .given value => read value
  | _ => some fallback

end Record

end KernelLink.Json
