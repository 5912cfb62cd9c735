/-!
# Exact numbers behind bit patterns

A floating-point word stands for a number, and every operation on words in this library is the
exact operation on those numbers followed by one rounding. This file is the exact half: signed
dyadic numbers `± mantissa * 2 ^ exponent`, the two infinities and "not a number", with the
operations that are closed on them. Nothing here rounds.
-/

namespace KernelLink

/-- What a floating-point word stands for. Zero keeps its sign. -/
inductive Exact where
  | nan
  | infinite (negative : Bool)
  | finite (negative : Bool) (mantissa : Nat) (exponent : Int)
deriving DecidableEq, Repr, Inhabited

namespace Exact

def zero : Exact := finite false 0 0

def ofNat (n : Nat) : Exact := finite false n 0

def isNan : Exact → Bool
  | nan => true
  | _ => false

def isFinite : Exact → Bool
  | finite .. => true
  | _ => false

def neg : Exact → Exact
  | nan => nan
  | infinite s => infinite !s
  | finite s m e => finite (!s) m e

def abs : Exact → Exact
  | nan => nan
  | infinite _ => infinite false
  | finite _ m e => finite false m e

/-- The signed mantissa once the exponent has been lowered to `e' ≤ exponent`. -/
def scaled (negative : Bool) (mantissa : Nat) (exponent e' : Int) : Int :=
  let m : Int := mantissa * Nat.pow 2 (exponent - e').toNat
  if negative then -m else m

/-- A sum that comes out as zero is positive, unless both terms are negative. -/
def add : Exact → Exact → Exact
  | nan, _ => nan
  | _, nan => nan
  | infinite s, infinite t => if s = t then infinite s else nan
  | infinite s, finite .. => infinite s
  | finite .., infinite t => infinite t
  | finite s m e, finite t n f =>
    let low := min e f
    let sum := scaled s m e low + scaled t n f low
    if sum = 0 then finite (s && t) 0 low else finite (decide (sum < 0)) sum.natAbs low

def sub (a b : Exact) : Exact := a.add b.neg

/-- Zero times infinity is not a number. -/
def mul : Exact → Exact → Exact
  | nan, _ => nan
  | _, nan => nan
  | infinite s, infinite t => infinite (s != t)
  | infinite s, finite t n _ => if n = 0 then nan else infinite (s != t)
  | finite s m _, infinite t => if m = 0 then nan else infinite (s != t)
  | finite s m e, finite t n f => finite (s != t) (m * n) (e + f)

/-- The order of two numbers; the signs of zeros do not count. `none` when either is not a
number. -/
def compare? : Exact → Exact → Option Ordering
  | nan, _ => none
  | _, nan => none
  | infinite s, infinite t => some (if s = t then .eq else if s then .lt else .gt)
  | infinite s, finite .. => some (if s then .lt else .gt)
  | finite .., infinite t => some (if t then .gt else .lt)
  | finite s m e, finite t n f =>
    let low := min e f
    some (compare (scaled s m e low) (scaled t n f low))

def le (a b : Exact) : Bool :=
  match a.compare? b with
  | some .lt | some .eq => true
  | _ => false

def lt (a b : Exact) : Bool := a.compare? b == some .lt

/-- Equality of numbers: `-0` equals `0`, and what is not a number equals nothing. -/
def equals (a b : Exact) : Bool := a.compare? b == some .eq

/-- The whole part toward zero; `none` for infinities and what is not a number. -/
def truncate? : Exact → Option Int
  | finite s m e =>
    let whole : Int := (m * Nat.pow 2 e.toNat / Nat.pow 2 (-e).toNat : Nat)
    some (if s then -whole else whole)
  | _ => none

end Exact

end KernelLink
