import KernelLink.Number.Format

/-!
# Single and double precision words

A `Single` is its 32 bits, so copying one never disturbs a NaN payload or the sign of a zero;
arithmetic decodes, computes exactly and rounds once. `Double` carries only what reading constants
and writing literals need.
-/

namespace KernelLink

/-- A binary32 word. Equality of the structure is equality of bits; `equals` is numeric. -/
structure Single where
  bits : UInt32
deriving DecidableEq, Repr, Inhabited

/-- A binary64 word. -/
structure Double where
  bits : UInt64
deriving DecidableEq, Repr, Inhabited

namespace Single

def exact (x : Single) : Exact := Format.binary32.decode x.bits.toNat

/-- The word nearest to a number. -/
def ofExact (v : Exact) : Single := ⟨(Format.binary32.round v).toUInt32⟩

def ofNat (n : Nat) : Single := ofExact (.ofNat n)

def zero : Single := ⟨0⟩

/-- `m * 2 ^ e` for the small constants of the catalog. -/
def dyadic (mantissa : Nat) (exponent : Int) : Single := ofExact (.finite false mantissa exponent)

instance : Add Single := ⟨fun a b => ofExact (a.exact.add b.exact)⟩

instance : Sub Single := ⟨fun a b => ofExact (a.exact.sub b.exact)⟩

instance : Mul Single := ⟨fun a b => ofExact (a.exact.mul b.exact)⟩

/-- `a * b + c` with one rounding. -/
def fusedMulAdd (a b c : Single) : Single := ofExact ((a.exact.mul b.exact).add c.exact)

def sqrt (x : Single) : Single := ofExact (Format.binary32.root x.exact)

def abs (x : Single) : Single := ⟨x.bits &&& 0x7fffffff⟩

def isFinite (x : Single) : Bool := x.exact.isFinite

def isNan (x : Single) : Bool := x.exact.isNan

def isZero (x : Single) : Bool := x.exact.equals .zero

def le (a b : Single) : Bool := a.exact.le b.exact

def lt (a b : Single) : Bool := a.exact.lt b.exact

/-- Numeric equality: zeros are equal whatever their signs, a NaN equals nothing. -/
def equals (a b : Single) : Bool := a.exact.equals b.exact

/-- The larger of two words; a NaN gives way to the other word. -/
def max (a b : Single) : Single :=
  if a.isNan then b else if a.lt b then b else a

end Single

namespace Double

def exact (x : Double) : Exact := Format.binary64.decode x.bits.toNat

def ofExact (v : Exact) : Double := ⟨(Format.binary64.round v).toUInt64⟩

def ofNat (n : Nat) : Double := ofExact (.ofNat n)

instance : Mul Double := ⟨fun a b => ofExact (a.exact.mul b.exact)⟩

/-- The quotient of two positive finite words, rounded. -/
def quotient (a b : Double) : Double :=
  match a.exact, b.exact with
  | .finite s m e, .finite t n f =>
    if m = 0 ∨ n = 0 then ofExact (.finite (s != t) 0 0)
    else ofExact <| Format.binary64.quotient (s != t)
      (m * Nat.pow 2 (e - f).toNat) (n * Nat.pow 2 (f - e).toNat)
  | a, _ => ofExact a

def isFinite (x : Double) : Bool := x.exact.isFinite

/-- The nearest single precision word. -/
def toSingle (x : Double) : Single := .ofExact x.exact

/-- The whole part, clamped to `low..high`; a NaN counts as zero. -/
def clampToInt (x : Double) (low high : Int) : Int :=
  match x.exact with
  | .nan => 0
  | .infinite s => if s then low else high
  | v => Max.max low (Min.min high (v.truncate?.getD 0))

end Double

end KernelLink
