import KernelLink.Exec.Fault
import KernelLink.Number.Single

/-!
# Visible functions

The functions that kernels call, as data. Each constructor of `Callable` follows one calling
convention; what the function computes on one element is its `reference`, which is also what a run
is verified against.
-/

namespace KernelLink

/-- `x * scale + bias` -/
structure Transform where
  scale : Single
  bias : Single
deriving DecidableEq, Repr

namespace Transform

/-- `x * 3 + 7` -/
def standard : Transform := ⟨.ofNat 3, .ofNat 7⟩

/-- `x * 2 + 1` -/
def alternate : Transform := ⟨.ofNat 2, .ofNat 1⟩

def reference (t : Transform) (x : Single) : Single := x * t.scale + t.bias

end Transform

/-- Each of the first `lanes` lanes scales its own threadgroup element. -/
structure TileScaling where
  scale : Single
  lanes : Nat
deriving DecidableEq, Repr

namespace TileScaling

def standard : TileScaling := ⟨.ofNat 10, 32⟩

def reference (p : TileScaling) (x : Single) : Single := x * p.scale

/-- What one lane does to the threadgroup memory. -/
def apply (p : TileScaling) (threadgroup : Array Single) (lane : Nat) : Array Single :=
  if lane < p.lanes then threadgroup.modify lane (· * p.scale) else threadgroup

end TileScaling

/-- The interchangeable functions of two staged inputs. -/
inductive Variant where
  | mulAdd
  | fma
  | sqrtAxpy
deriving DecidableEq, Repr

namespace Variant

def all : List Variant := [mulAdd, fma, sqrtAxpy]

def label : Variant → String
  | mulAdd => "A*B+42"
  | fma => "fma(A,B,100)"
  | sqrtAxpy => "sqrt(A)+B*2"

/-- The function on one pair; the fused form rounds once. -/
def reference (v : Variant) (a b : Single) : Single :=
  match v with
  | mulAdd => a * b + .ofNat 42
  | fma => a.fusedMulAdd b (.ofNat 100)
  | sqrtAxpy => a.sqrt + b * .ofNat 2

/-- Kernel text of the function. -/
def expression : Variant → String
  | mulAdd => "A[lane] * B[lane] + 42.0f"
  | fma => "fma(A[lane], B[lane], 100.0f)"
  | sqrtAxpy => "sqrt(A[lane]) + B[lane] * 2.0f"

/-- What one thread writes to `c`; nothing when its lane is outside either staged tile. -/
def apply (v : Variant) (a b c : Array Single) (thread lane : Nat) : Array Single :=
  match a[lane]?, b[lane]? with
  | some x, some y => c.modify thread fun _ => v.reference x y
  | _, _ => c

end Variant

/-- A visible function, by calling convention. -/
inductive Callable where
  | unary (f : Transform)
  | tile (f : TileScaling)
  | pairTile (f : Variant)
deriving DecidableEq, Repr

def Callable.convention : Callable → Convention
  | unary _ => .unary
  | tile _ => .tile
  | pairTile _ => .pairTile

/-- Visible functions under the names that calls use. -/
abbrev Linked := List (String × Callable)

def Linked.find? (linked : Linked) (name : String) : Option Callable :=
  (List.find? (·.1 = name) linked).map (·.2)

end KernelLink
