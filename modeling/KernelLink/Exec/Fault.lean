/-!
# What can go wrong while a kernel runs

A `Fault` is an access or call that the device refuses; it ends the command with a status code. A
`Stop` is either a fault or the one thing no device reports: a tile without the elements that it is
taken to have. The staging arithmetic divides by the length of a tile, and a copy cuts its rows out
of one.
-/

namespace KernelLink

/-- The three shapes of a visible function. -/
inductive Convention where
  | unary
  | tile
  | pairTile
deriving DecidableEq, Repr

def Convention.name : Convention → String
  | unary => "unary"
  | tile => "tile"
  | pairTile => "pair-tile"

/-- An access or call that the device refuses. Ranges are half open. -/
inductive Fault where
  | missingBinding (index : Nat)
  | outOfBounds (index start stop length : Nat)
  | threadgroupOutOfBounds (start stop length : Nat)
  | unresolvedCallable (name : String)
  | callingConvention (name : String) (expected : Convention)
deriving DecidableEq, Repr

namespace Fault

/-- The status code of a command that ends with this fault. -/
def code : Fault → Nat
  | missingBinding .. => 1
  | outOfBounds .. => 2
  | threadgroupOutOfBounds .. => 3
  | unresolvedCallable .. => 4
  | callingConvention .. => 5

def rangeText (start stop : Nat) : String := "[" ++ toString start ++ ".." ++ toString stop ++ ")"

def message : Fault → String
  | missingBinding index => "no buffer bound at index " ++ toString index
  | outOfBounds index start stop length =>
    "access to buffer " ++ toString index ++ " at " ++ rangeText start stop ++
      " exceeds length " ++ toString length
  | threadgroupOutOfBounds start stop length =>
    "threadgroup access at " ++ rangeText start stop ++ " exceeds " ++ toString length ++
      " elements"
  | unresolvedCallable name => "call to unresolved function '" ++ name ++ "'"
  | callingConvention name expected =>
    "function '" ++ name ++ "' does not follow the " ++ expected.name ++ " calling convention"

end Fault

/-- How a run ends early. -/
inductive Stop where
  | fault (f : Fault)
  /-- There is no result at all: nothing to divide by, or nothing to cut a row out of. -/
  | emptyTile
deriving DecidableEq, Repr

end KernelLink
