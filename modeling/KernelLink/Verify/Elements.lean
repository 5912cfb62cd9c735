import KernelLink.Exec.Words
import KernelLink.Number.Text

/-!
# Element verification

An output is compared with a reference element by element. Every input gives one check; a report
counts the checks, keeps the greatest finite error and shows samples: the first few, the last, and
the first few mismatches. A missing element and a NaN never match.
-/

namespace KernelLink

/-- How many samples a report keeps. -/
structure SampleLimits where
  /-- Leading elements, always sampled. -/
  head : Nat
  /-- At most this many mismatches are sampled for being one. -/
  mismatches : Nat
deriving DecidableEq, Repr

def SampleLimits.standard : SampleLimits := ⟨4, 16⟩

/-- One compared element. -/
structure Sample where
  index : Nat
  input : String
  expected : Single
  actual : Option Single
  matched : Bool
deriving DecidableEq, Repr

/-- What is compared against, and how closely. -/
structure Verifier where
  tolerance : Single
  limits : SampleLimits
deriving DecidableEq, Repr

namespace Verifier

def withTolerance (tolerance : Single) : Verifier := ⟨tolerance, .standard⟩

/-- A tolerance of one thousandth. -/
def standard : Verifier := withTolerance ⟨0x3a83126f⟩

/-- Whether an element is there and close enough. -/
def accepts (v : Verifier) (actual : Option Single) (expected : Single) : Bool :=
  actual.any fun x => (x - expected).abs.le v.tolerance

/-- Compares one element. -/
def check (v : Verifier) (index : Nat) (input : String) (expected : Single)
    (actual : Option Single) : Sample :=
  ⟨index, input, expected, actual, v.accepts actual expected⟩

end Verifier

/--
The checks that a report shows: those that `always` picks, and mismatches until `room` of them have
been seen.
-/
def keepSamples (always : Nat → Bool) (room : Nat) : List Sample → List Sample
  | [] => []
  | s :: rest =>
    let counts := !s.matched && 0 < room
    let kept := keepSamples always (if counts then room - 1 else room) rest
    if always s.index || counts then s :: kept else kept

/-- The greatest finite absolute error; errors that are not finite are passed over. -/
def greatestError (checks : List Sample) : Single :=
  checks.foldl (fun greatest s =>
    match s.actual with
    | some x =>
      let error := (x - s.expected).abs
      if error.isFinite then greatest.max error else greatest
    | none => greatest) .zero

inductive Verdict where
  | pass
  | mismatch
  /-- Every element is zero: most likely the staging copy never ran. -/
  | allZero
deriving DecidableEq, Repr

structure VerificationReport where
  checked : Nat
  matched : Nat
  mismatched : Nat
  tolerance : Single
  maxAbsError : Single
  allZero : Bool
  samples : List Sample
deriving DecidableEq, Repr

namespace VerificationReport

def passed (r : VerificationReport) : Bool := r.mismatched = 0

def verdict (r : VerificationReport) : Verdict :=
  if r.passed then .pass else if r.allZero then .allZero else .mismatch

def summary (r : VerificationReport) : String :=
  let line := toString r.matched ++ "/" ++ toString r.checked ++ " correct"
  match r.verdict with
  | .pass => line
  | .allZero => line ++ " (ALL ZERO: async copy was a no-op)"
  | .mismatch => line ++ ", max abs error " ++ r.maxAbsError.scientificText

end VerificationReport

namespace Verifier

variable {ι : Type}

/-- One check per input. -/
def checks (v : Verifier) (output : Array Single) (inputs : List ι) (text : ι → String)
    (reference : ι → Single) : List Sample :=
  inputs.zipIdx.map fun (x, i) => v.check i (text x) (reference x) output[i]?

/-- Compares an output with the reference of every input. -/
def verify (v : Verifier) (output : Array Single) (inputs : List ι) (text : ι → String)
    (reference : ι → Single) : VerificationReport :=
  let checks := v.checks output inputs text reference
  let matched := checks.countP (·.matched)
  { checked := inputs.length
    matched
    mismatched := inputs.length - matched
    tolerance := v.tolerance
    maxAbsError := greatestError checks
    allZero := !output.isEmpty && KernelLink.allZero output.toList
    samples := keepSamples (fun i => i < v.limits.head || i = inputs.length - 1)
      v.limits.mismatches checks }

end Verifier

/-- The input text of a pair. -/
def pairText (p : Single × Single) : String :=
  "(" ++ p.1.literalText ++ ", " ++ p.2.literalText ++ ")"

end KernelLink
