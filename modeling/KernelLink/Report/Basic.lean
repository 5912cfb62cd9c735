import KernelLink.Verify.Tile

/-!
# Run reports

What a run leaves behind: who ran, which sources were generated, and for every case the stages it
went through and how its result compared. Times are milliseconds since 1970.
-/

namespace KernelLink

/-- A step of a case. -/
inductive Stage where
  | compose
  | compileDynamic
  | compileToolchain
  | loadPrebuilt
  | link
  | dispatch
  | verify
deriving DecidableEq, Repr

namespace Stage

def all : List Stage :=
  [compose, compileDynamic, compileToolchain, loadPrebuilt, link, dispatch, verify]

/-- The stage as reports show it. -/
def display : Stage → String
  | compose => "compose"
  | compileDynamic => "compile (in-process)"
  | compileToolchain => "compile (toolchain)"
  | loadPrebuilt => "load (prebuilt)"
  | link => "link"
  | dispatch => "dispatch"
  | verify => "verify"

end Stage

/-- How a stage ended. -/
inductive Outcome where
  | pass
  | fail
  | error
  /-- A failure that is legitimate on some platform releases. -/
  | tolerated
deriving DecidableEq, Repr

namespace Outcome

def all : List Outcome := [pass, fail, error, tolerated]

def display : Outcome → String
  | pass => "PASS"
  | fail => "FAIL"
  | error => "ERROR"
  | tolerated => "FAIL (tolerated)"

end Outcome

structure StageRecord where
  case : String
  stage : Stage
  outcome : Outcome
  detail : String
  atUnixMs : Nat
deriving DecidableEq, Repr

/-- How a case ended. -/
inductive CaseStatus where
  | pass
  | fail
  | error
deriving DecidableEq, Repr

namespace CaseStatus

def all : List CaseStatus := [pass, fail, error]

def display : CaseStatus → String
  | pass => "PASS"
  | fail => "FAIL"
  | error => "ERROR"

end CaseStatus

/-- The result of one independent case. -/
structure CaseOutcome where
  name : String
  status : CaseStatus
  summary : String
  records : List StageRecord
  verification : Option VerificationReport
  tile : Option TileReport
deriving DecidableEq, Repr

namespace CaseOutcome

def passed (c : CaseOutcome) : Bool := c.status = .pass

/-- The samples of the case's report, whichever kind it has. -/
def samples (c : CaseOutcome) : List Sample :=
  match c.verification, c.tile with
  | some v, _ => v.samples
  | none, some t => t.samples
  | none, none => []

end CaseOutcome

structure ReportHeader where
  title : String
  device : String
  backend : String
  toolchain : Option String
  generatedAtUnixMs : Nat
deriving DecidableEq, Repr

structure GeneratedSource where
  label : String
  text : String
deriving DecidableEq, Repr

structure RunReport where
  header : ReportHeader
  sources : List GeneratedSource
  cases : List CaseOutcome
deriving DecidableEq, Repr

namespace RunReport

def records (r : RunReport) : List StageRecord := r.cases.flatMap (·.records)

/-- The first case of a name. -/
def case? (r : RunReport) (name : String) : Option CaseOutcome := r.cases.find? (·.name = name)

/-- A run of no cases has not passed. -/
def allPassed (r : RunReport) : Bool := !r.cases.isEmpty && r.cases.all (·.passed)

end RunReport

/-! ## Equality of reports

Numbers are compared as numbers, so a report that holds a NaN is not even equal to itself. -/

def Sample.equals (a b : Sample) : Bool :=
  a.index = b.index && a.input = b.input && a.expected.equals b.expected &&
    (match a.actual, b.actual with
      | some x, some y => x.equals y
      | none, none => true
      | _, _ => false) &&
    a.matched = b.matched

/-- Equality of lists, element by element. -/
def listsEqual {α : Type} (equal : α → α → Bool) : List α → List α → Bool
  | [], [] => true
  | a :: as, b :: bs => equal a b && listsEqual equal as bs
  | _, _ => false

def optionsEqual {α : Type} (equal : α → α → Bool) : Option α → Option α → Bool
  | none, none => true
  | some a, some b => equal a b
  | _, _ => false

def VerificationReport.equals (a b : VerificationReport) : Bool :=
  a.checked = b.checked && a.matched = b.matched && a.mismatched = b.mismatched &&
    a.tolerance.equals b.tolerance && a.maxAbsError.equals b.maxAbsError &&
    a.allZero = b.allZero && listsEqual Sample.equals a.samples b.samples

def TileReport.equals (a b : TileReport) : Bool :=
  a.rows = b.rows && a.cols = b.cols && a.written = b.written &&
    a.expectedWritten = b.expectedWritten && a.preserved = b.preserved &&
    a.expectedPreserved = b.expectedPreserved && a.allZero = b.allZero &&
    listsEqual Sample.equals a.samples b.samples

def CaseOutcome.equals (a b : CaseOutcome) : Bool :=
  a.name = b.name && a.status = b.status && a.summary = b.summary && a.records = b.records &&
    optionsEqual VerificationReport.equals a.verification b.verification &&
    optionsEqual TileReport.equals a.tile b.tile

def RunReport.equals (a b : RunReport) : Bool :=
  a.header = b.header && a.sources = b.sources && listsEqual CaseOutcome.equals a.cases b.cases

end KernelLink
