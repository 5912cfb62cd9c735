import KernelLink.Report.Basic
import KernelLink.Session

/-!
# Cases

A case goes through stages until one fails, and leaves a record of every stage it finished. Its
outcome is read off the way it ended: with a comparison, whose verdict becomes the last record, or
with a fault, which the stage where it arose has recorded already. What all stages have in common is
said once here, so no scenario can end without saying why.
-/

namespace KernelLink

/-- What a case changes while it runs. -/
structure CaseState where
  records : List StageRecord
  files : FileTree
  memory : DeviceMemory

/-- Steps of a case. What was recorded before a stop stays recorded. -/
abbrev CaseM := ExceptT RunStop (StateM CaseState)

/-- What a case compared. -/
inductive Checked where
  | elements (report : VerificationReport)
  | tile (report : TileReport)
deriving DecidableEq, Repr

namespace Checked

def passed : Checked → Bool
  | elements report => report.passed
  | tile report => report.passed

def summary : Checked → String
  | elements report => report.summary
  | tile report => report.summary

end Checked

/-- The case that is running: its name and the time its records bear. -/
structure CaseTag where
  name : String
  now : Nat
deriving DecidableEq, Repr

namespace CaseTag

def stageRecord (c : CaseTag) (stage : Stage) (outcome : Outcome) (detail : String) :
    StageRecord :=
  ⟨c.name, stage, outcome, detail, c.now⟩

/-- Adds a record. -/
def record (c : CaseTag) (stage : Stage) (outcome : Outcome) (detail : String) : CaseM Unit :=
  modify fun s => { s with records := s.records ++ [c.stageRecord stage outcome detail] }

/-- Records a fault and ends the case with it. -/
def stopWith {α : Type} (c : CaseTag) (stage : Stage) (fault : RunFault) : CaseM α := do
  c.record stage .error fault.describe
  throw (.fault fault)

/-- Records how a stage ended. -/
def stage {α : Type} (c : CaseTag) (stage : Stage) (result : Except RunFault α)
    (detail : α → String) : CaseM α :=
  match result with
  | .ok x => do
    c.record stage .pass (detail x)
    pure x
  | .error fault => c.stopWith stage fault

/-- Records a stage only if it failed. -/
def check {α : Type} (c : CaseTag) (stage : Stage) (result : Except RunFault α) : CaseM α :=
  match result with
  | .ok x => pure x
  | .error fault => c.stopWith stage fault

end CaseTag

namespace CaseM

/-- Runs steps that change files. -/
def files {α : Type} (m : RunM α) : CaseM (Except RunFault α) := fun s =>
  let (result, t) := m.run s.files
  (.ok result, { s with files := t })

/-- Takes the memory that a step leaves. -/
def allocated (c : CaseTag) (result : Except RunFault (DeviceMemory × BufferHandle)) :
    CaseM BufferHandle := do
  let (memory, handle) ← c.check .dispatch result
  modify fun s => { s with memory }
  pure handle

end CaseM

namespace CaseTag

/-- The outcome of a case that compared something, given the records before. -/
def finish (c : CaseTag) (records : List StageRecord) (checked : Checked) : CaseOutcome where
  name := c.name
  status := if checked.passed then .pass else .fail
  summary := checked.summary
  records := records ++
    [c.stageRecord .verify (if checked.passed then .pass else .fail) checked.summary]
  verification := match checked with
    | .elements report => some report
    | .tile _ => none
  tile := match checked with
    | .elements _ => none
    | .tile report => some report

/-- The outcome of a case that ended with a fault. -/
def failed (c : CaseTag) (records : List StageRecord) (fault : RunFault) : CaseOutcome where
  name := c.name
  status := .error
  summary := fault.describe
  records := records
  verification := none
  tile := none

/-- The outcome of a case, by how its steps ended. -/
def outcome (c : CaseTag) (result : Except RunStop Checked) (records : List StageRecord) :
    Except Crash CaseOutcome :=
  match result with
  | .ok checked => .ok (c.finish records checked)
  | .error (.fault fault) => .ok (c.failed records fault)
  | .error (.crash crash) => .error crash

end CaseTag

end KernelLink
