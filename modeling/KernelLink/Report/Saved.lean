import KernelLink.Json.Basic
import KernelLink.Json.Decode
import KernelLink.Json.Reader
import KernelLink.Report.Basic

/-!
# Saved reports

Reports as JSON. Absent parts are left out, except that a sample without an actual value says null;
numbers that JSON cannot hold also become null, so a report that has them in a place where a number
is required does not load again.
-/

namespace KernelLink

open Json (ofFields ofNat ofString ofSingle ofOption)

/-! ## Names -/

def Stage.savedName : Stage → String
  | compose => "Compose"
  | compileDynamic => "CompileDynamic"
  | compileToolchain => "CompileToolchain"
  | loadPrebuilt => "LoadPrebuilt"
  | link => "Link"
  | dispatch => "Dispatch"
  | verify => "Verify"

def Outcome.savedName : Outcome → String
  | pass => "Pass"
  | fail => "Fail"
  | error => "Error"
  | tolerated => "Tolerated"

def CaseStatus.savedName : CaseStatus → String
  | pass => "Pass"
  | fail => "Fail"
  | error => "Error"

/-- Values by their names. -/
def named {α : Type} (all : List α) (name : α → String) : List (String × α) :=
  all.map fun x => (name x, x)

/-! ## Writing -/

/-- A field that is left out when there is nothing to say. -/
def presentField {α : Type} (key : String) (encode : α → Json) (x : Option α) :
    List (String × Json) :=
  (x.map fun x => (key, encode x)).toList

def Sample.toJson (s : Sample) : Json :=
  ofFields
    [("index", ofNat s.index), ("input", ofString s.input), ("expected", ofSingle s.expected),
     ("actual", ofOption ofSingle s.actual), ("matched", .bool s.matched)]

def VerificationReport.toJson (r : VerificationReport) : Json :=
  ofFields
    [("checked", ofNat r.checked), ("matched", ofNat r.matched),
     ("mismatched", ofNat r.mismatched), ("tolerance", ofSingle r.tolerance),
     ("max_abs_error", ofSingle r.maxAbsError), ("all_zero", .bool r.allZero),
     ("samples", .array (r.samples.map (·.toJson)))]

def TileReport.toJson (r : TileReport) : Json :=
  ofFields
    [("rows", ofNat r.rows), ("cols", ofNat r.cols), ("written", ofNat r.written),
     ("expected_written", ofNat r.expectedWritten), ("preserved", ofNat r.preserved),
     ("expected_preserved", ofNat r.expectedPreserved), ("all_zero", .bool r.allZero),
     ("samples", .array (r.samples.map (·.toJson)))]

def StageRecord.toJson (r : StageRecord) : Json :=
  ofFields
    [("case", ofString r.case), ("stage", ofString r.stage.savedName),
     ("outcome", ofString r.outcome.savedName), ("detail", ofString r.detail),
     ("at_unix_ms", ofNat r.atUnixMs)]

def CaseOutcome.toJson (c : CaseOutcome) : Json :=
  ofFields <|
    [("name", ofString c.name), ("status", ofString c.status.savedName),
     ("summary", ofString c.summary), ("records", .array (c.records.map (·.toJson)))] ++
    presentField "verification" VerificationReport.toJson c.verification ++
    presentField "tile" TileReport.toJson c.tile

def ReportHeader.toJson (h : ReportHeader) : Json :=
  ofFields <|
    [("title", ofString h.title), ("device", ofString h.device),
     ("backend", ofString h.backend)] ++
    presentField "toolchain" ofString h.toolchain ++
    [("generated_at_unix_ms", ofNat h.generatedAtUnixMs)]

def GeneratedSource.toJson (s : GeneratedSource) : Json :=
  ofFields [("label", ofString s.label), ("text", ofString s.text)]

def RunReport.toJson (r : RunReport) : Json :=
  ofFields
    [("header", r.header.toJson), ("sources", .array (r.sources.map (·.toJson))),
     ("cases", .array (r.cases.map (·.toJson)))]

/-- The text of the saved file. -/
def RunReport.save (r : RunReport) : String := r.toJson.save

/-! ## Loading -/

/-- Counts have 64 bits. -/
def Json.count? : Json → Option Nat := Json.nat? Json.wordLimit

/-- Times have 128 bits. -/
def Json.time? : Json → Option Nat := Json.nat? 0xffffffffffffffffffffffffffffffff

def Sample.ofJson? (j : Json) : Option Sample := do
  let r ← j.record? ["index", "input", "expected", "actual", "matched"]
  let index ← r.required "index" Json.count?
  let input ← r.required "input" Json.text?
  let expected ← r.required "expected" Json.single?
  let actual ← r.optional "actual" Json.single?
  let matched ← r.required "matched" Json.bool?
  some ⟨index, input, expected, actual, matched⟩

def VerificationReport.ofJson? (j : Json) : Option VerificationReport := do
  let r ← j.record?
    ["checked", "matched", "mismatched", "tolerance", "max_abs_error", "all_zero", "samples"]
  let checked ← r.required "checked" Json.count?
  let matched ← r.required "matched" Json.count?
  let mismatched ← r.required "mismatched" Json.count?
  let tolerance ← r.required "tolerance" Json.single?
  let maxAbsError ← r.required "max_abs_error" Json.single?
  let allZero ← r.required "all_zero" Json.bool?
  let samples ← r.required "samples" (Json.list? Sample.ofJson?)
  some ⟨checked, matched, mismatched, tolerance, maxAbsError, allZero, samples⟩

def TileReport.ofJson? (j : Json) : Option TileReport := do
  let r ← j.record?
    ["rows", "cols", "written", "expected_written", "preserved", "expected_preserved", "all_zero",
     "samples"]
  let rows ← r.required "rows" Json.count?
  let cols ← r.required "cols" Json.count?
  let written ← r.required "written" Json.count?
  let expectedWritten ← r.required "expected_written" Json.count?
  let preserved ← r.required "preserved" Json.count?
  let expectedPreserved ← r.required "expected_preserved" Json.count?
  let allZero ← r.required "all_zero" Json.bool?
  let samples ← r.required "samples" (Json.list? Sample.ofJson?)
  some ⟨rows, cols, written, expectedWritten, preserved, expectedPreserved, allZero, samples⟩

def StageRecord.ofJson? (j : Json) : Option StageRecord := do
  let r ← j.record? ["case", "stage", "outcome", "detail", "at_unix_ms"]
  let case ← r.required "case" Json.text?
  let stage ← r.required "stage" (Json.choice? (named Stage.all Stage.savedName))
  let outcome ← r.required "outcome" (Json.choice? (named Outcome.all Outcome.savedName))
  let detail ← r.required "detail" Json.text?
  let atUnixMs ← r.required "at_unix_ms" Json.time?
  some ⟨case, stage, outcome, detail, atUnixMs⟩

def CaseOutcome.ofJson? (j : Json) : Option CaseOutcome := do
  let r ← j.record? ["name", "status", "summary", "records", "verification", "tile"]
  let name ← r.required "name" Json.text?
  let status ← r.required "status" (Json.choice? (named CaseStatus.all CaseStatus.savedName))
  let summary ← r.required "summary" Json.text?
  let records ← r.required "records" (Json.list? StageRecord.ofJson?)
  let verification ← r.optional "verification" VerificationReport.ofJson?
  let tile ← r.optional "tile" TileReport.ofJson?
  some ⟨name, status, summary, records, verification, tile⟩

def ReportHeader.ofJson? (j : Json) : Option ReportHeader := do
  let r ← j.record? ["title", "device", "backend", "toolchain", "generated_at_unix_ms"]
  let title ← r.required "title" Json.text?
  let device ← r.required "device" Json.text?
  let backend ← r.required "backend" Json.text?
  let toolchain ← r.optional "toolchain" Json.text?
  let generatedAtUnixMs ← r.required "generated_at_unix_ms" Json.time?
  some ⟨title, device, backend, toolchain, generatedAtUnixMs⟩

def GeneratedSource.ofJson? (j : Json) : Option GeneratedSource := do
  let r ← j.record? ["label", "text"]
  let label ← r.required "label" Json.text?
  let text ← r.required "text" Json.text?
  some ⟨label, text⟩

def RunReport.ofJson? (j : Json) : Option RunReport := do
  let r ← j.record? ["header", "sources", "cases"]
  let header ← r.required "header" ReportHeader.ofJson?
  let sources ← r.required "sources" (Json.list? GeneratedSource.ofJson?)
  let cases ← r.required "cases" (Json.list? CaseOutcome.ofJson?)
  some ⟨header, sources, cases⟩

/-- Reads a saved file. -/
def RunReport.load? (text : String) : Option RunReport := (Json.read? text).bind RunReport.ofJson?

end KernelLink
