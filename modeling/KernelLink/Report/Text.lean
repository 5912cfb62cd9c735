import KernelLink.Report.Basic
import KernelLink.Text.Blank

/-!
# Reports to read

The plain text of a report: a header, the generated sources, one block per case with its stages and
samples, and a verdict over all cases.
-/

namespace KernelLink

def banner : String := String.ofList (List.replicate 60 '=')

def rule : String := String.ofList (List.replicate 60 '-')

/-- Lines, each ended. -/
def unlines (lines : List String) : String := String.join (lines.map (· ++ "\n"))

def StageRecord.line (r : StageRecord) : String :=
  "[" ++ r.outcome.display ++ "] " ++ r.stage.display ++
    (if r.detail.isEmpty then "" else ": " ++ r.detail)

def Sample.line (s : Sample) : String :=
  "  [" ++ toString s.index ++ "] input=" ++ s.input ++ " expected=" ++ s.expected.fixedText ++
    " got=" ++ ((s.actual.map (·.fixedText)).getD "<missing>") ++
    (if s.matched then " ok" else " MISMATCH")

def ReportHeader.lines (h : ReportHeader) : List String :=
  [banner, h.title, banner, "Device: " ++ h.device ++ " (" ++ h.backend ++ ")"] ++
    (h.toolchain.map ("Toolchain: " ++ ·)).toList ++
    ["Generated at (unix ms): " ++ toString h.generatedAtUnixMs]

/-- A source as it was generated, blanks at its end dropped. -/
def GeneratedSource.lines (s : GeneratedSource) : List String :=
  ["", rule, "Generated source: " ++ s.label, rule,
   String.ofList (dropEndWhile isBlank s.text.toList)]

def CaseOutcome.lines (c : CaseOutcome) : List String :=
  ["", banner, "CASE: " ++ c.name, banner] ++ c.records.map (·.line) ++ c.samples.map (·.line) ++
    ["RESULT: " ++ c.status.display ++ " - " ++ c.summary]

def RunReport.verdictLine (r : RunReport) : String :=
  if r.allPassed then "ALL TESTS PASSED" else "SOME TESTS FAILED"

/-- The whole report as text. -/
def RunReport.render (r : RunReport) : String :=
  unlines (r.header.lines ++ r.sources.flatMap (·.lines) ++ r.cases.flatMap (·.lines) ++
    ["", banner, r.verdictLine, banner])

end KernelLink
