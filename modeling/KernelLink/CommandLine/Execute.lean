import KernelLink.CommandLine.Basic
import KernelLink.CommandLine.Fault
import KernelLink.Report.Saved
import KernelLink.Report.Text
import KernelLink.Scenario.Run

/-!
# Carrying out command lines

The settings come first: whatever the subcommand, nothing is done with settings that do not hold.
A report is printed before it is written and written before the cases are counted, so a run whose
cases fail, or whose report finds no place, has shown everything it found out.
-/

namespace KernelLink

/-- What a command line changes: files, and the text it prints. -/
structure Console where
  files : FileTree
  printed : String

/-- Steps of a command line. What was printed before a fault stays printed. -/
abbrev ConsoleM := ExceptT CommandLineFault (StateM Console)

namespace ConsoleM

def print (text : String) : ConsoleM Unit :=
  modify fun c => { c with printed := c.printed ++ text }

/-- Runs steps that change files. -/
def files {ε α : Type} (explain : ε → CommandLineFault) (m : ExceptT ε (StateM FileTree) α) :
    ConsoleM α := fun c =>
  let (result, t) := m.run c.files
  (result.mapError explain, { c with files := t })

end ConsoleM

/-- A stop as a command line's fault. -/
def CommandLineFault.ofStop : RunStop → CommandLineFault
  | .fault f => .run f
  | .crash _ => .crashed

namespace CommandLine

/-- The settings from the file, with the overrides, if they hold. -/
def settings (c : CommandLine) (t : FileTree) (base : Location) :
    Except CommandLineFault Settings := do
  let loaded ← match c.settingsFile with
    | some p => (Settings.load t base p).mapError (.loading p)
    | none => .ok .standard
  let s := c.overrides.apply loaded
  s.validate.mapError fun f => .run (.settings f)
  .ok s

/-- Prints a report, writes it where the settings say, and asks for all cases to have passed. -/
def publish (s : Settings) (base : Location) (r : RunReport) : ConsoleM Unit := do
  ConsoleM.print r.render
  ConsoleM.files (.report s.report) (FileM.writeInto base s.report r.render.toUTF8)
  match s.jsonReport with
  | some p => ConsoleM.files (.jsonReport p) (FileM.writeInto base p r.save.toUTF8)
  | none => pure ()
  if r.allPassed then pure ()
  else throw (.casesFailed (r.cases.filter (!·.passed)).length r.cases.length)

def runScenarios (s : Settings) (around : Surroundings) (kinds : List Scenario) :
    ConsoleM Unit := do
  let report ← ConsoleM.files .ofStop (s.runSuite around standardDevice kinds)
  publish s around.base report

def buildShells (s : Settings) (around : Surroundings) (out : Path) : ConsoleM Unit := do
  let session : Session := ⟨s.hostDevice .standard, s, .standard, around⟩
  let paths ← ConsoleM.files .run (session.buildShells out)
  ConsoleM.print (String.join (paths.map fun p => p.text ++ "\n"))

/-- Goes on if the back end is there. -/
def onHost (b : Backend) (go : ConsoleM Unit) : ConsoleM Unit :=
  match b with
  | .host => go
  | .metal => throw .noHardware

/-- The standalone kernel for the given parameters. -/
def standaloneSource (elements : Nat) (element : Element) (scale : Double) : KernelSource :=
  (asyncCopyEntry ((SourceParams.sized elements element).withConstant "scale"
    scale.plainText)).source

/-- Carries out a command line. -/
def steps (c : CommandLine) (around : Surroundings) : ConsoleM Unit := do
  match c.settings (← get).files around.base with
  | .error f => throw f
  | .ok s =>
    match c.subcommand with
    | .emitSource elements element scale =>
      ConsoleM.print ((standaloneSource elements element scale).text ++ "\n")
    | .asmRepro => onHost c.backend (runScenarios s around [.asmRepro])
    | .reverseLink cases => onHost c.backend (runScenarios s around cases.scenarios)
    | .run => onHost c.backend (runScenarios s around Scenario.all)
    | .buildShells out => onHost c.backend (buildShells s around out)

end CommandLine

/-- How a command line ended. -/
structure Ending where
  status : Nat
  output : String
  errors : String
deriving DecidableEq, Repr

/-- Carries out a command line to its end, in changed files. -/
def CommandLine.execute (c : CommandLine) (around : Surroundings) (t : FileTree) :
    Ending × FileTree :=
  let (result, console) := (c.steps around).run ⟨t, ""⟩
  (match result with
    | .ok () => ⟨0, console.printed, ""⟩
    | .error f => ⟨1, console.printed, f.shown⟩, console.files)

end KernelLink
