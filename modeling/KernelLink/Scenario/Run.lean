import KernelLink.Scenario.Case
import KernelLink.Scenario.Kind

/-!
# Running scenarios

Each scenario composes, compiles, links, dispatches and verifies on its own. A case that fails never
stops the ones after it, and cases share nothing but the files and the catalog: every case starts
with no buffers. Only the variants of one shell share more, namely the loaded shell and its inputs.
-/

namespace KernelLink

/-- Steps that change files and may crash. -/
abbrev SuiteM := ExceptT Crash (StateM FileTree)

namespace Session

/-! ## Stages -/

def tag (s : Session) (name : String) : CaseTag := ⟨name, s.surroundings.now⟩

/-- Compares as closely as the settings say, or as the scenario does. -/
def verifier (s : Session) (k : Scenario) : Verifier :=
  .withTolerance (s.settings.tolerance.getD k.tolerance)

/-- Gets the module of a kernel shell: loaded, or built when no directory has it. -/
def loadShell (s : Session) (c : CaseTag) (shell : CatalogEntry) : CaseM CompiledModule := do
  match s.settings.prebuilt with
  | some dir =>
    let p := shellPath dir shell.entry
    let result ← CaseM.files (s.loadPrebuilt p)
    c.stage .loadPrebuilt result fun m => m.describe ++ " from " ++ p.text
  | none =>
    let result ← CaseM.files (s.compileByToolchain shell.source)
    c.stage .compileToolchain result (·.describe)

/-- Compiles what is to be linked into a shell. -/
def compileCallable (s : Session) (c : CaseTag) (callable : CatalogEntry) : CaseM CompiledModule :=
  c.stage .compileDynamic (s.compileInProcess callable.source s.settings.language) (·.describe)

def linkStage (s : Session) (c : CaseTag) (kernel : EntryRef) (callables : List EntryRef) :
    CaseM LinkedPipeline :=
  c.stage .link (s.device.resolve kernel callables) (·.describe)

/-- The launch of a kernel in groups of the configured size, held to the width that it stages. -/
def launch (s : Session) (kernel : CatalogEntry) (invocations : Nat) (bindings : Bindings) :
    Launch :=
  ⟨invocations, s.settings.groupSize, bindings, kernel.groupWidth⟩

/-- Binds a new buffer for the output behind the inputs, launches, and reads the output. -/
def executeInto (s : Session) (p : LinkedPipeline) (kernel : CatalogEntry) (invocations : Nat)
    (inputs : Bindings) (outputIndex outputLength : Nat) (filling : Single) (m : DeviceMemory) :
    Except RunStop ((CompletionRecord × Array Single) × DeviceMemory) := do
  let (m, output) ← (m.fill outputLength filling).mapError .fault
  let (record, m) ← s.device.execute p
    (s.launch kernel invocations (inputs ++ [(outputIndex, output)])) m
  .ok ((record, (m.values output).toArray), m)

/-- The dispatch stage; gives the output. -/
def dispatchStage (s : Session) (c : CaseTag) (p : LinkedPipeline) (kernel : CatalogEntry)
    (invocations : Nat) (inputs : Bindings) (outputIndex outputLength : Nat) (filling : Single) :
    CaseM (Array Single) := do
  match s.executeInto p kernel invocations inputs outputIndex outputLength filling
      (← get).memory with
  | .ok ((record, output), memory) =>
    modify fun state => { state with memory }
    c.record .dispatch .pass record.describe
    pure output
  | .error (.fault fault) => c.stopWith .dispatch fault
  | .error (.crash crash) => throw (.crash crash)

/-- The upload of an input, which is recorded only if it fails. -/
def uploadStage (c : CaseTag) (values : List Single) : CaseM BufferHandle := do
  CaseM.allocated c ((← get).memory.upload values)

/-! ## Data -/

/-- The value that cells outside the tile are filled with. -/
def sentinel : Single := .ofExact (.finite true 1 0)

/-- One, two, three and so on. -/
def countingInputs (count : Nat) : List Single :=
  (List.range count).map fun i => .ofNat (i + 1)

/-- A tenth, and then half of one more each. -/
def halvingInputs (count : Nat) : List Single :=
  (List.range count).map fun i => Single.ofNat i * .dyadic 1 (-1) + ⟨0x3dcccccd⟩

/-- The matrix that a roundtrip starts from: a hundred per row and one per column. -/
def roundtripSource (g : TileGeometry) : Matrix :=
  ⟨g.rows, g.cols, ((List.range g.rows).flatMap fun row =>
    (List.range g.cols).map fun col => Single.ofNat (row * 100 + col)).toArray⟩

def reverseCount : Nat := 128

def variantCount : Nat := 1024

/-! ## Scenarios -/

/-- The in-process compile of a source with intrinsics. Either answer of the compiler is
legitimate; other faults are not. -/
def tryInProcess (s : Session) (c : CaseTag) (source : KernelSource) : CaseM Unit :=
  match s.compileInProcess source s.settings.language with
  | .ok m => c.record .compileDynamic .pass ("accepted; " ++ m.describe)
  | .error (.compile diagnostic) =>
    c.record .compileDynamic .tolerated
      (String.ofList ((firstLine? diagnostic.toList).getD []))
  | .error fault => c.stopWith .compileDynamic fault

/-- The composed source as reports show it. -/
def describeSource (source : KernelSource) : String :=
  source.label ++ " (" ++ toString source.text.utf8ByteSize ++ " bytes, " ++
    toString source.params.elements ++ " x " ++ source.params.element.spelling ++ ")"

def asmRepro (s : Session) (c : CaseTag) : CaseM Checked := do
  let params := s.catalog.asyncCopy
  let kernel := s.catalog.asyncCopyEntry
  c.record .compose .pass (describeSource kernel.source)
  s.tryInProcess c kernel.source
  let built ← CaseM.files (s.compileByToolchain kernel.source)
  let unit ← c.stage .compileToolchain built (·.describe)
  let pipeline ← s.linkStage c ⟨unit, kernel.entry⟩ []
  let inputs := countingInputs params.elements
  let source ← uploadStage c inputs
  let output ← s.dispatchStage c pipeline kernel inputs.length [(0, source)] 1 inputs.length .zero
  pure (.elements ((s.verifier .asmRepro).verify output inputs (·.literalText)
    (asyncCopyReference params)))

def reverseLink (s : Session) (c : CaseTag) : CaseM Checked := do
  let kernel := reverseShell s.catalog.tile
  let shell ← s.loadShell c kernel
  let unit ← s.compileCallable c s.catalog.transform.entry
  let pipeline ← s.linkStage c ⟨shell, kernel.entry⟩ [⟨unit, transformName⟩]
  let inputs := countingInputs reverseCount
  let source ← uploadStage c inputs
  let output ← s.dispatchStage c pipeline kernel inputs.length [(0, source)] 1 inputs.length .zero
  pure (.elements ((s.verifier .reverseLink).verify output inputs (·.literalText)
    s.catalog.transform.reference))

def roundtrip (s : Session) (c : CaseTag) : CaseM Checked := do
  let geometry := s.catalog.geometry
  let kernel := roundtripShell geometry
  let shell ← s.loadShell c kernel
  let unit ← s.compileCallable c s.catalog.processTile.entry
  let pipeline ← s.linkStage c ⟨shell, kernel.entry⟩ [⟨unit, processTileName⟩]
  let matrix := roundtripSource geometry
  let source ← uploadStage c matrix.values.toList
  let output ← s.dispatchStage c pipeline kernel geometry.tileLength [(0, source)] 1
    geometry.matrixLength sentinel
  pure (.tile ((s.verifier .roundtrip).verifyTile ⟨geometry.rows, geometry.cols, output⟩ matrix
    ⟨geometry.tileCols, s.catalog.processTile.scale, sentinel⟩))

/-- What the variants share. -/
structure VariantSetup where
  shell : CompiledModule
  first : BufferHandle
  second : BufferHandle

def variantSetup (s : Session) (c : CaseTag) : CaseM VariantSetup := do
  let shell ← s.loadShell c (gemmShell s.catalog.tile)
  let first ← uploadStage c (countingInputs variantCount)
  let second ← uploadStage c (halvingInputs variantCount)
  pure ⟨shell, first, second⟩

def variantCase (s : Session) (c : CaseTag) (shared : VariantSetup) (v : Variant) :
    CaseM Checked := do
  let kernel := gemmShell s.catalog.tile
  let unit ← s.compileCallable c v.entry
  let pipeline ← s.linkStage c ⟨shared.shell, kernel.entry⟩ [⟨unit, computeTileName⟩]
  let output ← s.dispatchStage c pipeline kernel variantCount
    [(0, shared.first), (1, shared.second)] 2 variantCount .zero
  let pairs := (countingInputs variantCount).zip (halvingInputs variantCount)
  pure (.elements ((s.verifier .multiVariant).verify output pairs pairText
    fun p => v.reference p.1 p.2))

/-! ## Cases -/

/-- Runs the one case of a scenario. -/
def singleCase (s : Session) (k : Scenario) (body : CaseTag → CaseM Checked) :
    SuiteM (List CaseOutcome) := fun t =>
  let c := s.tag k.name
  let (result, state) := (body c).run ⟨[], t, .empty⟩
  ((c.outcome result state.records).map ([·]), state.files)

/-- Runs variants one after the other; each case starts from the shared records. -/
def variantCases (s : Session) (shared : VariantSetup) (records : List StageRecord) :
    List Variant → CaseState → Except Crash (List CaseOutcome) × CaseState
  | [], state => (.ok [], state)
  | v :: rest, state =>
    let c := s.tag (variantCaseName v)
    let (result, state) := (s.variantCase c shared v).run { state with records }
    match c.outcome result state.records with
    | .error crash => (.error crash, state)
    | .ok outcome =>
      let (later, state) := variantCases s shared records rest state
      (later.map (outcome :: ·), state)

/-- Runs the cases of all variants. A fault in what they share is every variant's own. -/
def multiVariant (s : Session) : SuiteM (List CaseOutcome) := fun t =>
  let (setup, state) := (s.variantSetup (s.tag Scenario.multiVariant.name)).run ⟨[], t, .empty⟩
  match setup with
  | .ok shared =>
    let (outcomes, state) := s.variantCases shared state.records s.catalog.variants state
    (outcomes, state.files)
  | .error (.fault fault) =>
    (.ok (s.catalog.variants.map fun v =>
      (s.tag (variantCaseName v)).failed state.records fault), state.files)
  | .error (.crash crash) => (.error crash, state.files)

/-- Runs the cases of one scenario: one, or one per variant. -/
def runScenario (s : Session) : Scenario → SuiteM (List CaseOutcome)
  | .asmRepro => s.singleCase .asmRepro s.asmRepro
  | .reverseLink => s.singleCase .reverseLink s.reverseLink
  | .roundtrip => s.singleCase .roundtrip s.roundtrip
  | .multiVariant => s.multiVariant

/-- The header of a report. -/
def reportHeader (s : Session) (version : Option String) : ReportHeader :=
  let info := s.device.info
  ⟨"revlink: compile, link, execute, verify", info.name, info.backend, version,
    s.surroundings.now⟩

/-- The sources that scenarios generate, as reports hold them. -/
def generatedSources (s : Session) (kinds : List Scenario) : List GeneratedSource :=
  (kinds.flatMap (·.sources s.catalog)).map fun source => ⟨source.label, source.text⟩

/-- Runs scenarios in order and reports on them. -/
def run (s : Session) (kinds : List Scenario) : SuiteM RunReport := do
  let version ← (s.version : StateM FileTree (Option String))
  let outcomes ← kinds.mapM s.runScenario
  pure ⟨s.reportHeader version, s.generatedSources kinds, outcomes.flatten⟩

end Session

/-!
## Suites

A suite is a run that starts from settings alone: they are checked, a device is made for them, and
the scenarios of the standard catalog are run on it. Nothing touches the device or the files before
the settings are known to be usable.
-/

/-- Makes a device for settings, or says why there is none. -/
abbrev DeviceMaker := Settings → Except DeviceFault HostDevice

/-- The host device for the standard catalog. -/
def standardDevice : DeviceMaker := fun s => .ok (s.hostDevice .standard)

/-- Steps that change files and may stop a run early. -/
abbrev StopM := ExceptT RunStop (StateM FileTree)

namespace StopM

/-- Gives up with a fault, or goes on. -/
def ofFault {α : Type} : Except RunFault α → StopM α
  | .ok x => pure x
  | .error fault => throw (.fault fault)

/-- Runs steps that end with faults. -/
def ofRun {α : Type} (m : RunM α) : StopM α := fun t =>
  let (result, t) := m.run t
  (result.mapError .fault, t)

/-- Runs steps that may crash. -/
def ofSuite {α : Type} (m : SuiteM α) : StopM α := fun t =>
  let (result, t) := m.run t
  (result.mapError .crash, t)

end StopM

/-- Checks settings, makes a device for them and runs scenarios of the standard catalog. -/
def Settings.runSuite (s : Settings) (surroundings : Surroundings) (make : DeviceMaker)
    (kinds : List Scenario) : StopM RunReport := do
  StopM.ofFault (s.validate.mapError .settings)
  let device ← StopM.ofFault ((make s).mapError .device)
  StopM.ofSuite ((Session.mk device s .standard surroundings).run kinds)

end KernelLink
