import KernelLink.Machine.Program
import KernelLink.RunFault
import KernelLink.Source.Compose
import KernelLink.Text.Bytes

/-!
# Building binaries

A source is written to a scratch directory, compiled to an object and linked to a binary there.
What is made of the binary happens inside the build as well, so that the scratch directory can be
removed at the one place where it was created, whatever came in between.
-/

namespace KernelLink

/-! ## Scratch directories -/

/-- The name of a scratch directory with a number. -/
def scratchName (n : Nat) : String :=
  let digits := (toString n).toList
  "revlink_" ++ String.ofList (List.replicate (6 - digits.length) '0' ++ digits)

/-- The first scratch directory of a parent that is not there yet. There are fewer nodes than
candidates. -/
def freshScratch (t : FileTree) (base : Location) (parent : Path) : Path :=
  let candidates := (List.range (t.nodes.length + 1)).map fun n => parent.join (scratchName n)
  (candidates.find? fun p => !t.isThere base p).getD parent

/-- Where scratch directories go. -/
def scratchParent (s : Surroundings) (wanted : Option Path) : Path :=
  let parent := wanted.getD s.temporary
  if parent.isAbsolute then parent else s.basePath.join parent.text

/-- Makes a scratch directory, uses it, and removes it with all that is in it. -/
def withScratch {α : Type} (s : Surroundings) (wanted : Option Path) (use : Path → RunM α) :
    RunM α := fun t =>
  let place := freshScratch t s.base (scratchParent s wanted)
  match t.locate s.base place, t.makeDirectory s.base place with
  | .ok location, .ok made =>
    let (result, after) := (use place).run made
    (result, after.remove location)
  | _, .error f => (.error (.scratch f place), t)
  | .error f, _ => (.error (.scratch f place), t)

/-! ## Builds -/

/-- A binary inside its scratch directory. -/
structure Build where
  workdir : Path
  binary : Path
deriving DecidableEq, Repr

/-- A label as a file name: letters, digits and underscores. -/
def fileStem (label : String) : String :=
  let stem := label.toList.map fun c => if c.isAlphanum || c = '_' then c else '_'
  if stem.isEmpty then "kernel" else String.ofList stem

/-- What a program wrote, on both streams, without blanks around it. -/
def ProgramResult.combinedText (r : ProgramResult) : String :=
  let text := textOfBytes r.output ++ textOfBytes r.errors
  String.ofList (trimBlanks text.toList)

namespace ToolchainSettings

/-- Runs one of the two commands. -/
def runStep (t : ToolchainSettings) (s : Surroundings) (step : ToolStep) (c : CommandTemplate)
    (inputs : List Path) (output : Path) : RunM Unit := fun files =>
  match s.programs c.program (c.render t.language.stdFlag inputs output) files with
  | .error f => (.error (.toolchain step (.notLaunched c.program f)), files)
  | .ok (r, files) =>
    if r.succeeded then (.ok (), files)
    else (.error (.toolchain step (.failed r.status r.combinedText)), files)

/-- Builds a source and uses the binary. -/
def build {α : Type} (t : ToolchainSettings) (s : Surroundings) (source : KernelSource)
    (use : Build → RunM α) : RunM α :=
  withScratch s t.scratch fun workdir => do
    let stem := fileStem source.label
    let text := workdir.join (stem ++ ".metal")
    let object := workdir.join (stem ++ ".air")
    let binary := workdir.join (stem ++ ".metallib")
    RunM.files ("writing " ++ text.text)
      (FileM.change fun files => files.write s.base text source.text.toUTF8)
    t.runStep s .compile t.compiler [text] object
    t.runStep s .link t.linker [object] binary
    if (← get).isThere s.base binary then use ⟨workdir, binary⟩
    else throw (.toolchain .link (.noBinary binary))

/-- Builds a source and keeps the binary. -/
def buildArtifact (t : ToolchainSettings) (s : Surroundings) (source : KernelSource)
    (destination : Path) : RunM Path :=
  t.build s source fun b => do
    RunM.files ("creating " ++ ((destination.parent?.map (·.text)).getD ""))
      (FileM.ensureParent s.base destination)
    RunM.files ("copying artifact to " ++ destination.text)
      (FileM.change fun files => files.copy s.base b.binary destination)
    pure destination

/-- The first line that the version command prints, if there is such a command and it ends well. -/
def version (t : ToolchainSettings) (s : Surroundings) : StateM FileTree (Option String) :=
  fun files =>
    match t.versionCommand with
    | none => (none, files)
    | some c =>
      match s.programs c.program (c.render t.language.stdFlag [] ⟨""⟩) files with
      | .error _ => (none, files)
      | .ok (r, files) =>
        if r.succeeded then
          let output := (textOfBytes r.output).toList
          let text := if (trimBlanks output).isEmpty then (textOfBytes r.errors).toList else output
          ((firstLine? text).map fun line => String.ofList (trimBlanks line), files)
        else (none, files)

end ToolchainSettings

end KernelLink
