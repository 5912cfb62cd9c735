import KernelLink.Machine.Files
import KernelLink.Settings.Basic
import KernelLink.Text.Quoted

/-!
# What can go wrong in a run

Every step from a source to a finished command has its own kind of fault. A fault keeps its cause;
the kind's name and the message are derived from it.
-/

namespace KernelLink

/-- The two commands of a toolchain. -/
inductive ToolStep where
  | compile
  | link
deriving DecidableEq, Repr

def ToolStep.name : ToolStep → String
  | compile => "compile"
  | link => "link"

/-- How a command of the toolchain failed. -/
inductive ToolFault where
  | notLaunched (program : String) (fault : FileFault)
  /-- It ended badly. A signal leaves no status. -/
  | failed (status : Option Nat) (output : String)
  /-- It ended well but the binary is not there. -/
  | noBinary (place : Path)
deriving DecidableEq, Repr

namespace ToolFault

def status? : ToolFault → Option Nat
  | notLaunched .. => none
  | failed status _ => status
  | noBinary _ => some 0

def output : ToolFault → String
  | notLaunched program fault => "failed to launch '" ++ program ++ "': " ++ fault.message
  | failed _ output => output
  | noBinary place => "linker produced no output at " ++ place.text

end ToolFault

/-- Why a launch is not even submitted. -/
inductive LaunchFault where
  | noInvocations
  | noGroup
  | groupTooLarge (group most : Nat)
  | widthMismatch (kernel : String) (width group : Nat)
  | boundTwice (index : Nat)
deriving DecidableEq, Repr

def LaunchFault.message : LaunchFault → String
  | noInvocations => "invocation count must be positive"
  | noGroup => "group size must be positive"
  | groupTooLarge group most =>
    "group size " ++ toString group ++ " exceeds the pipeline maximum of " ++ toString most
  | widthMismatch kernel width group =>
    "kernel " ++ kernel ++ " stages one tile per group of " ++ toString width ++
      " threads, got groups of " ++ toString group
  | boundTwice index => "buffer index " ++ toString index ++ " is bound twice"

inductive RunFault where
  /-- The in-process compiler does not take the source. -/
  | compile (diagnostic : String)
  | toolchain (step : ToolStep) (fault : ToolFault)
  | load (artifact reason : String)
  /-- A module does not define a name; it defines others. -/
  | entryNotFound (name module : String) (available : List String)
  | pipelineBuild (kernel : String) (linked : List String) (fault : DeviceFault)
  | launch (fault : LaunchFault)
  /-- A submitted command ended with a status other than completed. -/
  | command (code : Nat) (detail : String)
  | files (context : String) (fault : FileFault)
  /-- No scratch directory could be made at a place. -/
  | scratch (fault : FileFault) (place : Path)
  | settings (fault : SettingsFault)
  | device (fault : DeviceFault)
deriving DecidableEq, Repr

namespace RunFault

def statusText (status : Option Nat) : String := (status.map toString).getD "none"

/-- Why a scratch directory could not be made. -/
def scratchReason (fault : FileFault) (place : Path) : String :=
  fault.message ++ " at path " ++ quotedText place.text

def message : RunFault → String
  | compile diagnostic => "in-process compiler rejected source: " ++ diagnostic
  | toolchain step fault =>
    "toolchain " ++ step.name ++ " step failed (exit status " ++ statusText fault.status? ++
    "): " ++
      fault.output
  | load artifact reason => "failed to load binary artifact " ++ artifact ++ ": " ++ reason
  | entryNotFound name module available =>
    "entry point '" ++ name ++ "' not found in " ++ module ++ "; available: [" ++
      ", ".intercalate available ++ "]"
  | pipelineBuild kernel linked fault =>
    "failed to build pipeline for '" ++ kernel ++ "' linked with [" ++ ", ".intercalate linked ++
      "]: " ++ fault.message
  | launch fault => "invalid dispatch: " ++ fault.message
  | command code detail => "command failed with status " ++ toString code ++ ": " ++ detail
  | files context fault => context ++ ": " ++ fault.message
  | scratch fault place =>
    "creating toolchain scratch directory: " ++ scratchReason fault place
  | settings fault => "invalid configuration: " ++ fault.message
  | device fault => fault.message

/-- The name of the kind of fault. -/
def kind : RunFault → String
  | compile _ => "CompileError"
  | toolchain .. => "ToolchainError"
  | load .. => "LoadError"
  | entryNotFound .. => "EntryNotFound"
  | pipelineBuild .. => "PipelineBuildError"
  | launch _ => "InvalidDispatch"
  | command .. => "DispatchError"
  | files .. => "IoError"
  | scratch .. => "IoError"
  | settings _ => "ConfigError"
  | device _ => "DeviceError"

/-- Kind and message, as reports show a fault. -/
def describe (f : RunFault) : String := f.kind ++ ": " ++ f.message

/-- The cause below the message, for the faults that have one of their own. -/
def cause? : RunFault → Option String
  | files _ fault => some fault.message
  | scratch fault place => some (scratchReason fault place)
  | _ => none

end RunFault

/-- Steps of a run that change files. -/
abbrev RunM := ExceptT RunFault (StateM FileTree)

namespace RunM

/-- Changes files; a fault is told with what was being done. -/
def files {α : Type} (context : String) (m : FileM α) : RunM α := fun t =>
  let (result, t) := m.run t
  (result.mapError (.files context), t)

end RunM

end KernelLink
