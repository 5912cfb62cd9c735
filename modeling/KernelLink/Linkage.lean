import KernelLink.Device.Pipeline
import KernelLink.Module

/-!
# Linking modules

A kernel shell is bound to the callables that it is to call. All names are looked up before the
device is asked for anything, the kernel's first; only then is it the device that decides whether
the combination can be built. So a missing name is never reported as a combination that does not
fit, nor the other way round.
-/

namespace KernelLink

/-- A function of a module by its name. -/
structure EntryRef where
  unit : CompiledModule
  entry : String
deriving DecidableEq, Repr

/-- The function that a device is asked for. -/
def EntryRef.function (r : EntryRef) : FunctionRef := ⟨r.unit.library, r.entry⟩

/-- A kernel that can be launched, with its callables linked in. -/
structure LinkedPipeline where
  pipeline : Pipeline
  kernel : String
  /-- The names of the callables as they were asked for. -/
  linked : List String
deriving DecidableEq, Repr

/-- The pipeline as reports show it. -/
def LinkedPipeline.describe (p : LinkedPipeline) : String :=
  p.kernel ++ " linked with [" ++ ", ".intercalate p.linked ++ "], max " ++
    toString p.pipeline.maxThreads ++ " threads per group"

/-- Checks that a module defines a name. -/
def EntryRef.check (r : EntryRef) : Except RunFault Unit :=
  if r.unit.hasEntry r.entry then .ok ()
  else .error (.entryNotFound r.entry r.unit.label r.unit.entryNames)

/-- Checks names in order; the first one missing is the fault. -/
def checkEntries : List EntryRef → Except RunFault Unit
  | [] => .ok ()
  | r :: rest => do
    r.check
    checkEntries rest

/-- Binds a kernel to callables. -/
def HostDevice.resolve (d : HostDevice) (kernel : EntryRef) (callables : List EntryRef) :
    Except RunFault LinkedPipeline := do
  checkEntries (kernel :: callables)
  let names := callables.map (·.entry)
  match d.buildPipeline kernel.function (callables.map (·.function)) with
  | .ok pipeline => .ok ⟨pipeline, kernel.entry, names⟩
  | .error fault => .error (.pipelineBuild kernel.entry names fault)

end KernelLink
