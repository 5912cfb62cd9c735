import KernelLink.Device.Dispatch
import KernelLink.Linkage

/-!
# Launches

What a caller asks of a pipeline: how many invocations in groups of what size, with which buffers.
A launch is validated against the pipeline before anything is submitted, at least as strictly as
the device would; what the device then makes of it is a completion, not a fault.
-/

namespace KernelLink

structure Launch where
  invocations : Nat
  groupSize : Nat
  bindings : Bindings
  /-- The group width that the kernel stages its tile for, if it has one. -/
  requiredGroup : Option Nat
deriving DecidableEq, Repr

def Launch.shape (l : Launch) : DispatchShape := ⟨l.invocations, l.groupSize⟩

/-- How a submitted launch ended. -/
structure CompletionRecord where
  kernel : String
  shape : DispatchShape
  completion : Completion
deriving DecidableEq, Repr

/-- The record as reports show it. Running on the host takes no time of its own. -/
def CompletionRecord.describe (r : CompletionRecord) : String :=
  toString r.shape.threads ++ " invocations in " ++ toString r.shape.groupCount ++ " groups of " ++
    toString r.shape.threadsPerGroup ++ " (0.000 ms)"

/-- How a step of a run ends early: with a fault to report, or not at all. -/
inductive RunStop where
  | fault (f : RunFault)
  | crash (c : Crash)
deriving DecidableEq, Repr

/-- The first index that occurs a second time; `seen` holds the ones before. -/
def repeatedIndex? (seen : List Nat) : Bindings → Option Nat
  | [] => none
  | (index, _) :: rest =>
    if seen.contains index then some index else repeatedIndex? (index :: seen) rest

namespace HostDevice

/-- The widest group that a pipeline may run on this device. -/
def widestGroup (d : HostDevice) (p : LinkedPipeline) : Nat :=
  min p.pipeline.maxThreads d.info.maxThreads

/-- Checks a launch before it is submitted. -/
def validate (d : HostDevice) (p : LinkedPipeline) (l : Launch) :
    Except LaunchFault DispatchShape :=
  if l.invocations = 0 then .error .noInvocations
  else if l.groupSize = 0 then .error .noGroup
  else if d.widestGroup p < l.groupSize then
    .error (.groupTooLarge l.groupSize (d.widestGroup p))
  else match l.requiredGroup.filter (· ≠ l.groupSize) with
    | some width => .error (.widthMismatch p.kernel width l.groupSize)
    | none =>
      match repeatedIndex? [] l.bindings with
      | some index => .error (.boundTwice index)
      | none => .ok l.shape

/-- Validates a launch and runs it to its end, whatever that is. -/
def submit (d : HostDevice) (p : LinkedPipeline) (l : Launch) (m : DeviceMemory) :
    Except RunStop (CompletionRecord × DeviceMemory) :=
  match d.validate p l with
  | .error fault => .error (.fault (.launch fault))
  | .ok shape =>
    match p.pipeline.dispatch l.bindings shape m with
    | .ok (completion, m) => .ok (⟨p.pipeline.name, shape, completion⟩, m)
    | .error c => .error (.crash c)

/-- Like `submit`, but a command that fails is a fault. -/
def execute (d : HostDevice) (p : LinkedPipeline) (l : Launch) (m : DeviceMemory) :
    Except RunStop (CompletionRecord × DeviceMemory) := do
  let (record, m) ← d.submit p l m
  match record.completion.status with
  | .completed => .ok (record, m)
  | .failed code => .error (.fault (.command code (record.completion.detail.getD "")))

end HostDevice

namespace DeviceMemory

/-- Allocates a buffer for values. -/
def upload (m : DeviceMemory) (values : List Single) :
    Except RunFault (DeviceMemory × BufferHandle) :=
  (m.allocate (bytesOfWords values)).mapError .device

/-- Allocates a buffer that holds one value over and over. -/
def fill (m : DeviceMemory) (length : Nat) (value : Single) :
    Except RunFault (DeviceMemory × BufferHandle) :=
  m.upload (List.replicate length value)

/-- The values of a buffer. -/
def values (m : DeviceMemory) (h : BufferHandle) : List Single := wordsOfBytes (m.read h)

end DeviceMemory

end KernelLink
