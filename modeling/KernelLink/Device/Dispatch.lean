import KernelLink.Device.Pipeline
import KernelLink.Exec.Words

/-!
# Buffers and dispatches

A dispatch works on copies: the bound buffers are copied into a table, the groups run on the table
one after the other, and only when all of them have finished is the table copied back. A command
that fails leaves every buffer as it was.
-/

namespace KernelLink

/-! ## Device memory -/

/-- The name of an allocated buffer. -/
structure BufferHandle where
  index : Nat
deriving DecidableEq, Repr

/-- All buffers that were ever allocated. -/
structure DeviceMemory where
  buffers : Array (Array Single)
deriving Repr

namespace DeviceMemory

def empty : DeviceMemory := ⟨#[]⟩

/-- The words of a buffer. -/
def words (m : DeviceMemory) (h : BufferHandle) : Array Single := (m.buffers[h.index]?).getD #[]

def set (m : DeviceMemory) (h : BufferHandle) (words : Array Single) : DeviceMemory :=
  ⟨m.buffers.modify h.index fun _ => words⟩

/-- Allocates a buffer of whole words, at least one. -/
def allocate (m : DeviceMemory) (bytes : List UInt8) :
    Except DeviceFault (DeviceMemory × BufferHandle) :=
  if bytes.isEmpty then .error (.bufferAllocation "zero-length buffer")
  else if bytes.length % 4 ≠ 0 then
    .error (.bufferAllocation
      (toString bytes.length ++ " bytes is not a whole number of 32-bit words"))
  else .ok (⟨m.buffers.push (wordsOfBytes bytes).toArray⟩, ⟨m.buffers.size⟩)

/-- The bytes of a buffer. -/
def read (m : DeviceMemory) (h : BufferHandle) : List UInt8 := bytesOfWords (m.words h).toList

end DeviceMemory

/-! ## Dispatches -/

/-- How many threads run, in groups of how many. -/
structure DispatchShape where
  threads : Nat
  threadsPerGroup : Nat
deriving DecidableEq, Repr

namespace DispatchShape

/-- Groups of no threads do not exist. -/
def groupCount (s : DispatchShape) : Nat :=
  if s.threadsPerGroup = 0 then 0
  else (s.threads + s.threadsPerGroup - 1) / s.threadsPerGroup

/-- One group of the dispatch; the last one runs the threads that are left. -/
def group (s : DispatchShape) (index : Nat) : GroupShape :=
  ⟨index, s.threadsPerGroup, min s.threadsPerGroup (s.threads - index * s.threadsPerGroup)⟩

end DispatchShape

inductive CommandStatus where
  | completed
  | failed (code : Nat)
deriving DecidableEq, Repr

/-- How a command ended. -/
structure Completion where
  status : CommandStatus
  detail : Option String
deriving DecidableEq, Repr

namespace Completion

def completed : Completion := ⟨.completed, none⟩

def failed (code : Nat) (detail : String) : Completion := ⟨.failed code, some detail⟩

def isCompleted (c : Completion) : Bool := c.status = .completed

end Completion

/-- A kernel divided by the length of an empty tile: the run has no result at all. -/
inductive Crash where
  | emptyTile
deriving DecidableEq, Repr

/-- Buffers at binding indices. -/
abbrev Bindings := List (Nat × BufferHandle)

namespace Pipeline

/-- The status code of a command that is rejected before any group runs. -/
def rejectedCode : Nat := 100

/-- Copies the bound buffers; of two at one index the later is seen. -/
def table (m : DeviceMemory) (bindings : Bindings) : BufferTable :=
  bindings.foldl (fun t (index, h) => t.bind index (m.words h)) []

/-- Runs one group on the table. -/
def runGroup (p : Pipeline) (g : GroupShape) (t : BufferTable) : Except Stop BufferTable :=
  let state : GroupState := ⟨t, Array.replicate p.kernel.threadgroupLength .zero⟩
  match (p.kernel.run g p.linked).run state with
  | (.ok (), after) => .ok after.buffers
  | (.error stop, _) => .error stop

/-- Runs so many groups one after the other, from the one at `index` on. A stop comes with the
index of its group. -/
def runGroups (p : Pipeline) (s : DispatchShape) :
    (count index : Nat) → BufferTable → Except (Nat × Stop) BufferTable
  | 0, _, t => .ok t
  | count + 1, index, t =>
    match p.runGroup (s.group index) t with
    | .ok t => runGroups p s count (index + 1) t
    | .error stop => .error (index, stop)

/-- Copies the table back, binding after binding. -/
def writeBack (bindings : Bindings) (t : BufferTable) (m : DeviceMemory) : DeviceMemory :=
  bindings.foldl (fun m (index, h) =>
    match t.get? index with
    | some words => m.set h words
    | none => m) m

/-- Runs a whole dispatch. -/
def dispatch (p : Pipeline) (bindings : Bindings) (s : DispatchShape) (m : DeviceMemory) :
    Except Crash (Completion × DeviceMemory) :=
  if s.threadsPerGroup = 0 ∨ p.maxThreads < s.threadsPerGroup then
    .ok (.failed rejectedCode
      ("threadgroup size " ++ toString s.threadsPerGroup ++ " outside 1..=" ++
        toString p.maxThreads), m)
  else
    match p.runGroups s s.groupCount 0 (table m bindings) with
    | .ok t => .ok (.completed, writeBack bindings t m)
    | .error (index, .fault f) =>
      .ok (.failed f.code
        (p.name ++ " (threadgroup " ++ toString index ++ "): " ++ f.message), m)
    | .error (_, .emptyTile) => .error .emptyTile

end Pipeline

end KernelLink
