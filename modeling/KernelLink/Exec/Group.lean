import KernelLink.Exec.Callable
import KernelLink.Number.Size

/-!
# One threadgroup

A group sees the bound buffers and its own threadgroup memory, and everything it does is one of the
operations below. An operation that faults keeps what it did before the fault, so partial copies
are visible to whoever looks at the state afterwards; a dispatch does not look.

A range that does not lie in its array is refused, and a range whose end wraps round lies in none:
no array reaches to where sizes end. The fault names the end as it is then.
-/

namespace KernelLink

/-- Threads that advance together. -/
def simdWidth : Nat := 32

/-- Buffers by binding index. -/
abbrev BufferTable := List (Nat × Array Single)

namespace BufferTable

def get? (table : BufferTable) (index : Nat) : Option (Array Single) :=
  (List.find? (·.1 = index) table).map (·.2)

/-- Changes the buffer at an index, if there is one. -/
def update (table : BufferTable) (index : Nat) (f : Array Single → Array Single) : BufferTable :=
  table.map fun (i, buffer) => if i = index then (i, f buffer) else (i, buffer)

/-- Binds a buffer, in place of any other at the index. -/
def bind (table : BufferTable) (index : Nat) (buffer : Array Single) : BufferTable :=
  if (table.get? index).isSome then table.update index fun _ => buffer
  else table ++ [(index, buffer)]

end BufferTable

/-- Overwrites part of an array, element by element from `start`. -/
def overwrite (target : Array Single) (start : Nat) (values : Array Single) : Array Single :=
  target.mapIdx fun i x => if start ≤ i then (values[i - start]?).getD x else x

/-- Which group of which dispatch. The last group of a dispatch may run fewer lanes than its
size. -/
structure GroupShape where
  index : Nat
  size : Nat
  lanes : Nat
deriving DecidableEq, Repr

namespace GroupShape

/-- The position of a lane in the whole grid. -/
def threadPosition (g : GroupShape) (lane : Nat) : Nat := g.index * g.size + lane

end GroupShape

/-- The position of a lane among those that advance together. -/
def simdLane (lane : Nat) : Nat := lane % simdWidth

/-- Rows and columns of a two-dimensional copy. -/
structure Extent where
  rows : Nat
  cols : Nat
deriving DecidableEq, Repr

namespace Extent

/-- How many cells there are, as a size. -/
def size (e : Extent) : Nat := Size.wrap (e.rows * e.cols)

/-- The cells can be counted. -/
def Fits (e : Extent) : Prop := e.rows * e.cols < Size.limit

instance (e : Extent) : Decidable e.Fits := inferInstanceAs (Decidable (_ < _))

theorem size_of_fits {e : Extent} (h : e.Fits) : e.size = e.rows * e.cols := Size.wrap_of_lt h

/-- Where every row is among the counted cells, all cells are. -/
theorem size_of_rows {e : Extent} (h : ∀ row < e.rows, (row + 1) * e.cols ≤ e.size) :
    e.size = e.rows * e.cols := by
  refine Nat.le_antisymm (Size.wrap_le _) ?_
  match hr : e.rows with
  | 0 => rw [Nat.zero_mul]; exact Nat.zero_le _
  | rows + 1 => exact h rows (by omega)

/-- Where the cells can be counted, every row is among them. -/
theorem row_end_le_size {e : Extent} (h : e.Fits) {row : Nat} (hrow : row < e.rows) :
    (row + 1) * e.cols ≤ e.size := by
  rw [size_of_fits h]
  exact Nat.mul_le_mul_right e.cols hrow

end Extent

/-- What a group can change. -/
structure GroupState where
  buffers : BufferTable
  threadgroup : Array Single
deriving Repr

/-- A step of a group: it may stop early, and keeps what it did until then. -/
abbrev GroupM := ExceptT Stop (StateM GroupState)

namespace GroupM

def fault {α : Type} (f : Fault) : GroupM α := throw (.fault f)

/-- Takes a step at each of `count` numbers from `start` on. The numbers are not listed beforehand,
so a step that stops also ends the counting. -/
def forFrom (step : Nat → GroupM Unit) : (count start : Nat) → GroupM Unit
  | 0, _ => pure ()
  | count + 1, start => do
    step start
    forFrom step count (start + 1)

/-- Takes a step at each number below `count`. -/
def forBelow (count : Nat) (step : Nat → GroupM Unit) : GroupM Unit := forFrom step count 0

/-- The counting is that of a list of consecutive numbers. -/
theorem forFrom_eq_forM_range' (step : Nat → GroupM Unit) (count start : Nat) :
    forFrom step count start = (List.range' start count).forM step := by
  induction count generalizing start with
  | zero => rfl
  | succ count ih => simp [forFrom, List.range'_succ, ih]

/-- The steps below `count` are those of `List.range count`, whose lemmas then apply. -/
theorem forBelow_eq_forM_range (count : Nat) (step : Nat → GroupM Unit) :
    forBelow count step = (List.range count).forM step := by
  rw [forBelow, forFrom_eq_forM_range', List.range_eq_range']

/-- The buffer bound at an index. -/
def buffer (index : Nat) : GroupM (Array Single) := do
  match (← get).buffers.get? index with
  | some b => pure b
  | none => fault (.missingBinding index)

def read (index offset : Nat) : GroupM Single := do
  let b ← buffer index
  match b[offset]? with
  | some x => pure x
  | none => fault (.outOfBounds index offset (Size.wrap (offset + 1)) b.size)

def write (index offset : Nat) (value : Single) : GroupM Unit := do
  let b ← buffer index
  if offset < b.size then
    modify fun s =>
      { s with buffers := s.buffers.update index fun b => b.modify offset fun _ => value }
  else fault (.outOfBounds index offset (Size.wrap (offset + 1)) b.size)

/-- Copies `count` elements of a buffer into threadgroup memory. -/
def copyIn (source sourceOffset count offset : Nat) : GroupM Unit := do
  let b ← buffer source
  if sourceOffset + count > b.size then
    fault (.outOfBounds source sourceOffset (Size.wrap (sourceOffset + count)) b.size)
  let memory := (← get).threadgroup
  if offset + count > memory.size then
    fault (.threadgroupOutOfBounds offset (Size.wrap (offset + count)) memory.size)
  let values := b.extract sourceOffset (sourceOffset + count)
  modify fun s => { s with threadgroup := overwrite s.threadgroup offset values }

/-- Copies rows that are `stride` apart in a buffer into packed threadgroup memory. -/
def copyTileIn (source stride : Nat) (e : Extent) (offset : Nat) : GroupM Unit :=
  forBelow e.rows fun row =>
    copyIn source (row * stride) e.cols (offset + row * e.cols)

/-- Copies packed threadgroup memory back into rows that are `stride` apart in a buffer. Where the
cells cannot be counted, fewer of them are checked for than the rows take, and the first row that
takes more has no result. -/
def copyTileOut (target stride : Nat) (e : Extent) (offset : Nat) : GroupM Unit := do
  let memory := (← get).threadgroup
  if offset + e.size > memory.size then
    fault (.threadgroupOutOfBounds offset (Size.wrap (offset + e.size)) memory.size)
  let length := (← buffer target).size
  forBelow e.rows fun row => do
    let start := row * stride
    if start + e.cols > length then
      fault (.outOfBounds target start (Size.wrap (start + e.cols)) length)
    if (row + 1) * e.cols > e.size then throw .emptyTile
    let values := memory.extract (offset + row * e.cols) (offset + (row + 1) * e.cols)
    modify fun s => { s with buffers := s.buffers.update target fun b => overwrite b start values }

/-! ## Calls -/

def callable (linked : Linked) (name : String) : GroupM Callable :=
  match linked.find? name with
  | some c => pure c
  | none => fault (.unresolvedCallable name)

def callUnary (linked : Linked) (name : String) (value : Single) : GroupM Single := do
  match ← callable linked name with
  | .unary f => pure (f.reference value)
  | _ => fault (.callingConvention name .unary)

/-- Calls a tile function on the whole threadgroup memory. -/
def callTile (linked : Linked) (name : String) (lane : Nat) : GroupM Unit := do
  match ← callable linked name with
  | .tile f => modify fun s => { s with threadgroup := f.apply s.threadgroup lane }
  | _ => fault (.callingConvention name .tile)

/-- Calls a pair-tile function with threadgroup memory cut in two at `split`, writing buffer
`output`. -/
def callPairTile (linked : Linked) (name : String) (split output thread lane : Nat) :
    GroupM Unit := do
  match ← callable linked name with
  | .pairTile f =>
    let memory := (← get).threadgroup
    if split > memory.size then
      fault (.threadgroupOutOfBounds 0 split memory.size)
    let c ← buffer output
    if thread ≥ c.size then
      fault (.outOfBounds output thread (Size.wrap (thread + 1)) c.size)
    let a := memory.extract 0 split
    let b := memory.extract split memory.size
    modify fun s => { s with buffers := s.buffers.update output fun c => f.apply a b c thread lane }
  | _ => fault (.callingConvention name .pairTile)

end GroupM

end KernelLink
