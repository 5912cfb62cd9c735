import KernelLink.Proofs.Exec.Frame
import Mathlib.Data.Nat.Count
import Mathlib.Logic.Function.Iterate

/-!
# Tiles of a matrix

A group copies the leading columns of a matrix into packed memory, lets its lanes work on them and
copies them back. The rows of either copy are taken one at a time, and each copy as a whole is one
patch: a cell of the packed tile is its row and column of the matrix, a cell of the matrix is either
a cell of the tile or not written at all. The second needs rows that do not overlap.

Between the copies every lane scales the cell of its position among those that advance together.
Positions repeat, so a cell is scaled as often as it has lanes.
-/

namespace KernelLink

/-- Taking `len` elements from `start` on and looking at one of them. -/
theorem getElem?_extract_add (b : Array Single) (start len i : Nat) :
    (b.extract start (start + len))[i]? = if i < len then b[start + i]? else none := by
  rw [Array.getElem?_extract]
  by_cases hi : i < len
  · rw [if_pos hi]
    by_cases hb : start + i < b.size
    · rw [if_pos (by omega)]
    · rw [if_neg (by omega), Array.getElem?_eq_none (by omega)]
  · rw [if_neg hi, if_neg (by omega)]

/-- A row ends where the next one starts, and none ends behind the last. -/
theorem row_end_le {rows cols row : Nat} (h : row < rows) : row * cols + cols ≤ rows * cols := by
  rw [← Nat.succ_mul]
  exact Nat.mul_le_mul_right cols h

/-- Where a cell of row `n` lies when rows are `stride` apart. -/
theorem div_mod_row {stride cols : Nat} (hc : cols ≤ stride) (j n : Nat) :
    (j / stride = n ∧ j % stride < cols) ↔ n * stride ≤ j ∧ j < n * stride + cols := by
  have hj := Nat.div_add_mod j stride
  constructor
  · rintro ⟨rfl, hm⟩
    rw [Nat.mul_comm stride] at hj
    omega
  · rintro ⟨h1, h2⟩
    obtain ⟨c, rfl⟩ := Nat.exists_eq_add_of_le h1
    have hcs : c < stride := by omega
    rw [Nat.mul_add_mod_of_lt hcs, Nat.add_comm, Nat.add_mul_div_right _ _ (by omega),
      Nat.div_eq_of_lt hcs]
    omega

namespace Patch

variable {b memory : Array Single} {stride cols offset : Nat}

/-- Packs the leading `cols` columns of `rows` rows from `offset` on. -/
def gather (b : Array Single) (stride cols offset rows : Nat) : Patch := fun j =>
  if offset ≤ j ∧ j < offset + rows * cols then
    b[(j - offset) / cols * stride + (j - offset) % cols]?
  else none

/-- Puts packed cells back into the leading `cols` columns of `rows` rows. -/
def scatter (memory : Array Single) (stride cols offset rows : Nat) : Patch := fun j =>
  if j / stride < rows ∧ j % stride < cols then
    memory[offset + j / stride * cols + j % stride]?
  else none

@[simp] theorem gather_zero : gather b stride cols offset 0 = empty := by
  refine ext fun j => ?_
  unfold gather
  rw [if_neg (by omega)]; rfl

@[simp] theorem scatter_zero : scatter memory stride cols offset 0 = empty := by
  refine ext fun j => ?_
  unfold scatter
  rw [if_neg fun h => Nat.not_lt_zero _ h.1]; rfl

/-- Copying the next row packs one row more. -/
theorem gather_succ (n : Nat) :
    (block (offset + n * cols) (b.extract (n * stride) (n * stride + cols))).after
        (gather b stride cols offset n)
      = gather b stride cols offset (n + 1) := by
  refine ext fun j => ?_
  have hn : (n + 1) * cols = n * cols + cols := Nat.succ_mul n cols
  unfold after block gather
  rcases Nat.lt_or_ge j (offset + n * cols) with hj | hj
  · -- the new row lies behind
    rw [if_neg (by omega), Option.none_or]
    by_cases ho : offset ≤ j
    · rw [if_pos ⟨ho, hj⟩, if_pos ⟨ho, by omega⟩]
    · rw [if_neg (fun h => ho h.1), if_neg (fun h => ho h.1)]
  · obtain ⟨c, rfl⟩ := Nat.exists_eq_add_of_le hj
    rw [if_pos hj, if_neg (by omega), Option.or_none, getElem?_extract_add,
      Nat.add_sub_cancel_left]
    by_cases hc : c < cols
    · obtain ⟨hdiv, hmod⟩ : (n * cols + c) / cols = n ∧ (n * cols + c) % cols < cols :=
        (div_mod_row (Nat.le_refl cols) _ n).mpr ⟨by omega, by omega⟩
      rw [if_pos hc, if_pos ⟨by omega, by omega⟩, Nat.add_assoc, Nat.add_sub_cancel_left, hdiv,
        Nat.mul_add_mod_of_lt hc]
    · rw [if_neg hc, if_neg (by omega)]

/-- Putting back the next row puts back one row more. -/
theorem scatter_succ (hc : cols ≤ stride) (n : Nat) :
    (block (n * stride) (memory.extract (offset + n * cols) (offset + (n + 1) * cols))).after
        (scatter memory stride cols offset n)
      = scatter memory stride cols offset (n + 1) := by
  refine ext fun j => ?_
  have hn : offset + (n + 1) * cols = offset + n * cols + cols := by rw [Nat.succ_mul]; omega
  have hrow := div_mod_row hc j n
  unfold after block scatter
  rw [hn]
  by_cases h : j / stride = n ∧ j % stride < cols
  · obtain ⟨h1, h2⟩ := hrow.mp h
    obtain ⟨c, rfl⟩ := Nat.exists_eq_add_of_le h1
    have hcc : c < cols := by omega
    -- a cell of the new row: the rows before it have left it alone
    rw [if_pos h1, Nat.add_sub_cancel_left, getElem?_extract_add, if_pos hcc, h.1,
      if_neg (fun hl => Nat.lt_irrefl _ hl.1), if_pos ⟨Nat.lt_succ_self n, h.2⟩, Option.or_none,
      Nat.mul_add_mod_of_lt (by omega)]
  · have hblock : (if n * stride ≤ j then
        (memory.extract (offset + n * cols) (offset + n * cols + cols))[j - n * stride]?
        else none) = none := by
      by_cases h1 : n * stride ≤ j
      · rw [if_pos h1, getElem?_extract_add, if_neg fun h2 => h (hrow.mpr ⟨h1, by omega⟩)]
      · rw [if_neg h1]
    rw [hblock, Option.none_or]
    by_cases h2 : j / stride < n ∧ j % stride < cols
    · rw [if_pos h2, if_pos ⟨by omega, h2.2⟩]
    · rw [if_neg h2, if_neg (by omega)]

/-- A cell of the packed tile, wherever it is packed. -/
theorem gather_cell {rows r c : Nat} (hr : r < rows) (hc : c < cols) :
    gather b stride cols offset rows (offset + r * cols + c) = b[r * stride + c]? := by
  have hend : r * cols + cols ≤ rows * cols := row_end_le hr
  obtain ⟨hdiv, -⟩ := (div_mod_row (Nat.le_refl cols) (r * cols + c) r).mpr ⟨by omega, by omega⟩
  unfold gather
  rw [if_pos ⟨by omega, by omega⟩, Nat.add_assoc, Nat.add_sub_cancel_left, hdiv,
    Nat.mul_add_mod_of_lt hc]

/-- A cell of a tile that is packed at the start of the memory. -/
theorem gather_at {rows r c : Nat} (hr : r < rows) (hc : c < cols) :
    gather b stride cols 0 rows (r * cols + c) = b[r * stride + c]? := by
  have hcell : gather b stride cols 0 rows (0 + r * cols + c) = _ := gather_cell hr hc
  rwa [Nat.zero_add] at hcell

theorem gather_outside {rows j : Nat} (h : j < offset ∨ offset + rows * cols ≤ j) :
    gather b stride cols offset rows j = none :=
  if_neg (by omega)

/-- A cell of the matrix that the tile covers. -/
theorem scatter_at {rows r c : Nat} (hcs : cols ≤ stride) (hr : r < rows) (hc : c < cols) :
    scatter memory stride cols 0 rows (r * stride + c) = memory[r * cols + c]? := by
  obtain ⟨hdiv, -⟩ := (div_mod_row hcs (r * stride + c) r).mpr ⟨by omega, by omega⟩
  have hmod : (r * stride + c) % stride = c := Nat.mul_add_mod_of_lt (by omega)
  unfold scatter
  rw [hdiv, hmod, if_pos ⟨hr, hc⟩, Nat.zero_add]

/-- All other cells of the matrix. -/
theorem scatter_outside {rows j : Nat}
    (h : ∀ r < rows, ∀ c < cols, j ≠ r * stride + c) :
    scatter memory stride cols offset rows j = none := by
  unfold scatter
  rw [if_neg]
  rintro ⟨hr, hc⟩
  have hj := Nat.div_add_mod j stride
  rw [Nat.mul_comm stride] at hj
  exact h _ hr _ hc hj.symm

/-- Tiles of equal lengths cover each other. -/
theorem scatter_after_scatter {memory' : Array Single} (hs : memory'.size = memory.size)
    (rows : Nat) :
    (scatter memory' stride cols offset rows).after (scatter memory stride cols offset rows)
      = scatter memory' stride cols offset rows := by
  refine ext fun j => ?_
  unfold after scatter
  by_cases h : j / stride < rows ∧ j % stride < cols
  · rw [if_pos h, if_pos h]
    rcases Nat.lt_or_ge (offset + j / stride * cols + j % stride) memory'.size with hm | hm
    · rw [Array.getElem?_eq_getElem hm]; rfl
    · rw [Array.getElem?_eq_none hm, Array.getElem?_eq_none (by omega)]; rfl
  · rw [if_neg h, if_neg h]; rfl

/-- Puts the first rows back one after the other, whatever their distance. -/
def stored (memory : Array Single) (stride cols offset : Nat) : (rows : Nat) → Patch
  | 0 => empty
  | n + 1 => (block (n * stride) (memory.extract (offset + n * cols) (offset + (n + 1) * cols))).after
      (stored memory stride cols offset n)

/-- Rows that do not overlap are put back cell by cell. -/
theorem stored_eq_scatter (hc : cols ≤ stride) (rows : Nat) :
    stored memory stride cols offset rows = scatter memory stride cols offset rows := by
  induction rows with
  | zero => exact scatter_zero.symm
  | succ n ih => rw [stored, ih, scatter_succ hc]

end Patch

/-! ## Copies -/

/-- Cells that cannot be counted are in some row. -/
theorem Extent.one_le_rows_of_not_fits {e : Extent} (h : ¬e.Fits) : 1 ≤ e.rows := by
  refine Nat.one_le_iff_ne_zero.mpr fun h0 => h ?_
  unfold Fits
  rw [h0, Nat.zero_mul]
  decide

/-- How far rows that are `stride` apart reach into a buffer. -/
def Extent.reach (e : Extent) (stride : Nat) : Nat := (e.rows - 1) * stride + e.cols

/-- The last row is the one that has to fit. -/
theorem Extent.reach_le_iff {e : Extent} {stride n : Nat} (hr : 1 ≤ e.rows) :
    e.reach stride ≤ n ↔ ∀ row, row < e.rows → row * stride + e.cols ≤ n := by
  unfold reach
  constructor
  · intro h row hrow
    have := Nat.mul_le_mul_right stride (show row ≤ e.rows - 1 by omega)
    omega
  · intro h
    exact h (e.rows - 1) (by omega)

/-- Packed rows fit if the last of them does. -/
theorem Extent.packed_le_iff {e : Extent} {offset n : Nat} (hr : 1 ≤ e.rows) :
    offset + e.rows * e.cols ≤ n ↔ ∀ row, row < e.rows → offset + row * e.cols + e.cols ≤ n := by
  constructor
  · intro h row hrow
    have hend : row * e.cols + e.cols ≤ e.rows * e.cols := row_end_le hrow
    omega
  · intro h
    have hlast := h (e.rows - 1) (by omega)
    rw [Nat.add_assoc, ← Nat.succ_mul, show (e.rows - 1).succ = e.rows by omega] at hlast
    exact hlast

/-- The fault of a row that does not fit a buffer of the given length. -/
def Extent.rowFault? (e : Extent) (index stride length row : Nat) : Option Fault :=
  if row * stride + e.cols > length then
    some (.outOfBounds index (row * stride) (Size.wrap (row * stride + e.cols)) length)
  else none

/-- The fault of a packed row that does not fit the threadgroup memory. -/
def Extent.packedFault? (e : Extent) (offset length row : Nat) : Option Fault :=
  if offset + row * e.cols + e.cols > length then
    some (.threadgroupOutOfBounds (offset + row * e.cols)
      (Size.wrap (offset + row * e.cols + e.cols)) length)
  else none

/-- What stops the copy back of a row: that it does not fit the buffer, or that it takes more cells
than were counted. -/
def Extent.rowStop? (e : Extent) (index stride length row : Nat) : Option Stop :=
  ((e.rowFault? index stride length row).map .fault).or
    (if (row + 1) * e.cols > e.size then some .emptyTile else none)

theorem Extent.rowFault?_eq_none_iff {e : Extent} {index stride length row : Nat} :
    e.rowFault? index stride length row = none ↔ row * stride + e.cols ≤ length := by
  unfold rowFault?
  split
  · exact ⟨nofun, fun h => by omega⟩
  · exact ⟨fun _ => by omega, fun _ => rfl⟩

theorem Extent.packedFault?_eq_none_iff {e : Extent} {offset length row : Nat} :
    e.packedFault? offset length row = none ↔ offset + row * e.cols + e.cols ≤ length := by
  unfold packedFault?
  split
  · exact ⟨nofun, fun h => by omega⟩
  · exact ⟨fun _ => by omega, fun _ => rfl⟩

theorem Extent.rowStop?_eq_none_iff {e : Extent} {index stride length row : Nat} :
    e.rowStop? index stride length row = none ↔
      row * stride + e.cols ≤ length ∧ (row + 1) * e.cols ≤ e.size := by
  unfold rowStop?
  rw [Option.or_eq_none_iff, Option.map_eq_none_iff, rowFault?_eq_none_iff]
  refine and_congr_right fun _ => ?_
  split
  · exact ⟨nofun, fun h => by omega⟩
  · exact ⟨fun _ => by omega, fun _ => rfl⟩

theorem Extent.rowStop?_eq_fault_iff {e : Extent} {index stride length row : Nat} {f : Fault} :
    e.rowStop? index stride length row = some (.fault f) ↔
      e.rowFault? index stride length row = some f := by
  unfold rowStop?
  cases e.rowFault? index stride length row with
  | none => rw [Option.map_none, Option.none_or]; split <;> simp
  | some f' => simp

theorem Extent.rowStop?_eq_emptyTile_iff {e : Extent} {index stride length row : Nat} :
    e.rowStop? index stride length row = some .emptyTile ↔
      row * stride + e.cols ≤ length ∧ e.size < (row + 1) * e.cols := by
  have hfit : e.rowFault? index stride length row = none ↔ _ := rowFault?_eq_none_iff
  rw [← hfit]
  unfold rowStop?
  cases e.rowFault? index stride length row with
  | none => rw [Option.map_none, Option.none_or]; split <;> simp_all
  | some f => simp

/-- Where the cells can be counted, only the buffer can stop a row. -/
theorem Extent.rowStop?_of_fits {e : Extent} (h : e.Fits) {row : Nat} (hrow : row < e.rows)
    (index stride length : Nat) :
    e.rowStop? index stride length row = (e.rowFault? index stride length row).map .fault := by
  unfold rowStop?
  rw [if_neg (Nat.not_lt.mpr (row_end_le_size h hrow)), Option.or_none]

namespace GroupM

variable {s : GroupState} {b : Array Single} {e : Extent} {stride offset : Nat}

/-- Packed memory with the first rows in place. -/
def packed (s : GroupState) (b : Array Single) (e : Extent) (stride offset row : Nat) :
    GroupState :=
  { s with threadgroup := (Patch.gather b stride e.cols offset row).apply s.threadgroup }

theorem packed_zero (s : GroupState) (b : Array Single) (e : Extent) (stride offset : Nat) :
    packed s b e stride offset 0 = s := by
  unfold packed
  rw [Patch.gather_zero, Patch.apply_empty]

/-- Copying one row in. The buffer is looked at first. -/
theorem eval_row_in {source : Nat} (hb : s.buffers.get? source = some b) (row : Nat) :
    (copyIn source (row * stride) e.cols (offset + row * e.cols)).eval
        (packed s b e stride offset row) =
      match ((e.rowFault? source stride b.size row).or
          (e.packedFault? offset s.threadgroup.size row)).map .fault with
      | none => (.ok (), packed s b e stride offset (row + 1))
      | some stop => (.error stop, packed s b e stride offset row) := by
  rw [eval_copyIn]
  unfold packed Extent.rowFault? Extent.packedFault?
  dsimp only
  rw [hb, Patch.size_apply]
  dsimp only
  split
  · rfl
  · split
    · rfl
    · rw [← Patch.apply_after, Patch.gather_succ]
      rfl

/-- **A copy of a tile copies all rows, or those in front of the first that does not fit.** -/
theorem copyTileIn_cases {source : Nat} (hb : s.buffers.get? source = some b) (stride : Nat)
    (e : Extent) (offset : Nat) :
    ((∀ row < e.rows, row * stride + e.cols ≤ b.size ∧
        offset + row * e.cols + e.cols ≤ s.threadgroup.size) ∧
      (copyTileIn source stride e offset).eval s =
        (.ok (), packed s b e stride offset e.rows)) ∨
    ∃ row f, row < e.rows ∧
      (∀ row' < row, row' * stride + e.cols ≤ b.size ∧
        offset + row' * e.cols + e.cols ≤ s.threadgroup.size) ∧
      (e.rowFault? source stride b.size row).or (e.packedFault? offset s.threadgroup.size row) =
        some f ∧
      (copyTileIn source stride e offset).eval s =
        (.error (.fault f), packed s b e stride offset row) := by
  have hcases := forBelow_cases e.rows (packed s b e stride offset) _ fun row _ _ =>
    eval_row_in hb row
  simp only [Option.map_eq_none_iff, Option.or_eq_none_iff, Extent.rowFault?_eq_none_iff,
    Extent.packedFault?_eq_none_iff, packed_zero] at hcases
  rcases hcases with hall | ⟨row, stop, hrow, hbefore, hstop, hrun⟩
  · exact .inl hall
  · obtain ⟨f, hf, rfl⟩ := Option.map_eq_some_iff.mp hstop
    exact .inr ⟨row, f, hrow, hbefore, hf, hrun⟩

theorem eval_copyTileIn {source : Nat} (hb : s.buffers.get? source = some b)
    (hr : 1 ≤ e.rows) (hfit : e.reach stride ≤ b.size)
    (ht : offset + e.rows * e.cols ≤ s.threadgroup.size) :
    (copyTileIn source stride e offset).eval s = (.ok (), { s with
      threadgroup := (Patch.gather b stride e.cols offset e.rows).apply s.threadgroup }) := by
  rcases copyTileIn_cases hb stride e offset with ⟨-, h⟩ | ⟨row, f, hrow, -, hfault, -⟩
  · exact h
  · rw [Extent.rowFault?_eq_none_iff.mpr ((Extent.reach_le_iff hr).mp hfit row hrow),
      Extent.packedFault?_eq_none_iff.mpr ((Extent.packed_le_iff hr).mp ht row hrow)] at hfault
    cases hfault

/-- A copy of rows out of no buffer stops at the first. -/
theorem copyTileIn_of_unbound {source : Nat} (hb : s.buffers.get? source = none)
    (hr : 1 ≤ e.rows) (stride offset : Nat) :
    (copyTileIn source stride e offset).eval s =
      (.error (.fault (.missingBinding source)), s) := by
  obtain ⟨rows, hrows⟩ := Nat.exists_eq_succ_of_ne_zero (Nat.one_le_iff_ne_zero.mp hr)
  unfold copyTileIn forBelow
  rw [hrows, forFrom_succ]
  refine eval_bind_of_error ?_
  rw [eval_copyIn, hb]

/-- A copy of a tile that is not all there stops. -/
theorem stops_copyTileIn {source : Nat} (hr : 1 ≤ e.rows)
    (h : ¬ ∃ b, s.buffers.get? source = some b ∧ e.reach stride ≤ b.size) :
    Stops (copyTileIn source stride e offset) s := by
  cases hb : s.buffers.get? source with
  | none => exact ⟨_, _, copyTileIn_of_unbound hb hr stride offset⟩
  | some b =>
    rcases copyTileIn_cases hb stride e offset with ⟨hall, -⟩ | ⟨row, f, -, -, -, hrun⟩
    · exact absurd ⟨b, hb, (Extent.reach_le_iff hr).mpr fun row hrow => (hall row hrow).1⟩ h
    · exact ⟨f, _, hrun⟩

/-- Cells that cannot be counted are not copied into memory whose elements can: the copy stops. -/
theorem stops_copyTileIn_of_not_fits (he : ¬e.Fits) (hs : s.threadgroup.size < Size.limit)
    (source stride offset : Nat) : Stops (copyTileIn source stride e offset) s := by
  have hr := Extent.one_le_rows_of_not_fits he
  cases hb : s.buffers.get? source with
  | none => exact ⟨_, _, copyTileIn_of_unbound hb hr stride offset⟩
  | some b =>
    rcases copyTileIn_cases hb stride e offset with ⟨hall, -⟩ | ⟨row, f, -, -, -, hrun⟩
    · -- a copy that gets through has found room for every cell
      have hroom := (Extent.packed_le_iff hr).mpr fun row hrow => (hall row hrow).2
      refine absurd ?_ he
      unfold Extent.Fits
      omega
    · exact ⟨f, _, hrun⟩

/-- A fault of a copy in is about the buffer, or about memory that ends in a row which the buffer
still has. -/
theorem code_of_copyTileIn (hr : 1 ≤ e.rows) {source : Nat} {f : Fault} {s' : GroupState}
    (h : (copyTileIn source stride e offset).eval s = (.error (.fault f), s')) :
    f.code ≤ 3 ∧ (f.code = 3 ↔ ∃ b row, s.buffers.get? source = some b ∧ row < e.rows ∧
      s.threadgroup.size < offset + (row + 1) * e.cols ∧
      ∀ row' ≤ row, row' * stride + e.cols ≤ b.size) := by
  cases hb : s.buffers.get? source with
  | none =>
    rw [copyTileIn_of_unbound hb hr] at h
    cases h
    exact ⟨by simp only [Fault.code]; omega, nofun, fun ⟨_, _, h, _⟩ => nomatch h⟩
  | some b =>
    rcases copyTileIn_cases hb stride e offset with
      ⟨-, hrun⟩ | ⟨row, f', hrow, hbefore, hfault, hrun⟩
    · rw [hrun] at h
      cases h
    · rw [hrun] at h
      cases h
      rcases Option.or_eq_some_iff.mp hfault with hbuffer | ⟨hfit, hmemory⟩
      · unfold Extent.rowFault? at hbuffer
        split at hbuffer <;> cases hbuffer
        rename_i hbeyond
        refine ⟨by simp only [Fault.code]; omega, nofun, ?_⟩
        rintro ⟨_, row', ⟨⟩, -, hend, hrows⟩
        -- the memory cannot end in front of the row that the buffer does not have
        rcases Nat.lt_or_ge row' row with hlt | hge
        · have := (hbefore row' hlt).2
          rw [Nat.succ_mul] at hend
          omega
        · exact absurd (hrows row hge) (Nat.not_le.mpr hbeyond)
      · unfold Extent.packedFault? at hmemory
        split at hmemory <;> cases hmemory
        rename_i hend
        refine ⟨by simp only [Fault.code]; omega,
          iff_of_true rfl ⟨b, row, rfl, hrow, ?_, fun row' hrow' => ?_⟩⟩
        · rw [Nat.succ_mul]
          omega
        · rcases Nat.eq_or_lt_of_le hrow' with rfl | hlt
          · exact Extent.rowFault?_eq_none_iff.mp hfit
          · exact (hbefore row' hlt).1

/-- The buffers with the first rows put back. -/
def restored (s : GroupState) (target stride : Nat) (e : Extent) (offset row : Nat) :
    GroupState :=
  { s with
    buffers := s.buffers.patch target (.stored s.threadgroup stride e.cols offset row) }

theorem restored_zero (s : GroupState) (target stride : Nat) (e : Extent) (offset : Nat) :
    restored s target stride e offset 0 = s := by
  unfold restored
  rw [Patch.stored, BufferTable.patch_empty]

/-- One row of a copy back, into a buffer of the given length. -/
def rowOut (s : GroupState) (target stride : Nat) (e : Extent) (offset length row : Nat) :
    GroupM Unit := do
  let start := row * stride
  if start + e.cols > length then
    fault (.outOfBounds target start (Size.wrap (start + e.cols)) length)
  if (row + 1) * e.cols > e.size then throw .emptyTile
  let values := s.threadgroup.extract (offset + row * e.cols) (offset + (row + 1) * e.cols)
  modify fun s => { s with buffers := s.buffers.update target fun b => overwrite b start values }

theorem eval_rowOut (target length row : Nat) :
    (rowOut s target stride e offset length row).eval (restored s target stride e offset row) =
      match e.rowStop? target stride length row with
      | none => (.ok (), restored s target stride e offset (row + 1))
      | some stop => (.error stop, restored s target stride e offset row) := by
  unfold rowOut Extent.rowStop? Extent.rowFault?
  dsimp only
  by_cases hl : row * stride + e.cols > length
  · rw [if_pos hl, if_pos hl, eval_bind_of_error (eval_fault _)]
    rfl
  · rw [if_neg hl, if_neg hl, Option.map_none, Option.none_or]
    by_cases hcut : (row + 1) * e.cols > e.size
    · rw [if_pos hcut, if_pos hcut, eval_bind_of_error (eval_throw _)]
    · rw [if_neg hcut, if_neg hcut, eval_modify]
      unfold restored
      rw [Patch.stored, ← BufferTable.patch_patch]
      unfold BufferTable.patch
      rw [funext fun b => Patch.overwrite_eq_apply (b := b) _ _]

/-- A copy back is its rows, after two checks. -/
theorem eval_copyTileOut_of_fit {target : Nat} (hb : s.buffers.get? target = some b)
    (ht : offset + e.size ≤ s.threadgroup.size) :
    (copyTileOut target stride e offset).eval s =
      (forBelow e.rows (rowOut s target stride e offset b.size)).eval s := by
  unfold copyTileOut
  rw [eval_bind_of_ok eval_get, if_neg (by omega)]
  have hbuf : (buffer target).eval s = (.ok b, s) := by rw [eval_buffer, hb]
  rw [eval_bind_of_ok hbuf]
  rfl

theorem copyTileOut_of_short (target stride : Nat) (ht : ¬offset + e.size ≤ s.threadgroup.size) :
    (copyTileOut target stride e offset).eval s =
      (.error (.fault
        (.threadgroupOutOfBounds offset (Size.wrap (offset + e.size)) s.threadgroup.size)), s) := by
  unfold copyTileOut
  rw [eval_bind_of_ok eval_get, if_pos (by omega), eval_bind_of_error (eval_fault _)]

theorem copyTileOut_of_unbound {target : Nat} (ht : offset + e.size ≤ s.threadgroup.size)
    (hb : s.buffers.get? target = none) (stride : Nat) :
    (copyTileOut target stride e offset).eval s =
      (.error (.fault (.missingBinding target)), s) := by
  unfold copyTileOut
  rw [eval_bind_of_ok eval_get, if_neg (by omega)]
  refine eval_bind_of_error ?_
  rw [eval_buffer, hb]

/-- **Copying a tile back puts back all rows, or those in front of the first that stops it.** -/
theorem copyTileOut_cases {target : Nat} (hb : s.buffers.get? target = some b) (stride : Nat)
    (ht : offset + e.size ≤ s.threadgroup.size) :
    ((∀ row, row < e.rows → row * stride + e.cols ≤ b.size ∧ (row + 1) * e.cols ≤ e.size) ∧
      (copyTileOut target stride e offset).eval s =
        (.ok (), restored s target stride e offset e.rows)) ∨
    ∃ row stop, row < e.rows ∧
      (∀ row', row' < row → row' * stride + e.cols ≤ b.size ∧ (row' + 1) * e.cols ≤ e.size) ∧
      e.rowStop? target stride b.size row = some stop ∧
      (copyTileOut target stride e offset).eval s =
        (.error stop, restored s target stride e offset row) := by
  have hcases := forBelow_cases e.rows (restored s target stride e offset) _
    fun row _ _ => eval_rowOut target b.size row
  rw [restored_zero] at hcases
  rw [eval_copyTileOut_of_fit hb ht]
  simpa only [Extent.rowStop?_eq_none_iff] using hcases

theorem eval_copyTileOut {target : Nat} (hb : s.buffers.get? target = some b)
    (hc : e.cols ≤ stride) (hr : 1 ≤ e.rows) (he : e.Fits) (hfit : e.reach stride ≤ b.size)
    (ht : offset + e.size ≤ s.threadgroup.size) :
    (copyTileOut target stride e offset).eval s = (.ok (), { s with
      buffers := s.buffers.patch target
        (.scatter s.threadgroup stride e.cols offset e.rows) }) := by
  rcases copyTileOut_cases hb stride ht with ⟨-, h⟩ | ⟨row, stop, hrow, -, hstop, -⟩
  · rw [h, restored, Patch.stored_eq_scatter hc]
  · rw [Extent.rowStop?_of_fits he hrow,
      Extent.rowFault?_eq_none_iff.mpr ((Extent.reach_le_iff hr).mp hfit row hrow)] at hstop
    cases hstop

/-- Copying a tile back into a buffer that is too short stops. -/
theorem stops_copyTileOut {target : Nat} (hr : 1 ≤ e.rows) (he : e.Fits)
    (ht : offset + e.size ≤ s.threadgroup.size)
    (h : ¬ ∃ b, s.buffers.get? target = some b ∧ e.reach stride ≤ b.size) :
    Stops (copyTileOut target stride e offset) s := by
  cases hb : s.buffers.get? target with
  | none => exact ⟨_, _, copyTileOut_of_unbound ht hb stride⟩
  | some b =>
    rcases copyTileOut_cases hb stride ht with ⟨hall, -⟩ | ⟨row, stop, hrow, -, hstop, hrun⟩
    · exact absurd ⟨b, hb, (Extent.reach_le_iff hr).mpr fun row hrow => (hall row hrow).1⟩ h
    · rw [Extent.rowStop?_of_fits he hrow] at hstop
      obtain ⟨f, -, rfl⟩ := Option.map_eq_some_iff.mp hstop
      exact ⟨f, _, hrun⟩

end GroupM

/-! ## Lanes at work on a tile -/

theorem simdLane_lt (lane : Nat) : simdLane lane < simdWidth := Nat.mod_lt _ (by decide)

theorem simdLane_of_lt {lane : Nat} (h : lane < simdWidth) : simdLane lane = lane :=
  Nat.mod_eq_of_lt h

namespace TileScaling

variable {f : TileScaling} {memory : Array Single}

/-- The threadgroup memory after the first `lanes` lanes. -/
def run (f : TileScaling) (memory : Array Single) : (lanes : Nat) → Array Single
  | 0 => memory
  | lanes + 1 => f.apply (f.run memory lanes) (simdLane lanes)

/-- How many of the first `lanes` lanes scale the element at `k`. -/
def times (f : TileScaling) (lanes k : Nat) : Nat :=
  if k < f.lanes then Nat.count (fun lane => simdLane lane = k) lanes else 0

theorem run_succ (lanes : Nat) :
    f.run memory (lanes + 1) = f.apply (f.run memory lanes) (simdLane lanes) := rfl

@[simp] theorem size_run (lanes : Nat) : (f.run memory lanes).size = memory.size := by
  induction lanes with
  | zero => rfl
  | succ lanes ih => rw [run_succ, size_apply, ih]

theorem getElem?_apply (lane k : Nat) : (f.apply memory lane)[k]? =
    if lane = k ∧ k < f.lanes then memory[k]?.map (· * f.scale) else memory[k]? := by
  unfold apply
  by_cases hl : lane < f.lanes
  · rw [if_pos hl, Array.getElem?_modify]
    by_cases hk : lane = k
    · subst hk
      rw [if_pos rfl, if_pos ⟨rfl, hl⟩]
    · rw [if_neg hk, if_neg fun h => hk h.1]
  · rw [if_neg hl, if_neg (by omega)]

/-- **An element is scaled once by each lane at its position.** -/
theorem getElem?_run (lanes k : Nat) :
    (f.run memory lanes)[k]? = memory[k]?.map (· * f.scale)^[f.times lanes k] := by
  induction lanes with
  | zero =>
    have h0 : f.times 0 k = 0 := by
      unfold times
      rw [Nat.count_zero, ite_self]
    rw [h0, Function.iterate_zero, Option.map_id]; rfl
  | succ lanes ih =>
    rw [run_succ, getElem?_apply, ih]
    unfold times
    rw [Nat.count_succ]
    by_cases hk : k < f.lanes
    · rw [if_pos hk, if_pos hk]
      by_cases hl : simdLane lanes = k
      · rw [if_pos ⟨hl, hk⟩, if_pos hl, Function.iterate_succ', Option.map_map]
      · rw [if_neg fun h => hl h.1, if_neg hl, Nat.add_zero]
    · rw [if_neg hk, if_neg hk, if_neg fun h => hk h.2]

/-- Among lanes that all advance together, each position is that of one lane. -/
theorem times_eq_one {lanes k : Nat} (hk : k < f.lanes) (hl : k < lanes) (hw : lanes ≤ simdWidth) :
    f.times lanes k = 1 := by
  unfold times
  rw [if_pos hk, Nat.count_eq_card_filter_range]
  refine Finset.card_eq_one.mpr ⟨k, Finset.ext fun lane => ?_⟩
  rw [Finset.mem_filter, Finset.mem_range, Finset.mem_singleton]
  constructor
  · rintro ⟨hlane, hpos⟩
    rwa [simdLane_of_lt (by omega)] at hpos
  · rintro rfl
    exact ⟨hl, simdLane_of_lt (by omega)⟩

/-- No lane is at a position past those that advance together. -/
theorem times_eq_zero {k : Nat} (lanes : Nat) (hk : simdWidth ≤ k) : f.times lanes k = 0 := by
  have hcount : Nat.count (fun lane => simdLane lane = k) lanes = 0 := by
    rw [Nat.count_iff_forall_not]
    intro lane _ hpos
    have := simdLane_lt lane
    omega
  unfold times
  rw [hcount, ite_self]

end TileScaling

/-- The lanes of a group, one after the other, through a linked tile function. -/
theorem GroupM.eval_callTile_lanes {linked : Linked} {callee : String} {f : TileScaling}
    (hf : linked.find? callee = some (.tile f)) (s : GroupState) (lanes : Nat) :
    (forBelow lanes fun lane => callTile linked callee (simdLane lane)).eval s
      = (.ok (), { s with threadgroup := f.run s.threadgroup lanes }) := by
  refine eval_forBelow lanes _ (fun lane => { s with threadgroup := f.run s.threadgroup lane })
    fun lane _ => ?_
  rw [eval_callTile, hf, TileScaling.run_succ]

end KernelLink
