import KernelLink.Proofs.Exec.Relates
import KernelLink.Proofs.Exec.Sound

/-!
# Every access is in range

A run reads staged elements, cuts packed rows out of threadgroup memory and lets functions write at
a thread's own position, and in each of these places it takes for granted that there is something.
Here the same run demands it: an access that is out of range leaves the run without any result, as a
division by zero does. The demands turn out to change nothing. A group starts with as much
threadgroup memory as its kernel asks for and no step changes how much that is, so no access of any
kernel is ever out of range.

The copies take for granted, too, that sums and products of sizes are those of numbers. Told with
sizes that wrap round they are the same copies on every memory that there can be.
-/

namespace KernelLink

namespace GroupM

/-- Goes on if an access is in range. -/
def demand (p : Prop) [Decidable p] : GroupM Unit := if p then pure () else throw .emptyTile

/-- `copyTileOut`, with the demand that each row is there to be cut out. -/
def strictCopyTileOut (target stride : Nat) (e : Extent) (offset : Nat) : GroupM Unit := do
  let memory := (← get).threadgroup
  if offset + e.size > memory.size then
    fault (.threadgroupOutOfBounds offset (Size.wrap (offset + e.size)) memory.size)
  let length := (← buffer target).size
  forBelow e.rows fun row => do
    let start := row * stride
    if start + e.cols > length then
      fault (.outOfBounds target start (Size.wrap (start + e.cols)) length)
    if (row + 1) * e.cols > e.size then throw .emptyTile
    demand (offset + (row + 1) * e.cols ≤ memory.size)
    let values := memory.extract (offset + row * e.cols) (offset + (row + 1) * e.cols)
    modify fun s => { s with buffers := s.buffers.update target fun b => overwrite b start values }

/-- `callPairTile`, with the demand that memory can be cut at `split` and that the function finds an
element to write. -/
def strictCallPairTile (linked : Linked) (name : String) (split output thread lane : Nat) :
    GroupM Unit := do
  match ← callable linked name with
  | .pairTile f =>
    let memory := (← get).threadgroup
    if split > memory.size then
      fault (.threadgroupOutOfBounds 0 split memory.size)
    let c ← buffer output
    if thread ≥ c.size then
      fault (.outOfBounds output thread (Size.wrap (thread + 1)) c.size)
    demand (split ≤ memory.size ∧ thread < c.size)
    let a := memory.extract 0 split
    let b := memory.extract split memory.size
    modify fun s => { s with buffers := s.buffers.update output fun c => f.apply a b c thread lane }
  | _ => fault (.callingConvention name .pairTile)

end GroupM

/-- `run`, with the demand that everything that is accessed is there. -/
def Kernel.strictRun (k : Kernel) (g : GroupShape) (linked : Linked) : GroupM Unit :=
  match k with
  | stagedUnary _ tile op => do
    if tile = 0 then throw .emptyTile
    GroupM.copyIn 0 (tileBase g tile) tile 0
    GroupM.forBelow g.lanes fun lane => do
      let memory := (← get).threadgroup
      GroupM.demand (simdLane lane % tile < memory.size)
      let staged := (memory[simdLane lane % tile]?).getD .zero
      GroupM.write 1 (g.threadPosition lane) (← applyOp linked op staged)
  | tileRoundtrip _ geometry callee => do
    let extent : Extent := ⟨geometry.rows, geometry.tileCols⟩
    GroupM.copyTileIn 0 geometry.cols extent 0
    GroupM.forBelow g.lanes fun lane => GroupM.callTile linked callee (simdLane lane)
    GroupM.strictCopyTileOut 1 geometry.cols extent 0
  | pairedTiles _ tile callee => do
    if tile = 0 then throw .emptyTile
    GroupM.copyIn 0 (tileBase g tile) tile 0
    GroupM.copyIn 1 (tileBase g tile) tile tile
    GroupM.forBelow g.lanes fun lane =>
      GroupM.strictCallPairTile linked callee tile 2 (g.threadPosition lane) (simdLane lane % tile)

namespace GroupM

variable {α β : Type} {n : Nat} {x : GroupM α}

/-- One state, with threadgroup memory of `n` elements. -/
def OneState (n : Nat) (s s' : GroupState) : Prop := s = s' ∧ s'.threadgroup.size = n

/-- A step without demands: it keeps the length of the memory. -/
theorem Relates.of_built (out : Nat) (h : Built out False x) : Relates (OneState n) x x := by
  rintro s _ ⟨rfl, hs⟩
  exact ⟨rfl, rfl, (h.keeps s).threadgroup.trans hs⟩

/-- A demand that is met. -/
theorem Relates.demand {R : GroupState → GroupState → Prop} {p : Prop} [Decidable p]
    {k : Unit → GroupM β} {z : GroupM β} (hp : p) (h : Relates R (k ()) z) :
    Relates R (GroupM.demand p >>= k) z := by
  have hmet : (GroupM.demand p >>= k) = k () := by
    unfold GroupM.demand
    rw [if_pos hp]
    rfl
  rw [hmet]
  exact h

/-! ## Operations with demands -/

theorem relates_strictCopyTileOut (target stride : Nat) (e : Extent) (offset : Nat) :
    Relates (OneState n) (strictCopyTileOut target stride e offset)
      (copyTileOut target stride e offset) := by
  refine Relates.get_bind ?_
  rintro s _ ⟨rfl, -⟩
  refine Relates.check fun hfits => ?_
  refine (Relates.of_built target (.buffer target)).bind fun b => ?_
  refine Relates.forBelow fun row _ => Relates.check fun _ => Relates.check fun hcut =>
    Relates.demand ?_ ?_
  · -- All counted cells are there, and the row is among them.
    omega
  · exact .of_built target (.store fun _ => Patch.size_overwrite _ _)

theorem relates_strictCallPairTile (linked : Linked) (name : String)
    (split output thread lane : Nat) :
    Relates (OneState n) (strictCallPairTile linked name split output thread lane)
      (callPairTile linked name split output thread lane) := by
  refine (Relates.of_built output (.callable linked name)).bind fun c => ?_
  cases c with
  | unary f => exact .stop _
  | tile f => exact .stop _
  | pairTile f =>
    refine Relates.get_bind ?_
    rintro s _ ⟨rfl, -⟩
    refine Relates.check fun hsplit => ?_
    refine (Relates.of_built output (.buffer output)).bind fun c => ?_
    refine Relates.check fun hthread => Relates.demand ⟨by omega, by omega⟩ ?_
    exact .of_built output (.store fun c => f.size_apply _ _ c thread lane)

end GroupM

namespace Kernel

open GroupM

theorem relates_strictRun (k : Kernel) (g : GroupShape) (linked : Linked) :
    Relates (OneState k.threadgroupLength) (k.strictRun g linked) (k.run g linked) := by
  cases k with
  | stagedUnary name tile op =>
    refine Relates.check fun htile => ?_
    refine (Relates.of_built 1 (.copyIn _ _ _ _)).bind fun _ => ?_
    refine Relates.forBelow fun lane _ => Relates.get_bind ?_
    rintro s _ ⟨rfl, hs⟩
    refine Relates.demand ?_ ?_
    · -- The memory is the tile, and a remainder is below what it was divided by.
      rw [hs]
      exact Nat.mod_lt _ (Nat.pos_of_ne_zero htile)
    · exact .of_built 1 ((built_applyOp 1 False linked op _).bind fun y => .write _ y)
  | tileRoundtrip name geometry callee =>
    refine (Relates.of_built 1 (.copyTileIn _ _ _ _)).bind fun _ => ?_
    refine Relates.bind (.forBelow fun lane _ => ?_) fun _ => relates_strictCopyTileOut _ _ _ _
    exact .of_built 1 (.callTile linked callee _)
  | pairedTiles name tile callee =>
    refine Relates.check fun htile => ?_
    refine (Relates.of_built 2 (.copyIn _ _ _ _)).bind fun _ => ?_
    refine (Relates.of_built 2 (.copyIn _ _ _ _)).bind fun _ => ?_
    exact .forBelow fun lane _ => relates_strictCallPairTile linked callee _ _ _ _

/-- **No access is out of range.** On the memory that the kernel asks for, demanding it of every
access changes nothing, however the group is shaped, bound and linked. -/
theorem eval_strictRun (k : Kernel) (g : GroupShape) (linked : Linked) {s : GroupState}
    (hs : s.threadgroup.size = k.threadgroupLength) :
    (k.strictRun g linked).eval s = (k.run g linked).eval s := by
  obtain ⟨hresult, hstate, -⟩ := k.relates_strictRun g linked s s ⟨rfl, hs⟩
  exact Prod.ext hresult hstate

end Kernel

/-! ## Sums and products as sizes -/

/-- What a memory can hold: no array is as long as half the sizes. -/
structure GroupState.Held (s : GroupState) : Prop where
  threadgroup : s.threadgroup.size < Size.limit / 2
  buffers : ∀ i b, s.buffers.get? i = some b → b.size < Size.limit / 2

namespace GroupM

/-- `copyIn`, with the ends of its ranges as sizes. -/
def sizedCopyIn (source start count offset : Nat) : GroupM Unit := do
  let b ← buffer source
  let stop := Size.wrap (start + count)
  if ¬Size.Within start stop b.size then
    fault (.outOfBounds source start stop b.size)
  let memory := (← get).threadgroup
  let memoryStop := Size.wrap (offset + count)
  if ¬Size.Within offset memoryStop memory.size then
    fault (.threadgroupOutOfBounds offset memoryStop memory.size)
  let values := b.extract start stop
  modify fun s => { s with threadgroup := overwrite s.threadgroup offset values }

/-- `copyTileIn`, with every sum and product as a size. -/
def sizedCopyTileIn (source stride : Nat) (e : Extent) (offset : Nat) : GroupM Unit :=
  forBelow e.rows fun row =>
    sizedCopyIn source (Size.wrap (row * stride)) e.cols
      (Size.wrap (offset + Size.wrap (row * e.cols)))

/-- A row of `sizedCopyTileOut`, cut out of the packed tile. -/
def sizedRowOut (tile : Array Single) (target stride : Nat) (e : Extent) (length row : Nat) :
    GroupM Unit := do
  let start := Size.wrap (row * stride)
  let stop := Size.wrap (start + e.cols)
  if ¬Size.Within start stop length then
    fault (.outOfBounds target start stop length)
  let first := Size.wrap (row * e.cols)
  let last := Size.wrap (Size.wrap (row + 1) * e.cols)
  if ¬Size.Within first last tile.size then throw .emptyTile
  let values := tile.extract first last
  modify fun s => { s with buffers := s.buffers.update target fun b => overwrite b start values }

/-- `copyTileOut`, with every sum and product as a size. -/
def sizedCopyTileOut (target stride : Nat) (e : Extent) (offset : Nat) : GroupM Unit := do
  let memory := (← get).threadgroup
  let stop := Size.wrap (offset + e.size)
  if ¬Size.Within offset stop memory.size then
    fault (.threadgroupOutOfBounds offset stop memory.size)
  let tile := memory.extract offset stop
  let length := (← buffer target).size
  forBelow e.rows fun row => sizedRowOut tile target stride e length row

variable {s : GroupState} {e : Extent} {stride offset : Nat}

/-- Two loops that take the same steps wherever they get to. -/
theorem eval_forBelow_congr {step step' : Nat → GroupM Unit} {count : Nat}
    (states : Nat → GroupState) (stopAt : Nat → Option Stop)
    (h : ∀ i, i < count → (∀ j, j < i → stopAt j = none) → (step i).eval (states i) =
      match stopAt i with
      | none => (.ok (), states (i + 1))
      | some stop => (.error stop, states i))
    (hsame : ∀ i, i < count → (∀ j, j < i → stopAt j = none) →
      (step' i).eval (states i) = (step i).eval (states i)) :
    (forBelow count step').eval (states 0) = (forBelow count step).eval (states 0) := by
  have hleft := forBelow_cases count states stopAt fun i hi hbefore =>
    (hsame i hi hbefore).trans (h i hi hbefore)
  rcases forBelow_cases count states stopAt h with
    ⟨hall, hrun⟩ | ⟨i, stop, hi, hbefore, hstop, hrun⟩
  · rcases hleft with ⟨-, hrun'⟩ | ⟨j, stop, hj, -, hstop, -⟩
    · rw [hrun, hrun']
    · rw [hall j hj] at hstop
      cases hstop
  · rcases hleft with ⟨hall, -⟩ | ⟨j, stop', hj, hbefore', hstop', hrun'⟩
    · rw [hall i hi] at hstop
      cases hstop
    · -- neither stops in front of the other
      rcases Nat.lt_trichotomy i j with hlt | rfl | hlt
      · rw [hbefore' i hlt] at hstop
        cases hstop
      · rw [hrun, hrun', Option.some.inj (hstop.symm.trans hstop')]
      · rw [hbefore j hlt] at hstop'
        cases hstop'

theorem eval_sizedCopyIn (hs : s.Held) (source : Nat) {start count : Nat}
    (hstart : start < Size.limit) (hcount : count < Size.limit) (hoffset : offset < Size.limit) :
    (sizedCopyIn source start count offset).eval s = (copyIn source start count offset).eval s := by
  unfold sizedCopyIn copyIn
  rw [eval_bind, eval_bind, eval_buffer]
  cases hb : s.buffers.get? source with
  | none => rfl
  | some b =>
    have hlength := hs.buffers source b hb
    have hmemory := hs.threadgroup
    have hin := Size.within_wrap_iff hstart hcount (show b.size < Size.limit by omega)
    have hroom := Size.within_wrap_iff hoffset hcount
      (show s.threadgroup.size < Size.limit by omega)
    dsimp only
    by_cases hfit : start + count ≤ b.size
    · rw [if_neg (not_not_intro (hin.mpr hfit)), if_neg (Nat.not_lt.mpr hfit),
        eval_bind_of_ok eval_get, eval_bind_of_ok eval_get,
        Size.wrap_of_lt (show start + count < Size.limit by omega)]
      by_cases hspace : offset + count ≤ s.threadgroup.size
      · rw [if_neg (not_not_intro (hroom.mpr hspace)), if_neg (Nat.not_lt.mpr hspace)]
      · rw [if_pos (mt hroom.mp hspace), if_pos (Nat.lt_of_not_le hspace)]
    · rw [if_pos (mt hin.mp hfit), if_pos (Nat.lt_of_not_le hfit), fault_bind, fault_bind]

/-- Behind rows that fit, the next one starts at a size. -/
theorem row_start_lt {row cols length : Nat} (hstride : stride < Size.limit)
    (hlength : length < Size.limit / 2) (hbefore : ∀ row' < row, row' * stride + cols ≤ length) :
    row * stride < Size.limit := by
  match row with
  | 0 => rw [Nat.zero_mul]; decide
  | 1 => rwa [Nat.one_mul]
  | row + 2 =>
    -- the row before has started in the buffer, and by no less than one stride
    have hlast := hbefore (row + 1) (by omega)
    have hnext : (row + 2) * stride = (row + 1) * stride + stride := Nat.succ_mul _ _
    have hstep : stride ≤ (row + 1) * stride := Nat.le_mul_of_pos_left _ (by omega)
    omega

theorem eval_sizedCopyTileIn (hs : s.Held) (source : Nat) (hcols : e.cols < Size.limit)
    (hstride : stride < Size.limit) (hoffset : offset < Size.limit) :
    (sizedCopyTileIn source stride e offset).eval s =
      (copyTileIn source stride e offset).eval s := by
  have hmemory := hs.threadgroup
  cases hb : s.buffers.get? source with
  | none =>
    refine eval_forBelow_congr (fun _ => s) (fun _ => some (.fault (.missingBinding source)))
      (fun row _ _ => by rw [eval_copyIn, hb]) fun row _ hbefore => ?_
    unfold sizedCopyIn copyIn
    rw [eval_bind, eval_bind, eval_buffer, hb]
  | some b =>
    have hlength := hs.buffers source b hb
    suffices h : (sizedCopyTileIn source stride e offset).eval (packed s b e stride offset 0) =
        (copyTileIn source stride e offset).eval (packed s b e stride offset 0) by
      rwa [packed_zero] at h
    -- a row is only reached behind rows that fit, and then it starts at a size on either side
    refine eval_forBelow_congr (packed s b e stride offset) _ (fun row _ _ => eval_row_in hb row)
      fun row _ hbefore => ?_
    simp only [Option.map_eq_none_iff, Option.or_eq_none_iff, Extent.rowFault?_eq_none_iff,
      Extent.packedFault?_eq_none_iff] at hbefore
    have hheld : (packed s b e stride offset row).Held := by
      refine ⟨?_, hs.buffers⟩
      unfold packed
      rwa [Patch.size_apply]
    have hstart : row * stride < Size.limit :=
      row_start_lt hstride hlength fun row' hrow' => (hbefore row' hrow').1
    have hplace : offset + row * e.cols < Size.limit := by
      match row with
      | 0 => rwa [Nat.zero_mul]
      | row + 1 =>
        have hlast := (hbefore row (Nat.lt_succ_self row)).2
        rw [Nat.succ_mul]
        omega
    rw [Size.wrap_of_lt hstart, Size.wrap_of_lt (show row * e.cols < Size.limit by omega),
      Size.wrap_of_lt hplace]
    exact eval_sizedCopyIn hheld source hstart hcols hplace

/-- Cutting a row out of the packed tile, or out of the memory that the tile is in. -/
theorem eval_sizedRowOut (hs : s.Held) {target : Nat} {b : Array Single}
    (hb : s.buffers.get? target = some b) (ht : offset + e.size ≤ s.threadgroup.size)
    (hrows : e.rows < Size.limit) (hcols : e.cols < Size.limit) (hstride : stride < Size.limit)
    {row : Nat} (hrow : row < e.rows)
    (hbefore : ∀ row' < row, row' * stride + e.cols ≤ b.size ∧ (row' + 1) * e.cols ≤ e.size) :
    sizedRowOut (s.threadgroup.extract offset (offset + e.size)) target stride e b.size row =
      rowOut s target stride e offset b.size row := by
  have hlength := hs.buffers target b hb
  have hsize : e.size < Size.limit := Size.wrap_lt _
  have hstart : row * stride < Size.limit :=
    row_start_lt hstride hlength fun row' hrow' => (hbefore row' hrow').1
  have hfirst : row * e.cols < Size.limit := by
    match row with
    | 0 => rw [Nat.zero_mul]; decide
    | row + 1 => exact Nat.lt_of_le_of_lt (hbefore row (Nat.lt_succ_self row)).2 hsize
  have hlast : (row + 1) * e.cols = row * e.cols + e.cols := Nat.succ_mul row e.cols
  have htile : (s.threadgroup.extract offset (offset + e.size)).size = e.size := by
    rw [Array.size_extract]
    omega
  have hin := Size.within_wrap_iff hstart hcols (show b.size < Size.limit by omega)
  have hcut := Size.within_wrap_iff hfirst hcols hsize
  unfold sizedRowOut rowOut
  dsimp only
  rw [Size.wrap_of_lt hstart, Size.wrap_of_lt hfirst,
    Size.wrap_of_lt (show row + 1 < Size.limit by omega), hlast, htile]
  by_cases hfit : row * stride + e.cols ≤ b.size
  · rw [if_neg (not_not_intro (hin.mpr hfit)), if_neg (Nat.not_lt.mpr hfit)]
    by_cases hcells : row * e.cols + e.cols ≤ e.size
    · rw [if_neg (not_not_intro (hcut.mpr hcells)), if_neg (Nat.not_lt.mpr hcells),
        Size.wrap_of_lt (show row * e.cols + e.cols < Size.limit by omega), Array.extract_extract,
        Nat.min_eq_left (by omega)]
    · rw [if_pos (mt hcut.mp hcells), if_pos (Nat.lt_of_not_le hcells), throw_bind, throw_bind]
  · rw [if_pos (mt hin.mp hfit), if_pos (Nat.lt_of_not_le hfit), fault_bind, fault_bind]

theorem eval_sizedCopyTileOut (hs : s.Held) (target : Nat) (hrows : e.rows < Size.limit)
    (hcols : e.cols < Size.limit) (hstride : stride < Size.limit) (hoffset : offset < Size.limit) :
    (sizedCopyTileOut target stride e offset).eval s =
      (copyTileOut target stride e offset).eval s := by
  have hmemory := hs.threadgroup
  have hroom := Size.within_wrap_iff hoffset (show e.size < Size.limit from Size.wrap_lt _)
    (show s.threadgroup.size < Size.limit by omega)
  unfold sizedCopyTileOut
  rw [eval_bind_of_ok eval_get]
  by_cases ht : offset + e.size ≤ s.threadgroup.size
  · rw [if_neg (not_not_intro (hroom.mpr ht)),
      Size.wrap_of_lt (show offset + e.size < Size.limit by omega)]
    cases hb : s.buffers.get? target with
    | none =>
      rw [copyTileOut_of_unbound ht hb]
      refine eval_bind_of_error ?_
      rw [eval_buffer, hb]
    | some b =>
      have hbuf : (buffer target).eval s = (.ok b, s) := by rw [eval_buffer, hb]
      rw [eval_copyTileOut_of_fit hb ht, eval_bind_of_ok hbuf]
      suffices h : (forBelow e.rows fun row => sizedRowOut
            (s.threadgroup.extract offset (offset + e.size)) target stride e b.size row).eval
            (restored s target stride e offset 0) =
          (forBelow e.rows fun row => rowOut s target stride e offset b.size row).eval
            (restored s target stride e offset 0) by
        rwa [restored_zero] at h
      refine eval_forBelow_congr (restored s target stride e offset) _
        (fun row _ _ => eval_rowOut target b.size row) fun row hrow hbefore => ?_
      simp only [Extent.rowStop?_eq_none_iff] at hbefore
      rw [eval_sizedRowOut hs hb ht hrows hcols hstride hrow hbefore]
  · rw [if_pos (mt hroom.mp ht), copyTileOut_of_short target stride ht,
      eval_bind_of_error (eval_fault _)]

end GroupM

end KernelLink
