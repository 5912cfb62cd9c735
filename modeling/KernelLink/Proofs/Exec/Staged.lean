import KernelLink.Proofs.Exec.Tiles

/-!
# Kernels that stage a tile and write one element per lane

Two of the kernels differ only in how many inputs they stage and in what they call. Both find the
tile that their group starts in, copy it from every input side by side into threadgroup memory, and
let each lane write one element of the output. `stage` and `laneStep` are the two parts of a run.

What a lane writes depends on the staged memory alone, never on what other lanes have written, and
the staged memory is filled completely by every group. So the lanes of a group need one invariant:
all elements below the current position have their values, and nothing else has changed.
-/

namespace KernelLink

/-- An element of a bound buffer. -/
def BufferTable.element (t : BufferTable) (i pos : Nat) : Single :=
  ((t.get? i).bind fun b => b[pos]?).getD .zero

theorem BufferTable.getElem?_eq_element {t : BufferTable} {i pos : Nat} {b : Array Single}
    (hb : t.get? i = some b) (hpos : pos < b.size) : b[pos]? = some (t.element i pos) := by
  unfold element
  rw [hb, Option.bind_some, Array.getElem?_eq_getElem hpos]; rfl

theorem Patch.block_before {start j : Nat} {values : Array Single} (h : j < start) :
    block start values j = none := if_neg (by omega)

theorem Patch.block_at (start j : Nat) (values : Array Single) :
    block start values (start + j) = values[j]? := by
  unfold block
  rw [if_pos (Nat.le_add_right _ _), Nat.add_sub_cancel_left]

/-- The transform that is linked under a name. -/
def Linked.transform? (linked : Linked) (callee : String) : Option Transform :=
  match linked.find? callee with
  | some (.unary f) => some f
  | _ => none

/-- The variant that is linked under a name. -/
def Linked.variant? (linked : Linked) (callee : String) : Option Variant :=
  match linked.find? callee with
  | some (.pairTile v) => some v
  | _ => none

theorem Linked.transform?_eq_some_iff {linked : Linked} {callee : String} {f : Transform} :
    linked.transform? callee = some f ↔ linked.find? callee = some (.unary f) := by
  unfold transform?
  constructor
  · intro h
    split at h
    · rename_i f' hf
      cases h; exact hf
    · cases h
  · intro h
    rw [h]

theorem Linked.variant?_eq_some_iff {linked : Linked} {callee : String} {v : Variant} :
    linked.variant? callee = some v ↔ linked.find? callee = some (.pairTile v) := by
  unfold variant?
  constructor
  · intro h
    split at h
    · rename_i v' hv
      cases h; exact hv
    · cases h
  · intro h
    rw [h]

/-- The function that an operation applies, if its callee is linked as a unary function. -/
def ElementOp.function? (op : ElementOp) (linked : Linked) : Option (Single → Single) :=
  match op with
  | scale factor => some (· * factor)
  | call callee => (linked.transform? callee).map (·.reference)

theorem ElementOp.function?_call {linked : Linked} {callee : String} {f : Transform}
    (h : linked.find? callee = some (.unary f)) :
    (call callee).function? linked = some f.reference := by
  unfold function?
  dsimp only
  rw [Linked.transform?_eq_some_iff.mpr h]; rfl

namespace Kernel

open GroupM

/-- The indices of the buffers that a kernel reads. -/
def inputs : Kernel → List Nat
  | stagedUnary .. => [0]
  | tileRoundtrip .. => [0]
  | pairedTiles .. => [0, 1]

/-- The function that a kernel calls, with the convention it calls it by. -/
def callee? : Kernel → Option (String × Convention)
  | stagedUnary _ _ (.scale _) => none
  | stagedUnary _ _ (.call callee) => some (callee, .unary)
  | tileRoundtrip _ _ callee => some (callee, .tile)
  | pairedTiles _ _ callee => some (callee, .pairTile)

/-- What a kernel calls is linked, and by the convention that it is called by. -/
def Resolved (k : Kernel) (linked : Linked) : Prop :=
  ∀ callee convention, k.callee? = some (callee, convention) →
    ∃ c, linked.find? callee = some c ∧ c.convention = convention

/-- What a kernel makes of the staged elements of one lane, by input index. There is nothing if the
callee is not linked, or linked with another calling convention. -/
def operation? (k : Kernel) (linked : Linked) : Option ((Nat → Single) → Single) :=
  match k with
  | stagedUnary _ _ op => (op.function? linked).map fun f x => f (x 0)
  | pairedTiles _ _ callee => (linked.variant? callee).map fun v x => v.reference (x 0) (x 1)
  | tileRoundtrip .. => none

/-- Copies the tile at `base` of every input into threadgroup memory. -/
def stage (k : Kernel) (tile base : Nat) : GroupM Unit :=
  match k with
  | pairedTiles .. => do
    copyIn 0 base tile 0
    copyIn 1 base tile tile
  | _ => copyIn 0 base tile 0

/-- What one lane does with the staged tiles. -/
def laneStep (k : Kernel) (tile : Nat) (g : GroupShape) (linked : Linked) (lane : Nat) :
    GroupM Unit :=
  match k with
  | stagedUnary _ _ op => do
    let staged := ((← get).threadgroup[simdLane lane % tile]?).getD .zero
    write 1 (g.threadPosition lane) (← applyOp linked op staged)
  | pairedTiles _ _ callee =>
    callPairTile linked callee tile 2 (g.threadPosition lane) (simdLane lane % tile)
  | tileRoundtrip .. => pure ()

variable {k : Kernel} {tile base : Nat} {g : GroupShape} {linked : Linked} {t : BufferTable}
  {memory : Array Single} {op : (Nat → Single) → Single}

theorem run_eq_stage (hk : k.tile? = some tile) (ht : 0 < tile) :
    k.run g linked = k.stage tile (tileBase g tile) >>= fun _ =>
      forBelow g.lanes (k.laneStep tile g linked) := by
  cases k with
  | stagedUnary name tile' op =>
    cases hk
    exact if_neg (show ¬ tile = 0 by omega)
  | tileRoundtrip name geometry callee => cases hk
  | pairedTiles name tile' callee =>
    cases hk
    refine (if_neg (show ¬ tile = 0 by omega)).trans ?_
    unfold stage
    rw [bind_assoc]
    rfl

/-- There is an operation exactly when everything that the kernel calls is there. -/
theorem exists_operation?_iff (hk : k.tile? = some tile) :
    (∃ op, k.operation? linked = some op) ↔ k.Resolved linked := by
  cases k with
  | tileRoundtrip name geometry callee => cases hk
  | stagedUnary name tile' o =>
    cases o with
    | scale factor => exact ⟨fun _ _ _ h => (by cases h), fun _ => ⟨_, rfl⟩⟩
    | call callee =>
      constructor
      · rintro ⟨op, hop⟩ callee' convention h
        cases h
        obtain ⟨g, hg, -⟩ := Option.map_eq_some_iff.mp hop
        obtain ⟨f, hf, -⟩ := Option.map_eq_some_iff.mp hg
        exact ⟨_, Linked.transform?_eq_some_iff.mp hf, rfl⟩
      · intro h
        obtain ⟨c, hc, hconv⟩ := h callee .unary rfl
        cases c <;> cases hconv
        exact ⟨_, Option.map_eq_some_iff.mpr ⟨_, ElementOp.function?_call hc, rfl⟩⟩
  | pairedTiles name tile' callee =>
    constructor
    · rintro ⟨op, hop⟩ callee' convention h
      cases h
      obtain ⟨v, hv, -⟩ := Option.map_eq_some_iff.mp hop
      exact ⟨_, Linked.variant?_eq_some_iff.mp hv, rfl⟩
    · intro h
      obtain ⟨c, hc, hconv⟩ := h callee .pairTile rfl
      cases c <;> cases hconv
      exact ⟨_, Option.map_eq_some_iff.mpr ⟨_, Linked.variant?_eq_some_iff.mpr hc, rfl⟩⟩

theorem not_mem_inputs_output (k : Kernel) : k.output ∉ k.inputs := by
  cases k <;> simp [output, inputs]

/-! ## Staging -/

/-- Every input is bound and reaches to the end of the tile. -/
def Fits (k : Kernel) (tile base : Nat) (t : BufferTable) : Prop :=
  ∀ i ∈ k.inputs, ∃ b, t.get? i = some b ∧ base + tile ≤ b.size

/-- Threadgroup memory that holds the tiles at `base` side by side. -/
structure Staged (k : Kernel) (tile base : Nat) (t : BufferTable) (memory : Array Single) :
    Prop where
  size : memory.size = k.threadgroupLength
  elements : ∀ i ∈ k.inputs, ∀ j, j < tile → memory[i * tile + j]? = some (t.element i (base + j))

/-- A copied tile, wherever it was copied to. -/
theorem block_extract_at {i : Nat} {b : Array Single} (hb : t.get? i = some b)
    (hfit : base + tile ≤ b.size) (start j : Nat) (hj : j < tile) :
    Patch.block start (b.extract base (base + tile)) (start + j)
      = some (t.element i (base + j)) := by
  rw [Patch.block_at, getElem?_extract_add, if_pos hj,
    BufferTable.getElem?_eq_element hb (by omega)]

/-- A copy of a tile that is there, into room that is there. -/
theorem eval_copyIn_of_fits {i : Nat} {b : Array Single} (memory : Array Single) (start : Nat)
    (hb : t.get? i = some b)
    (hfit : base + tile ≤ b.size) (hs : start + tile ≤ memory.size) :
    (copyIn i base tile start).eval ⟨t, memory⟩
      = (.ok (), ⟨t, (Patch.block start (b.extract base (base + tile))).apply memory⟩) := by
  rw [eval_copyIn]
  dsimp only
  rw [hb]
  dsimp only
  rw [if_neg (by omega), if_neg (by omega)]

/-- A copy from an input that is not bound or too short stops. -/
theorem stops_copyIn_of_not_fits {i start : Nat}
    (h : ¬ ∃ b, t.get? i = some b ∧ base + tile ≤ b.size) :
    Stops (copyIn i base tile start) ⟨t, memory⟩ := by
  rw [Stops, eval_copyIn]
  dsimp only
  cases hb : t.get? i with
  | none => exact ⟨_, _, rfl⟩
  | some b =>
    dsimp only
    rw [if_pos (Nat.lt_of_not_le fun hle => h ⟨b, hb, hle⟩)]
    exact ⟨_, _, rfl⟩

theorem eval_stage (hk : k.tile? = some tile) (hfit : k.Fits tile base t)
    (hs : memory.size = k.threadgroupLength) :
    ∃ memory', (k.stage tile base).eval ⟨t, memory⟩ = (.ok (), ⟨t, memory'⟩) ∧
      k.Staged tile base t memory' := by
  cases k with
  | tileRoundtrip name geometry callee => cases hk
  | stagedUnary name tile' op =>
    cases hk
    obtain ⟨b, hb, hsize⟩ := hfit 0 List.mem_cons_self
    have hm : memory.size = tile := hs
    refine ⟨_, eval_copyIn_of_fits memory 0 hb hsize (by omega), by rw [Patch.size_apply, hs], ?_⟩
    intro i hi j hj
    obtain rfl : i = 0 := List.mem_singleton.mp hi
    have hj' := block_extract_at hb hsize 0 j hj
    rw [Nat.zero_mul]
    exact Patch.getElem?_apply_of_some hj' (by omega)
  | pairedTiles name tile' callee =>
    cases hk
    obtain ⟨a, ha, hasize⟩ := hfit 0 List.mem_cons_self
    obtain ⟨b, hb, hbsize⟩ := hfit 1 (List.mem_cons_of_mem 0 List.mem_cons_self)
    have hm : memory.size = tile * 2 := hs
    have hfirst := eval_copyIn_of_fits memory 0 ha hasize (by omega)
    have hsecond := eval_copyIn_of_fits
      ((Patch.block 0 (a.extract base (base + tile))).apply memory) tile hb hbsize
      (by rw [Patch.size_apply]; omega)
    refine ⟨_, (eval_bind_of_ok hfirst).trans hsecond,
      by rw [Patch.size_apply, Patch.size_apply, hs], ?_⟩
    intro i hi j hj
    rcases List.mem_cons.mp hi with rfl | hi
    · -- the second copy starts behind the first tile
      have hj' := block_extract_at ha hasize 0 j hj
      rw [Nat.zero_mul, Patch.getElem?_apply_of_none (Patch.block_before (by omega))]
      exact Patch.getElem?_apply_of_some hj' (by omega)
    · obtain rfl : i = 1 := List.mem_singleton.mp hi
      rw [Nat.one_mul]
      exact Patch.getElem?_apply_of_some (block_extract_at hb hbsize tile j hj)
        (by rw [Patch.size_apply]; omega)

theorem stops_stage (hk : k.tile? = some tile) (hfit : ¬ k.Fits tile base t)
    (hs : memory.size = k.threadgroupLength) : Stops (k.stage tile base) ⟨t, memory⟩ := by
  cases k with
  | tileRoundtrip name geometry callee => cases hk
  | stagedUnary name tile' op =>
    refine stops_copyIn_of_not_fits fun h => hfit fun i hi => ?_
    obtain rfl : i = 0 := List.mem_singleton.mp hi
    exact h
  | pairedTiles name tile' callee =>
    cases hk
    have hm : memory.size = tile * 2 := hs
    by_cases h0 : ∃ b, t.get? 0 = some b ∧ base + tile ≤ b.size
    · obtain ⟨a, ha, hasize⟩ := h0
      have hfirst := eval_copyIn_of_fits memory 0 ha hasize (by omega)
      refine Stops.bind_of_ok hfirst (stops_copyIn_of_not_fits fun h => hfit fun i hi => ?_)
      rcases List.mem_cons.mp hi with rfl | hi
      · exact ⟨a, ha, hasize⟩
      · obtain rfl : i = 1 := List.mem_singleton.mp hi
        exact h
    · exact (stops_copyIn_of_not_fits h0).bind

/-! ## Lanes -/

/-- The staged elements of a lane, by input index. -/
def stagedFor (tile base lane : Nat) (t : BufferTable) : Nat → Single :=
  fun i => t.element i (base + simdLane lane % tile)

/-- Room for one more element of the output. -/
def HasRoom (k : Kernel) (t : BufferTable) (pos : Nat) : Prop :=
  ∃ b, t.get? k.output = some b ∧ pos < b.size

theorem hasRoom_patch {pos : Nat} (q : Patch) :
    k.HasRoom (t.patch k.output q) pos ↔ k.HasRoom t pos :=
  (BufferTable.Frame.patch q).get?_of_le

theorem eval_applyOp {o : ElementOp} {f : Single → Single} (h : o.function? linked = some f)
    (x : Single) (s : GroupState) : (applyOp linked o x).eval s = (.ok (f x), s) := by
  cases o with
  | scale factor => cases h; rfl
  | call callee =>
    obtain ⟨f', hf, rfl⟩ := Option.map_eq_some_iff.mp h
    unfold applyOp
    dsimp only
    rw [eval_callUnary, Linked.transform?_eq_some_iff.mp hf]

theorem stops_applyOp {o : ElementOp} (h : o.function? linked = none) (x : Single)
    (s : GroupState) : Stops (applyOp linked o x) s := by
  cases o with
  | scale factor => cases h
  | call callee =>
    unfold applyOp
    dsimp only
    rw [Stops, eval_callUnary]
    cases hc : linked.find? callee with
    | none => exact ⟨_, _, rfl⟩
    | some c =>
      cases c with
      | unary f => cases h.symm.trans (ElementOp.function?_call hc)
      | tile f => exact ⟨_, _, rfl⟩
      | pairTile v => exact ⟨_, _, rfl⟩

/-- The two halves of the memory at a place of the tile. -/
theorem Staged.halves {name callee : String}
    (hm : (pairedTiles name tile callee).Staged tile base t memory) {j : Nat} (hj : j < tile) :
    (memory.extract 0 tile)[j]? = some (t.element 0 (base + j)) ∧
      (memory.extract tile memory.size)[j]? = some (t.element 1 (base + j)) := by
  have hx := hm.elements 0 List.mem_cons_self j hj
  have hy := hm.elements 1 (List.mem_cons_of_mem 0 List.mem_cons_self) j hj
  have hsize : memory.size = tile * 2 := hm.size
  rw [Nat.zero_mul, Nat.zero_add] at hx
  rw [Nat.one_mul] at hy
  refine ⟨?_, ?_⟩
  · rw [Array.getElem?_extract, if_pos (by omega), Nat.zero_add, hx]
  · rw [Array.getElem?_extract, if_pos (by omega), hy]

/-- A lane that has an operation and room for its result writes it and nothing else. -/
theorem eval_laneStep {lane : Nat} {t' : BufferTable} (hk : k.tile? = some tile) (ht : 0 < tile)
    (hm : k.Staged tile base t memory) (hop : k.operation? linked = some op)
    (hroom : k.HasRoom t' (g.threadPosition lane)) :
    (k.laneStep tile g linked lane).eval ⟨t', memory⟩ = (.ok (),
      ⟨t'.patch k.output (.single (g.threadPosition lane) (op (stagedFor tile base lane t))),
        memory⟩) := by
  have hlane : simdLane lane % tile < tile := Nat.mod_lt _ ht
  obtain ⟨b, hb, hpos⟩ := hroom
  cases k with
  | tileRoundtrip name geometry callee => cases hk
  | stagedUnary name tile' o =>
    cases hk
    -- the default of the lookup is never taken, the tile is filled to its end
    have hx := hm.elements 0 List.mem_cons_self _ hlane
    rw [Nat.zero_mul, Nat.zero_add] at hx
    obtain ⟨f, hf, rfl⟩ := Option.map_eq_some_iff.mp hop
    unfold laneStep
    dsimp only
    rw [eval_bind_of_ok eval_get]
    dsimp only
    rw [hx, Option.getD_some, eval_bind_of_ok (eval_applyOp hf _ _), eval_write]
    dsimp only
    rw [show t'.get? 1 = some b from hb]
    dsimp only
    rw [if_pos hpos]; rfl
  | pairedTiles name tile' callee =>
    cases hk
    obtain ⟨hA, hB⟩ := hm.halves hlane
    have hsize : memory.size = tile * 2 := hm.size
    obtain ⟨v, hv, rfl⟩ := Option.map_eq_some_iff.mp hop
    unfold laneStep
    dsimp only
    rw [eval_callPairTile, Linked.variant?_eq_some_iff.mp hv]
    dsimp only
    rw [if_neg (by omega), show t'.get? 2 = some b from hb]
    dsimp only
    rw [if_neg (by omega)]
    unfold Variant.apply
    rw [hA, hB]
    dsimp only
    rw [BufferTable.update_modify]
    rfl

/-- A lane without an operation or without room for its result stops. -/
theorem stops_laneStep {lane : Nat} {t' : BufferTable} (hk : k.tile? = some tile)
    (hm : memory.size = k.threadgroupLength)
    (h : ¬ ((∃ op, k.operation? linked = some op) ∧ k.HasRoom t' (g.threadPosition lane))) :
    Stops (k.laneStep tile g linked lane) ⟨t', memory⟩ := by
  cases k with
  | tileRoundtrip name geometry callee => cases hk
  | stagedUnary name tile' o =>
    unfold laneStep
    dsimp only
    refine Stops.bind_of_ok eval_get ?_
    cases hf : o.function? linked with
    | none => exact (stops_applyOp hf _ _).bind
    | some f =>
      refine Stops.bind_of_ok (eval_applyOp hf _ _) ?_
      rw [Stops, eval_write]
      dsimp only
      cases hb : t'.get? 1 with
      | none => exact ⟨_, _, rfl⟩
      | some b =>
        dsimp only
        rw [if_neg fun hpos => h ⟨⟨_, Option.map_eq_some_iff.mpr ⟨f, hf, rfl⟩⟩, b, hb, hpos⟩]
        exact ⟨_, _, rfl⟩
  | pairedTiles name tile' callee =>
    cases hk
    have hsize : memory.size = tile * 2 := hm
    unfold laneStep
    dsimp only
    rw [Stops, eval_callPairTile]
    cases hc : linked.find? callee with
    | none => exact ⟨_, _, rfl⟩
    | some c =>
      cases c with
      | unary f => exact ⟨_, _, rfl⟩
      | tile f => exact ⟨_, _, rfl⟩
      | pairTile v =>
        have hv := Linked.variant?_eq_some_iff.mpr hc
        dsimp only
        rw [if_neg (by omega)]
        cases hb : t'.get? 2 with
        | none => exact ⟨_, _, rfl⟩
        | some b =>
          dsimp only
          rw [if_pos (Nat.le_of_not_lt fun hpos =>
            h ⟨⟨_, Option.map_eq_some_iff.mpr ⟨v, hv, rfl⟩⟩, b, hb, hpos⟩)]
          exact ⟨_, _, rfl⟩

/-! ## Whole groups -/

/-- What a group needs to get through: its tiles, an operation and room for all of its results. -/
structure Ready (k : Kernel) (tile : Nat) (g : GroupShape) (linked : Linked) (t : BufferTable) :
    Prop where
  tiles : k.Fits tile (tileBase g tile) t
  operation : ∃ op, k.operation? linked = some op
  room : ∀ lane, lane < g.lanes → k.HasRoom t (g.threadPosition lane)

/-- The values of a group's threads are what the operation makes of the staged elements. -/
def Values (k : Kernel) (tile : Nat) (g : GroupShape) (linked : Linked) (t : BufferTable)
    (value : Nat → Single) : Prop :=
  ∀ op, k.operation? linked = some op → ∀ lane, lane < g.lanes →
    value (g.threadPosition lane) = op (stagedFor tile (tileBase g tile) lane t)

variable {value : Nat → Single}

theorem element_patch {i pos : Nat} (hi : i ∈ k.inputs) (q : Patch) :
    (t.patch k.output q).element i pos = t.element i pos := by
  have hne : i ≠ k.output := fun he => k.not_mem_inputs_output (he ▸ hi)
  unfold BufferTable.element
  rw [BufferTable.get?_patch_of_ne hne]

theorem fits_patch (q : Patch) : k.Fits tile base (t.patch k.output q) ↔ k.Fits tile base t :=
  forall_congr' fun _ => forall_congr' fun _ => (BufferTable.Frame.patch q).get?_of_le

/-- What other groups have written does not show in the staged tiles. -/
theorem eval_stage_patch (hk : k.tile? = some tile) (hfit : k.Fits tile base t)
    (hs : memory.size = k.threadgroupLength) (q : Patch) :
    ∃ memory', (k.stage tile base).eval ⟨t.patch k.output q, memory⟩
        = (.ok (), ⟨t.patch k.output q, memory'⟩) ∧ k.Staged tile base t memory' := by
  obtain ⟨memory', hstage, hm⟩ := eval_stage hk ((fits_patch q).mpr hfit) hs
  exact ⟨memory', hstage, hm.size,
    fun i hi j hj => by rw [hm.elements i hi j hj, element_patch hi]⟩

/-- The lanes write the elements of their threads, one after the other. -/
theorem eval_lanes (hk : k.tile? = some tile) (ht : 0 < tile)
    (hm : k.Staged tile (tileBase g tile) t memory) (hop : k.operation? linked = some op)
    (hv : k.Values tile g linked t value)
    {lane : Nat} (hl : lane < g.lanes) (hroom : k.HasRoom t (g.threadPosition lane)) :
    (k.laneStep tile g linked lane).eval
        ⟨t.patch k.output (.below (g.threadPosition lane) value), memory⟩
      = (.ok (), ⟨t.patch k.output (.below (g.threadPosition (lane + 1)) value), memory⟩) := by
  have hnext : g.threadPosition (lane + 1) = g.threadPosition lane + 1 := by
    unfold GroupShape.threadPosition; omega
  rw [eval_laneStep hk ht hm hop ((hasRoom_patch _).mpr hroom), BufferTable.patch_patch,
    ← hv op hop lane hl, Patch.single_after_below, hnext]

theorem eval_run_of_ready (hk : k.tile? = some tile) (ht : 0 < tile)
    (hs : memory.size = k.threadgroupLength) (hr : k.Ready tile g linked t)
    (hv : k.Values tile g linked t value) :
    ∃ memory', (k.run g linked).eval
        ⟨t.patch k.output (.below (g.threadPosition 0) value), memory⟩
      = (.ok (), ⟨t.patch k.output (.below (g.threadPosition g.lanes) value), memory'⟩) := by
  obtain ⟨op, hop⟩ := hr.operation
  obtain ⟨memory', hstage, hm⟩ := eval_stage_patch hk hr.tiles hs _
  refine ⟨memory', ?_⟩
  rw [run_eq_stage hk ht, eval_bind_of_ok hstage]
  exact eval_forBelow _ _ (fun lane =>
    ⟨t.patch k.output (.below (g.threadPosition lane) value), memory'⟩)
    fun lane hl => eval_lanes hk ht hm hop hv hl (hr.room lane hl)

theorem stops_run_of_not_ready (hk : k.tile? = some tile) (ht : 0 < tile) (hlanes : 0 < g.lanes)
    (hs : memory.size = k.threadgroupLength) (hr : ¬ k.Ready tile g linked t)
    (hv : k.Values tile g linked t value) :
    Stops (k.run g linked)
      ⟨t.patch k.output (.below (g.threadPosition 0) value), memory⟩ := by
  rw [run_eq_stage hk ht]
  -- what is missing decides where the group stops: staging, the first lane or a later one
  by_cases hfit : k.Fits tile (tileBase g tile) t
  · obtain ⟨memory', hstage, hm⟩ := eval_stage_patch hk hfit hs _
    refine Stops.bind_of_ok hstage ?_
    by_cases hop : ∃ op, k.operation? linked = some op
    · obtain ⟨op, hop⟩ := hop
      have hroom : ∃ lane, lane < g.lanes ∧ ¬ k.HasRoom t (g.threadPosition lane) := by
        by_contra hall
        push Not at hall
        exact hr ⟨hfit, ⟨op, hop⟩, hall⟩
      exact stops_forBelow (fun lane =>
        ⟨t.patch k.output (.below (g.threadPosition lane) value), memory'⟩)
        (fun lane => k.HasRoom t (g.threadPosition lane))
        (fun lane hl hg => eval_lanes hk ht hm hop hv hl hg)
        (fun lane hl hg => stops_laneStep hk hm.size
          fun h => hg ((hasRoom_patch _).mp h.2)) hroom
    · -- the first lane already finds no function
      exact stops_forBelow
        (fun _ => ⟨t.patch k.output (.below (g.threadPosition 0) value), memory'⟩)
        (fun _ => False) (fun _ _ hf => hf.elim)
        (fun lane hl _ => stops_laneStep hk hm.size fun h => hop h.1) ⟨0, hlanes, id⟩
  · exact (stops_stage hk (fun h => hfit ((fits_patch _).mp h)) hs).bind

end Kernel

end KernelLink
