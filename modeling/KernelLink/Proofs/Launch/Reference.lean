import KernelLink.Catalog
import KernelLink.Proofs.Device.Roundtrip
import KernelLink.Proofs.Device.Staged
import KernelLink.Proofs.Launch.Validation

/-!
# When a launch computes the reference

A catalog entry comes with a reference for each element, and a launch with groups of the entry's
width is meant to compute it: then every group stages exactly its own elements. That is so for
widths up to the number of threads that advance together. In a wider group the lanes past that
number look into the tile again from its start, so their elements are computed from the inputs of
others, and validation, which compares the two widths and nothing else, lets such groups pass.

So the condition for the reference is exact: no group has a lane past those that advance together,
or the function of the entry is one whose results cannot tell. A tile of more cells than can be
counted leaves nothing to say, since no launch of it completes.
-/

namespace KernelLink

/-! ## What is to be computed -/

/-- Every element of the output is the reference on the elements of its number. -/
def Kernel.Computes (k : Kernel) (reference : (Nat → Single) → Single) (n : Nat) (b : Bindings)
    (m m' : DeviceMemory) : Prop :=
  ∀ o, (k.output, o) ∈ b → ∀ i, i < n → ∃ x : Nat → Single,
    (∀ j ∈ k.inputs, ∃ h, (j, h) ∈ b ∧ (m.words h)[i]? = some (x j)) ∧
    (m'.words o)[i]? = some (reference x)

/-- Every cell of the tile is the reference on its source, and all other cells stay. -/
def TileGeometry.Computes (g : TileGeometry) (reference : Single → Single) (b : Bindings)
    (m m' : DeviceMemory) : Prop :=
  ∀ src dst, (0, src) ∈ b → (1, dst) ∈ b →
    (∀ r, r < g.rows → ∀ c, c < g.tileCols → ∃ x, (m.words src)[r * g.cols + c]? = some x ∧
      (m'.words dst)[r * g.cols + c]? = some (reference x)) ∧
    ∀ j, (∀ r, r < g.rows → ∀ c, c < g.tileCols → j ≠ r * g.cols + c) →
      (m'.words dst)[j]? = (m.words dst)[j]?

/-- A kernel of the catalog, with the visible function that it is linked with. -/
inductive CatalogKernel where
  | asyncCopy (params : SourceParams)
  | reverse (tile : Nat) (f : Transform)
  | gemm (tile : Nat) (v : Variant)
  | roundtrip (geometry : TileGeometry) (f : TileScaling)

namespace CatalogKernel

def entry : CatalogKernel → CatalogEntry
  | asyncCopy params => asyncCopyEntry params
  | reverse tile _ => reverseShell tile
  | gemm tile _ => gemmShell tile
  | roundtrip geometry _ => roundtripShell geometry

def callables : CatalogKernel → List CatalogEntry
  | asyncCopy _ => []
  | reverse _ f => [f.entry]
  | gemm _ v => [v.entry]
  | roundtrip _ f => [f.entry]

/-- The parameters make a tile, and the visible function covers it. -/
def WellFormed : CatalogKernel → Prop
  | asyncCopy params => 1 ≤ params.elements
  | reverse tile _ => 1 ≤ tile
  | gemm tile _ => 1 ≤ tile
  | roundtrip g f =>
    1 ≤ g.rows ∧ 1 ≤ g.tileCols ∧ g.tileCols ≤ g.cols ∧ g.tileLength ≤ f.lanes

/-- The threads that a launch has to have: a tile of a matrix takes one for each of its cells. -/
def Admits (c : CatalogKernel) (n : Nat) : Prop :=
  match c with
  | roundtrip g _ => n = g.tileLength
  | _ => True

/-- What the entry computes from the elements of one number, by input index. -/
def reference : CatalogKernel → (Nat → Single) → Single
  | asyncCopy params => fun x => asyncCopyReference params (x 0)
  | reverse _ f => fun x => f.reference (x 0)
  | gemm _ v => fun x => v.reference (x 0) (x 1)
  | roundtrip _ f => fun x => f.reference (x 0)

/-- The behaviour that the entry registers. -/
def kernel : CatalogKernel → Kernel
  | asyncCopy params =>
    .stagedUnary asyncCopyName (max params.elements 1) (.scale (copyScale params).toSingle)
  | reverse tile _ => .stagedUnary reverseName tile (.call transformName)
  | gemm tile _ => .pairedTiles gemmName tile computeTileName
  | roundtrip geometry _ => .tileRoundtrip roundtripName geometry processTileName

/-- The group width that the entry asks for. -/
def width (c : CatalogKernel) : Nat := c.entry.groupWidth.getD 0

/-- The launch has computed what the entry is verified against. -/
def Computes (c : CatalogKernel) (n : Nat) (b : Bindings) (m m' : DeviceMemory) : Prop :=
  match c with
  | roundtrip g f => g.Computes f.reference b m m'
  | c => c.kernel.Computes c.reference n b m m'

/-- Results that do not tell which elements they were computed from. For a tile of a matrix that is
a function that changes nothing, since a cell may go without it or have it more than once. -/
def Forgiving (c : CatalogKernel) : Prop :=
  match c with
  | roundtrip _ f => ∀ x, f.reference x = x
  | c => ∀ x y, c.reference x = c.reference y

end CatalogKernel

/-- The pipeline has the entry's behaviour and its visible function under the name of its entry. -/
structure Pipeline.Runs (p : Pipeline) (c : CatalogKernel) : Prop where
  kernel : ∃ e ∈ c.entry.emulations, e.emulation = .kernel p.kernel
  callables : ∀ entry ∈ c.callables, ∀ e ∈ entry.emulations, ∀ f, e.emulation = .callable f →
    p.linked.find? e.name = some f

namespace Pipeline.Runs

variable {p : Pipeline} {c : CatalogKernel}

theorem kernel_eq (h : p.Runs c) : p.kernel = c.kernel := by
  obtain ⟨e, he, hk⟩ := h.kernel
  cases c <;> obtain rfl := List.mem_singleton.mp he <;> exact (Emulation.kernel.inj hk).symm

/-- The operation of a staged kernel is the entry's reference. -/
theorem operation? {tile : Nat} (h : p.Runs c) (hc : c.kernel.tile? = some tile) :
    p.kernel.operation? p.linked = some c.reference := by
  have hcall := h.callables
  rw [h.kernel_eq]
  cases c with
  | asyncCopy params => rfl
  | reverse tile' f =>
    have hf : p.linked.find? transformName = some (.unary f) :=
      hcall _ List.mem_cons_self _ List.mem_cons_self _ rfl
    exact Option.map_eq_some_iff.mpr ⟨_, ElementOp.function?_call hf, rfl⟩
  | gemm tile' v =>
    have hf : p.linked.find? computeTileName = some (.pairTile v) :=
      hcall _ List.mem_cons_self _ List.mem_cons_self _ rfl
    exact Option.map_eq_some_iff.mpr ⟨_, Linked.variant?_eq_some_iff.mpr hf, rfl⟩
  | roundtrip g f => cases hc

theorem find?_processTile {g : TileGeometry} {f : TileScaling} (h : p.Runs (.roundtrip g f)) :
    p.linked.find? processTileName = some (.tile f) :=
  h.callables _ List.mem_cons_self _ List.mem_cons_self _ rfl

end Pipeline.Runs

/-! ## Groups of the tile's own width -/

namespace DispatchShape

variable {n width tid : Nat}

theorem tileStart_self (k : Nat) (hw : 1 ≤ width) :
    tileStart ⟨n, width⟩ width k = k * width := by
  unfold tileStart
  dsimp only
  rw [Nat.mul_div_cancel _ hw]

/-- A thread looks into its own group's tile at its position among those that advance together. -/
theorem stagedAt_self (tid : Nat) (hw : 1 ≤ width) :
    stagedAt ⟨n, width⟩ width tid = tid / width * width + simdLane (tid % width) := by
  have hlane : simdLane (tid % width) < width :=
    Nat.lt_of_le_of_lt (Nat.mod_le _ _) (Nat.mod_lt tid hw)
  unfold stagedAt
  dsimp only
  rw [tileStart_self _ hw, Nat.mod_eq_of_lt hlane]

/-- Where every lane of every group has a position of its own, threads find their own elements. -/
theorem stagedAt_of_narrow (hw : 1 ≤ width) (h : min width n ≤ simdWidth) (ht : tid < n) :
    stagedAt ⟨n, width⟩ width tid = tid := by
  have hmod := Nat.mod_lt tid (show width > 0 from hw)
  have hle := Nat.mod_le tid width
  have hdiv := Nat.div_add_mod tid width
  rw [Nat.mul_comm] at hdiv
  rw [stagedAt_self tid hw, simdLane_of_lt (by omega)]
  exact hdiv

/-- The first lane past those that advance together finds the first element of its group. -/
theorem stagedAt_of_wide (h : simdWidth < width) :
    stagedAt ⟨n, width⟩ width simdWidth = 0 := by
  rw [stagedAt_self simdWidth (by omega), Nat.div_eq_of_lt h, Nat.mod_eq_of_lt h, Nat.zero_mul,
    Nat.zero_add]
  exact Nat.mod_self simdWidth

/-- The threads of all groups lie before the end of the last tile. -/
theorem threads_le_tileStart (hw : 1 ≤ width) (hn : 1 ≤ n) :
    n ≤ tileStart ⟨n, width⟩ width (groupCount ⟨n, width⟩ - 1) + width := by
  have hle : n ≤ groupCount ⟨n, width⟩ * width := threads_le (s := ⟨n, width⟩) hw
  have hpos : 1 ≤ groupCount ⟨n, width⟩ := groupCount_pos (s := ⟨n, width⟩) hw hn
  have hsucc := Nat.succ_mul (groupCount ⟨n, width⟩ - 1) width
  rw [show (groupCount ⟨n, width⟩ - 1).succ = groupCount ⟨n, width⟩ by omega] at hsucc
  rw [tileStart_self _ hw]
  omega

/-- A dispatch of one group takes the whole tile at once. -/
theorem lastLanes_self (hn : 1 ≤ n) : n - (groupCount ⟨n, n⟩ - 1) * n = n := by
  have hone : ¬ 1 < groupCount ⟨n, n⟩ := by
    rw [lt_groupCount_iff (s := ⟨n, n⟩) hn]
    dsimp only
    omega
  rw [show groupCount ⟨n, n⟩ - 1 = 0 by omega, Nat.zero_mul, Nat.sub_zero]

end DispatchShape

/-! ## Buffers that tell elements apart -/

namespace DeviceMemory

/-- Three buffers, each of one value up to a second one at the first place past the lanes that
advance together. -/
def probe (len : Nat) (first other : Nat → Single) : DeviceMemory :=
  ⟨Array.ofFn fun j : Fin 3 => Array.ofFn fun i : Fin len =>
    if i.val = simdWidth then other j else first j⟩

variable {len i j : Nat} {first other : Nat → Single}

theorem words_probe (hj : j < 3) : (probe len first other).words ⟨j⟩ =
    Array.ofFn fun i : Fin len => if i.val = simdWidth then other j else first j := by
  unfold words probe
  rw [Array.getElem?_ofFn, dif_pos hj]; rfl

theorem size_words_probe (hj : j < 3) : ((probe len first other).words ⟨j⟩).size = len := by
  rw [words_probe hj, Array.size_ofFn]

theorem getElem?_words_probe (hj : j < 3) (hi : i < len) :
    ((probe len first other).words ⟨j⟩)[i]?
      = some (if i = simdWidth then other j else first j) := by
  rw [words_probe hj, Array.getElem?_ofFn, dif_pos hi]

end DeviceMemory

namespace Bindings

/-- Each of three buffers at the index of its own number. -/
def probe : Bindings := (List.range 3).map fun i => (i, ⟨i⟩)

theorem mem_probe_iff {i : Nat} {h : BufferHandle} : (i, h) ∈ probe ↔ i < 3 ∧ h = ⟨i⟩ := by
  unfold probe
  rw [List.mem_map]
  constructor
  · rintro ⟨j, hj, he⟩
    cases he
    exact ⟨List.mem_range.mp hj, rfl⟩
  · rintro ⟨hi, rfl⟩
    exact ⟨i, List.mem_range.mpr hi, rfl⟩

theorem nodup_handles_probe : (probe.map Prod.snd).Nodup := by decide

theorem apart_probe (out : Nat) : probe.Apart out :=
  apart_of_nodup (by decide) nodup_handles_probe out

end Bindings

theorem Kernel.lt_of_mem_inputs {k : Kernel} {i : Nat} (hi : i ∈ k.inputs) : i < 3 := by
  cases k <;> simp [inputs] at hi <;> omega

theorem Kernel.output_lt (k : Kernel) : k.output < 3 := by
  cases k <;> simp [output]

/-- An operation looks at the inputs of its kernel only. -/
theorem Kernel.operation?_congr {k : Kernel} {linked : Linked} {op : (Nat → Single) → Single}
    (hop : k.operation? linked = some op) {x y : Nat → Single} (h : ∀ i ∈ k.inputs, x i = y i) :
    op x = op y := by
  cases k with
  | stagedUnary name tile o =>
    obtain ⟨f, -, rfl⟩ := Option.map_eq_some_iff.mp hop
    dsimp only
    rw [h 0 List.mem_cons_self]
  | tileRoundtrip name geometry callee => cases hop
  | pairedTiles name tile callee =>
    obtain ⟨v, -, rfl⟩ := Option.map_eq_some_iff.mp hop
    dsimp only
    rw [h 0 List.mem_cons_self, h 1 (List.mem_cons_of_mem 0 List.mem_cons_self)]

/-- From elements of the probe at one number, an operation makes what it makes of the two values. -/
theorem Kernel.operation?_probe {k : Kernel} {linked : Linked} {op : (Nat → Single) → Single}
    (hop : k.operation? linked = some op) {len pos : Nat} (hpos : pos < len)
    {first other x : Nat → Single}
    (hx : ∀ i ∈ k.inputs, ∃ h, (i, h) ∈ Bindings.probe ∧
      ((DeviceMemory.probe len first other).words h)[pos]? = some (x i)) :
    op x = op (if pos = simdWidth then other else first) := by
  refine Kernel.operation?_congr hop fun i hi => ?_
  obtain ⟨h, hm, hxi⟩ := hx i hi
  obtain ⟨hi3, rfl⟩ := Bindings.mem_probe_iff.mp hm
  rw [DeviceMemory.getElem?_words_probe hi3 hpos] at hxi
  rw [← Option.some.inj hxi]
  split <;> rfl

/-! ## Either way -/

namespace Pipeline

variable {p : Pipeline} {b : Bindings} {m m' : DeviceMemory} {n width : Nat}
  {op : (Nat → Single) → Single}

/-- A staged kernel in groups of its own tile computes its operation. -/
theorem computes_of_staged (hk : p.kernel.tile? = some width) (hw : 1 ≤ width) (hn : 0 < n)
    (hs : p.Accepts ⟨n, width⟩) (hop : p.kernel.operation? p.linked = some op)
    (hb : b.Apart p.kernel.output) (hc : p.dispatch b ⟨n, width⟩ m = .ok (.completed, m'))
    (h : min width n ≤ simdWidth ∨ ∀ x y, op x = op y) :
    p.kernel.Computes op n b m m' := by
  intro o ho i hi
  obtain ⟨x, hx, hout⟩ := staged_output hk hw hn hs hb hc hop ho hi
  rcases h with hnarrow | hconst
  · rw [DispatchShape.stagedAt_of_narrow hw hnarrow hi] at hx
    exact ⟨x, hx, hout⟩
  · -- the elements of the same number exist, and it does not matter what they are
    obtain ⟨hin, -, -⟩ := (staged_completes_iff hk hw hn hs hb.indices).mp ⟨m', hc⟩
    have hlen := DispatchShape.threads_le_tileStart hw hn
    refine ⟨fun j => (table m b).element j i, fun j hj => ?_, ?_⟩
    · obtain ⟨g, hg, hsize⟩ := hin j hj
      exact ⟨g, hg,
        BufferTable.getElem?_eq_element (get?_table_of_mem hb.indices hg) (by omega)⟩
    · rw [hout, hconst]

/-- Probes that reach to the end of the last tile are long enough for everything. -/
theorem staged_probe_completes (hk : p.kernel.tile? = some width) (hw : 1 ≤ width) (hn : 0 < n)
    (hs : p.Accepts ⟨n, width⟩) (hop : p.kernel.operation? p.linked = some op)
    {len : Nat} (hlen : DispatchShape.tileStart ⟨n, width⟩ width
      (DispatchShape.groupCount ⟨n, width⟩ - 1) + width ≤ len) (first other : Nat → Single) :
    ∃ m', p.dispatch .probe ⟨n, width⟩ (.probe len first other) = .ok (.completed, m') := by
  have hthreads := DispatchShape.threads_le_tileStart hw hn
  rw [staged_completes_iff hk hw hn hs (Bindings.apart_probe p.kernel.output).indices]
  refine ⟨fun i hi => ?_, (Kernel.exists_operation?_iff hk).mp ⟨op, hop⟩, ⟨p.kernel.output⟩,
    Bindings.mem_probe_iff.mpr ⟨p.kernel.output_lt, rfl⟩, ?_⟩
  · have hi3 := Kernel.lt_of_mem_inputs hi
    exact ⟨⟨i⟩, Bindings.mem_probe_iff.mpr ⟨hi3, rfl⟩, by
      rw [DeviceMemory.size_words_probe hi3]; exact hlen⟩
  · rw [DeviceMemory.size_words_probe p.kernel.output_lt]
    dsimp only
    omega

/-- A staged kernel in groups that are too wide computes something else from some buffers. -/
theorem exists_staged_not_computes (hk : p.kernel.tile? = some width)
    (hw : simdWidth < min width n) (hs : p.Accepts ⟨n, width⟩)
    (hop : p.kernel.operation? p.linked = some op) (h : ¬ ∀ x y, op x = op y) :
    ∃ m m', p.dispatch .probe ⟨n, width⟩ m = .ok (.completed, m') ∧
      ¬ p.kernel.Computes op n .probe m m' := by
  push Not at h
  obtain ⟨other, first, hne⟩ := h
  have hpos : 1 ≤ width := by omega
  have hn : 0 < n := by omega
  have hthreads := DispatchShape.threads_le_tileStart hpos hn
  have hout : (p.kernel.output, BufferHandle.mk p.kernel.output) ∈ Bindings.probe :=
    Bindings.mem_probe_iff.mpr ⟨p.kernel.output_lt, rfl⟩
  obtain ⟨m', hc⟩ := staged_probe_completes hk hpos hn hs hop (Nat.le_refl _) first other
  refine ⟨_, m', hc, fun hcomp => hne ?_⟩
  -- the thread past those that advance together should see `other`, and sees `first`
  obtain ⟨x, hx, hxout⟩ := hcomp _ hout simdWidth (by omega)
  obtain ⟨y, hy, hyout⟩ := staged_output hk hpos hn hs (Bindings.apart_probe _) hc hop hout
    (show simdWidth < n by omega)
  rw [DispatchShape.stagedAt_of_wide (by omega)] at hy
  have hox := Kernel.operation?_probe hop (by omega) hx
  have hoy := Kernel.operation?_probe hop (by omega) hy
  rw [if_pos rfl] at hox
  rw [if_neg (by decide)] at hoy
  rw [hxout] at hyout
  calc op other = op x := hox.symm
    _ = op y := Option.some.inj hyout
    _ = op first := hoy

variable {name callee : String} {geometry : TileGeometry} {f : TileScaling}

/-- A round trip with a lane for each cell computes the reference. -/
theorem computes_of_roundtrip (hk : p.kernel = .tileRoundtrip name geometry callee)
    (hf : p.linked.find? callee = some (.tile f)) (hrows : 1 ≤ geometry.rows)
    (hcols : geometry.tileCols ≤ geometry.cols) (hlanes : geometry.tileLength ≤ f.lanes)
    (hpos : 0 < geometry.tileLength)
    (hs : p.Accepts ⟨geometry.tileLength, geometry.tileLength⟩) (hb : b.Apart 1)
    (hc : p.dispatch b ⟨geometry.tileLength, geometry.tileLength⟩ m = .ok (.completed, m'))
    (h : geometry.tileLength ≤ simdWidth ∨ ∀ x, f.reference x = x) :
    geometry.Computes f.reference b m m' := by
  obtain ⟨hg, -⟩ := (roundtrip_completes_iff hk hf hrows hcols hpos hs hb.indices).mp ⟨m', hc⟩
  intro src dst hsrc hdst
  refine ⟨fun r hr c hcol => ?_, fun j hj => ?_⟩
  · obtain ⟨x, hx, hout⟩ := roundtrip_cell hk hf hrows hcols hpos hs hb hc hsrc hdst hr hcol
    have hcell := TileGeometry.cell_lt_tileLength hg hr hcol
    dsimp only at hout
    rw [DispatchShape.lastLanes_self hpos] at hout
    refine ⟨x, hx, hout.trans (congrArg some ?_)⟩
    rcases h with hnarrow | hfixed
    · rw [TileScaling.times_eq_one (by omega) hcell hnarrow]
      rfl
    · rw [hfixed x]
      exact Function.iterate_fixed (hfixed x) _
  · exact roundtrip_rest hk hf hrows hcols hpos hs hb hc hsrc hdst hj

/-- A tile with more cells than lanes advance together has a cell that no lane scales. -/
theorem exists_roundtrip_not_computes (hk : p.kernel = .tileRoundtrip name geometry callee)
    (hf : p.linked.find? callee = some (.tile f)) (hg : geometry.extent.Fits)
    (hrows : 1 ≤ geometry.rows) (hcols : geometry.tileCols ≤ geometry.cols)
    (hs : p.Accepts ⟨geometry.tileLength, geometry.tileLength⟩)
    (hw : simdWidth < geometry.tileLength) (h : ¬ ∀ x, f.reference x = x) :
    ∃ m m', p.dispatch .probe ⟨geometry.tileLength, geometry.tileLength⟩ m
        = .ok (.completed, m') ∧
      ¬ geometry.Computes f.reference .probe m m' := by
  push Not at h
  obtain ⟨x, hne⟩ := h
  have hpos : 0 < geometry.tileLength := by omega
  have hb := Bindings.apart_probe 1
  have hmem : ∀ i, i < 3 → (i, BufferHandle.mk i) ∈ Bindings.probe :=
    fun i hi => Bindings.mem_probe_iff.mpr ⟨hi, rfl⟩
  obtain ⟨m', hc⟩ := (roundtrip_completes_iff (m := .probe geometry.reach (fun _ => x) fun _ => x)
    hk hf hrows hcols hpos hs hb.indices).mpr ⟨hg, fun i hi => by
      have hi3 : i < 3 := by rcases List.mem_pair.mp hi with rfl | rfl <;> omega
      exact ⟨⟨i⟩, hmem i hi3, by rw [DeviceMemory.size_words_probe hi3]; exact Nat.le_refl _⟩⟩
  refine ⟨_, m', hc, fun hcomp => hne ?_⟩
  -- the cell of the first lane that has no position of its own
  have hlength := TileGeometry.tileLength_of_fits hg
  have hcol : 0 < geometry.tileCols := Nat.pos_of_mul_pos_left (hlength ▸ hpos)
  have hr : simdWidth / geometry.tileCols < geometry.rows :=
    (Nat.div_lt_iff_lt_mul hcol).mpr (hlength ▸ hw)
  have hcell := Nat.mod_lt simdWidth hcol
  obtain ⟨y, hy, hyout⟩ := (hcomp _ _ (hmem 0 (by omega)) (hmem 1 (by omega))).1 _ hr _ hcell
  obtain ⟨z, hz, hzout⟩ := roundtrip_cell hk hf hrows hcols hpos hs hb hc (hmem 0 (by omega))
    (hmem 1 (by omega)) hr hcell
  have hlt := TileGeometry.cell_lt_reach hr hcell
  rw [DeviceMemory.getElem?_words_probe (by omega) hlt, ite_self] at hy hz
  cases hy; cases hz
  rw [hyout, Nat.div_add_mod', TileScaling.times_eq_zero _ (Nat.le_refl _)] at hzout
  exact Option.some.inj hzout

end Pipeline

namespace CatalogKernel

variable {c : CatalogKernel} {p : Pipeline} {b : Bindings} {m m' : DeviceMemory} {n : Nat}

theorem groupWidth_eq (c : CatalogKernel) : c.entry.groupWidth = some c.width := by
  cases c <;> rfl

theorem width_pos (c : CatalogKernel) : 1 ≤ c.width := by
  cases c <;> exact Nat.le_max_right _ _

/-- The tile of a well-formed entry is as long as its groups are wide, if it can be counted. -/
theorem tile?_eq (hc : c.WellFormed) : c.kernel.tile? = some c.width ∨
    ∃ g f, c = .roundtrip g f ∧ (g.extent.Fits → c.width = g.tileLength) := by
  cases c with
  | asyncCopy params => exact .inl rfl
  | reverse tile f => exact .inl (congrArg some (Nat.max_eq_left hc).symm)
  | gemm tile v => exact .inl (congrArg some (Nat.max_eq_left hc).symm)
  | roundtrip g f =>
    refine .inr ⟨g, f, rfl, fun hg => Nat.max_eq_left ?_⟩
    exact Nat.lt_of_lt_of_eq (Nat.mul_pos hc.1 hc.2.1) (TileGeometry.tileLength_of_fits hg).symm

/-- For a staged entry, what is to be computed is the reference element by element. -/
theorem computes_iff_of_tile {tile : Nat} (ht : c.kernel.tile? = some tile) :
    c.Computes n b m m' ↔ c.kernel.Computes c.reference n b m m' := by
  cases c with
  | roundtrip g f => cases ht
  | _ => exact Iff.rfl

theorem forgiving_iff_of_tile {tile : Nat} (ht : c.kernel.tile? = some tile) :
    c.Forgiving ↔ ∀ x y, c.reference x = c.reference y := by
  cases c with
  | roundtrip g f => cases ht
  | _ => exact Iff.rfl

/-- A launch in groups of the entry's width, narrow enough, computes the reference. -/
theorem computes_of_completed (hc : c.WellFormed) (hp : p.Runs c) (hadm : c.Admits n)
    (hn : 0 < n) (hs : p.Accepts ⟨n, c.width⟩) (hi : (b.map Prod.fst).Nodup)
    (hh : (b.map Prod.snd).Nodup)
    (hdone : p.dispatch b ⟨n, c.width⟩ m = .ok (.completed, m'))
    (h : min c.width n ≤ simdWidth ∨ c.Forgiving) : c.Computes n b m m' := by
  have hkernel := hp.kernel_eq
  rcases tile?_eq hc with ht | ⟨g, f, rfl, hw⟩
  · rw [forgiving_iff_of_tile ht] at h
    rw [computes_iff_of_tile ht]
    have hop := hp.operation? ht
    rw [← hkernel] at ht ⊢
    exact Pipeline.computes_of_staged ht c.width_pos hn hs hop
      (Bindings.apart_of_nodup hi hh _) hdone h
  · obtain rfl : n = g.tileLength := hadm
    obtain ⟨hg, -⟩ := (Pipeline.roundtrip_completes_iff hkernel hp.find?_processTile hc.1 hc.2.2.1
      hn hs hi).mp ⟨m', hdone⟩
    rw [hw hg, Nat.min_self] at h
    rw [hw hg] at hs hdone
    exact Pipeline.computes_of_roundtrip hkernel hp.find?_processTile hc.1 hc.2.2.1 hc.2.2.2 hn hs
      (Bindings.apart_of_nodup hi hh 1) hdone h

/-- A launch in groups that are too wide completes with something else from some buffers. -/
theorem exists_not_computes (hc : c.WellFormed) (hp : p.Runs c) (hadm : c.Admits n)
    (hs : p.Accepts ⟨n, c.width⟩) (hw : simdWidth < min c.width n) (h : ¬ c.Forgiving)
    (ho : ¬ c.kernel.Overflows) :
    ∃ m m', p.dispatch .probe ⟨n, c.width⟩ m = .ok (.completed, m') ∧
      ¬ c.Computes n .probe m m' := by
  have hkernel := hp.kernel_eq
  rcases tile?_eq hc with ht | ⟨g, f, rfl, hwidth⟩
  · rw [forgiving_iff_of_tile ht] at h
    simp only [computes_iff_of_tile ht]
    have hop := hp.operation? ht
    rw [← hkernel] at ht ⊢
    exact Pipeline.exists_staged_not_computes ht hw hs hop h
  · obtain rfl : n = g.tileLength := hadm
    have hg : g.extent.Fits := not_not.mp ho
    rw [hwidth hg, Nat.min_self] at hw
    rw [hwidth hg] at hs ⊢
    exact Pipeline.exists_roundtrip_not_computes hkernel hp.find?_processTile hg hc.1 hc.2.2.1 hs
      hw h

end CatalogKernel

namespace HostDevice

variable {d : HostDevice} {p : LinkedPipeline} {c : CatalogKernel} {n : Nat}

/-- What the device accepts for a launch in groups of a width. -/
theorem accepts_of_le_widestGroup {width : Nat} (hw : 1 ≤ width) (h : width ≤ d.widestGroup p) :
    p.pipeline.Accepts ⟨n, width⟩ :=
  ⟨hw, Nat.le_trans h (Nat.min_le_left _ _)⟩

/--
**When accepted launches compute the reference.** Take any pipeline that runs a catalog entry, any
device and any number of threads. All launches in the entry's group width that validation accepts
and that complete on distinct buffers compute the reference, exactly when the device has no groups
of that width, or no group has more lanes than advance together, or the entry's results cannot tell,
or none of the launches completes because its tile has too many cells to be counted.
-/
theorem accepted_launches_compute_iff (hc : c.WellFormed) (hp : p.pipeline.Runs c)
    (hadm : c.Admits n) :
    (∀ l s m m', l.invocations = n → l.requiredGroup = c.entry.groupWidth →
      (l.bindings.map Prod.snd).Nodup → d.validate p l = .ok s →
      p.pipeline.dispatch l.bindings s m = .ok (.completed, m') →
      c.Computes n l.bindings m m') ↔
    d.widestGroup p < c.width ∨ min c.width n ≤ simdWidth ∨ c.Forgiving ∨
      c.kernel.Overflows := by
  constructor
  · intro h
    by_contra hcond
    push Not at hcond
    obtain ⟨hwidest, hwide, hforgiving, hcounted⟩ := hcond
    obtain ⟨m, m', hdone, hwrong⟩ := CatalogKernel.exists_not_computes hc hp hadm
      (accepts_of_le_widestGroup c.width_pos hwidest) hwide hforgiving hcounted
    refine hwrong (h ⟨n, c.width, .probe, c.entry.groupWidth⟩ ⟨n, c.width⟩ m m' rfl rfl
      Bindings.nodup_handles_probe ?_ hdone)
    rw [validate_eq_ok_iff]
    refine ⟨rfl, ?_, c.width_pos, hwidest, fun width hwidth => ?_,
      (Bindings.apart_probe 0).indices⟩
    · show 0 < n
      omega
    · rw [c.groupWidth_eq] at hwidth
      exact (Option.some.inj hwidth).symm
  · rintro hcond l s m m' rfl hreq hh hv hdone
    obtain ⟨rfl, hn, -, hle, hwidth, hi⟩ := validate_eq_ok_iff.mp hv
    have hgroup : c.width = l.groupSize := hwidth _ (hreq.trans c.groupWidth_eq)
    have hshape : l.shape = ⟨l.invocations, c.width⟩ := by rw [hgroup]; rfl
    rw [← hgroup] at hle
    have haccepts := accepts_of_le_widestGroup (n := l.invocations) c.width_pos hle
    rw [hshape] at hdone
    rcases hcond with hnone | hnarrow | hforgiving | hover
    · omega
    · exact CatalogKernel.computes_of_completed hc hp hadm hn haccepts hi hh hdone (.inl hnarrow)
    · exact CatalogKernel.computes_of_completed hc hp hadm hn haccepts hi hh hdone (.inr hforgiving)
    · -- there is no completed launch to say anything about
      rw [← hp.kernel_eq] at hover
      exact absurd hdone (Pipeline.not_completed_of_overflows hover hn haccepts)

/-- The reverse shell on tiles of some length, with the standard transform. -/
def reversing (tile : Nat) : LinkedPipeline where
  pipeline := ⟨reverseName, .stagedUnary reverseName tile (.call transformName),
    [(transformName, .unary .standard)], 1024⟩
  kernel := reverseName
  linked := [transformName]

theorem runs_reversing (tile : Nat) :
    (reversing tile).pipeline.Runs (.reverse tile .standard) where
  kernel := ⟨_, List.mem_cons_self, rfl⟩
  callables := by
    intro entry hentry e he f hf
    obtain rfl := List.mem_singleton.mp hentry
    obtain rfl := List.mem_singleton.mp he
    cases hf; rfl

/-- Three elements in groups of two: all of them are what they should be. -/
theorem accepted_launches_compute_iff_reversing : ∃ m',
    (reversing 2).pipeline.dispatch .probe ⟨3, 2⟩ (.probe 4 (fun _ => .ofNat 1) fun _ => .zero)
      = .ok (.completed, m') ∧
    (CatalogKernel.reverse 2 .standard).Computes 3 .probe
      (.probe 4 (fun _ => .ofNat 1) fun _ => .zero) m' := by
  have h := (accepted_launches_compute_iff (d := ⟨.standard, .empty⟩) (c := .reverse 2 .standard)
    (n := 3) (show 1 ≤ 2 by decide) (runs_reversing 2) trivial).mpr (.inr (.inl (by decide)))
  exact ⟨_, rfl, h ⟨3, 2, .probe, some 2⟩ ⟨3, 2⟩ _ _ rfl rfl Bindings.nodup_handles_probe rfl rfl⟩

/-- A group of one thread more than advance together completes with a wrong element. -/
theorem exists_accepted_launch_miscomputes :
    ¬ ∀ (c : CatalogKernel) (d : HostDevice) (p : LinkedPipeline) (l : Launch) (s : DispatchShape)
      (m m' : DeviceMemory), c.WellFormed → p.pipeline.Runs c → c.Admits l.invocations →
      l.requiredGroup = c.entry.groupWidth → (l.bindings.map Prod.snd).Nodup →
      d.validate p l = .ok s → p.pipeline.dispatch l.bindings s m = .ok (.completed, m') →
      c.Computes l.invocations l.bindings m m' := by
  intro h
  have hone : (1 : Nat) ≤ 33 := by decide
  obtain ⟨m, m', hdone, hwrong⟩ := CatalogKernel.exists_not_computes
    (c := .reverse 33 .standard) (n := 33) hone (runs_reversing 33) trivial
    ⟨hone, by decide⟩ (by decide)
    (fun hf => absurd (hf (fun _ => .zero) fun _ => .ofNat 1) (by decide)) id
  exact hwrong (h (.reverse 33 .standard) ⟨.standard, .empty⟩ (reversing 33)
    ⟨33, 33, .probe, some 33⟩ _ m m' hone (runs_reversing 33) trivial rfl
    Bindings.nodup_handles_probe rfl hdone)

end HostDevice

end KernelLink
