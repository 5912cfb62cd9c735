import KernelLink.Proofs.Device.Groups
import KernelLink.Proofs.Exec.Tiles

/-!
# Dispatches of the round trip

Every group of the round trip takes the same tile of the same source, lets its own lanes scale it
and puts it back at the same place. So each group covers what the group before has put there, and
of a whole dispatch only the last group is left to see: the tile as often scaled as that group has
lanes at each position. All groups need the same room, so they get through together or not at all.
A tile of more cells than a size counts has room nowhere, and no matrix is large enough to hold it.
-/

namespace KernelLink

/-- A tile of the source, packed and then scaled by the lanes of one group. -/
def TileGeometry.scaledTile (g : TileGeometry) (f : TileScaling) (source : Array Single)
    (lanes : Nat) : Array Single :=
  f.run ((Patch.gather source g.cols g.tileCols 0 g.rows).apply
    (Array.replicate g.tileLength .zero)) lanes

/-- What a group puts back. -/
def TileGeometry.patch (g : TileGeometry) (f : TileScaling) (source : Array Single)
    (lanes : Nat) : Patch :=
  .scatter (g.scaledTile f source lanes) g.cols g.tileCols 0 g.rows

/-- The lengths of all buffers are sizes. -/
def DeviceMemory.Fits (m : DeviceMemory) : Prop := ∀ h, (m.words h).size < Size.limit

/-- How far the rows of a tile reach into either matrix. -/
def TileGeometry.reach (g : TileGeometry) : Nat := (g.rows - 1) * g.cols + g.tileCols

namespace TileGeometry

variable {g : TileGeometry} {f : TileScaling} {source : Array Single} {lanes r c : Nat}

theorem size_scaledTile : (g.scaledTile f source lanes).size = g.tileLength := by
  unfold scaledTile
  rw [TileScaling.size_run, Patch.size_apply, Array.size_replicate]

/-- The scaled tile is the one that the copy back expects. -/
theorem extent_le_scaledTile : 0 + g.extent.size ≤ (g.scaledTile f source lanes).size := by
  rw [size_scaledTile, Nat.zero_add]
  exact Nat.le_refl _

theorem patch_after_patch (lanes lanes' : Nat) :
    (g.patch f source lanes').after (g.patch f source lanes) = g.patch f source lanes' := by
  unfold patch
  exact Patch.scatter_after_scatter (by rw [size_scaledTile, size_scaledTile]) g.rows

/-- A cell of either matrix lies before the end of the last row. -/
theorem cell_lt_reach (hr : r < g.rows) (hc : c < g.tileCols) : r * g.cols + c < g.reach := by
  have := Nat.mul_le_mul_right g.cols (show r ≤ g.rows - 1 by omega)
  unfold reach
  omega

theorem tileLength_of_fits (hg : g.extent.Fits) : g.tileLength = g.rows * g.tileCols :=
  Extent.size_of_fits hg

/-- A cell of the packed tile lies in the threadgroup memory. -/
theorem cell_lt_tileLength (hg : g.extent.Fits) (hr : r < g.rows) (hc : c < g.tileCols) :
    r * g.tileCols + c < g.tileLength := by
  rw [tileLength_of_fits hg]
  exact Nat.lt_of_lt_of_le (Nat.add_lt_add_left hc _) (row_end_le hr)

/-- Where the rows do not overlap, a matrix holds at least the cells of the tile. -/
theorem cells_le_reach (hrows : 1 ≤ g.rows) (hcols : g.tileCols ≤ g.cols) :
    g.rows * g.tileCols ≤ g.reach := by
  obtain ⟨rows, hr⟩ := Nat.exists_eq_succ_of_ne_zero (Nat.one_le_iff_ne_zero.mp hrows)
  have hlast := Nat.mul_le_mul_left rows hcols
  unfold reach
  rw [hr, Nat.succ_mul, Nat.succ_sub_one]
  omega

/-- **A cell that was put back is its source, scaled once per lane at its position.** -/
theorem patch_at (hg : g.extent.Fits) (hcols : g.tileCols ≤ g.cols) (hr : r < g.rows)
    (hc : c < g.tileCols) {x : Single}
    (hx : source[r * g.cols + c]? = some x) :
    g.patch f source lanes (r * g.cols + c)
      = some ((· * f.scale)^[f.times lanes (r * g.tileCols + c)] x) := by
  have hpacked : ((Patch.gather source g.cols g.tileCols 0 g.rows).apply
      (Array.replicate g.tileLength .zero))[r * g.tileCols + c]? = some x := by
    refine Patch.getElem?_apply_of_some ((Patch.gather_at hr hc).trans hx) ?_
    rw [Array.size_replicate]
    exact cell_lt_tileLength hg hr hc
  unfold patch
  rw [Patch.scatter_at hcols hr hc]
  unfold scaledTile
  rw [TileScaling.getElem?_run, hpacked]; rfl

end TileGeometry

namespace Kernel

open GroupM

variable {name callee : String} {geometry : TileGeometry} {f : TileScaling} {linked : Linked}
  {g : GroupShape} {t : BufferTable} {w : Array Single}

theorem room_of_fits (hg : geometry.extent.Fits) :
    0 + geometry.extent.rows * geometry.extent.cols
      ≤ (Array.replicate geometry.tileLength Single.zero).size := by
  rw [Array.size_replicate, Nat.zero_add, TileGeometry.tileLength_of_fits hg]
  exact Nat.le_refl _

/-- A group whose tile is there stages it and scales it. -/
theorem eval_roundtrip_tile (hg : geometry.extent.Fits)
    (hf : linked.find? callee = some (.tile f)) (hrows : 1 ≤ geometry.rows)
    (hsrc : t.get? 0 = some w) (hw : geometry.reach ≤ w.size) {β : Type} (rest : GroupM β) :
    (do
      GroupM.copyTileIn 0 geometry.cols geometry.extent 0
      GroupM.forBelow g.lanes fun lane => GroupM.callTile linked callee (simdLane lane)
      rest : GroupM β).eval ⟨t, Array.replicate geometry.tileLength .zero⟩
      = rest.eval ⟨t, geometry.scaledTile f w g.lanes⟩ := by
  have hin := eval_copyTileIn (s := ⟨t, Array.replicate geometry.tileLength .zero⟩)
    (e := geometry.extent) hsrc hrows hw (room_of_fits hg)
  rw [eval_bind_of_ok hin, eval_bind_of_ok (eval_callTile_lanes hf _ _)]
  rfl

/-- A group that has room for its tile at both ends puts it back and nothing else. -/
theorem eval_roundtrip (name : String) (g : GroupShape) (hg : geometry.extent.Fits)
    (hf : linked.find? callee = some (.tile f)) (hrows : 1 ≤ geometry.rows)
    (hcols : geometry.tileCols ≤ geometry.cols)
    (hsrc : t.get? 0 = some w) (hw : geometry.reach ≤ w.size)
    (hdst : ∃ v, t.get? 1 = some v ∧ geometry.reach ≤ v.size) (q : Patch) :
    ((tileRoundtrip name geometry callee).run g linked).eval
        ⟨t.patch 1 q, Array.replicate geometry.tileLength .zero⟩
      = (.ok (), ⟨t.patch 1 ((geometry.patch f w g.lanes).after q),
          geometry.scaledTile f w g.lanes⟩) := by
  have hframe : BufferTable.Frame 1 t (t.patch 1 q) := .patch q
  obtain ⟨v, hv, hvsize⟩ := hframe.get?_of_le.mpr hdst
  have hsrc' : (t.patch 1 q).get? 0 = some w := by
    rw [BufferTable.get?_patch_of_ne (by decide), hsrc]
  have hback := eval_copyTileOut (s := ⟨t.patch 1 q, geometry.scaledTile f w g.lanes⟩)
    (e := geometry.extent) hv hcols hrows hg hvsize TileGeometry.extent_le_scaledTile
  refine (eval_roundtrip_tile hg hf hrows hsrc' hw _).trans ?_
  refine hback.trans ?_
  rw [BufferTable.patch_patch]
  rfl

theorem stops_roundtrip (name : String) (g : GroupShape) (hg : geometry.extent.Fits)
    (hf : linked.find? callee = some (.tile f)) (hrows : 1 ≤ geometry.rows) (q : Patch)
    (h : ¬ ∀ i ∈ [0, 1], ∃ v, t.get? i = some v ∧ geometry.reach ≤ v.size) :
    Stops ((tileRoundtrip name geometry callee).run g linked)
      ⟨t.patch 1 q, Array.replicate geometry.tileLength .zero⟩ := by
  have hframe : BufferTable.Frame 1 t (t.patch 1 q) := .patch q
  by_cases hsrc : ∃ w, (t.patch 1 q).get? 0 = some w ∧ geometry.reach ≤ w.size
  · obtain ⟨w, hw, hwsize⟩ := hsrc
    have hstop : Stops (copyTileOut 1 geometry.cols geometry.extent 0)
        ⟨t.patch 1 q, geometry.scaledTile f w g.lanes⟩ := by
      refine stops_copyTileOut hrows hg TileGeometry.extent_le_scaledTile
        fun hdst => h fun i hi => ?_
      rcases List.mem_pair.mp hi with rfl | rfl
      · exact hframe.get?_of_le.mp ⟨w, hw, hwsize⟩
      · exact hframe.get?_of_le.mp hdst
    obtain ⟨e, s', hstop⟩ := hstop
    exact ⟨e, s', (eval_roundtrip_tile hg hf hrows hw hwsize _).trans hstop⟩
  · have hstop : Stops (copyTileIn 0 geometry.cols geometry.extent 0)
        ⟨t.patch 1 q, Array.replicate geometry.tileLength .zero⟩ :=
      stops_copyTileIn hrows fun hsrc' => hsrc hsrc'
    exact hstop.bind

end Kernel

namespace Pipeline

variable {p : Pipeline} {s : DispatchShape} {b : Bindings} {m m' : DeviceMemory}
  {t : BufferTable} {name callee : String} {geometry : TileGeometry} {f : TileScaling}

theorem groupStart_roundtrip (hk : p.kernel = .tileRoundtrip name geometry callee)
    (t : BufferTable) :
    p.groupStart t = ⟨t, Array.replicate geometry.tileLength .zero⟩ := by
  unfold groupStart
  rw [hk]; rfl

theorem runGroup_roundtrip (hk : p.kernel = .tileRoundtrip name geometry callee)
    (hg : geometry.extent.Fits) (hf : p.linked.find? callee = some (.tile f))
    (hrows : 1 ≤ geometry.rows) (hcols : geometry.tileCols ≤ geometry.cols) (g : GroupShape)
    {w : Array Single}
    (hsrc : t.get? 0 = some w) (hw : geometry.reach ≤ w.size)
    (hdst : ∃ v, t.get? 1 = some v ∧ geometry.reach ≤ v.size) (q : Patch) :
    p.runGroup g (t.patch 1 q) = .ok (t.patch 1 ((geometry.patch f w g.lanes).after q)) := by
  have hrun := Kernel.eval_roundtrip name g hg hf hrows hcols hsrc hw hdst q
  rw [← hk, ← groupStart_roundtrip hk] at hrun
  exact runGroup_of_eval hrun

/-- The patch of the first groups is that of the last of them. -/
def roundtripPatch (s : DispatchShape) (geometry : TileGeometry) (f : TileScaling)
    (source : Array Single) : Nat → Patch
  | 0 => .empty
  | k + 1 => geometry.patch f source (s.group k).lanes

/-- One more group covers what the ones before it have put back. -/
theorem patch_after_roundtripPatch (source : Array Single) (k : Nat) :
    (geometry.patch f source (s.group k).lanes).after (roundtripPatch s geometry f source k)
      = roundtripPatch s geometry f source (k + 1) := by
  cases k with
  | zero => exact Patch.after_empty
  | succ k => exact TileGeometry.patch_after_patch _ _

/-- All groups of the round trip need the same room. -/
def roundtripPlan (hk : p.kernel = .tileRoundtrip name geometry callee)
    (hf : p.linked.find? callee = some (.tile f)) (hrows : 1 ≤ geometry.rows)
    (hcols : geometry.tileCols ≤ geometry.cols) : Plan p s t where
  patch := roundtripPatch s geometry f ((t.get? 0).getD #[])
  fits _ := geometry.extent.Fits ∧
    ∀ i ∈ [0, 1], ∃ v, t.get? i = some v ∧ geometry.reach ≤ v.size
  start := rfl
  runs k _ hfit := by
    obtain ⟨hg, hroom⟩ := hfit
    obtain ⟨w, hw, hwsize⟩ := hroom 0 List.mem_cons_self
    have hdst := hroom 1 (List.mem_cons_of_mem 0 List.mem_cons_self)
    rw [show p.kernel.output = 1 by rw [hk]; rfl, hw, Option.getD_some,
      runGroup_roundtrip hk hg hf hrows hcols _ hw hwsize hdst, patch_after_roundtripPatch]
  faults k _ hfit := by
    by_cases hg : geometry.extent.Fits
    · refine runGroup_of_stops ?_
      rw [show p.kernel.output = 1 by rw [hk]; rfl, groupStart_roundtrip hk, hk]
      exact Kernel.stops_roundtrip _ _ hg hf hrows _ fun hroom => hfit ⟨hg, hroom⟩
    · refine runGroup_of_overflows ?_ _ _
      rw [hk]
      exact hg

/-- When a round trip completes, in terms of the bound buffers. -/
theorem roundtrip_completes_iff (hk : p.kernel = .tileRoundtrip name geometry callee)
    (hf : p.linked.find? callee = some (.tile f)) (hrows : 1 ≤ geometry.rows)
    (hcols : geometry.tileCols ≤ geometry.cols) (hthreads : 0 < s.threads) (hs : p.Accepts s)
    (hn : (b.map Prod.fst).Nodup) :
    (∃ m', p.dispatch b s m = .ok (.completed, m')) ↔ geometry.extent.Fits ∧
      ∀ i ∈ [0, 1], ∃ h, (i, h) ∈ b ∧
        (geometry.rows - 1) * geometry.cols + geometry.tileCols ≤ (m.words h).size := by
  have hpos := DispatchShape.groupCount_pos hs.1 hthreads
  rw [(roundtripPlan hk hf hrows hcols).completes_iff hs]
  -- the condition is the same for every group, and there is a first one
  have hone : (∀ k, k < s.groupCount → geometry.extent.Fits ∧ ∀ i ∈ [0, 1],
      ∃ v, (table m b).get? i = some v ∧ geometry.reach ≤ v.size) ↔
      geometry.extent.Fits ∧ ∀ i ∈ [0, 1],
        ∃ v, (table m b).get? i = some v ∧ geometry.reach ≤ v.size :=
    ⟨fun h => h 0 (by omega), fun h k _ => h⟩
  refine hone.trans (and_congr_right fun _ => ?_)
  exact forall_congr' fun i => forall_congr' fun _ => exists_get?_table_iff hn

/-- What a completed round trip leaves in the destination, by its last group's lanes. -/
theorem roundtrip_output (hk : p.kernel = .tileRoundtrip name geometry callee)
    (hf : p.linked.find? callee = some (.tile f)) (hrows : 1 ≤ geometry.rows)
    (hcols : geometry.tileCols ≤ geometry.cols) (hthreads : 0 < s.threads) (hs : p.Accepts s)
    (hb : b.Apart 1) (hc : p.dispatch b s m = .ok (.completed, m')) {src dst : BufferHandle}
    (hsrc : (0, src) ∈ b) (hdst : (1, dst) ∈ b) :
    m'.words dst = (geometry.patch f (m.words src)
      (s.threads - (s.groupCount - 1) * s.threadsPerGroup)).apply (m.words dst) := by
  have hpos := DispatchShape.groupCount_pos hs.1 hthreads
  have hout : p.kernel.output = 1 := by rw [hk]; rfl
  have hwords := (roundtripPlan (t := table m b) hk hf hrows hcols).words_output hs
    (by rw [hout]; exact hb) hc (by rw [hout]; exact hdst)
  rw [hwords, ← DispatchShape.lanes_last hs.1 hthreads]
  have hlast : roundtripPatch s geometry f (((table m b).get? 0).getD #[]) s.groupCount
      = geometry.patch f (m.words src) (s.group (s.groupCount - 1)).lanes := by
    rw [get?_table_of_mem hb.indices hsrc, Option.getD_some,
      show s.groupCount = s.groupCount - 1 + 1 by omega]
    rfl
  exact congrArg (fun q => Patch.apply q (m.words dst)) hlast

/-- A cell of the tile after a completed round trip. -/
theorem roundtrip_cell (hk : p.kernel = .tileRoundtrip name geometry callee)
    (hf : p.linked.find? callee = some (.tile f)) (hrows : 1 ≤ geometry.rows)
    (hcols : geometry.tileCols ≤ geometry.cols) (hthreads : 0 < s.threads) (hs : p.Accepts s)
    (hb : b.Apart 1) (hc : p.dispatch b s m = .ok (.completed, m')) {src dst : BufferHandle}
    (hsrc : (0, src) ∈ b) (hdst : (1, dst) ∈ b) {r c : Nat} (hr : r < geometry.rows)
    (hcol : c < geometry.tileCols) :
    ∃ x, (m.words src)[r * geometry.cols + c]? = some x ∧
      (m'.words dst)[r * geometry.cols + c]? = some ((· * f.scale)^[f.times
        (s.threads - (s.groupCount - 1) * s.threadsPerGroup) (r * geometry.tileCols + c)] x) := by
  obtain ⟨hg, hlong⟩ :=
    (roundtrip_completes_iff hk hf hrows hcols hthreads hs hb.indices).mp ⟨m', hc⟩
  have hroom : ∀ i h, i ∈ [0, 1] → (i, h) ∈ b → geometry.reach ≤ (m.words h).size := by
    intro i h hi hmem
    obtain ⟨h', hmem', hsize⟩ := hlong i hi
    rwa [Bindings.eq_of_mem hb.indices hmem hmem']
  have hlt := TileGeometry.cell_lt_reach hr hcol
  have hx : (m.words src)[r * geometry.cols + c]? = some _ := Array.getElem?_eq_getElem
    (Nat.lt_of_lt_of_le hlt (hroom 0 src List.mem_cons_self hsrc))
  refine ⟨_, hx, ?_⟩
  rw [roundtrip_output hk hf hrows hcols hthreads hs hb hc hsrc hdst]
  exact Patch.getElem?_apply_of_some (TileGeometry.patch_at hg hcols hr hcol hx)
    (Nat.lt_of_lt_of_le hlt (hroom 1 dst (List.mem_cons_of_mem 0 List.mem_cons_self) hdst))

/-- A cell outside the tile after a completed round trip. -/
theorem roundtrip_rest (hk : p.kernel = .tileRoundtrip name geometry callee)
    (hf : p.linked.find? callee = some (.tile f)) (hrows : 1 ≤ geometry.rows)
    (hcols : geometry.tileCols ≤ geometry.cols) (hthreads : 0 < s.threads) (hs : p.Accepts s)
    (hb : b.Apart 1) (hc : p.dispatch b s m = .ok (.completed, m')) {src dst : BufferHandle}
    (hsrc : (0, src) ∈ b) (hdst : (1, dst) ∈ b) {j : Nat}
    (hj : ∀ r, r < geometry.rows → ∀ c, c < geometry.tileCols → j ≠ r * geometry.cols + c) :
    (m'.words dst)[j]? = (m.words dst)[j]? := by
  rw [roundtrip_output hk hf hrows hcols hthreads hs hb hc hsrc hdst]
  exact Patch.getElem?_apply_of_none (Patch.scatter_outside hj)

/-- The cells of a tile can be counted where a matrix holds them all. -/
theorem fits_of_long (hm : m.Fits) (hrows : 1 ≤ geometry.rows)
    (hcols : geometry.tileCols ≤ geometry.cols) {h : BufferHandle}
    (hlong : geometry.reach ≤ (m.words h).size) : geometry.extent.Fits :=
  Nat.lt_of_le_of_lt (TileGeometry.cells_le_reach hrows hcols) (Nat.lt_of_le_of_lt hlong (hm h))

/--
**What the round trip computes.** A dispatch completes exactly when both matrices reach to the end
of the tile's last row, on any memory whose lengths are sizes. Then each cell of the tile is its
source scaled once for every lane of the last group at its position, and nothing else has changed.
-/
theorem dispatch_roundtrip_exact (hk : p.kernel = .tileRoundtrip name geometry callee)
    (hf : p.linked.find? callee = some (.tile f)) (hrows : 1 ≤ geometry.rows)
    (hcols : geometry.tileCols ≤ geometry.cols) (hthreads : 0 < s.threads) (hs : p.Accepts s)
    (hb : b.Apart 1) :
    (m.Fits → ((∃ m', p.dispatch b s m = .ok (.completed, m')) ↔
      ∀ i ∈ [0, 1], ∃ h, (i, h) ∈ b ∧
        (geometry.rows - 1) * geometry.cols + geometry.tileCols ≤ (m.words h).size)) ∧
    ∀ m', p.dispatch b s m = .ok (.completed, m') →
      (∀ src dst, (0, src) ∈ b → (1, dst) ∈ b →
        (∀ r, r < geometry.rows → ∀ c, c < geometry.tileCols → ∃ x,
          (m.words src)[r * geometry.cols + c]? = some x ∧
          (m'.words dst)[r * geometry.cols + c]? = some ((· * f.scale)^[f.times
            (s.threads - (s.groupCount - 1) * s.threadsPerGroup) (r * geometry.tileCols + c)] x)) ∧
        (∀ j, (∀ r, r < geometry.rows → ∀ c, c < geometry.tileCols → j ≠ r * geometry.cols + c) →
          (m'.words dst)[j]? = (m.words dst)[j]?) ∧
        m'.words src = m.words src) ∧
      ∀ o, (1, o) ∉ b → m'.words o = m.words o := by
  have hout : p.kernel.output = 1 := by rw [hk]; rfl
  have hiff := roundtrip_completes_iff (m := m) hk hf hrows hcols hthreads hs hb.indices
  refine ⟨fun hm => hiff.trans (and_iff_right_of_imp fun hlong => ?_), fun m' hc => ?_⟩
  · obtain ⟨h, -, hsize⟩ := hlong 0 List.mem_cons_self
    exact fits_of_long hm hrows hcols hsize
  have hothers : ∀ o, (1, o) ∉ b → m'.words o = m.words o := fun o ho =>
    (roundtripPlan (t := table m b) hk hf hrows hcols).words_others hs
      (by rw [hout]; exact hb) hc (by rw [hout]; exact ho)
  refine ⟨fun src dst hsrc hdst => ?_, hothers⟩
  refine ⟨fun r hr c hcol => ?_, fun j hj => ?_, hothers src fun hmem => ?_⟩
  · exact roundtrip_cell hk hf hrows hcols hthreads hs hb hc hsrc hdst hr hcol
  · exact roundtrip_rest hk hf hrows hcols hthreads hs hb hc hsrc hdst hj
  · exact absurd (hb.output src hmem 0 hsrc) (by decide)

/-- A round trip over the first two columns of two rows of three. -/
def tenfold : Pipeline :=
  ⟨"tenfold", .tileRoundtrip "tenfold" ⟨2, 3, 2⟩ "scale", [("scale", .tile ⟨.ofNat 10, 3⟩)], 1024⟩

/-- A matrix of five cells and another of as many, which is all that the tile reaches into. -/
def twoMatrices : DeviceMemory :=
  ⟨#[#[.ofNat 1, .ofNat 2, .ofNat 3, .ofNat 4, .ofNat 5],
    #[.ofNat 7, .ofNat 7, .ofNat 7, .ofNat 7, .ofNat 7]]⟩

theorem fits_twoMatrices : twoMatrices.Fits := by
  rintro ⟨h⟩
  match h with
  | 0 => decide
  | 1 => decide
  | h + 2 => exact Nat.lt_of_le_of_lt (Nat.le_of_eq rfl) (show 0 < Size.limit by decide)

/-- Five threads in groups of three: the last group has two lanes, so two cells are scaled. -/
theorem dispatch_roundtrip_exact_tenfold : ∃ m',
    tenfold.dispatch [(0, ⟨0⟩), (1, ⟨1⟩)] ⟨5, 3⟩ twoMatrices = .ok (.completed, m') ∧
      m'.words ⟨1⟩ = #[.ofNat 10, .ofNat 20, .ofNat 7, .ofNat 4, .ofNat 5] ∧
      m'.words ⟨0⟩ = twoMatrices.words ⟨0⟩ := by
  obtain ⟨hiff, hdone⟩ := dispatch_roundtrip_exact (p := tenfold) (m := twoMatrices)
    (s := ⟨5, 3⟩) (b := [(0, ⟨0⟩), (1, ⟨1⟩)]) rfl rfl (by decide) (by decide) (by decide)
    ⟨by decide, by decide⟩ (Bindings.apart_of_nodup (by decide) (by decide) 1)
  have hroom : ∀ i ∈ [0, 1], ∃ h, (i, h) ∈ [(0, BufferHandle.mk 0), (1, ⟨1⟩)] ∧
      5 ≤ (twoMatrices.words h).size := by
    intro i hi
    rcases List.mem_pair.mp hi with rfl | rfl
    · exact ⟨⟨0⟩, by decide, by decide⟩
    · exact ⟨⟨1⟩, by decide, by decide⟩
  obtain ⟨m', hc⟩ := (hiff fits_twoMatrices).mpr hroom
  obtain ⟨hcells, -⟩ := hdone m' hc
  refine ⟨m', hc, ?_, (hcells ⟨0⟩ ⟨1⟩ (by decide) (by decide)).2.2⟩
  have hrun : tenfold.dispatch [(0, ⟨0⟩), (1, ⟨1⟩)] ⟨5, 3⟩ twoMatrices
      = .ok (.completed, _) := rfl
  rw [hrun] at hc
  cases hc; rfl

end Pipeline

end KernelLink
