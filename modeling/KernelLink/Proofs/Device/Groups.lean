import KernelLink.Proofs.Device.AllOrNothing
import KernelLink.Proofs.Exec.Tiles

/-!
# The groups of a dispatch

Groups run one after the other on one table, so what a dispatch does is an induction over its
groups. A `Plan` is what that induction needs and all that a kernel has to supply: the patch that
the first `k` groups leave on the output buffer together, and the condition under which the next
group gets through. From it this module derives when a dispatch completes and what every buffer
holds afterwards.

The arithmetic of shapes comes first: group after group the threads run in order, every thread has
one group, and only the last group is partial.
-/

namespace KernelLink

namespace DispatchShape

variable {s : DispatchShape} {k tid : Nat}

theorem lt_groupCount_iff (hg : 1 ≤ s.threadsPerGroup) :
    k < s.groupCount ↔ k * s.threadsPerGroup < s.threads := by
  unfold groupCount
  rw [if_neg (by omega), Nat.lt_div_iff_mul_lt (by omega)]
  rw [Nat.mul_comm]
  omega

theorem groupCount_pos (hg : 1 ≤ s.threadsPerGroup) (ht : 1 ≤ s.threads) : 1 ≤ s.groupCount := by
  have := (lt_groupCount_iff (k := 0) hg).mpr (by omega)
  omega

/-- The groups reach past the last thread. -/
theorem threads_le (hg : 1 ≤ s.threadsPerGroup) :
    s.threads ≤ s.groupCount * s.threadsPerGroup :=
  Nat.le_of_not_lt fun h => Nat.lt_irrefl _ ((lt_groupCount_iff hg).mpr h)

theorem div_lt_groupCount (hg : 1 ≤ s.threadsPerGroup) (ht : tid < s.threads) :
    tid / s.threadsPerGroup < s.groupCount := by
  rw [lt_groupCount_iff hg]
  exact Nat.lt_of_le_of_lt (Nat.div_mul_le_self _ _) ht

/-- A group takes what is left of the threads, as far as its size allows. -/
theorem lanes_group (k : Nat) :
    (s.group k).lanes = min s.threadsPerGroup (s.threads - k * s.threadsPerGroup) := rfl

/-- A group runs from the threads before it to the threads before the next one. -/
theorem add_lanes (hk : k * s.threadsPerGroup ≤ s.threads) :
    k * s.threadsPerGroup + (s.group k).lanes
      = min ((k + 1) * s.threadsPerGroup) s.threads := by
  rw [lanes_group, Nat.succ_mul]
  omega

theorem lanes_le : (s.group k).lanes ≤ s.threadsPerGroup := Nat.min_le_left _ _

theorem threadPosition_group (lane : Nat) :
    (s.group k).threadPosition lane = k * s.threadsPerGroup + lane := rfl

/-- Every lane of a group is a thread of the dispatch. -/
theorem threadPosition_lt {lane : Nat} (hl : lane < (s.group k).lanes) :
    (s.group k).threadPosition lane < s.threads := by
  have : lane < s.threads - k * s.threadsPerGroup := Nat.lt_of_lt_of_le hl (Nat.min_le_right _ _)
  rw [threadPosition_group]
  omega

/-- Every thread is a lane of its group. -/
theorem mod_lt_lanes (hg : 1 ≤ s.threadsPerGroup) (ht : tid < s.threads) :
    tid % s.threadsPerGroup < (s.group (tid / s.threadsPerGroup)).lanes := by
  have hmod := Nat.mod_lt tid (show s.threadsPerGroup > 0 from hg)
  have htid := Nat.div_add_mod tid s.threadsPerGroup
  rw [Nat.mul_comm] at htid
  exact Nat.lt_min.mpr ⟨hmod, by omega⟩

theorem threadPosition_div_mod (tid : Nat) :
    (s.group (tid / s.threadsPerGroup)).threadPosition (tid % s.threadsPerGroup) = tid := by
  rw [threadPosition_group, Nat.mul_comm]
  exact Nat.div_add_mod tid s.threadsPerGroup

/-- A group has at least one lane. -/
theorem lanes_pos (hg : 1 ≤ s.threadsPerGroup) (hk : k < s.groupCount) :
    0 < (s.group k).lanes := by
  have := (lt_groupCount_iff hg).mp hk
  exact Nat.lt_min.mpr ⟨hg, by omega⟩

/-- The last group runs what the others have left. -/
theorem lanes_last (hg : 1 ≤ s.threadsPerGroup) (ht : 1 ≤ s.threads) :
    (s.group (s.groupCount - 1)).lanes
      = s.threads - (s.groupCount - 1) * s.threadsPerGroup := by
  have hle := threads_le hg
  have hpos := groupCount_pos hg ht
  have hsucc := Nat.succ_mul (s.groupCount - 1) s.threadsPerGroup
  rw [show (s.groupCount - 1).succ = s.groupCount by omega] at hsucc
  rw [lanes_group]
  omega

/-- A group behind the last thread would run nothing. -/
theorem lanes_eq_zero (h : s.threads ≤ k * s.threadsPerGroup) : (s.group k).lanes = 0 := by
  rw [lanes_group]
  omega

/-- A group that another one follows is full. -/
theorem lanes_of_lt (hg : 1 ≤ s.threadsPerGroup) (hk : k + 1 < s.groupCount) :
    (s.group k).lanes = s.threadsPerGroup := by
  have hnext := (lt_groupCount_iff hg).mp hk
  rw [Nat.succ_mul] at hnext
  rw [lanes_group]
  omega

/-- Where the lanes of the first groups stand in the grid, in the order in which they run. -/
def positions (s : DispatchShape) (count : Nat) : List Nat :=
  (List.range count).flatMap fun k =>
    (List.range (s.group k).lanes).map (s.group k).threadPosition

/-- Each group adds its own lanes behind those of the groups before it. -/
theorem positions_succ (k : Nat) : s.positions (k + 1) =
    s.positions k ++ (List.range (s.group k).lanes).map (k * s.threadsPerGroup + ·) := by
  unfold positions
  rw [List.range_succ, List.flatMap_append, List.flatMap_singleton]
  rfl

/-- **The first groups run the first threads**, in order, as many as they have room for. -/
theorem positions_eq_range (k : Nat) :
    s.positions k = List.range (min (k * s.threadsPerGroup) s.threads) := by
  induction k with
  | zero =>
    rw [Nat.zero_mul, Nat.zero_min]
    rfl
  | succ k ih =>
    rw [positions_succ, ih]
    rcases Nat.le_total (k * s.threadsPerGroup) s.threads with hle | hle
    · rw [← add_lanes hle, Nat.min_eq_left hle, List.range_add]
    · -- All threads have run, and no group behind them runs any.
      have hnext : s.threads ≤ (k + 1) * s.threadsPerGroup :=
        Nat.le_trans hle (Nat.mul_le_mul_right _ (Nat.le_succ k))
      rw [lanes_eq_zero hle, Nat.min_eq_right hle, Nat.min_eq_right hnext]
      exact List.append_nil _

/-- No group is without a thread of its own. -/
theorem groupCount_le (hg : 1 ≤ s.threadsPerGroup) : s.groupCount ≤ s.threads :=
  Nat.le_of_not_lt fun h => by
    have hlast := (lt_groupCount_iff hg).mp h
    exact absurd (Nat.le_mul_of_pos_right s.threads hg) (Nat.not_le.mpr hlast)

end DispatchShape

/-- Before the first row of a tile that the buffer does not have comes one that the memory made for
the tile does not hold. -/
def TileGeometry.Overruns (g : TileGeometry) (words : Array Single) : Prop :=
  ∃ row < g.rows, g.tileLength < (row + 1) * g.tileCols ∧
    ∀ row' ≤ row, row' * g.cols + g.tileCols ≤ words.size

namespace Pipeline

variable {p : Pipeline} {s : DispatchShape} {b : Bindings} {m m' : DeviceMemory}
  {t t' : BufferTable}

theorem runGroup_of_eval {g : GroupShape} {memory : Array Single}
    (h : (p.kernel.run g p.linked).eval (p.groupStart t) = (.ok (), ⟨t', memory⟩)) :
    p.runGroup g t = .ok t' := by
  rw [runGroup_eq, h]

theorem runGroup_of_stops {g : GroupShape}
    (h : GroupM.Stops (p.kernel.run g p.linked) (p.groupStart t)) :
    ∃ f, p.runGroup g t = .error (.fault f) := by
  obtain ⟨f, s', h⟩ := h
  exact ⟨f, by rw [runGroup_eq, h]⟩

/-- The copy of a tile whose cells cannot be counted is the first thing of its group, and it does not
get through. -/
theorem runGroup_of_not_fits {name callee : String} {g : TileGeometry}
    (hk : p.kernel = .tileRoundtrip name g callee) (ho : ¬g.extent.Fits) (group : GroupShape)
    (t : BufferTable) :
    ∃ f, p.runGroup group t = .error (.fault f) ∧ f.code ≤ 3 ∧
      (f.code = 3 ↔ ∃ w, t.get? 0 = some w ∧ g.Overruns w) := by
  have hsize : (p.groupStart t).threadgroup.size = g.tileLength := by
    unfold groupStart
    rw [Array.size_replicate, hk]
    rfl
  obtain ⟨f, s', hcopy⟩ := GroupM.stops_copyTileIn_of_not_fits (s := p.groupStart t) ho
    (hsize ▸ Size.wrap_lt _) 0 g.cols 0
  obtain ⟨hle, hcode⟩ := GroupM.code_of_copyTileIn (Extent.one_le_rows_of_not_fits ho) hcopy
  have hrun : (p.kernel.run group p.linked).eval (p.groupStart t) = (.error (.fault f), s') := by
    rw [hk]
    exact GroupM.eval_bind_of_error hcopy
  refine ⟨f, by rw [runGroup_eq, hrun], hle, hcode.trans ?_⟩
  rw [hsize]
  simp only [Nat.zero_add]
  exact ⟨fun ⟨w, row, hw, hrow, hend, hrows⟩ => ⟨w, hw, row, hrow, hend, hrows⟩,
    fun ⟨w, hw, row, hrow, hend, hrows⟩ => ⟨w, row, hw, hrow, hend, hrows⟩⟩

theorem runGroup_of_overflows (h : p.kernel.Overflows) (g : GroupShape) (t : BufferTable) :
    ∃ f, p.runGroup g t = .error (.fault f) := by
  cases hk : p.kernel with
  | stagedUnary name tile op => rw [hk] at h; exact h.elim
  | tileRoundtrip name geometry callee =>
    rw [hk] at h
    obtain ⟨f, hf, -⟩ := runGroup_of_not_fits hk h g t
    exact ⟨f, hf⟩
  | pairedTiles name tile callee => rw [hk] at h; exact h.elim

/-- A dispatch that runs a group does not complete. -/
theorem not_completed_of_overflows (h : p.kernel.Overflows) (hthreads : 0 < s.threads)
    (hs : p.Accepts s) : p.dispatch b s m ≠ .ok (.completed, m') := by
  obtain ⟨count, hcount⟩ := Nat.exists_eq_add_of_le' (DispatchShape.groupCount_pos hs.1 hthreads)
  obtain ⟨f, hf⟩ := runGroup_of_overflows h (s.group 0) (table m b)
  rw [dispatch_of_accepts hs, hcount, runGroups_succ, hf]
  nofun

/-- The groups run are those of consecutive numbers, each on the table that the one before it has
left, up to the first that stops. -/
theorem runGroups_eq_foldlM (count index : Nat) (t : BufferTable) :
    p.runGroups s count index t = (List.range' index count).foldlM
      (fun t k => (p.runGroup (s.group k) t).mapError fun stop => (k, stop)) t := by
  induction count generalizing index t with
  | zero => rfl
  | succ count ih =>
    rw [runGroups_succ, List.range'_succ, List.foldlM_cons]
    cases p.runGroup (s.group index) t with
    | ok t' => exact ih (index + 1) t'
    | error stop => rfl

/--
**The groups partition the grid.** A dispatch runs the groups in order, and lane after lane their
threads are all threads of the grid in order, each of them once. There are no more groups than
threads and no group starts behind the last thread, so what is left for a group is never less than
nothing. Each has at least one lane and at most as many as the size of a group, and fewer only if it
is the last.
-/
theorem groups_partition_grid (hg : 1 ≤ s.threadsPerGroup) :
    (∀ t, p.runGroups s s.groupCount 0 t = (List.range s.groupCount).foldlM
      (fun t k => (p.runGroup (s.group k) t).mapError fun stop => (k, stop)) t) ∧
    s.positions s.groupCount = List.range s.threads ∧
    s.groupCount ≤ s.threads ∧
    ∀ k, k < s.groupCount →
      k * s.threadsPerGroup ≤ s.threads ∧
      1 ≤ (s.group k).lanes ∧ (s.group k).lanes ≤ s.threadsPerGroup ∧
      ((s.group k).lanes < s.threadsPerGroup → k + 1 = s.groupCount) := by
  refine ⟨fun t => ?_, ?_, DispatchShape.groupCount_le hg,
    fun k hk => ⟨?_, DispatchShape.lanes_pos hg hk, DispatchShape.lanes_le, ?_⟩⟩
  · rw [runGroups_eq_foldlM, List.range_eq_range']
  · rw [DispatchShape.positions_eq_range, Nat.min_eq_right (DispatchShape.threads_le hg)]
  · exact Nat.le_of_lt ((DispatchShape.lt_groupCount_iff hg).mp hk)
  · intro hpartial
    by_contra hlast
    exact absurd (DispatchShape.lanes_of_lt hg (by omega)) (Nat.ne_of_lt hpartial)

/-- Ten threads in groups of four: the last of three groups runs two, if it runs at all. -/
theorem groups_partition_grid_doubling : 1 ≤ (⟨10, 4⟩ : DispatchShape).threadsPerGroup ∧
    doubling.runGroups ⟨10, 4⟩ 3 0 [(0, .replicate 6 .zero), (1, .replicate 10 .zero)] =
      .error (2, .fault (.outOfBounds 0 8 9 6)) ∧
    (⟨10, 4⟩ : DispatchShape).positions 3 = List.range 10 ∧
    ((⟨10, 4⟩ : DispatchShape).group 2).lanes = 2 ∧
    1 ≤ ((⟨10, 4⟩ : DispatchShape).group 2).lanes := by
  have h := groups_partition_grid (p := doubling) (s := ⟨10, 4⟩) (by decide)
  exact ⟨by decide, (h.1 _).trans rfl, h.2.1, rfl, (h.2.2.2 2 (by decide)).2.1⟩

/--
What the groups of a dispatch do to a table, group after group.

The condition of a group may look at the table that the dispatch started from. It cannot depend on
what the groups before have written, and it need not, since they keep all lengths and write nothing
that a kernel reads.
-/
structure Plan (p : Pipeline) (s : DispatchShape) (t : BufferTable) where
  /-- The patch that the first groups leave on the output buffer. -/
  patch : Nat → Patch
  /-- Whether a group gets through. -/
  fits : Nat → Prop
  start : patch 0 = .empty
  runs : ∀ k, k < s.groupCount → fits k →
    p.runGroup (s.group k) (t.patch p.kernel.output (patch k))
      = .ok (t.patch p.kernel.output (patch (k + 1)))
  faults : ∀ k, k < s.groupCount → ¬ fits k →
    ∃ f, p.runGroup (s.group k) (t.patch p.kernel.output (patch k)) = .error (.fault f)

namespace Plan

theorem runGroups_of_fits (plan : Plan p s t) (count index : Nat)
    (hc : index + count ≤ s.groupCount)
    (h : ∀ k, index ≤ k → k < index + count → plan.fits k) :
    p.runGroups s count index (t.patch p.kernel.output (plan.patch index))
      = .ok (t.patch p.kernel.output (plan.patch (index + count))) := by
  induction count generalizing index with
  | zero => rfl
  | succ count ih =>
    rw [runGroups_succ, plan.runs index (by omega) (h index (Nat.le_refl _) (by omega))]
    dsimp only
    rw [ih (index + 1) (by omega) fun k h1 h2 => h k (by omega) (by omega)]
    rw [show index + 1 + count = index + (count + 1) by omega]

/-- The first group that does not get through ends the run. -/
theorem runGroups_of_not_fits (plan : Plan p s t) (count index : Nat)
    (hc : index + count ≤ s.groupCount)
    (h : ∃ k, index ≤ k ∧ k < index + count ∧ ¬ plan.fits k) :
    ∃ k f, p.runGroups s count index (t.patch p.kernel.output (plan.patch index))
      = .error (k, .fault f) := by
  induction count generalizing index with
  | zero => obtain ⟨k, h1, h2, -⟩ := h; omega
  | succ count ih =>
    rw [runGroups_succ]
    by_cases hi : plan.fits index
    · -- this group gets through, so it is a later one that does not
      obtain ⟨k, h1, h2, hk⟩ := h
      have hne : k ≠ index := fun he => hk (he ▸ hi)
      rw [plan.runs index (by omega) hi]
      exact ih (index + 1) (by omega) ⟨k, by omega, by omega, hk⟩
    · obtain ⟨f, hf⟩ := plan.faults index (by omega) hi
      exact ⟨index, f, by rw [hf]⟩

/-- **A dispatch whose groups all get through completes with their last patch.** -/
theorem dispatch_of_fits (plan : Plan p s (table m b)) (hs : p.Accepts s)
    (h : ∀ k, k < s.groupCount → plan.fits k) :
    p.dispatch b s m = .ok (.completed,
      writeBack b ((table m b).patch p.kernel.output (plan.patch s.groupCount)) m) := by
  have hrun := plan.runGroups_of_fits s.groupCount 0 (by omega) fun k _ hk => h k (by omega)
  rw [plan.start, BufferTable.patch_empty, Nat.zero_add] at hrun
  rw [dispatch_of_accepts hs, hrun]

/-- A dispatch with a group that does not get through fails. -/
theorem dispatch_of_not_fits (plan : Plan p s (table m b)) (hs : p.Accepts s)
    (h : ¬ ∀ k, k < s.groupCount → plan.fits k) :
    ∃ code detail, p.dispatch b s m = .ok (.failed code detail, m) := by
  push Not at h
  obtain ⟨k, hk, hfit⟩ := h
  obtain ⟨i, f, hrun⟩ := plan.runGroups_of_not_fits s.groupCount 0 (by omega)
    ⟨k, Nat.zero_le _, by omega, hfit⟩
  rw [plan.start, BufferTable.patch_empty] at hrun
  exact ⟨_, _, by rw [dispatch_of_accepts hs, hrun]⟩

theorem completes_iff (plan : Plan p s (table m b)) (hs : p.Accepts s) :
    (∃ m', p.dispatch b s m = .ok (.completed, m')) ↔ ∀ k, k < s.groupCount → plan.fits k := by
  constructor
  · rintro ⟨m', hm⟩
    by_contra h
    obtain ⟨code, detail, hf⟩ := plan.dispatch_of_not_fits hs h
    rw [hf] at hm
    cases hm
  · intro h
    exact ⟨_, plan.dispatch_of_fits hs h⟩

/-- The memory that a completed dispatch leaves. -/
theorem memory_of_completed (plan : Plan p s (table m b)) (hs : p.Accepts s)
    (h : p.dispatch b s m = .ok (.completed, m')) :
    m' = writeBack b ((table m b).patch p.kernel.output (plan.patch s.groupCount)) m := by
  rw [plan.dispatch_of_fits hs ((plan.completes_iff hs).mp ⟨m', h⟩)] at h
  cases h; rfl

/-- The output buffer afterwards. -/
theorem words_output (plan : Plan p s (table m b)) (hs : p.Accepts s)
    (hb : b.Apart p.kernel.output) (h : p.dispatch b s m = .ok (.completed, m'))
    {o : BufferHandle} (ho : (p.kernel.output, o) ∈ b) :
    m'.words o = (plan.patch s.groupCount).apply (m.words o) := by
  rw [plan.memory_of_completed hs h]
  refine words_writeBack_output hb (.patch _) ho ?_
  rw [BufferTable.get?_patch_self, get?_table_of_mem hb.indices ho]; rfl

/-- All other buffers afterwards. -/
theorem words_others (plan : Plan p s (table m b)) (hs : p.Accepts s)
    (hb : b.Apart p.kernel.output) (h : p.dispatch b s m = .ok (.completed, m'))
    {o : BufferHandle} (ho : (p.kernel.output, o) ∉ b) : m'.words o = m.words o := by
  rw [plan.memory_of_completed hs h]
  exact words_writeBack_others hb.indices (.patch _) ho

end Plan

/-- A bound buffer of a certain length, in the table and on the device. -/
theorem exists_get?_table_iff (hn : (b.map Prod.fst).Nodup) {i n : Nat} :
    (∃ w, (table m b).get? i = some w ∧ n ≤ w.size) ↔
      ∃ h, (i, h) ∈ b ∧ n ≤ (m.words h).size := by
  constructor
  · rintro ⟨w, ht, hw⟩
    obtain ⟨h, hm, rfl⟩ := mem_of_get?_table ht
    exact ⟨h, hm, hw⟩
  · rintro ⟨h, hm, hw⟩
    exact ⟨_, get?_table_of_mem hn hm, hw⟩

end Pipeline

end KernelLink
