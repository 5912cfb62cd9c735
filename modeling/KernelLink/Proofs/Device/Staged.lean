import KernelLink.Proofs.Device.Groups
import KernelLink.Proofs.Exec.Staged

/-!
# Dispatches of the staged kernels

What a whole dispatch of a kernel with one-dimensional tiles does, for every number of threads,
every group size and every tile. Three lengths meet here and none of them divides another: the tile
that a group stages is the one that its first thread lies in, a lane looks into it at its position
among those that advance together, and the last group may be partial.

Each group leaves the output with all elements below its last thread written, so the plan of the
dispatch is one patch that grows, and each thread's value depends on its number alone.
-/

namespace KernelLink

namespace DispatchShape

/-- Where the tile of a group begins. -/
def tileStart (s : DispatchShape) (tile k : Nat) : Nat := k * s.threadsPerGroup / tile * tile

/-- The element that a thread finds at its place in the tile. -/
def stagedAt (s : DispatchShape) (tile tid : Nat) : Nat :=
  s.tileStart tile (tid / s.threadsPerGroup) + simdLane (tid % s.threadsPerGroup) % tile

variable {s : DispatchShape} {tile k tid : Nat}

theorem tileBase_group : Kernel.tileBase (s.group k) tile = s.tileStart tile k := rfl

theorem tileStart_mono (s : DispatchShape) (tile : Nat) {k k' : Nat} (h : k ≤ k') :
    s.tileStart tile k ≤ s.tileStart tile k' :=
  Nat.mul_le_mul_right _ (Nat.div_le_div_right (Nat.mul_le_mul_right _ h))

/-- The lanes of a group look where its threads look. -/
theorem stagedAt_threadPosition {lane : Nat} (hl : lane < (s.group k).lanes) :
    s.stagedAt tile ((s.group k).threadPosition lane)
      = s.tileStart tile k + simdLane lane % tile := by
  have hlg : lane < s.threadsPerGroup := Nat.lt_of_lt_of_le hl lanes_le
  unfold stagedAt
  rw [threadPosition_group, Nat.mul_add_mod_of_lt hlg, Nat.add_comm (k * _),
    Nat.add_mul_div_right _ _ (by omega), Nat.div_eq_of_lt hlg, Nat.zero_add]

/-- No thread looks past the tile of the last group. -/
theorem stagedAt_lt (hg : 1 ≤ s.threadsPerGroup) (ht : 0 < tile) (htid : tid < s.threads) :
    s.stagedAt tile tid < s.tileStart tile (s.groupCount - 1) + tile := by
  have hgroup := div_lt_groupCount hg htid
  have hmono := tileStart_mono s tile
    (show tid / s.threadsPerGroup ≤ s.groupCount - 1 by omega)
  have hmod := Nat.mod_lt (simdLane (tid % s.threadsPerGroup)) ht
  unfold stagedAt
  omega

end DispatchShape

namespace Pipeline

variable {p : Pipeline} {s : DispatchShape} {b : Bindings} {m m' : DeviceMemory}
  {t : BufferTable} {tile : Nat}

/-- What a thread writes, read off the table that the dispatch started from. -/
def stagedValue (p : Pipeline) (s : DispatchShape) (tile : Nat) (t : BufferTable) (tid : Nat) :
    Single :=
  match p.kernel.operation? p.linked with
  | some op => op fun i => t.element i (s.stagedAt tile tid)
  | none => .zero

theorem stagedValue_of_some {op : (Nat → Single) → Single}
    (hop : p.kernel.operation? p.linked = some op) (tid : Nat) :
    p.stagedValue s tile t tid = op fun i => t.element i (s.stagedAt tile tid) := by
  unfold stagedValue
  rw [hop]

theorem values_stagedValue (k : Nat) :
    p.kernel.Values tile (s.group k) p.linked t (p.stagedValue s tile t) := by
  intro op hop lane hl
  rw [stagedValue_of_some hop, DispatchShape.stagedAt_threadPosition hl]
  rfl

/-- Every group extends the written part of the output by its own threads. -/
def stagedPlan (hk : p.kernel.tile? = some tile) (ht : 0 < tile) (hs : p.Accepts s) :
    Plan p s t where
  patch k := .below (min (k * s.threadsPerGroup) s.threads) (p.stagedValue s tile t)
  fits k := p.kernel.Ready tile (s.group k) p.linked t
  start := by rw [Nat.zero_mul, Nat.zero_min, Patch.below_zero]
  runs k hlt hr := by
    -- the minimum is only taken once the last group has run
    have hle := Nat.le_of_lt ((DispatchShape.lt_groupCount_iff hs.1).mp hlt)
    obtain ⟨memory, h⟩ := Kernel.eval_run_of_ready hk ht Array.size_replicate hr
      (values_stagedValue k)
    rw [Nat.min_eq_left hle, ← DispatchShape.add_lanes hle]
    exact runGroup_of_eval h
  faults k hlt hr := by
    have hle := Nat.le_of_lt ((DispatchShape.lt_groupCount_iff hs.1).mp hlt)
    rw [Nat.min_eq_left hle]
    exact runGroup_of_stops (Kernel.stops_run_of_not_ready hk ht
      (DispatchShape.lanes_pos hs.1 hlt) Array.size_replicate hr (values_stagedValue k))

/-- All groups get through when the last one does: it stages the last tile and writes the last
element. -/
theorem forall_ready_iff (hs : p.Accepts s) (hthreads : 0 < s.threads) :
    (∀ k, k < s.groupCount → p.kernel.Ready tile (s.group k) p.linked t) ↔
      p.kernel.Fits tile (s.tileStart tile (s.groupCount - 1)) t ∧
      (∃ op, p.kernel.operation? p.linked = some op) ∧
      ∃ w, t.get? p.kernel.output = some w ∧ s.threads ≤ w.size := by
  have hpos := DispatchShape.groupCount_pos hs.1 hthreads
  constructor
  · intro h
    have hlast := h (s.groupCount - 1) (by omega)
    -- the last thread's room is everyone's
    have htid : s.threads - 1 < s.threads := by omega
    have hroom := (h _ (DispatchShape.div_lt_groupCount hs.1 htid)).room _
      (DispatchShape.mod_lt_lanes hs.1 htid)
    rw [DispatchShape.threadPosition_div_mod] at hroom
    obtain ⟨w, hw, hlt⟩ := hroom
    exact ⟨hlast.tiles, hlast.operation, w, hw, by omega⟩
  · rintro ⟨htiles, hop, w, hw, hle⟩ k hk
    refine ⟨fun i hi => ?_, hop, fun lane hl => ⟨w, hw, ?_⟩⟩
    · obtain ⟨v, hv, hsize⟩ := htiles i hi
      have hmono := DispatchShape.tileStart_mono s tile
        (show k ≤ s.groupCount - 1 by omega)
      refine ⟨v, hv, ?_⟩
      rw [DispatchShape.tileBase_group]
      omega
    · exact Nat.lt_of_lt_of_le (DispatchShape.threadPosition_lt hl) hle

/-- When a staged kernel's dispatch completes, in terms of the bound buffers. -/
theorem staged_completes_iff (hk : p.kernel.tile? = some tile) (ht : 0 < tile)
    (hthreads : 0 < s.threads) (hs : p.Accepts s) (hn : (b.map Prod.fst).Nodup) :
    (∃ m', p.dispatch b s m = .ok (.completed, m')) ↔
      (∀ i ∈ p.kernel.inputs, ∃ h, (i, h) ∈ b ∧
        s.tileStart tile (s.groupCount - 1) + tile ≤ (m.words h).size) ∧
      p.kernel.Resolved p.linked ∧
      ∃ h, (p.kernel.output, h) ∈ b ∧ s.threads ≤ (m.words h).size := by
  rw [(stagedPlan hk ht hs).completes_iff hs]
  refine (forall_ready_iff hs hthreads).trans ?_
  rw [exists_get?_table_iff hn, Kernel.exists_operation?_iff hk]
  refine and_congr_left' ?_
  exact forall_congr' fun i => forall_congr' fun _ => exists_get?_table_iff hn

/-- What a completed dispatch has written for one thread. -/
theorem staged_output (hk : p.kernel.tile? = some tile) (ht : 0 < tile)
    (hthreads : 0 < s.threads) (hs : p.Accepts s) (hb : b.Apart p.kernel.output)
    (hc : p.dispatch b s m = .ok (.completed, m')) {op : (Nat → Single) → Single}
    (hop : p.kernel.operation? p.linked = some op) {o : BufferHandle}
    (ho : (p.kernel.output, o) ∈ b) {tid : Nat} (htid : tid < s.threads) :
    ∃ x : Nat → Single,
      (∀ i ∈ p.kernel.inputs, ∃ h, (i, h) ∈ b ∧
        (m.words h)[s.stagedAt tile tid]? = some (x i)) ∧
      (m'.words o)[tid]? = some (op x) := by
  obtain ⟨hin, -, o', ho', hroom⟩ :=
    (staged_completes_iff hk ht hthreads hs hb.indices).mp ⟨m', hc⟩
  obtain rfl := Bindings.eq_of_mem hb.indices ho ho'
  -- the staged elements are those of the table that the dispatch started from
  refine ⟨fun i => (table m b).element i (s.stagedAt tile tid), fun i hi => ?_, ?_⟩
  · obtain ⟨h, hm, hsize⟩ := hin i hi
    have hlt := DispatchShape.stagedAt_lt hs.1 ht htid
    exact ⟨h, hm, BufferTable.getElem?_eq_element (get?_table_of_mem hb.indices hm) (by omega)⟩
  · rw [(stagedPlan hk ht hs).words_output hs hb hc ho, ← stagedValue_of_some hop]
    refine Patch.getElem?_apply_of_some (if_pos ?_) (by omega)
    rw [Nat.min_eq_right (DispatchShape.threads_le hs.1)]
    exact htid

/-- A completed dispatch has not written past its last thread. -/
theorem staged_rest (hk : p.kernel.tile? = some tile) (ht : 0 < tile) (hs : p.Accepts s)
    (hb : b.Apart p.kernel.output) (hc : p.dispatch b s m = .ok (.completed, m'))
    {o : BufferHandle} (ho : (p.kernel.output, o) ∈ b) {i : Nat} (hi : s.threads ≤ i) :
    (m'.words o)[i]? = (m.words o)[i]? := by
  rw [(stagedPlan hk ht hs).words_output hs hb hc ho]
  exact Patch.getElem?_apply_of_none (if_neg (by omega))

/--
**What the staged kernels compute.** A dispatch completes exactly when every input reaches to the
end of the last group's tile, the callee is linked by its convention and the output has room for
every thread. Then each thread has written what the operation makes of the elements it found staged,
and nothing else has changed.
-/
theorem dispatch_staged_exact (hk : p.kernel.tile? = some tile) (ht : 0 < tile)
    (hthreads : 0 < s.threads) (hs : p.Accepts s) (hb : b.Apart p.kernel.output) :
    ((∃ m', p.dispatch b s m = .ok (.completed, m')) ↔
      (∀ i ∈ p.kernel.inputs, ∃ h, (i, h) ∈ b ∧
        s.tileStart tile (s.groupCount - 1) + tile ≤ (m.words h).size) ∧
      p.kernel.Resolved p.linked ∧
      ∃ h, (p.kernel.output, h) ∈ b ∧ s.threads ≤ (m.words h).size) ∧
    ∀ m', p.dispatch b s m = .ok (.completed, m') →
      ∃ op, p.kernel.operation? p.linked = some op ∧
        (∀ o, (p.kernel.output, o) ∈ b →
          (∀ tid, tid < s.threads → ∃ x : Nat → Single,
            (∀ i ∈ p.kernel.inputs, ∃ h, (i, h) ∈ b ∧
              (m.words h)[s.stagedAt tile tid]? = some (x i)) ∧
            (m'.words o)[tid]? = some (op x)) ∧
          ∀ i, s.threads ≤ i → (m'.words o)[i]? = (m.words o)[i]?) ∧
        ∀ o, (p.kernel.output, o) ∉ b → m'.words o = m.words o := by
  have hiff := staged_completes_iff (m := m) hk ht hthreads hs hb.indices
  refine ⟨hiff, fun m' hc => ?_⟩
  obtain ⟨-, hresolved, -⟩ := hiff.mp ⟨m', hc⟩
  obtain ⟨op, hop⟩ := (Kernel.exists_operation?_iff hk).mpr hresolved
  refine ⟨op, hop, fun o ho => ⟨fun tid htid => ?_, fun i hi => ?_⟩, fun o ho => ?_⟩
  · exact staged_output hk ht hthreads hs hb hc hop ho htid
  · exact staged_rest hk ht hs hb hc ho hi
  · exact (stagedPlan hk ht hs).words_others hs hb hc ho

/-- A pipeline of two staged inputs, on tiles of two. -/
def pairing : Pipeline :=
  ⟨"pairing", .pairedTiles "pairing" 2 "combine", [("combine", .pairTile .mulAdd)], 1024⟩

/-- Two inputs of four elements and an output of as many. -/
def fourPairs : DeviceMemory :=
  ⟨#[#[.ofNat 1, .ofNat 2, .ofNat 3, .ofNat 4], #[.ofNat 2, .ofNat 3, .ofNat 4, .ofNat 5],
    #[.zero, .zero, .zero, .ofNat 7]]⟩

/-- Three threads in groups of two: the last group is partial. -/
theorem dispatch_staged_exact_pairing : ∃ m',
    pairing.dispatch [(0, ⟨0⟩), (1, ⟨1⟩), (2, ⟨2⟩)] ⟨3, 2⟩ fourPairs = .ok (.completed, m') ∧
      m'.words ⟨2⟩ = #[.ofNat 44, .ofNat 48, .ofNat 54, .ofNat 7] ∧
      m'.words ⟨0⟩ = fourPairs.words ⟨0⟩ := by
  obtain ⟨hiff, hdone⟩ := dispatch_staged_exact (p := pairing) (s := ⟨3, 2⟩) (m := fourPairs)
    (b := [(0, ⟨0⟩), (1, ⟨1⟩), (2, ⟨2⟩)]) rfl (by decide) (by decide)
    ⟨by decide, by decide⟩ (Bindings.apart_of_nodup (by decide) (by decide) 2)
  have hin : ∀ i ∈ pairing.kernel.inputs, ∃ h,
      (i, h) ∈ [(0, BufferHandle.mk 0), (1, ⟨1⟩), (2, ⟨2⟩)] ∧ 4 ≤ (fourPairs.words h).size := by
    intro i hi
    rcases List.mem_pair.mp hi with rfl | rfl
    · exact ⟨⟨0⟩, by decide, by decide⟩
    · exact ⟨⟨1⟩, by decide, by decide⟩
  obtain ⟨m', hc⟩ := hiff.mpr
    ⟨hin, (Kernel.exists_operation?_iff rfl).mp ⟨_, rfl⟩, ⟨2⟩, by decide, by decide⟩
  obtain ⟨op, -, -, hothers⟩ := hdone m' hc
  refine ⟨m', hc, ?_, hothers ⟨0⟩ (by decide)⟩
  have hrun : pairing.dispatch [(0, ⟨0⟩), (1, ⟨1⟩), (2, ⟨2⟩)] ⟨3, 2⟩ fourPairs
      = .ok (.completed, _) := rfl
  rw [hrun] at hc
  cases hc; rfl

end Pipeline

end KernelLink
