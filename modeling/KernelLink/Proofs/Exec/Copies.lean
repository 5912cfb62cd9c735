import KernelLink.Proofs.Exec.InRange

/-!
# Copies of tiles, in and out

A copy of a tile is its rows, one after the other, and each side of a row has to fit. So a copy gets
through exactly when the last row does. If a row does not fit its buffer, the fault names that row
and the rows in front of it are in place: from the memory's side at their packed places, from the
buffer's side wherever no later row has covered them. Copying in and out again moves the tile from
its place in one buffer to its place in another, and nothing else changes.

A tile of more cells than a size counts fits no memory, but what is counted of it may. A copy back
then finds room for the cells that are counted and gets as far as the first row that is not.
-/

namespace KernelLink

/-- Where rows are `stride` apart, the first `cols` elements of the row take in the element. -/
def RowCovers (stride cols row j : Nat) : Prop := row * stride ≤ j ∧ j < row * stride + cols

instance (stride cols row j : Nat) : Decidable (RowCovers stride cols row j) :=
  inferInstanceAs (Decidable (_ ∧ _))

theorem rowCovers_iff_exists {stride cols row j : Nat} :
    RowCovers stride cols row j ↔ ∃ c < cols, j = row * stride + c := by
  constructor
  · rintro ⟨h1, h2⟩
    obtain ⟨c, rfl⟩ := Nat.exists_eq_add_of_le h1
    exact ⟨c, by omega, rfl⟩
  · rintro ⟨c, hc, rfl⟩
    exact ⟨by omega, by omega⟩

/-- Rows at least their own length apart do not overlap. -/
theorem not_rowCovers_of_lt {stride cols row row' c : Nat} (hcs : cols ≤ stride) (hc : c < cols)
    (h : row < row') : ¬RowCovers stride cols row' (row * stride + c) := by
  rintro ⟨h1, -⟩
  have hnext : row * stride + stride ≤ row' * stride := row_end_le h
  omega

namespace Patch

variable {memory : Array Single} {stride cols offset rows : Nat}

theorem stored_succ_apply (n j : Nat) : stored memory stride cols offset (n + 1) j =
    (if RowCovers stride cols n j then memory[offset + n * cols + (j - n * stride)]? else none).or
      (stored memory stride cols offset n j) := by
  have hn : offset + (n + 1) * cols = offset + n * cols + cols := by rw [Nat.succ_mul]; omega
  rw [stored, hn]
  unfold after block
  by_cases h : RowCovers stride cols n j
  · obtain ⟨h1, h2⟩ := h
    rw [if_pos h1, getElem?_extract_add, if_pos (show j - n * stride < cols by omega),
      if_pos ⟨h1, h2⟩]
  · rw [if_neg h]
    by_cases h1 : n * stride ≤ j
    · rw [if_pos h1, getElem?_extract_add, if_neg fun h2 => h ⟨h1, by omega⟩]
    · rw [if_neg h1]

theorem stored_outside {j : Nat} (h : ∀ row < rows, ¬RowCovers stride cols row j) :
    stored memory stride cols offset rows j = none := by
  induction rows with
  | zero => rfl
  | succ n ih =>
    rw [stored_succ_apply, if_neg (h n (Nat.lt_succ_self n)),
      ih fun row hrow => h row (Nat.lt_succ_of_lt hrow)]
    rfl

/-- Where rows overlap, the last of them counts. -/
theorem stored_last {row c : Nat} (hm : offset + rows * cols ≤ memory.size) (hrow : row < rows)
    (hc : c < cols)
    (hlast : ∀ later, row < later → later < rows →
      ¬RowCovers stride cols later (row * stride + c)) :
    stored memory stride cols offset rows (row * stride + c) =
      memory[offset + row * cols + c]? := by
  induction rows with
  | zero => cases hrow
  | succ n ih =>
    rw [Nat.succ_mul] at hm
    rw [stored_succ_apply]
    by_cases hn : row = n
    · subst hn
      have hcovers : RowCovers stride cols row (row * stride + c) := ⟨by omega, by omega⟩
      rw [if_pos hcovers, Nat.add_sub_cancel_left, Array.getElem?_eq_getElem (by omega)]
      rfl
    · -- the last row leaves the element as the rows in front of it left it
      rw [if_neg (hlast n (by omega) (Nat.lt_succ_self n)),
        ih (by omega) (by omega) fun later hl hl' => hlast later hl (by omega)]
      rfl

end Patch

namespace GroupM

variable {s s' : GroupState} {b : Array Single} {e : Extent} {stride offset rows : Nat}

/-- The first rows of a tile are packed into the threadgroup memory, and nothing else is changed. -/
structure StagedRows (s s' : GroupState) (b : Array Single) (stride cols offset rows : Nat) :
    Prop where
  buffers : s'.buffers = s.buffers
  size : s'.threadgroup.size = s.threadgroup.size
  copied : ∀ row < rows, ∀ c < cols,
    s'.threadgroup[offset + row * cols + c]? = b[row * stride + c]?
  others : ∀ j, j < offset ∨ offset + rows * cols ≤ j → s'.threadgroup[j]? = s.threadgroup[j]?

/-- The first rows of a tile are back in the buffer `b`, and nothing else is changed. -/
structure StoredRows (s s' : GroupState) (target : Nat) (b : Array Single)
    (stride cols offset rows : Nat) : Prop where
  threadgroup : s'.threadgroup = s.threadgroup
  buffers : BufferTable.Frame target s.buffers s'.buffers
  copied : ∃ b', s'.buffers.get? target = some b' ∧
    (∀ row < rows, ∀ c < cols,
      (∀ later, row < later → later < rows → ¬RowCovers stride cols later (row * stride + c)) →
      b'[row * stride + c]? = s.threadgroup[offset + row * cols + c]?) ∧
    ∀ j, (∀ row < rows, ¬RowCovers stride cols row j) → b'[j]? = b[j]?

theorem stagedRows_packed
    (hfit : ∀ row < rows, row * stride + e.cols ≤ b.size ∧
      offset + row * e.cols + e.cols ≤ s.threadgroup.size) :
    StagedRows s (packed s b e stride offset rows) b stride e.cols offset rows where
  buffers := rfl
  size := Patch.size_apply
  copied row hrow c hc := by
    obtain ⟨hb, ht⟩ := hfit row hrow
    have hcell : Patch.gather b stride e.cols offset rows (offset + row * e.cols + c) =
        b[row * stride + c]? := Patch.gather_cell hrow hc
    rw [Array.getElem?_eq_getElem (show row * stride + c < b.size by omega)] at hcell ⊢
    exact Patch.getElem?_apply_of_some hcell (by omega)
  others j hj := Patch.getElem?_apply_of_none (Patch.gather_outside hj)

theorem storedRows_restored {target : Nat} (hb : s.buffers.get? target = some b)
    (hm : offset + rows * e.cols ≤ s.threadgroup.size)
    (hfit : ∀ row < rows, row * stride + e.cols ≤ b.size) :
    StoredRows s (restored s target stride e offset rows) target b stride e.cols offset rows where
  threadgroup := rfl
  buffers := .patch _
  copied := by
    refine ⟨(Patch.stored s.threadgroup stride e.cols offset rows).apply b, ?_,
      fun row hrow c hc hlast => ?_, fun j hj => ?_⟩
    · exact (BufferTable.get?_patch_self _ _).trans (by rw [hb]; rfl)
    · have hcell := Patch.stored_last hm hrow hc hlast
      have hend : row * e.cols + e.cols ≤ rows * e.cols := row_end_le hrow
      have hlt : offset + row * e.cols + c < s.threadgroup.size := by omega
      rw [Array.getElem?_eq_getElem hlt] at hcell ⊢
      exact Patch.getElem?_apply_of_some hcell (by have := hfit row hrow; omega)
    · exact Patch.getElem?_apply_of_none (Patch.stored_outside hj)

/-! ## When a copy gets through -/

theorem copyTileIn_ok_iff (hr : 1 ≤ e.rows) (source stride offset : Nat) :
    ((copyTileIn source stride e offset).eval s).1 = .ok () ↔
      ∃ b, s.buffers.get? source = some b ∧
        (∀ row < e.rows, row * stride + e.cols ≤ b.size) ∧
        offset + e.rows * e.cols ≤ s.threadgroup.size := by
  cases hb : s.buffers.get? source with
  | none =>
    rw [copyTileIn_of_unbound hb hr]
    exact ⟨nofun, fun ⟨_, h, _⟩ => nomatch h⟩
  | some b =>
    have hmemory : offset + e.rows * e.cols ≤ s.threadgroup.size ↔ _ := Extent.packed_le_iff hr
    rcases copyTileIn_cases hb stride e offset with ⟨hall, hrun⟩ | ⟨row, f, hrow, -, hfault, hrun⟩
    · rw [hrun]
      exact iff_of_true rfl ⟨b, rfl, fun row hrow => (hall row hrow).1,
        hmemory.mpr fun row hrow => (hall row hrow).2⟩
    · rw [hrun]
      refine iff_of_false nofun ?_
      rintro ⟨_, ⟨⟩, hrows, hpacked⟩
      rw [Extent.rowFault?_eq_none_iff.mpr (hrows row hrow),
        Extent.packedFault?_eq_none_iff.mpr (hmemory.mp hpacked row hrow)] at hfault
      cases hfault

theorem room_of_copyTileOut {target : Nat}
    (h : ((copyTileOut target stride e offset).eval s).1 = .ok ()) :
    offset + e.rows * e.cols ≤ s.threadgroup.size ∧
      ∃ b, s.buffers.get? target = some b ∧ ∀ row < e.rows, row * stride + e.cols ≤ b.size := by
  by_cases ht : offset + e.size ≤ s.threadgroup.size
  · cases hb : s.buffers.get? target with
    | none =>
      rw [copyTileOut_of_unbound ht hb] at h
      cases h
    | some b =>
      rcases copyTileOut_cases hb stride ht with ⟨hall, -⟩ | ⟨row, stop, -, -, -, hrun⟩
      · rw [Extent.size_of_rows fun row hrow => (hall row hrow).2] at ht
        exact ⟨ht, b, rfl, fun row hrow => (hall row hrow).1⟩
      · rw [hrun] at h
        cases h
  · rw [copyTileOut_of_short target stride ht] at h
    cases h

theorem fits_of_room (hs : s.threadgroup.size < Size.limit)
    (h : offset + e.rows * e.cols ≤ s.threadgroup.size) : e.Fits :=
  Nat.lt_of_le_of_lt (Nat.le_trans (Nat.le_add_left _ offset) h) hs

theorem copyTileOut_ok_iff (hs : s.threadgroup.size < Size.limit) (target stride offset : Nat) :
    ((copyTileOut target stride e offset).eval s).1 = .ok () ↔
      offset + e.rows * e.cols ≤ s.threadgroup.size ∧
        ∃ b, s.buffers.get? target = some b ∧
          ∀ row < e.rows, row * stride + e.cols ≤ b.size := by
  refine ⟨room_of_copyTileOut, ?_⟩
  rintro ⟨hroom, b, hb, hrows⟩
  have hfits := fits_of_room hs hroom
  have ht : offset + e.size ≤ s.threadgroup.size := by rwa [Extent.size_of_fits hfits]
  rcases copyTileOut_cases hb stride ht with ⟨-, hrun⟩ | ⟨row, stop, hrow, -, hstop, -⟩
  · rw [hrun]
  · rw [Extent.rowStop?_of_fits hfits hrow,
      Extent.rowFault?_eq_none_iff.mpr (hrows row hrow)] at hstop
    cases hstop

/-- **A copy back has no result exactly where it gets to a row that was not counted.** -/
theorem copyTileOut_emptyTile_iff (target stride offset : Nat) :
    ((copyTileOut target stride e offset).eval s).1 = .error .emptyTile ↔
      Size.limit ≤ e.rows * e.cols ∧ offset + e.size ≤ s.threadgroup.size ∧
        ∃ b row, s.buffers.get? target = some b ∧ row < e.rows ∧ e.size < (row + 1) * e.cols ∧
          ∀ row' ≤ row, row' * stride + e.cols ≤ b.size := by
  by_cases ht : offset + e.size ≤ s.threadgroup.size
  · cases hb : s.buffers.get? target with
    | none =>
      rw [copyTileOut_of_unbound ht hb]
      exact ⟨nofun, fun ⟨_, _, _, _, h, _⟩ => nomatch h⟩
    | some b =>
      rcases copyTileOut_cases hb stride ht with
        ⟨hall, hrun⟩ | ⟨row, stop, hrow, hbefore, hstop, hrun⟩
      · rw [hrun]
        refine iff_of_false nofun ?_
        rintro ⟨-, -, _, row, -, hrow, hcut, -⟩
        exact absurd (hall row hrow).2 (Nat.not_le.mpr hcut)
      · rw [hrun]
        constructor
        · rintro ⟨⟩
          obtain ⟨hfit, hcut⟩ := Extent.rowStop?_eq_emptyTile_iff.mp hstop
          have hover : Size.limit ≤ e.rows * e.cols := Nat.le_of_not_lt fun hfits =>
            absurd (Extent.row_end_le_size hfits hrow) (Nat.not_le.mpr hcut)
          refine ⟨hover, ht, b, row, rfl, hrow, hcut, fun row' hrow' => ?_⟩
          rcases Nat.eq_or_lt_of_le hrow' with rfl | hlt
          · exact hfit
          · exact (hbefore row' hlt).1
        · rintro ⟨-, -, _, row', ⟨⟩, -, hcut', hfit⟩
          -- the first row that stops the copy is not behind the one that was not counted
          have hle : row ≤ row' := by
            by_contra hlt
            exact absurd (hbefore row' (Nat.lt_of_not_le hlt)).2 (Nat.not_le.mpr hcut')
          cases stop with
          | emptyTile => rfl
          | fault f =>
            rw [Extent.rowStop?_eq_fault_iff, Extent.rowFault?_eq_none_iff.mpr (hfit row hle)]
              at hstop
            cases hstop
  · rw [copyTileOut_of_short target stride ht]
    exact iff_of_false nofun fun h => ht h.2.1

/-- Nothing but a fault stops a copy in. -/
theorem exists_fault_of_copyTileIn (hr : 1 ≤ e.rows) {source : Nat} {stop : Stop}
    (h : (copyTileIn source stride e offset).eval s = (.error stop, s')) :
    ∃ f, stop = .fault f := by
  cases hb : s.buffers.get? source with
  | none =>
    rw [copyTileIn_of_unbound hb hr] at h
    cases h
    exact ⟨_, rfl⟩
  | some b =>
    rcases copyTileIn_cases hb stride e offset with ⟨-, hrun⟩ | ⟨row, f, -, -, -, hrun⟩
    · rw [hrun] at h
      cases h
    · rw [hrun] at h
      cases h
      exact ⟨f, rfl⟩

/-! ## What a fault names -/

/-- The row is the first that does not fit the buffer, and the fault names its range, the end as it
is in a size. -/
structure FirstBeyond (b : Array Single) (index stride : Nat) (e : Extent) (row : Nat) (f : Fault) :
    Prop where
  lt : row < e.rows
  before : ∀ row' < row, row' * stride + e.cols ≤ b.size
  beyond : b.size < row * stride + e.cols
  names : f = .outOfBounds index (row * stride) (Size.wrap (row * stride + e.cols)) b.size

theorem beyond_of_rowFault? {index length row : Nat} {f : Fault}
    (h : e.rowFault? index stride length row = some f) :
    length < row * stride + e.cols ∧
      f = .outOfBounds index (row * stride) (Size.wrap (row * stride + e.cols)) length := by
  unfold Extent.rowFault? at h
  split at h
  · cases h
    exact ⟨by omega, rfl⟩
  · cases h

theorem firstBeyond_of_copyTileIn (hr : 1 ≤ e.rows) {source index start stop length : Nat}
    (h : (copyTileIn source stride e offset).eval s =
      (.error (.fault (.outOfBounds index start stop length)), s')) :
    ∃ b row, s.buffers.get? source = some b ∧
      FirstBeyond b source stride e row (.outOfBounds index start stop length) ∧
      StagedRows s s' b stride e.cols offset row := by
  cases hb : s.buffers.get? source with
  | none =>
    rw [copyTileIn_of_unbound hb hr] at h
    cases h
  | some b =>
    rcases copyTileIn_cases hb stride e offset with
      ⟨-, hrun⟩ | ⟨row, f, hrow, hbefore, hfault, hrun⟩
    · rw [hrun] at h
      cases h
    · rw [hrun] at h
      cases h
      rcases Option.or_eq_some_iff.mp hfault with hfault | ⟨-, hfault⟩
      · obtain ⟨hbeyond, hnames⟩ := beyond_of_rowFault? hfault
        exact ⟨b, row, rfl, ⟨hrow, fun row' hrow' => (hbefore row' hrow').1, hbeyond, hnames⟩,
          stagedRows_packed hbefore⟩
      · -- the memory has faults of its own
        unfold Extent.packedFault? at hfault
        split at hfault <;> cases hfault

theorem firstBeyond_of_copyTileOut {target index start stop length : Nat}
    (h : (copyTileOut target stride e offset).eval s =
      (.error (.fault (.outOfBounds index start stop length)), s')) :
    ∃ b row, s.buffers.get? target = some b ∧
      FirstBeyond b target stride e row (.outOfBounds index start stop length) ∧
      StoredRows s s' target b stride e.cols offset row := by
  by_cases ht : offset + e.size ≤ s.threadgroup.size
  · cases hb : s.buffers.get? target with
    | none =>
      rw [copyTileOut_of_unbound ht hb] at h
      cases h
    | some b =>
      rcases copyTileOut_cases hb stride ht with ⟨-, hrun⟩ | ⟨row, f, hrow, hbefore, hfault, hrun⟩
      · rw [hrun] at h
        cases h
      · rw [hrun] at h
        cases h
        obtain ⟨hbeyond, hnames⟩ := beyond_of_rowFault? (Extent.rowStop?_eq_fault_iff.mp hfault)
        have hm : offset + row * e.cols ≤ s.threadgroup.size := by
          match row with
          | 0 => omega
          | row + 1 => have := (hbefore row (Nat.lt_succ_self row)).2; omega
        have hfit : ∀ row' < row, row' * stride + e.cols ≤ b.size :=
          fun row' hrow' => (hbefore row' hrow').1
        exact ⟨b, row, rfl, ⟨hrow, hfit, hbeyond, hnames⟩, storedRows_restored hb hm hfit⟩
  · rw [copyTileOut_of_short target stride ht] at h
    cases h

theorem FirstBeyond.rowFault?_eq {index row : Nat} {f : Fault}
    (h : FirstBeyond b index stride e row f) : e.rowFault? index stride b.size row = some f := by
  unfold Extent.rowFault?
  rw [if_pos h.beyond, h.names]

/-- Where the memory has room for the rows in front of it, a row that does not fit is the fault. -/
theorem copyTileIn_of_firstBeyond {source row : Nat} {f : Fault}
    (hb : s.buffers.get? source = some b) (h : FirstBeyond b source stride e row f)
    (hm : ∀ row' < row, offset + row' * e.cols + e.cols ≤ s.threadgroup.size) :
    ∃ s', (copyTileIn source stride e offset).eval s = (.error (.fault f), s') := by
  rcases copyTileIn_cases hb stride e offset with
    ⟨hall, -⟩ | ⟨row', f', hrow', hbefore, hfault, hrun⟩
  · exact absurd (hall row h.lt).1 (Nat.not_le.mpr h.beyond)
  · -- no row in front of it has a fault, and what is copied ends in front of it
    rcases Nat.lt_trichotomy row' row with hlt | rfl | hgt
    · rw [Extent.rowFault?_eq_none_iff.mpr (h.before row' hlt),
        Extent.packedFault?_eq_none_iff.mpr (hm row' hlt)] at hfault
      cases hfault
    · rw [h.rowFault?_eq] at hfault
      cases hfault
      exact ⟨_, hrun⟩
    · exact absurd (hbefore row hgt).1 (Nat.not_le.mpr h.beyond)

theorem copyTileOut_of_firstBeyond {target row : Nat} {f : Fault}
    (hb : s.buffers.get? target = some b) (h : FirstBeyond b target stride e row f) (he : e.Fits)
    (hm : offset + e.size ≤ s.threadgroup.size) :
    ∃ s', (copyTileOut target stride e offset).eval s = (.error (.fault f), s') := by
  rcases copyTileOut_cases hb stride hm with ⟨hall, -⟩ | ⟨row', stop, hrow', hbefore, hstop, hrun⟩
  · exact absurd (hall row h.lt).1 (Nat.not_le.mpr h.beyond)
  · rw [Extent.rowStop?_of_fits he hrow'] at hstop
    rcases Nat.lt_trichotomy row' row with hlt | rfl | hgt
    · rw [Extent.rowFault?_eq_none_iff.mpr (h.before row' hlt)] at hstop
      cases hstop
    · rw [h.rowFault?_eq] at hstop
      cases hstop
      exact ⟨_, hrun⟩
    · exact absurd (hbefore row hgt).1 (Nat.not_le.mpr h.beyond)

/-! ## In and out again -/

/-- The tile is moved from its place in one buffer to its place in another, which may be the same,
and besides it only the packed copy is new. -/
structure MovedTile (s s' : GroupState) (e : Extent) (offset source srcStride target dstStride : Nat) :
    Prop where
  moved : ∃ b d d', s.buffers.get? source = some b ∧ s.buffers.get? target = some d ∧
    s'.buffers.get? target = some d' ∧ d'.size = d.size ∧
    (∀ row < e.rows, ∀ c < e.cols,
      ∃ x, b[row * srcStride + c]? = some x ∧ d'[row * dstStride + c]? = some x) ∧
    ∀ j, (∀ row < e.rows, ∀ c < e.cols, j ≠ row * dstStride + c) → d'[j]? = d[j]?
  others : ∀ i, i ≠ target → s'.buffers.get? i = s.buffers.get? i
  size : s'.threadgroup.size = s.threadgroup.size
  memory : ∀ j, j < offset ∨ offset + e.rows * e.cols ≤ j → s'.threadgroup[j]? = s.threadgroup[j]?

theorem movedTile_of_ok (hr : 1 ≤ e.rows) {source srcStride target dstStride : Nat}
    (hcs : e.cols ≤ dstStride)
    (h : (do
      copyTileIn source srcStride e offset
      copyTileOut target dstStride e offset : GroupM Unit).eval s = (.ok (), s')) :
    MovedTile s s' e offset source srcStride target dstStride := by
  -- The first copy gets through, or there is no second.
  rcases hin : (copyTileIn source srcStride e offset).eval s with ⟨stop | _, s₁⟩
  · rw [eval_bind_of_error hin] at h
    cases h
  · rw [eval_bind_of_ok hin] at h
    obtain ⟨b, hb, hrows, hpacked⟩ :=
      (copyTileIn_ok_iff hr source srcStride offset).mp (congrArg Prod.fst hin)
    obtain ⟨-, d, hd, hrows'⟩ := room_of_copyTileOut (congrArg Prod.fst h)
    have hstaged : StagedRows s s₁ b srcStride e.cols offset e.rows := by
      have hfit := (Extent.packed_le_iff hr).mp hpacked
      rw [eval_copyTileIn hb hr ((Extent.reach_le_iff hr).mpr hrows) hpacked] at hin
      cases hin
      exact stagedRows_packed fun row hrow => ⟨hrows row hrow, hfit row hrow⟩
    have hm : offset + e.rows * e.cols ≤ s₁.threadgroup.size := hstaged.size.symm ▸ hpacked
    have hstored : StoredRows s₁ s' target d dstStride e.cols offset e.rows := by
      rcases copyTileOut_cases hd dstStride
          (Nat.le_trans (Nat.add_le_add_left (Size.wrap_le _) offset) hm) with
        ⟨-, hrun⟩ | ⟨row, stop, -, -, -, hrun⟩
      · rw [hrun] at h
        cases h
        exact storedRows_restored hd hm hrows'
      · rw [hrun] at h
        cases h
    obtain ⟨d', hd', hcopied, hothers⟩ := hstored.copied
    have hsize := hstored.buffers.size target
    rw [hd', hd] at hsize
    refine ⟨⟨b, d, d', hb, hstaged.buffers ▸ hd, hd', Option.some.inj hsize,
      fun row hrow c hc => ?_, fun j hj => hothers j fun row hrow hcovers => ?_⟩,
      fun i hi => ?_, ?_, fun j hj => ?_⟩
    · have hlt : row * srcStride + c < b.size := by have := hrows row hrow; omega
      have hcell := (hcopied row hrow c hc fun later hl _ =>
        not_rowCovers_of_lt hcs hc hl).trans (hstaged.copied row hrow c hc)
      rw [Array.getElem?_eq_getElem hlt] at hcell ⊢
      exact ⟨_, rfl, hcell⟩
    · obtain ⟨c, hc, rfl⟩ := rowCovers_iff_exists.mp hcovers
      exact hj row hrow c hc rfl
    · rw [hstored.buffers.others i hi, hstaged.buffers]
    · rw [hstored.threadgroup, hstaged.size]
    · rw [hstored.threadgroup, hstaged.others j hj]

/--
**Copies of tiles are exact**, for every distance of rows: in what they need, in which row they stop
at where one does not fit and what they leave behind, and in what they move. Only where cells or
ends leave the sizes is a stop not the one that the row calls for: a copy back has no result if it
gets to a row that was not counted, and a fault names the end of its row as it is in a size. Telling
both copies with every sum and product as a size changes nothing.
-/
theorem tile_copies_exact {s : GroupState} (hs : s.Held) {e : Extent} (hr : 1 ≤ e.rows)
    (offset : Nat) :
    (∀ source stride,
      (((copyTileIn source stride e offset).eval s).1 = .ok () ↔
        ∃ b, s.buffers.get? source = some b ∧
          (∀ row < e.rows, row * stride + e.cols ≤ b.size) ∧
          offset + e.rows * e.cols ≤ s.threadgroup.size) ∧
      (∀ stop s', (copyTileIn source stride e offset).eval s = (.error stop, s') →
        ∃ f, stop = .fault f) ∧
      (∀ index start stop length s', (copyTileIn source stride e offset).eval s =
          (.error (.fault (.outOfBounds index start stop length)), s') →
        ∃ b row, s.buffers.get? source = some b ∧
          FirstBeyond b source stride e row (.outOfBounds index start stop length) ∧
          StagedRows s s' b stride e.cols offset row) ∧
      ∀ b row f, s.buffers.get? source = some b → FirstBeyond b source stride e row f →
        (∀ row' < row, offset + row' * e.cols + e.cols ≤ s.threadgroup.size) →
        ∃ s', (copyTileIn source stride e offset).eval s = (.error (.fault f), s')) ∧
    (∀ target stride,
      (((copyTileOut target stride e offset).eval s).1 = .ok () ↔
        offset + e.rows * e.cols ≤ s.threadgroup.size ∧
          ∃ b, s.buffers.get? target = some b ∧
            ∀ row < e.rows, row * stride + e.cols ≤ b.size) ∧
      (((copyTileOut target stride e offset).eval s).1 = .error .emptyTile ↔
        Size.limit ≤ e.rows * e.cols ∧ offset + e.size ≤ s.threadgroup.size ∧
          ∃ b row, s.buffers.get? target = some b ∧ row < e.rows ∧ e.size < (row + 1) * e.cols ∧
            ∀ row' ≤ row, row' * stride + e.cols ≤ b.size) ∧
      (∀ index start stop length s', (copyTileOut target stride e offset).eval s =
          (.error (.fault (.outOfBounds index start stop length)), s') →
        ∃ b row, s.buffers.get? target = some b ∧
          FirstBeyond b target stride e row (.outOfBounds index start stop length) ∧
          StoredRows s s' target b stride e.cols offset row) ∧
      ∀ b row f, s.buffers.get? target = some b → FirstBeyond b target stride e row f →
        offset + e.rows * e.cols ≤ s.threadgroup.size →
        ∃ s', (copyTileOut target stride e offset).eval s = (.error (.fault f), s')) ∧
    (∀ source srcStride target dstStride s', e.cols ≤ dstStride →
      (do
        copyTileIn source srcStride e offset
        copyTileOut target dstStride e offset : GroupM Unit).eval s = (.ok (), s') →
      MovedTile s s' e offset source srcStride target dstStride) ∧
    ∀ index stride, e.rows < Size.limit → e.cols < Size.limit → stride < Size.limit →
      offset < Size.limit →
      (sizedCopyTileIn index stride e offset).eval s =
        (copyTileIn index stride e offset).eval s ∧
      (sizedCopyTileOut index stride e offset).eval s =
        (copyTileOut index stride e offset).eval s := by
  have hlimit : s.threadgroup.size < Size.limit := by have := hs.threadgroup; omega
  refine ⟨fun source stride => ⟨copyTileIn_ok_iff hr source stride offset,
      fun _ _ => exists_fault_of_copyTileIn hr, fun _ _ _ _ _ => firstBeyond_of_copyTileIn hr,
      fun _ _ _ => copyTileIn_of_firstBeyond⟩,
    fun target stride => ⟨copyTileOut_ok_iff hlimit target stride offset,
      copyTileOut_emptyTile_iff target stride offset,
      fun _ _ _ _ _ => firstBeyond_of_copyTileOut, fun _ _ _ hb hfirst hroom => ?_⟩,
    fun _ _ _ _ _ => movedTile_of_ok hr,
    fun index stride hrows hcols hstride hoffset =>
      ⟨eval_sizedCopyTileIn hs index hcols hstride hoffset,
        eval_sizedCopyTileOut hs index hrows hcols hstride hoffset⟩⟩
  have hfits := fits_of_room hlimit hroom
  rw [← Extent.size_of_fits hfits] at hroom
  exact copyTileOut_of_firstBeyond hb hfirst hfits hroom

theorem held_singleton {index : Nat} {b memory : Array Single} (hb : b.size < Size.limit / 2)
    (hm : memory.size < Size.limit / 2) : GroupState.Held ⟨[(index, b)], memory⟩ where
  threadgroup := hm
  buffers i b' h := by
    obtain ⟨entry, hentry, rfl⟩ := Option.map_eq_some_iff.mp h
    rwa [List.mem_singleton.mp (List.mem_of_find?_eq_some hentry)]

/-- Source rows that overlap, moved apart in the same buffer; with rows further apart than the
buffer is long, the second is the first that does not fit. -/
theorem tile_copies_exact_overlapping :
    let b : Array Single := #[.ofNat 1, .ofNat 2, .ofNat 3, .ofNat 4]
    let moved : Array Single := #[.ofNat 1, .ofNat 2, .ofNat 2, .ofNat 3]
    let s : GroupState := ⟨[(0, b)], #[.zero, .zero, .zero, .zero]⟩
    let s' : GroupState := ⟨[(0, moved)], moved⟩
    let s'' : GroupState := ⟨[(0, b)], #[.ofNat 1, .ofNat 2, .zero, .zero]⟩
    let e : Extent := ⟨2, 2⟩
    s.Held ∧ 1 ≤ e.rows ∧ e.cols ≤ 2 ∧
      (do
        copyTileIn 0 1 e 0
        copyTileOut 0 2 e 0 : GroupM Unit).eval s = (.ok (), s') ∧
      MovedTile s s' e 0 0 1 0 2 ∧
      (copyTileIn 0 3 e 0).eval s = (.error (.fault (.outOfBounds 0 3 5 4)), s'') ∧
      ∃ b row, s.buffers.get? 0 = some b ∧ FirstBeyond b 0 3 e row (.outOfBounds 0 3 5 4) ∧
        StagedRows s s'' b 3 2 0 row := by
  -- No `intro`: the runs are slow where the states are read through their names.
  have hr : 1 ≤ (Extent.mk 2 2).rows := by decide
  refine ⟨held_singleton (by decide) (by decide), hr, by decide, rfl, ?_, rfl, ?_⟩
  · exact (tile_copies_exact (held_singleton (by decide) (by decide)) hr 0).2.2.1 0 1 0 2 _
      (by decide) rfl
  · refine ((tile_copies_exact (held_singleton (by decide) (by decide)) hr 0).1 0 3).2.2.1 0 3 5 4
      _ ?_
    rfl

/-- Two cells in each of `2 ^ 63` rows are counted as none, so the first row of a copy back has
nothing to be cut out of; and a row of one cell at the last size ends, by its fault, at 0. -/
theorem exists_copy_past_sizes :
    (¬ ∀ (s : GroupState) (e : Extent) (target stride offset : Nat), s.Held → 1 ≤ e.rows →
      ((copyTileOut target stride e offset).eval s).1 = .ok () ∨
        ∃ f, ((copyTileOut target stride e offset).eval s).1 = .error (.fault f)) ∧
    ¬ ∀ (s : GroupState) (e : Extent) (source stride offset index start stop length : Nat),
      s.Held → 1 ≤ e.rows → ((copyTileIn source stride e offset).eval s).1 =
        .error (.fault (.outOfBounds index start stop length)) →
      ∃ row, row < e.rows ∧ start = row * stride ∧ stop = row * stride + e.cols := by
  have hheld : GroupState.Held ⟨[(1, #[.zero, .zero])], #[.zero, .zero]⟩ :=
    held_singleton (by decide) (by decide)
  constructor
  · intro h
    have hcrash : ((copyTileOut 1 2 ⟨0x8000000000000000, 2⟩ 0).eval
        ⟨[(1, #[.zero, .zero])], #[.zero, .zero]⟩).1 = .error .emptyTile := by
      refine (copyTileOut_emptyTile_iff 1 2 0).mpr ⟨by decide, by decide, #[.zero, .zero], 0, rfl,
        by decide, by decide, fun row' hrow' => ?_⟩
      rw [Nat.le_zero.mp hrow']
      decide
    rcases h _ ⟨0x8000000000000000, 2⟩ 1 2 0 hheld (by decide) with hok | ⟨f, hf⟩
    · rw [hcrash] at hok
      cases hok
    · rw [hcrash] at hf
      cases hf
  · intro h
    obtain ⟨row, -, hstart, hstop⟩ := h _ ⟨2, 1⟩ 1 0xffffffffffffffff 0 1 0xffffffffffffffff 0 2
      hheld (by decide) rfl
    dsimp only at hstop
    omega

end GroupM

end KernelLink
