import KernelLink.Proofs.Verify.Elements
import KernelLink.Verify.Tile

/-!
# What a tile report says

A tile report counts covered and uncovered cells apart and compares each count with a number worked
out from the shape alone. Neither count can exceed its number, so a surplus in one never makes up
for a cell that is missing in the other, and both are reached together exactly when every cell is
as expected. That is what comparing the cells as a list of elements would say as well.
-/

namespace KernelLink

/-! ## Cells in order -/

/-- A cell of a matrix with its value. -/
structure Cell where
  row : Nat
  col : Nat
  value : Single
deriving DecidableEq, Repr

/-- The place of a cell where rows of a width are put one after another. -/
def Cell.place (c : Cell) (cols : Nat) : Nat := c.row * cols + c.col

/-- The cell as a sample shows it. -/
def Cell.text (c : Cell) : String :=
  "[" ++ toString c.row ++ "][" ++ toString c.col ++ "] = " ++ c.value.literalText

namespace Matrix

/-- The matrix has a value for each cell. -/
def Full (m : Matrix) : Prop := m.values.size = m.rows * m.cols

/-- The cells, row by row. -/
def cells (m : Matrix) : List Cell :=
  (List.range m.rows).flatMap fun row =>
    (List.range m.cols).map fun col => ⟨row, col, (m.cell? row col).getD .zero⟩

/-- The values of a matrix at some cells. -/
def valuesAt (m : Matrix) (cells : List Cell) : List Single :=
  cells.filterMap fun c => m.cell? c.row c.col

variable {m : Matrix} {c : Cell}

theorem mem_cells_iff : c ∈ m.cells ↔
    c.row < m.rows ∧ c.col < m.cols ∧ c.value = (m.cell? c.row c.col).getD .zero := by
  unfold cells
  simp only [List.mem_flatMap, List.mem_map, List.mem_range]
  constructor
  · rintro ⟨row, hrow, col, hcol, rfl⟩
    exact ⟨hrow, hcol, rfl⟩
  · rintro ⟨hrow, hcol, hvalue⟩
    exact ⟨c.row, hrow, c.col, hcol, by rw [← hvalue]⟩

theorem range_mul_eq_flatMap (rows cols : Nat) : List.range (rows * cols) =
    (List.range rows).flatMap fun row => (List.range cols).map (row * cols + ·) := by
  induction rows with
  | zero => simp
  | succ rows ih =>
    rw [Nat.succ_mul, List.range_add, ih, List.range_succ, List.flatMap_append,
      List.flatMap_singleton]

/-- **Cells stand at their places.** -/
theorem map_place_cells : m.cells.map (·.place m.cols) = List.range (m.rows * m.cols) := by
  unfold cells
  rw [range_mul_eq_flatMap, List.map_flatMap]
  refine List.flatMap_congr fun row _ => ?_
  rw [List.map_map]
  rfl

theorem eq_of_place_eq {d : Cell} (hc : c ∈ m.cells) (hd : d ∈ m.cells)
    (h : c.place m.cols = d.place m.cols) : c = d :=
  List.inj_on_of_nodup_map (map_place_cells ▸ List.nodup_range) hc hd h

theorem getElem?_place_cells (hc : c ∈ m.cells) : m.cells[c.place m.cols]? = some c := by
  obtain ⟨i, hi⟩ := List.mem_iff_getElem?.mp hc
  have hplace : (List.range (m.rows * m.cols))[i]? = some (c.place m.cols) := by
    rw [← map_place_cells, List.getElem?_map, hi]
    rfl
  obtain ⟨hlt, hget⟩ := List.getElem?_eq_some_iff.mp hplace
  rwa [← hget, List.getElem_range]

theorem length_cells : m.cells.length = m.rows * m.cols := by
  have h := congrArg List.length (@map_place_cells m)
  rwa [List.length_map, List.length_range] at h

theorem count_lt_of_le {width cols : Nat} (h : width ≤ cols) :
    Nat.count (· < width) cols = width := by
  obtain ⟨rest, rfl⟩ := Nat.exists_eq_add_of_le h
  have hleading : Nat.count (· < width) width = width :=
    Nat.count_iff_forall.mpr fun _ hi => hi
  have hrest : Nat.count (fun i => width + i < width) rest = 0 :=
    Nat.count_iff_forall_not.mpr fun i _ => by omega
  rw [Nat.count_add, hleading, hrest, Nat.add_zero]

/-- As many cells stand in the leading columns as those columns hold. -/
theorem countP_leading_cells {width : Nat} (h : width ≤ m.cols) :
    m.cells.countP (fun c => decide (c.col < width)) = m.rows * width := by
  have hrow : ∀ row ∈ List.range m.rows, (List.countP fun c : Cell => decide (c.col < width))
      ((List.range m.cols).map fun col => ⟨row, col, (m.cell? row col).getD .zero⟩) = width := by
    intro row _
    rw [List.countP_map]
    exact count_lt_of_le h
  unfold cells
  rw [List.countP_flatMap]
  refine (congrArg List.sum (List.map_congr_left hrow)).trans ?_
  rw [List.map_const', List.sum_replicate_nat, List.length_range]

/-- A full matrix has a value wherever a smaller one has a cell. -/
theorem Full.cell?_isSome (h : m.Full) {row col : Nat} (hrow : row < m.rows)
    (hcol : col < m.cols) : ∃ x, m.cell? row col = some x := by
  have hlt : row * m.cols + col < m.values.size := by
    rw [h]
    calc row * m.cols + col < row * m.cols + m.cols := Nat.add_lt_add_left hcol _
      _ = (row + 1) * m.cols := (Nat.succ_mul row m.cols).symm
      _ ≤ m.rows * m.cols := Nat.mul_le_mul_right _ hrow
  unfold cell?
  rw [if_pos ⟨hrow, hcol⟩]
  exact ⟨_, Array.getElem?_eq_getElem hlt⟩

end Matrix

/-! ## Cells compared -/

/-- What a cell should have become. -/
def TileExpectation.reference (e : TileExpectation) (cols : Nat) (c : Cell) : Single :=
  if c.col < min e.tileCols cols then c.value * e.scale else e.sentinel

theorem countP_and_eq_iff {α : Type} {p q : α → Bool} {l : List α} :
    l.countP (fun a => p a && q a) = l.countP q ↔ ∀ a ∈ l, q a → p a := by
  rw [← List.countP_filter, List.countP_eq_length_filter (p := q), List.countP_eq_length]
  simp only [List.mem_filter, and_imp]

namespace Verifier

/-- The output has a value in the cell's place, within tolerance of what it should have become. -/
def MeetsCell (v : Verifier) (output source : Matrix) (e : TileExpectation) (c : Cell) : Prop :=
  ∃ x, output.cell? c.row c.col = some x ∧ (x - e.reference source.cols c).abs.le v.tolerance

section

variable {v : Verifier} {output source : Matrix} {e : TileExpectation} {c : Cell}

instance : DecidablePred (v.MeetsCell output source e) := fun c =>
  decidable_of_iff (v.accepts (output.cell? c.row c.col) (e.reference source.cols c)) accepts_iff

/-- The cells that a report shows: the first ones that the tile covers, and the first misses. -/
def ShowsCell (v : Verifier) (output source : Matrix) (e : TileExpectation) (c : Cell) : Prop :=
  (c.row = 0 ∧ c.col < min v.limits.head (min e.tileCols source.cols)) ∨
    (¬ v.MeetsCell output source e c ∧
      (source.cells.take (c.place source.cols)).countP
        (fun d => ¬ v.MeetsCell output source e d) < v.limits.mismatches)

instance : DecidablePred (v.ShowsCell output source e) := fun _ =>
  inferInstanceAs (Decidable (_ ∨ _))

/-- The check of one cell. -/
def cellSample (v : Verifier) (output source : Matrix) (e : TileExpectation) (c : Cell) : Sample :=
  v.check (c.place source.cols) c.text (e.reference source.cols c) (output.cell? c.row c.col)

theorem checkCells_eq : v.checkCells output source e = source.cells.map fun c =>
    ⟨decide (c.col < min e.tileCols source.cols), v.cellSample output source e c⟩ := by
  unfold checkCells Matrix.cells
  rw [List.map_flatMap]
  refine List.flatMap_congr fun row _ => ?_
  rw [List.map_map]
  refine List.map_congr_left fun col _ => ?_
  unfold checkCell cellSample TileExpectation.reference expectedCell
  simp only [decide_eq_true_eq]
  rfl

theorem map_sample_checkCells : (v.checkCells output source e).map (·.sample) =
    source.cells.map (v.cellSample output source e) := by
  rw [checkCells_eq, List.map_map]
  rfl

theorem numbered_cellSamples : Numbered (source.cells.map (v.cellSample output source e)) := by
  unfold Numbered
  rw [List.map_map, List.length_map, Matrix.length_cells, ← Matrix.map_place_cells]
  rfl

theorem matched_cellSample :
    (v.cellSample output source e c).matched = decide (v.MeetsCell output source e c) := by
  rw [Bool.eq_iff_iff, decide_eq_true_iff]
  exact accepts_iff

theorem misses_cellSamples (cells : List Cell) :
    misses (cells.map (v.cellSample output source e)) =
      cells.countP fun d => ¬ v.MeetsCell output source e d := by
  unfold misses
  rw [List.countP_map]
  refine List.countP_congr fun d _ => ?_
  rw [Function.comp_apply, matched_cellSample]
  simp

/-! ## The counts -/

theorem written_verifyTile : (v.verifyTile output source e).written =
    source.cells.countP fun c =>
      decide (v.MeetsCell output source e c) && decide (c.col < min e.tileCols source.cols) := by
  unfold verifyTile
  dsimp only
  rw [checkCells_eq, List.countP_map]
  simp only [Function.comp_def, matched_cellSample]

theorem preserved_verifyTile : (v.verifyTile output source e).preserved =
    source.cells.countP fun c =>
      decide (v.MeetsCell output source e c) && !decide (c.col < min e.tileCols source.cols) := by
  unfold verifyTile
  dsimp only
  rw [checkCells_eq, List.countP_map]
  simp only [Function.comp_def, matched_cellSample]

theorem expectedWritten_verifyTile : (v.verifyTile output source e).expectedWritten =
    source.cells.countP fun c => decide (c.col < min e.tileCols source.cols) :=
  (Matrix.countP_leading_cells (Nat.min_le_right _ _)).symm

/-- Both kinds of cells together are all of them. -/
theorem expected_verifyTile : (v.verifyTile output source e).expectedWritten +
    (v.verifyTile output source e).expectedPreserved = source.rows * source.cols := by
  unfold verifyTile
  dsimp only
  rw [← Nat.mul_add, Nat.add_sub_cancel' (Nat.min_le_right _ _)]

theorem expectedPreserved_verifyTile : (v.verifyTile output source e).expectedPreserved =
    source.cells.countP fun c => !decide (c.col < min e.tileCols source.cols) := by
  have hsum := @expected_verifyTile v output source e
  have hcells := List.length_eq_countP_add_countP
    (fun c : Cell => decide (c.col < min e.tileCols source.cols)) (l := source.cells)
  rw [expectedWritten_verifyTile] at hsum
  rw [Matrix.length_cells] at hcells
  simp only [decide_eq_true_eq, decide_not] at hcells
  omega

/-- Neither count makes up for the other. -/
theorem passed_verifyTile_iff : (v.verifyTile output source e).passed ↔
    ∀ c ∈ source.cells, v.MeetsCell output source e c := by
  unfold TileReport.passed
  rw [Bool.and_eq_true, decide_eq_true_iff, decide_eq_true_iff, written_verifyTile,
    preserved_verifyTile, expectedWritten_verifyTile, expectedPreserved_verifyTile,
    countP_and_eq_iff, countP_and_eq_iff]
  constructor
  · rintro ⟨hcovered, huncovered⟩ c hc
    by_cases h : c.col < min e.tileCols source.cols
    · exact of_decide_eq_true (hcovered c hc (decide_eq_true h))
    · exact of_decide_eq_true (huncovered c hc (by rw [decide_eq_false h]; rfl))
  · exact fun h => ⟨fun c hc _ => decide_eq_true (h c hc), fun c hc _ => decide_eq_true (h c hc)⟩

/-- The cells as expected are those written and those preserved. -/
theorem written_add_preserved : (v.verifyTile output source e).written +
    (v.verifyTile output source e).preserved =
      source.cells.countP fun c => decide (v.MeetsCell output source e c) := by
  rw [written_verifyTile, preserved_verifyTile, ← List.countP_filter, ← List.countP_filter,
    ← List.countP_eq_countP_filter_add]

/-! ## The samples -/

/-- Only in the first row do cells stand before the width of the tile. -/
theorem place_lt_iff {k : Nat} (hk : k ≤ source.cols) :
    c.place source.cols < k ↔ c.row = 0 ∧ c.col < k := by
  unfold Cell.place
  constructor
  · intro h
    have hrow : c.row = 0 := by
      by_contra hne
      have hle : 1 * source.cols ≤ c.row * source.cols :=
        Nat.mul_le_mul_right _ (Nat.one_le_iff_ne_zero.mpr hne)
      omega
    rw [hrow, Nat.zero_mul, Nat.zero_add] at h
    exact ⟨hrow, h⟩
  · rintro ⟨hrow, h⟩
    rwa [hrow, Nat.zero_mul, Nat.zero_add]

theorem kept_cellSample_iff :
    Kept (fun i => decide (i < min v.limits.head (min e.tileCols source.cols)))
        v.limits.mismatches
        (misses ((source.cells.map (v.cellSample output source e)).take (c.place source.cols)))
        (v.cellSample output source e c) ↔
      v.ShowsCell output source e c := by
  have hplace := @place_lt_iff source c _
    ((Nat.min_le_right v.limits.head _).trans (Nat.min_le_right e.tileCols source.cols))
  unfold Kept ShowsCell
  rw [← List.map_take, misses_cellSamples, matched_cellSample, decide_eq_false_iff_not,
    decide_eq_true_iff]
  exact or_congr_left hplace

/-- A sample is the check of a cell that is shown. -/
theorem mem_samples_verifyTile_iff {s : Sample} : s ∈ (v.verifyTile output source e).samples ↔
    ∃ c ∈ source.cells, v.ShowsCell output source e c ∧ s = v.cellSample output source e c := by
  unfold verifyTile
  dsimp only
  rw [map_sample_checkCells, numbered_cellSamples.mem_keepSamples_iff]
  constructor
  · rintro ⟨hs, h⟩
    obtain ⟨c, hc, rfl⟩ := List.mem_map.mp (List.mem_of_getElem? hs)
    exact ⟨c, hc, kept_cellSample_iff.mp h, rfl⟩
  · rintro ⟨c, hc, hshows, rfl⟩
    refine ⟨?_, kept_cellSample_iff.mpr hshows⟩
    rw [List.getElem?_map]
    exact congrArg (Option.map _) (Matrix.getElem?_place_cells hc)

theorem exists_missed_of_failed_tile (hfail : (v.verifyTile output source e).passed = false)
    (hroom : 0 < v.limits.mismatches) :
    ∃ s ∈ (v.verifyTile output source e).samples, s.matched = false := by
  have hnot : ¬ ∀ c ∈ source.cells, v.MeetsCell output source e c := by
    rw [← @passed_verifyTile_iff v output source e, hfail]
    exact Bool.false_ne_true
  push Not at hnot
  obtain ⟨c, hc, hmiss⟩ := hnot
  unfold verifyTile
  dsimp only
  rw [map_sample_checkCells]
  exact exists_missed_mem_keepSamples hroom ⟨_, List.mem_map_of_mem hc,
    matched_cellSample.trans (decide_eq_false hmiss)⟩

/-! ## Cells as elements -/

theorem getElem?_filterMap {α β : Type} {f : α → Option β} {l : List α}
    (h : ∀ a ∈ l, ∃ b, f a = some b) (i : Nat) : (l.filterMap f)[i]? = (l[i]?).bind f := by
  induction l generalizing i with
  | nil => rfl
  | cons a l ih =>
    obtain ⟨⟨b, hb⟩, hl⟩ := List.forall_mem_cons.mp h
    rw [List.filterMap_cons_some hb]
    cases i with
    | zero => exact hb.symm
    | succ i => exact ih hl i

/-- The element at a place is compared as the cell is. -/
theorem meets_valuesAt_iff
    (hvalues : ∀ c ∈ source.cells, ∃ x, output.cell? c.row c.col = some x) {i : Nat}
    (hc : source.cells[i]? = some c) :
    v.Meets (output.valuesAt source.cells).toArray source.cells (e.reference source.cols) i ↔
      v.MeetsCell output source e c := by
  have hi : (output.valuesAt source.cells).toArray[i]? = output.cell? c.row c.col := by
    rw [List.getElem?_toArray]
    unfold Matrix.valuesAt
    rw [getElem?_filterMap hvalues, hc]
    rfl
  unfold Meets MeetsCell
  rw [hi, hc]
  simp

/-- **Comparing cells is comparing elements.** -/
theorem verifyTile_agrees
    (hvalues : ∀ c ∈ source.cells, ∃ x, output.cell? c.row c.col = some x) (text : Cell → String) :
    ((v.verifyTile output source e).passed ↔
      (v.verify (output.valuesAt source.cells).toArray source.cells text
        (e.reference source.cols)).passed) ∧
    (v.verifyTile output source e).written + (v.verifyTile output source e).preserved =
      (v.verify (output.valuesAt source.cells).toArray source.cells text
        (e.reference source.cols)).matched := by
  constructor
  · rw [passed_verifyTile_iff, passed_verify_iff]
    constructor
    · intro h i hlt
      have hc := List.getElem?_eq_getElem hlt
      exact (meets_valuesAt_iff hvalues hc).mpr (h _ (List.mem_of_getElem? hc))
    · intro h c hc
      obtain ⟨i, hi⟩ := List.mem_iff_getElem?.mp hc
      exact (meets_valuesAt_iff hvalues hi).mp (h i (List.getElem?_eq_some_iff.mp hi).1)
  · rw [written_add_preserved, matched_verify]
    refine (count_length_eq_countP fun i c hc => ?_).symm
    rw [decide_eq_true_iff]
    exact meets_valuesAt_iff hvalues hc

/-! ## The report -/

/-- What a tile report says of an output. -/
structure ReportsTile (v : Verifier) (output source : Matrix) (e : TileExpectation)
    (r : TileReport) : Prop where
  passed : r.passed ↔ ∀ c ∈ source.cells, v.MeetsCell output source e c
  written : r.written = source.cells.countP fun c =>
    decide (v.MeetsCell output source e c ∧ c.col < min e.tileCols source.cols)
  preserved : r.preserved = source.cells.countP fun c =>
    decide (v.MeetsCell output source e c ∧ ¬ c.col < min e.tileCols source.cols)
  expected : r.expectedWritten + r.expectedPreserved = source.rows * source.cols
  ordered : r.samples.Pairwise (·.index < ·.index)
  /-- Exactly the cells that are shown have a sample. -/
  sampled : ∀ c ∈ source.cells, (∃ s ∈ r.samples, s.index = c.place source.cols) ↔
    v.ShowsCell output source e c
  /-- A sample carries what was compared, and with what result. -/
  carried : ∀ s ∈ r.samples, ∃ c ∈ source.cells, s.index = c.place source.cols ∧
    s.input = c.text ∧ s.expected = e.reference source.cols c ∧
    s.actual = output.cell? c.row c.col ∧ (s.matched ↔ v.MeetsCell output source e c)
  /-- A failure is never reported without an example. -/
  illustrated : r.passed = false → 0 < v.limits.mismatches → ∃ s ∈ r.samples, s.matched = false

/-- **A tile report is exact**, and it says of the cells what an element report says of them as a
list, where the output has them all. -/
theorem verifyTile_reports (v : Verifier) (output source : Matrix) (e : TileExpectation) :
    v.ReportsTile output source e (v.verifyTile output source e) ∧
      (output.Full → source.rows ≤ output.rows → source.cols ≤ output.cols →
        ∀ text : Cell → String,
          let elements := v.verify (output.valuesAt source.cells).toArray source.cells text
            (e.reference source.cols)
          ((v.verifyTile output source e).passed ↔ elements.passed) ∧
            (v.verifyTile output source e).written + (v.verifyTile output source e).preserved =
              elements.matched) := by
  constructor
  · constructor
    case passed => exact passed_verifyTile_iff
    case written => simp only [written_verifyTile, Bool.decide_and]
    case preserved => simp only [preserved_verifyTile, Bool.decide_and, decide_not]
    case expected => exact expected_verifyTile
    case ordered =>
      unfold verifyTile
      dsimp only
      rw [map_sample_checkCells]
      exact numbered_cellSamples.pairwise_keepSamples
    case sampled =>
      intro c hc
      constructor
      · rintro ⟨s, hs, hplace⟩
        obtain ⟨d, hd, hshows, rfl⟩ := mem_samples_verifyTile_iff.mp hs
        rwa [← Matrix.eq_of_place_eq hd hc hplace]
      · intro hshows
        exact ⟨_, mem_samples_verifyTile_iff.mpr ⟨c, hc, hshows, rfl⟩, rfl⟩
    case carried =>
      intro s hs
      obtain ⟨c, hc, -, rfl⟩ := mem_samples_verifyTile_iff.mp hs
      exact ⟨c, hc, rfl, rfl, rfl, rfl, accepts_iff⟩
    case illustrated => exact exists_missed_of_failed_tile
  · intro hfull hrows hcols text
    refine verifyTile_agrees (fun c hc => ?_) text
    obtain ⟨hrow, hcol, -⟩ := Matrix.mem_cells_iff.mp hc
    exact hfull.cell?_isSome (Nat.lt_of_lt_of_le hrow hrows) (Nat.lt_of_lt_of_le hcol hcols)

/-- One covered column of two. The last cell was written although the tile does not cover it, and
the third column is no one's. -/
theorem verifyTile_reports_overrun :
    let v : Verifier := ⟨.zero, ⟨1, 1⟩⟩
    let source : Matrix := ⟨2, 2, #[.ofNat 1, .ofNat 2, .ofNat 3, .ofNat 4]⟩
    let output : Matrix := ⟨2, 3, #[.ofNat 2, .zero, .ofNat 9, .ofNat 6, .ofNat 8, .ofNat 9]⟩
    let e : TileExpectation := ⟨1, .ofNat 2, .zero⟩
    let elements := v.verify #[.ofNat 2, .zero, .ofNat 6, .ofNat 8] source.cells (·.text)
      (e.reference source.cols)
    (output.Full ∧ source.rows ≤ output.rows ∧ source.cols ≤ output.cols) ∧
      (v.verifyTile output source e).written = 2 ∧ (v.verifyTile output source e).preserved = 1 ∧
      elements.matched = 3 ∧ ¬ elements.passed ∧
      ∀ c ∈ source.cells, (∃ s ∈ (v.verifyTile output source e).samples,
        s.index = c.place source.cols) ↔ c.place source.cols = 0 ∨ c.place source.cols = 3 := by
  intro v source output e elements
  have hfull : output.Full := by rfl
  obtain ⟨hreports, hagrees⟩ := v.verifyTile_reports output source e
  obtain ⟨hpassed, hmatched⟩ := hagrees hfull (by decide) (by decide) (·.text)
  have hvalues : (output.valuesAt source.cells).toArray =
      #[.ofNat 2, .zero, .ofNat 6, .ofNat 8] := by decide
  rw [hvalues] at hpassed hmatched
  have hwritten : (v.verifyTile output source e).written = 2 := hreports.written.trans (by decide)
  have hpreserved : (v.verifyTile output source e).preserved = 1 :=
    hreports.preserved.trans (by decide)
  refine ⟨⟨hfull, by decide, by decide⟩, hwritten, hpreserved, ?_, ?_, fun c hc => ?_⟩
  · rw [← hmatched, hwritten, hpreserved]
  · rw [← hpassed, hreports.passed]
    decide
  · rw [hreports.sampled c hc]
    revert c
    decide

end

end Verifier

end KernelLink
