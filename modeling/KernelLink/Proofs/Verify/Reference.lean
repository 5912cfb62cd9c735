import KernelLink.Exec.Callable
import KernelLink.Proofs.Verify.Tile

/-!
# Comparing a reference with itself

An output that equals its reference word for word ought to be accepted, whatever the tolerance. It
is, as long as the words are finite: a number differs from itself by zero, which is within every
tolerance. But a reference that overflows has an infinity there, and an infinity less itself is not
a number, so even the exact output is reported as a mismatch.
-/

namespace KernelLink

/-- What a roundtrip should leave, as a matrix. -/
def TileExpectation.outcome (e : TileExpectation) (source : Matrix) : Matrix :=
  ⟨source.rows, source.cols, (source.cells.map (e.reference source.cols)).toArray⟩

namespace TileExpectation

variable {e : TileExpectation} {source : Matrix} {c : Cell}

/-- A cell of the outcome is what the cell of the source should have become. -/
theorem cell?_outcome (hc : c ∈ source.cells) :
    (e.outcome source).cell? c.row c.col = some (e.reference source.cols c) := by
  obtain ⟨hrow, hcol, -⟩ := Matrix.mem_cells_iff.mp hc
  unfold Matrix.cell? outcome
  dsimp only
  rw [if_pos ⟨hrow, hcol⟩, List.getElem?_toArray, List.getElem?_map]
  exact congrArg (Option.map _) (Matrix.getElem?_place_cells hc)

end TileExpectation

namespace Verifier

variable {ι : Type} {v : Verifier}

section

variable {inputs : List ι} {reference : ι → Single} {source : Matrix} {e : TileExpectation}

/-- The reference of an input meets itself when it is finite. -/
theorem meets_reference_iff (ht : Single.zero.le v.tolerance) {i : Nat} {input : ι}
    (h : inputs[i]? = some input) :
    v.Meets (inputs.map reference).toArray inputs reference i ↔ (reference input).isFinite := by
  have hi : (inputs.map reference).toArray[i]? = some (reference input) := by
    rw [List.getElem?_toArray, List.getElem?_map, h]
    rfl
  unfold Meets
  rw [hi, h]
  simp [Single.le_abs_sub_self ht]

theorem meetsCell_outcome_iff (ht : Single.zero.le v.tolerance) {c : Cell} (hc : c ∈ source.cells) :
    v.MeetsCell (e.outcome source) source e c ↔ (e.reference source.cols c).isFinite := by
  unfold MeetsCell
  rw [TileExpectation.cell?_outcome hc]
  simp [Single.le_abs_sub_self ht]

/-- **Exact output is accepted exactly where it is finite.** -/
theorem exact_output_passes_iff (ht : Single.zero.le v.tolerance) (inputs : List ι)
    (text : ι → String) (reference : ι → Single) (source : Matrix) (e : TileExpectation) :
    let elements := v.verify (inputs.map reference).toArray inputs text reference
    let cells := v.verifyTile (e.outcome source) source e
    (elements.checked = inputs.length ∧
      elements.matched = inputs.countP (fun x => (reference x).isFinite) ∧
      (elements.passed ↔ ∀ x ∈ inputs, (reference x).isFinite)) ∧
    (cells.passed ↔ ∀ c ∈ source.cells, (e.reference source.cols c).isFinite) := by
  intro elements cells
  refine ⟨⟨rfl, ?_, ?_⟩, ?_⟩
  · exact matched_verify.trans (count_length_eq_countP fun _ _ => meets_reference_iff ht)
  · rw [passed_verify_iff]
    constructor
    · intro h x hx
      obtain ⟨i, hi⟩ := List.mem_iff_getElem?.mp hx
      exact (meets_reference_iff ht hi).mp (h i (List.getElem?_eq_some_iff.mp hi).1)
    · intro h i hlt
      have hi := List.getElem?_eq_getElem hlt
      exact (meets_reference_iff ht hi).mpr (h _ (List.mem_of_getElem? hi))
  · rw [passed_verifyTile_iff]
    exact forall₂_congr fun c hc => meetsCell_outcome_iff ht hc

/-- Two inputs of three stay finite, and a tile of small numbers does as a whole. -/
theorem exact_output_passes_iff_overflowing :
    let v := Verifier.standard
    let inputs : List Single := [.ofNat 1, ⟨0x7f7fffff⟩, ⟨0x80000000⟩]
    let reference := Transform.standard.reference
    let source : Matrix := ⟨1, 2, #[.ofNat 1, .ofNat 2]⟩
    let e : TileExpectation := ⟨1, .ofNat 10, .zero⟩
    Single.zero.le v.tolerance ∧
      (v.verify (inputs.map reference).toArray inputs (·.literalText) reference).matched = 2 ∧
      (v.verifyTile (e.outcome source) source e).passed := by
  intro v inputs reference source e
  have ht : Single.zero.le v.tolerance := by decide
  obtain ⟨⟨-, hmatched, -⟩, hcells⟩ :=
    exact_output_passes_iff ht inputs (·.literalText) reference source e
  exact ⟨ht, hmatched.trans (by decide), hcells.mpr (by decide)⟩

/-- The largest finite input overflows, and the exact outputs are refused. -/
theorem exists_exact_output_refused :
    ∃ (v : Verifier) (inputs : List Single) (reference : Single → Single) (source : Matrix)
      (e : TileExpectation),
      Single.zero.le v.tolerance ∧
        (∀ x ∈ inputs, (reference x).isNan = false) ∧
        (v.verify (inputs.map reference).toArray inputs (·.literalText) reference).passed = false ∧
        source.Full ∧ (∀ c ∈ source.cells, (e.reference source.cols c).isNan = false) ∧
        (v.verifyTile (e.outcome source) source e).passed = false :=
  ⟨.standard, [⟨0x7f7fffff⟩], Transform.standard.reference, ⟨1, 1, #[⟨0x7f7fffff⟩]⟩,
    ⟨1, .ofNat 10, .zero⟩, by decide, by decide, by decide, rfl, by decide, by decide⟩

end

end Verifier

end KernelLink
