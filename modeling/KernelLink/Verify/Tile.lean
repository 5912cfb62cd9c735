import KernelLink.Verify.Elements

/-!
# Tile verification

The result of a two-dimensional roundtrip is compared cell by cell: the leading columns that the
tile covers hold the scaled source, all others still hold the value they were filled with.
-/

namespace KernelLink

/-- A matrix by rows. -/
structure Matrix where
  rows : Nat
  cols : Nat
  values : Array Single
deriving DecidableEq, Repr

def Matrix.cell? (m : Matrix) (row col : Nat) : Option Single :=
  if row < m.rows ∧ col < m.cols then m.values[row * m.cols + col]? else none

/-- What a roundtrip should leave. -/
structure TileExpectation where
  /-- Leading columns of every row that the tile covers. -/
  tileCols : Nat
  /-- Factor of covered cells. -/
  scale : Single
  /-- Value of all other cells. -/
  sentinel : Single
deriving DecidableEq, Repr

structure TileReport where
  rows : Nat
  cols : Nat
  written : Nat
  expectedWritten : Nat
  preserved : Nat
  expectedPreserved : Nat
  allZero : Bool
  samples : List Sample
deriving DecidableEq, Repr

namespace TileReport

def passed (r : TileReport) : Bool :=
  r.written = r.expectedWritten && r.preserved = r.expectedPreserved

def summary (r : TileReport) : String :=
  toString r.written ++ "/" ++ toString r.expectedWritten ++ " tile cells written, " ++
    toString r.preserved ++ "/" ++ toString r.expectedPreserved ++ " cells preserved" ++
    (if r.allZero then " (ALL ZERO)" else "")

end TileReport

/-- One compared cell. -/
structure CellCheck where
  covered : Bool
  sample : Sample
deriving DecidableEq, Repr

namespace Verifier

/-- What a cell of the source should have become. -/
def expectedCell (e : TileExpectation) (covered : Bool) (source : Single) : Single :=
  if covered then source * e.scale else e.sentinel

/-- Compares the cell of one row and column; a source without the cell counts as zero there. -/
def checkCell (v : Verifier) (output source : Matrix) (e : TileExpectation) (row col : Nat) :
    CellCheck :=
  let covered := col < min e.tileCols source.cols
  let input := (source.cell? row col).getD .zero
  let text := "[" ++ toString row ++ "][" ++ toString col ++ "] = " ++ input.literalText
  ⟨covered, v.check (row * source.cols + col) text (expectedCell e covered input)
    (output.cell? row col)⟩

/-- One check per cell of the source, row by row. -/
def checkCells (v : Verifier) (output source : Matrix) (e : TileExpectation) : List CellCheck :=
  (List.range source.rows).flatMap fun row =>
    (List.range source.cols).map fun col => v.checkCell output source e row col

/-- Compares a roundtrip's output with its source. -/
def verifyTile (v : Verifier) (output source : Matrix) (e : TileExpectation) : TileReport :=
  let tileCols := min e.tileCols source.cols
  let checks := v.checkCells output source e
  { rows := source.rows
    cols := source.cols
    written := checks.countP fun c => c.sample.matched && c.covered
    expectedWritten := source.rows * tileCols
    preserved := checks.countP fun c => c.sample.matched && !c.covered
    expectedPreserved := source.rows * (source.cols - tileCols)
    allZero := KernelLink.allZero output.values.toList
    -- an index below the width stands in the first row
    samples := keepSamples (fun i => i < min v.limits.head tileCols) v.limits.mismatches
      (checks.map (·.sample)) }

end Verifier

end KernelLink
