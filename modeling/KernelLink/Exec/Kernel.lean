import KernelLink.Exec.Group

/-!
# Kernels as a host runs them

The behaviour of each kernel on one group. A kernel of the first and third kind finds the tile that
its group starts in, stages it and handles one element per lane; the second stages the leading
columns of a matrix, lets every lane work on the staged copy and writes it back.
-/

namespace KernelLink

/-- Rows and columns of a matrix, and how many leading columns a tile covers. -/
structure TileGeometry where
  rows : Nat
  cols : Nat
  tileCols : Nat
deriving DecidableEq, Repr

namespace TileGeometry

def standard : TileGeometry := ⟨8, 16, 4⟩

/-- Cells that the tile covers, as a size. -/
def tileLength (g : TileGeometry) : Nat := Size.wrap (g.rows * g.tileCols)

def matrixLength (g : TileGeometry) : Nat := Size.wrap (g.rows * g.cols)

/-- Cells that the tile leaves alone. -/
def preservedLength (g : TileGeometry) : Nat := Size.wrap (g.rows * (g.cols - g.tileCols))

end TileGeometry

/-- What a kernel makes of one staged element. -/
inductive ElementOp where
  | scale (factor : Single)
  | call (callee : String)
deriving DecidableEq, Repr

/-- The behaviour of a kernel entry point. -/
inductive Kernel where
  /-- Stages buffer 0 and writes one element per lane to buffer 1. -/
  | stagedUnary (name : String) (tile : Nat) (op : ElementOp)
  /-- Stages a tile of buffer 0, calls `callee` on it per lane and writes it to buffer 1. -/
  | tileRoundtrip (name : String) (geometry : TileGeometry) (callee : String)
  /-- Stages tiles of buffers 0 and 1 side by side; `callee` writes buffer 2. -/
  | pairedTiles (name : String) (tile : Nat) (callee : String)
deriving DecidableEq, Repr

namespace Kernel

def name : Kernel → String
  | stagedUnary name .. => name
  | tileRoundtrip name .. => name
  | pairedTiles name .. => name

/-- Elements of threadgroup memory that each group gets. -/
def threadgroupLength : Kernel → Nat
  | stagedUnary _ tile _ => tile
  | tileRoundtrip _ geometry _ => geometry.tileLength
  -- no buffer has a tile that has no room in a size twice
  | pairedTiles _ tile _ => tile * 2

/-- The first element of the tile that a group starts in. -/
def tileBase (g : GroupShape) (tile : Nat) : Nat := g.threadPosition 0 / tile * tile

/-- The result for one staged element. -/
def applyOp (linked : Linked) (op : ElementOp) (x : Single) : GroupM Single :=
  match op with
  | .scale factor => pure (x * factor)
  | .call callee => GroupM.callUnary linked callee x

/-- Runs one group. -/
def run (k : Kernel) (g : GroupShape) (linked : Linked) : GroupM Unit :=
  match k with
  | stagedUnary _ tile op => do
    if tile = 0 then throw .emptyTile
    GroupM.copyIn 0 (tileBase g tile) tile 0
    GroupM.forBelow g.lanes fun lane => do
      -- the copy has filled every element below `tile`
      let staged := ((← get).threadgroup[simdLane lane % tile]?).getD .zero
      GroupM.write 1 (g.threadPosition lane) (← applyOp linked op staged)
  | tileRoundtrip _ geometry callee => do
    let extent : Extent := ⟨geometry.rows, geometry.tileCols⟩
    GroupM.copyTileIn 0 geometry.cols extent 0
    GroupM.forBelow g.lanes fun lane => GroupM.callTile linked callee (simdLane lane)
    GroupM.copyTileOut 1 geometry.cols extent 0
  | pairedTiles _ tile callee => do
    if tile = 0 then throw .emptyTile
    GroupM.copyIn 0 (tileBase g tile) tile 0
    GroupM.copyIn 1 (tileBase g tile) tile tile
    GroupM.forBelow g.lanes fun lane =>
      GroupM.callPairTile linked callee tile 2 (g.threadPosition lane) (simdLane lane % tile)

end Kernel

/-- What a host knows of one function. -/
inductive Emulation where
  | kernel (k : Kernel)
  | callable (c : Callable)
deriving DecidableEq, Repr

/-- The emulation as diagnostics show it. -/
def Emulation.display : Emulation → String
  | kernel k => "Emulation::Kernel(" ++ k.name ++ ")"
  | callable c => "Emulation::HostCallable(" ++ c.convention.name ++ ")"

end KernelLink
