import KernelLink.Exec.Kernel
import KernelLink.Registry
import KernelLink.Source.Body
import KernelLink.Source.Compose

/-!
# The catalog

Every kernel and visible function that the scenarios use: its composed source, and the behaviour
that a host registers for the body it composed. The same parameters go into the text and into the
behaviour, which is what makes a catalog able to run its own sources.
-/

namespace KernelLink

/-- The behaviour of one function that a source defines. -/
structure EmulationBinding where
  name : String
  body : String
  emulation : Emulation
deriving DecidableEq, Repr

/-- A composed source and the behaviour of what it defines. -/
structure CatalogEntry where
  entry : String
  source : KernelSource
  emulations : List EmulationBinding
  /-- Threads per group that a kernel stages its tile for; visible functions have none. -/
  groupWidth : Option Nat
deriving DecidableEq, Repr

def CatalogEntry.registerInto (e : CatalogEntry) (r : Registry Emulation) : Registry Emulation :=
  e.emulations.foldl (fun r b => r.register b.name b.body b.emulation) r

/-! ## Names and declarations -/

def asyncCopyName : String := "async_copy_test"
def reverseName : String := "reverse_kernel"
def roundtripName : String := "copy_2d_roundtrip_kernel"
def gemmName : String := "gemm_kernel"
def transformName : String := "transform_value"
def processTileName : String := "process_tile"
def computeTileName : String := "compute_tile"

def transformDeclaration : Declaration := ⟨"float", transformName, [⟨"float", "val"⟩]⟩

def processTileDeclaration : Declaration :=
  ⟨"void", processTileName, [⟨"threadgroup float*", "tg"⟩, ⟨"uint", "simd_lane"⟩]⟩

def computeTileDeclaration : Declaration :=
  ⟨"void", computeTileName,
   [⟨"threadgroup float*", "A"⟩, ⟨"threadgroup float*", "B"⟩, ⟨"device float*", "C"⟩,
    ⟨"uint", "tid"⟩, ⟨"uint", "lane"⟩]⟩

/-! ## Building entries -/

def sourceAndDestination (element : Element) : List BufferParam :=
  [⟨"src", element, .read, 0⟩, ⟨"dst", element, .write, 1⟩]

/-- An entry for a kernel. A group is never narrower than one thread. -/
def kernelEntry (kernel : Kernel) (events : Fragment) (imports : Option Declaration)
    (buffers : List BufferParam) (body : String) (params : SourceParams) : CatalogEntry where
  entry := kernel.name
  source := compose kernel.name params <|
    [preambleFragment, events] ++ (imports.map (·.importFragment)).toList ++
      [kernelFragment kernel.name buffers body]
  emulations := [⟨kernel.name, body, .kernel kernel⟩]
  groupWidth := some (max params.elements 1)

/-- An entry for a visible function. -/
def callableEntry (declaration : Declaration) (body : String) (callable : Callable) :
    CatalogEntry where
  entry := declaration.name
  source := compose declaration.name .standard
    [preambleFragment, declaration.definitionFragment body]
  emulations := [⟨declaration.name, body, .callable callable⟩]
  groupWidth := none

/-! ## Kernels -/

/-- The constant that scales an async copy, and its value when it is absent. -/
def copyScale (params : SourceParams) : Double := params.number "scale" (.ofNat 2)

/-- Stages values and writes them back scaled; complete without linking. -/
def asyncCopyEntry (params : SourceParams) : CatalogEntry :=
  kernelEntry
    (.stagedUnary asyncCopyName (max params.elements 1) (.scale (copyScale params).toSingle))
    eventsFragment1d none (sourceAndDestination params.element)
    (asyncCopyBody params.elements params.element (copyScale params)) params

/-- What `asyncCopyEntry` computes on one element. -/
def asyncCopyReference (params : SourceParams) (x : Single) : Single :=
  x * (copyScale params).toSingle

/-- Stages values and hands each to `transform_value`. -/
def reverseShell (tile : Nat) : CatalogEntry :=
  kernelEntry (.stagedUnary reverseName tile (.call transformName))
    eventsFragment1d (some transformDeclaration) (sourceAndDestination .f32)
    (reverseBody tile transformName) (.sized tile .f32)

/-- Takes the leading columns of a matrix through `process_tile`. -/
def roundtripShell (g : TileGeometry) : CatalogEntry :=
  kernelEntry (.tileRoundtrip roundtripName g processTileName)
    eventsFragment2d (some processTileDeclaration) (sourceAndDestination .f32)
    (roundtripBody g.rows g.cols g.tileCols processTileName)
    (((SourceParams.sized g.tileLength .f32).withConstant "rows" (toString g.rows)
      |>.withConstant "cols" (toString g.cols)).withConstant "tile_cols" (toString g.tileCols))

/-- Stages paired inputs and lets `compute_tile` write the output. -/
def gemmShell (tile : Nat) : CatalogEntry :=
  kernelEntry (.pairedTiles gemmName tile computeTileName)
    eventsFragment1d (some computeTileDeclaration)
    [⟨"A", .f32, .read, 0⟩, ⟨"B", .f32, .read, 1⟩, ⟨"C", .f32, .write, 2⟩]
    (gemmBody tile computeTileName) (.sized tile .f32)

/-! ## Visible functions -/

def Transform.body (t : Transform) : String :=
  "  return val * " ++ t.scale.literalText ++ "f + " ++ t.bias.literalText ++ "f;"

def Transform.entry (t : Transform) : CatalogEntry :=
  callableEntry transformDeclaration t.body (.unary t)

def TileScaling.body (p : TileScaling) : String :=
  linesOf
    ["  if (simd_lane < " ++ toString p.lanes ++ ") \x7b",
     "    tg[simd_lane] *= " ++ p.scale.literalText ++ "f;",
     "  \x7d"]

def TileScaling.entry (p : TileScaling) : CatalogEntry :=
  callableEntry processTileDeclaration p.body (.tile p)

def Variant.body (v : Variant) : String := "  C[tid] = " ++ v.expression ++ ";"

def Variant.entry (v : Variant) : CatalogEntry :=
  callableEntry computeTileDeclaration v.body (.pairTile v)

/-! ## Catalogs -/

/-- The parameters of every entry. -/
structure Catalog where
  asyncCopy : SourceParams
  tile : Nat
  geometry : TileGeometry
  transform : Transform
  processTile : TileScaling
  variants : List Variant
deriving DecidableEq, Repr

namespace Catalog

def standard : Catalog where
  asyncCopy := SourceParams.standard.withConstant "scale" "2"
  tile := 32
  geometry := .standard
  transform := .standard
  processTile := .standard
  variants := Variant.all

def asyncCopyEntry (c : Catalog) : CatalogEntry := KernelLink.asyncCopyEntry c.asyncCopy

/-- The kernels that import a visible function. -/
def shells (c : Catalog) : List CatalogEntry :=
  [reverseShell c.tile, roundtripShell c.geometry, gemmShell c.tile]

def shell? (c : Catalog) (name : String) : Option CatalogEntry :=
  c.shells.find? (·.entry = name)

/-- The visible functions; a second transform is always among them. -/
def callables (c : Catalog) : List CatalogEntry :=
  [c.transform.entry, Transform.alternate.entry, c.processTile.entry] ++
    c.variants.map (·.entry)

def entries (c : Catalog) : List CatalogEntry := c.asyncCopyEntry :: (c.shells ++ c.callables)

/-- The behaviours of everything in the catalog. -/
def registry (c : Catalog) : Registry Emulation :=
  c.entries.foldl (fun r e => e.registerInto r) .empty

end Catalog

end KernelLink
