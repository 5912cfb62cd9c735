import KernelLink.Catalog

/-!
# Scenarios

The four things that a run can try, the sources that each of them generates from a catalog, and how
closely its results are compared.
-/

namespace KernelLink

inductive Scenario where
  /-- The standalone kernel, compiled in both ways. -/
  | asmRepro
  /-- A kernel shell linked with a function of one value. -/
  | reverseLink
  /-- A matrix tile taken through a linked function and back. -/
  | roundtrip
  /-- One kernel shell linked with each variant in turn. -/
  | multiVariant
deriving DecidableEq, Repr

namespace Scenario

def all : List Scenario := [asmRepro, reverseLink, roundtrip, multiVariant]

def name : Scenario → String
  | asmRepro => "asm-repro"
  | reverseLink => "reverse-link-1d"
  | roundtrip => "roundtrip-2d"
  | multiVariant => "multi-variant"

/-- One thousandth, one hundredth or one tenth. -/
def tolerance : Scenario → Single
  | asmRepro => ⟨0x3a83126f⟩
  | reverseLink => ⟨0x3c23d70a⟩
  | roundtrip => ⟨0x3dcccccd⟩
  | multiVariant => ⟨0x3dcccccd⟩

/-- The entries whose sources a scenario generates: the kernel, then what is linked into it. -/
def entries (c : Catalog) : Scenario → List CatalogEntry
  | asmRepro => [c.asyncCopyEntry]
  | reverseLink => [reverseShell c.tile, c.transform.entry]
  | roundtrip => [roundtripShell c.geometry, c.processTile.entry]
  | multiVariant => gemmShell c.tile :: c.variants.map (·.entry)

/-- The sources that a scenario generates. -/
def sources (c : Catalog) (k : Scenario) : List KernelSource := (k.entries c).map (·.source)

end Scenario

/-- The name of the case for one variant. -/
def variantCaseName (v : Variant) : String := Scenario.multiVariant.name ++ "[" ++ v.label ++ "]"

end KernelLink
