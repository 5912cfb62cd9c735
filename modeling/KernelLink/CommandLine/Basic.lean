import KernelLink.Scenario.Kind
import KernelLink.Settings.Basic
import KernelLink.Text.Quoted

/-!
# Command lines

What a user can ask for: one of five subcommands, on one of two back ends, with settings from a file
and a few of them overridden. The overrides may be given before the subcommand or after it; what
stands nearer to the subcommand wins.
-/

namespace KernelLink

/-- What pipelines run on. -/
inductive Backend where
  | host
  | metal
deriving DecidableEq, Repr

namespace Backend

def all : List Backend := [host, metal]

/-- The back end's name on a command line. -/
def name : Backend → String
  | host => "host"
  | metal => "metal"

/-- The back end as diagnostics show it. -/
def display : Backend → String
  | host => "Host"
  | metal => "Metal"

end Backend

/-- Which of the linking scenarios to run. -/
inductive LinkCases where
  | oneDimension
  | twoDimensions
  | variants
  | all
deriving DecidableEq, Repr

namespace LinkCases

def choices : List LinkCases := [oneDimension, twoDimensions, variants, all]

/-- The choice's name on a command line. -/
def name : LinkCases → String
  | oneDimension => "1d"
  | twoDimensions => "2d"
  | variants => "multi"
  | all => "all"

/-- The choice as diagnostics show it. -/
def display : LinkCases → String
  | oneDimension => "OneD"
  | twoDimensions => "TwoD"
  | variants => "Multi"
  | all => "All"

def scenarios : LinkCases → List Scenario
  | oneDimension => [.reverseLink]
  | twoDimensions => [.roundtrip]
  | variants => [.multiVariant]
  | all => [.reverseLink, .roundtrip, .multiVariant]

end LinkCases

inductive Subcommand where
  /-- Print the composed standalone kernel. -/
  | emitSource (elements : Nat) (element : Element) (scale : Double)
  /-- Run the standalone kernel, compiled in both ways. -/
  | asmRepro
  | reverseLink (cases : LinkCases)
  /-- Run every scenario. -/
  | run
  /-- Build the kernel shells into a directory. -/
  | buildShells (out : Path)
deriving DecidableEq, Repr

/-- The subcommand as diagnostics show it. -/
def Subcommand.display : Subcommand → String
  | emitSource elements element scale =>
    "EmitSource \x7b elements: " ++ toString elements ++ ", element_type: " ++ element.display ++
      ", scale: " ++ scale.literalText ++ " \x7d"
  | asmRepro => "AsmRepro"
  | reverseLink cases => "ReverseLink \x7b case: " ++ cases.display ++ " \x7d"
  | run => "Run"
  | buildShells out => "BuildShells \x7b out: " ++ quotedText out.text ++ " \x7d"

/-- Settings that a command line takes the place of. -/
structure Overrides where
  prebuilt : Option Path
  report : Option Path
  jsonReport : Option Path
  language : Option LanguageVersion
  groupSize : Option Nat
deriving DecidableEq, Repr

namespace Overrides

def empty : Overrides := ⟨none, none, none, none, none⟩

/-- Overrides with others behind them, which count where the first say nothing. -/
def orElse (a b : Overrides) : Overrides where
  prebuilt := a.prebuilt.or b.prebuilt
  report := a.report.or b.report
  jsonReport := a.jsonReport.or b.jsonReport
  language := a.language.or b.language
  groupSize := a.groupSize.or b.groupSize

def apply (o : Overrides) (s : Settings) : Settings :=
  { s with
    prebuilt := o.prebuilt.or s.prebuilt
    report := o.report.getD s.report
    jsonReport := o.jsonReport.or s.jsonReport
    language := o.language.or s.language
    groupSize := o.groupSize.getD s.groupSize }

end Overrides

structure CommandLine where
  backend : Backend
  /-- The file that settings are loaded from; without it they are the standard ones. -/
  settingsFile : Option Path
  overrides : Overrides
  subcommand : Subcommand
deriving DecidableEq, Repr

end KernelLink
