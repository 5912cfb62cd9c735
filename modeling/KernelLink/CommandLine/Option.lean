import KernelLink.CommandLine.Basic

/-!
# Options

Every option has one value. Some stand only before the subcommand, some only behind the subcommand
that has them, and the overrides on both sides.

A value can be unsuitable in two ways: it is none of the choices there are, or it is not text of the
kind that is wanted. An empty path counts as no choice.
-/

namespace KernelLink

inductive OptionName where
  | backend
  | settingsFile
  | prebuilt
  | report
  | jsonReport
  | language
  | groupSize
  | elements
  | element
  | scale
  | cases
  | out
deriving DecidableEq, Repr

/-- The option's name behind the dashes. -/
def OptionName.text : OptionName → String
  | backend => "backend"
  | settingsFile => "config"
  | prebuilt => "prebuilt-dir"
  | report => "report"
  | jsonReport => "json-report"
  | language => "language-version"
  | groupSize => "group-size"
  | elements => "elements"
  | element => "element-type"
  | scale => "scale"
  | cases => "case"
  | out => "out"

/-- What the options on one side of the subcommand say. -/
structure GivenOptions where
  backend : Option Backend
  settingsFile : Option Path
  overrides : Overrides
  elements : Option Nat
  element : Option Element
  scale : Option Double
  cases : Option LinkCases
  out : Option Path
deriving DecidableEq, Repr

def GivenOptions.empty : GivenOptions := ⟨none, none, .empty, none, none, none, none, none⟩

/-- Why a value is unsuitable. -/
inductive ValueFault where
  | noChoice
  | unreadable
deriving DecidableEq, Repr

/-! ## Reading values -/

/-- One of several choices by its name. -/
def readChoice {α : Type} (all : List α) (name : α → String) (value : String) :
    Except ValueFault α :=
  match all.find? fun x => name x = value with
  | some x => .ok x
  | none => .error .noChoice

def readPath (value : String) : Except ValueFault Path :=
  if value.isEmpty then .error .noChoice else .ok ⟨value⟩

/-- A number of 64 bits. -/
def readCount (value : String) : Except ValueFault Nat :=
  (readUpTo 0xffffffffffffffff value.toList).mapError fun _ => .unreadable

def readScale (value : String) : Except ValueFault Double :=
  match readConstant? value with
  | some x => .ok x
  | none => .error .unreadable

/-- Takes note of an option's value. -/
def OptionName.store (o : OptionName) (value : String) (g : GivenOptions) :
    Except ValueFault GivenOptions :=
  let override (f : Overrides → Overrides) : GivenOptions := { g with overrides := f g.overrides }
  match o with
  | backend => (readChoice Backend.all Backend.name value).map fun x => { g with backend := some x }
  | settingsFile => (readPath value).map fun p => { g with settingsFile := some p }
  | prebuilt => (readPath value).map fun p => override ({ · with prebuilt := some p })
  | report => (readPath value).map fun p => override ({ · with report := some p })
  | jsonReport => (readPath value).map fun p => override ({ · with jsonReport := some p })
  | language =>
    match LanguageVersion.read value with
    | .ok v => .ok (override ({ · with language := some v }))
    | .error _ => .error .unreadable
  | groupSize => (readCount value).map fun n => override ({ · with groupSize := some n })
  | elements => (readCount value).map fun n => { g with elements := some n }
  | element =>
    match Element.read value with
    | .ok e => .ok { g with element := some e }
    | .error _ => .error .unreadable
  | scale => (readScale value).map fun x => { g with scale := some x }
  | cases => (readChoice LinkCases.choices LinkCases.name value).map fun x =>
      { g with cases := some x }
  | out => (readPath value).map fun p => { g with out := some p }

/-! ## Subcommands and the options that they have -/

inductive SubcommandName where
  | emitSource
  | asmRepro
  | reverseLink
  | run
  | buildShells
deriving DecidableEq, Repr

namespace SubcommandName

def all : List SubcommandName := [emitSource, asmRepro, reverseLink, run, buildShells]

def text : SubcommandName → String
  | emitSource => "emit-source"
  | asmRepro => "asm-repro"
  | reverseLink => "reverse-link"
  | run => "run"
  | buildShells => "build-shells"

def options : SubcommandName → List OptionName
  | emitSource => [.elements, .element, .scale]
  | asmRepro => []
  | reverseLink => [.cases]
  | run => []
  | buildShells => [.out]

/-- The subcommand with its options; the error is an option that it cannot do without. -/
def toSubcommand (n : SubcommandName) (g : GivenOptions) : Except OptionName Subcommand :=
  match n with
  | emitSource =>
    .ok (.emitSource (g.elements.getD 32) (g.element.getD .f32) (g.scale.getD (.ofNat 2)))
  | asmRepro => .ok .asmRepro
  | reverseLink => .ok (.reverseLink (g.cases.getD .all))
  | run => .ok .run
  | buildShells =>
    match g.out with
    | some p => .ok (.buildShells p)
    | none => .error .out

end SubcommandName

/-- A side of the subcommand. -/
inductive Side where
  | before
  | behind (n : SubcommandName)
deriving DecidableEq, Repr

namespace Side

/-- The options that both sides have. -/
def shared : List OptionName := [.prebuilt, .report, .jsonReport, .language, .groupSize]

def options : Side → List OptionName
  | before => [.backend, .settingsFile] ++ shared
  | behind n => n.options ++ shared

def option? (s : Side) (name : String) : Option OptionName :=
  s.options.find? fun o => o.text = name

end Side

end KernelLink
