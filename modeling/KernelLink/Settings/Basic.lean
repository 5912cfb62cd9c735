import KernelLink.Device.Basic
import KernelLink.Machine.Path
import KernelLink.Toolchain.Template

/-!
# Settings

What a run can be told: which commands make up the toolchain, where files are, how closely results
are compared, how wide groups are and what the host device is like.
-/

namespace KernelLink

/-- The commands that turn a source into a binary. -/
structure ToolchainSettings where
  compiler : CommandTemplate
  linker : CommandTemplate
  language : LanguageVersion
  /-- Where scratch directories are made. -/
  scratch : Option Path
  versionCommand : Option CommandTemplate
deriving DecidableEq, Repr

/-- The toolchain of the platform's developer tools. -/
def ToolchainSettings.standard : ToolchainSettings where
  compiler :=
    ⟨"xcrun", ["-sdk", "macosx", "metal", "-std=\x7bstd\x7d", "-c", CommandTemplate.inputPlace,
      "-o",
      CommandTemplate.outputPlace]⟩
  linker :=
    ⟨"xcrun", ["-sdk", "macosx", "metallib", CommandTemplate.inputPlace, "-o",
      CommandTemplate.outputPlace]⟩
  language := ⟨2, 4⟩
  scratch := none
  versionCommand := some ⟨"xcrun", ["-sdk", "macosx", "metal", "--version"]⟩

structure Settings where
  toolchain : ToolchainSettings
  /-- Where binaries of kernel shells are found; without it they are built. -/
  prebuilt : Option Path
  report : Path
  jsonReport : Option Path
  /-- The language version that in-process compiles ask for. -/
  language : Option LanguageVersion
  /-- Takes the place of every scenario's own tolerance. -/
  tolerance : Option Single
  groupSize : Nat
  host : HostOptions
deriving DecidableEq, Repr

namespace Settings

def standard : Settings where
  toolchain := .standard
  prebuilt := none
  report := ⟨"results.txt"⟩
  jsonReport := none
  language := none
  tolerance := none
  groupSize := 32
  host := .standard

/-- Equality, with tolerances compared as numbers. -/
def equals (a b : Settings) : Bool :=
  { a with tolerance := none } = { b with tolerance := none } &&
    (match a.tolerance, b.tolerance with
      | none, none => true
      | some x, some y => x.equals y
      | _, _ => false)

end Settings

/-- Why settings cannot be used. -/
inductive SettingsFault where
  /-- The file does not hold settings. -/
  | malformed (p : Path)
  | noGroup
  | tolerance (value : Single)
deriving DecidableEq, Repr

def SettingsFault.message : SettingsFault → String
  | malformed p => p.text ++ ": not a settings file"
  | noGroup => "group_size must be positive"
  | tolerance value => "tolerance " ++ value.plainText ++ " must be a non-negative number"

namespace Settings

/-- A tolerance has to be a number that is not below zero. -/
def toleranceFits (x : Single) : Bool := x.isFinite && !x.lt .zero

/-- Checks the group size, then the tolerance. -/
def validate (s : Settings) : Except SettingsFault Unit :=
  if s.groupSize = 0 then .error .noGroup
  else match s.tolerance with
    | some x => if toleranceFits x then .ok () else .error (.tolerance x)
    | none => .ok ()

end Settings

end KernelLink
