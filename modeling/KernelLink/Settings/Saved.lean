import KernelLink.Json.Basic
import KernelLink.Json.Decode
import KernelLink.Json.Reader
import KernelLink.Settings.Basic

/-!
# Saved settings

Settings as JSON. A file need not name everything: what it leaves out, at the top, in the toolchain
or in the host, is as in the standard settings. Saving writes every field, and null for what is not
set.
-/

namespace KernelLink

open Json (ofFields ofNat ofString ofSingle ofOption)

/-! ## Writing -/

def Path.toJson (p : Path) : Json := ofString p.text

def LanguageVersion.toJson (v : LanguageVersion) : Json :=
  ofFields [("major", ofNat v.major.toNat), ("minor", ofNat v.minor.toNat)]

def CommandTemplate.toJson (c : CommandTemplate) : Json :=
  ofFields [("program", ofString c.program), ("args", .array (c.args.map ofString))]

def IntrinsicPolicy.toJson : IntrinsicPolicy → Json
  | reject => ofString "Reject"
  | acceptUpTo ceiling => ofFields [("AcceptUpTo", ceiling.toJson)]
  | accept => ofString "Accept"

def HostOptions.toJson (o : HostOptions) : Json :=
  ofFields
    [("name", ofString o.name), ("max_threads_per_threadgroup", ofNat o.maxThreads),
     ("intrinsics", o.intrinsics.toJson)]

def ToolchainSettings.toJson (s : ToolchainSettings) : Json :=
  ofFields
    [("compiler", s.compiler.toJson), ("linker", s.linker.toJson),
     ("language_version", s.language.toJson), ("scratch_dir", ofOption Path.toJson s.scratch),
     ("version_command", ofOption CommandTemplate.toJson s.versionCommand)]

def Settings.toJson (s : Settings) : Json :=
  ofFields
    [("toolchain", s.toolchain.toJson), ("prebuilt_dir", ofOption Path.toJson s.prebuilt),
     ("report_path", s.report.toJson), ("json_report", ofOption Path.toJson s.jsonReport),
     ("dynamic_language_version", ofOption LanguageVersion.toJson s.language),
     ("tolerance", ofOption ofSingle s.tolerance), ("group_size", ofNat s.groupSize),
     ("host", s.host.toJson)]

/-- The text that is saved. -/
def Settings.save (s : Settings) : String := s.toJson.save

/-! ## Reading -/

def Path.ofJson? (j : Json) : Option Path := j.text?.map .mk

def LanguageVersion.ofJson? (j : Json) : Option LanguageVersion := do
  let r ← j.record? ["major", "minor"]
  let major ← r.required "major" (Json.nat? 255)
  let minor ← r.required "minor" (Json.nat? 255)
  some ⟨major.toUInt8, minor.toUInt8⟩

def CommandTemplate.ofJson? (j : Json) : Option CommandTemplate := do
  let r ← j.record? ["program", "args"]
  let program ← r.required "program" Json.text?
  let args ← r.defaulted "args" [] (Json.list? Json.text?)
  some ⟨program, args⟩

/-- Policies without a ceiling. -/
def IntrinsicPolicy.plain : List (String × IntrinsicPolicy) :=
  [("Reject", reject), ("Accept", accept)]

def IntrinsicPolicy.ofJson? : Json → Option IntrinsicPolicy
  | .object [(some "AcceptUpTo", ceiling)] => (LanguageVersion.ofJson? ceiling).map acceptUpTo
  | j => j.choice? plain

def HostOptions.ofJson? (j : Json) : Option HostOptions := do
  let r ← j.record? ["name", "max_threads_per_threadgroup", "intrinsics"]
  let name ← r.defaulted "name" standard.name Json.text?
  let maxThreads ← r.defaulted "max_threads_per_threadgroup" standard.maxThreads
    (Json.nat? Json.wordLimit)
  let intrinsics ← r.defaulted "intrinsics" standard.intrinsics IntrinsicPolicy.ofJson?
  some ⟨name, maxThreads, intrinsics⟩

def ToolchainSettings.ofJson? (j : Json) : Option ToolchainSettings := do
  let r ← j.record? ["compiler", "linker", "language_version", "scratch_dir", "version_command"]
  let compiler ← r.defaulted "compiler" standard.compiler CommandTemplate.ofJson?
  let linker ← r.defaulted "linker" standard.linker CommandTemplate.ofJson?
  let language ← r.defaulted "language_version" standard.language LanguageVersion.ofJson?
  let scratch ← r.defaulted "scratch_dir" standard.scratch (Json.nullable? Path.ofJson?)
  let versionCommand ← r.defaulted "version_command" standard.versionCommand
    (Json.nullable? CommandTemplate.ofJson?)
  some ⟨compiler, linker, language, scratch, versionCommand⟩

namespace Settings

def ofJson? (j : Json) : Option Settings := do
  let r ← j.record?
    ["toolchain", "prebuilt_dir", "report_path", "json_report", "dynamic_language_version",
     "tolerance", "group_size", "host"]
  let toolchain ← r.defaulted "toolchain" standard.toolchain ToolchainSettings.ofJson?
  let prebuilt ← r.defaulted "prebuilt_dir" standard.prebuilt (Json.nullable? Path.ofJson?)
  let report ← r.defaulted "report_path" standard.report Path.ofJson?
  let jsonReport ← r.defaulted "json_report" standard.jsonReport (Json.nullable? Path.ofJson?)
  let language ← r.defaulted "dynamic_language_version" standard.language
    (Json.nullable? LanguageVersion.ofJson?)
  let tolerance ← r.defaulted "tolerance" standard.tolerance (Json.nullable? Json.single?)
  let groupSize ← r.defaulted "group_size" standard.groupSize (Json.nat? Json.wordLimit)
  let host ← r.defaulted "host" standard.host HostOptions.ofJson?
  some ⟨toolchain, prebuilt, report, jsonReport, language, tolerance, groupSize, host⟩

/-- Reads saved settings and checks them. The path only says where the text came from. -/
def readText (p : Path) (text : String) : Except SettingsFault Settings := do
  match (Json.read? text).bind ofJson? with
  | none => .error (.malformed p)
  | some s => do
    s.validate
    .ok s

end Settings

end KernelLink
