import KernelLink.Proofs.Device.Compilation
import KernelLink.Proofs.Json.Fields
import KernelLink.Proofs.Machine.Reading
import KernelLink.Proofs.Report.Saved
import KernelLink.Session

/-!
# Settings in part

A settings file names what it wants to say: some of the fields at the top, some of those of the
toolchain and some of those of the host. What it names is taken from it and everything else is as in
the standard settings, field by field and whatever else is named. A command alone is not pieced
together from two sources: one that is named gives its program, and without arguments it has none. A
file with all the fields is what saving writes, so what was saved is loaded as it was.
-/

namespace KernelLink

open Json (ofFields ofNat ofString ofSingle ofOption Readable)

/-- Which fields a settings file names. -/
structure SettingsPart where
  top : String → Bool
  toolchain : String → Bool
  host : String → Bool
  /-- The commands whose arguments are named, by the field of the command. -/
  args : String → Bool

/-- A file that names every field. -/
def SettingsPart.whole : SettingsPart :=
  ⟨fun _ => true, fun _ => true, fun _ => true, fun _ => true⟩

/-! ## What a part stands for -/

variable {S : SettingsPart}

/-- A command with its arguments, or without. -/
def CommandTemplate.inPart (named : Bool) (c : CommandTemplate) : CommandTemplate :=
  { c with args := if named then c.args else [] }

/-- The named fields, and the standard ones for the rest. -/
def ToolchainSettings.inPart (S : SettingsPart) (c : ToolchainSettings) : ToolchainSettings where
  compiler :=
    if S.toolchain "compiler" then c.compiler.inPart (S.args "compiler") else standard.compiler
  linker := if S.toolchain "linker" then c.linker.inPart (S.args "linker") else standard.linker
  language := if S.toolchain "language_version" then c.language else standard.language
  scratch := if S.toolchain "scratch_dir" then c.scratch else standard.scratch
  versionCommand :=
    if S.toolchain "version_command" then
      c.versionCommand.map (·.inPart (S.args "version_command"))
    else standard.versionCommand

def HostOptions.inPart (S : SettingsPart) (c : HostOptions) : HostOptions where
  name := if S.host "name" then c.name else standard.name
  maxThreads := if S.host "max_threads_per_threadgroup" then c.maxThreads else standard.maxThreads
  intrinsics := if S.host "intrinsics" then c.intrinsics else standard.intrinsics

def Settings.inPart (S : SettingsPart) (c : Settings) : Settings where
  toolchain := if S.top "toolchain" then c.toolchain.inPart S else standard.toolchain
  prebuilt := if S.top "prebuilt_dir" then c.prebuilt else standard.prebuilt
  report := if S.top "report_path" then c.report else standard.report
  jsonReport := if S.top "json_report" then c.jsonReport else standard.jsonReport
  language := if S.top "dynamic_language_version" then c.language else standard.language
  tolerance := if S.top "tolerance" then c.tolerance else standard.tolerance
  groupSize := if S.top "group_size" then c.groupSize else standard.groupSize
  host := if S.top "host" then c.host.inPart S else standard.host

theorem ToolchainSettings.inPart_whole (c : ToolchainSettings) : c.inPart .whole = c := by
  obtain ⟨compiler, linker, language, scratch, versionCommand⟩ := c
  cases versionCommand <;> rfl

theorem Settings.inPart_whole (c : Settings) : c.inPart .whole = c := by
  have htoolchain := c.toolchain.inPart_whole
  obtain ⟨toolchain, prebuilt, report, jsonReport, language, tolerance, groupSize, host⟩ := c
  exact congrArg (fun toolchain => Settings.mk toolchain prebuilt report jsonReport language
    tolerance groupSize host) htoolchain

/-! ## What a part looks like -/

/-- An object with the program, and with the arguments if they are named. -/
inductive CommandTemplate.PartIn (named : Bool) (c : CommandTemplate) : Json → Prop
  | mk {fields : List (String × Json)}
      (hfields : Json.InPart (fun name => name == "program" || named)
        [("program", ofString c.program), ("args", .array (c.args.map ofString))] fields) :
      PartIn named c (ofFields fields)

/-- A command that may be missing: null if it is, and otherwise a part of it. -/
inductive CommandTemplate.OptionalPartIn (named : Bool) : Option CommandTemplate → Json → Prop
  | none : OptionalPartIn named none .null
  | some {c : CommandTemplate} {j : Json} (h : c.PartIn named j) : OptionalPartIn named (some c) j

/-- An object with the named fields of a toolchain; commands are themselves in part. -/
inductive ToolchainSettings.PartIn (S : SettingsPart) (c : ToolchainSettings) : Json → Prop
  | mk {compiler linker version : Json} {fields : List (String × Json)}
      (hcompiler : c.compiler.PartIn (S.args "compiler") compiler)
      (hlinker : c.linker.PartIn (S.args "linker") linker)
      (hversion : CommandTemplate.OptionalPartIn (S.args "version_command") c.versionCommand
        version)
      (hfields : Json.InPart S.toolchain
        [("compiler", compiler), ("linker", linker), ("language_version", c.language.toJson),
         ("scratch_dir", ofOption Path.toJson c.scratch), ("version_command", version)] fields) :
      PartIn S c (ofFields fields)

/-- An object with the named fields of a host. -/
inductive HostOptions.PartIn (S : SettingsPart) (c : HostOptions) : Json → Prop
  | mk {fields : List (String × Json)}
      (hfields : Json.InPart S.host
        [("name", ofString c.name), ("max_threads_per_threadgroup", ofNat c.maxThreads),
         ("intrinsics", c.intrinsics.toJson)] fields) :
      PartIn S c (ofFields fields)

/-- An object with the named fields of settings; the toolchain and the host are themselves in
part. -/
inductive Settings.PartIn (S : SettingsPart) (c : Settings) : Json → Prop
  | mk {toolchain host : Json} {fields : List (String × Json)}
      (htoolchain : c.toolchain.PartIn S toolchain) (hhost : c.host.PartIn S host)
      (hfields : Json.InPart S.top
        [("toolchain", toolchain), ("prebuilt_dir", ofOption Path.toJson c.prebuilt),
         ("report_path", c.report.toJson), ("json_report", ofOption Path.toJson c.jsonReport),
         ("dynamic_language_version", ofOption LanguageVersion.toJson c.language),
         ("tolerance", ofOption ofSingle c.tolerance), ("group_size", ofNat c.groupSize),
         ("host", host)] fields) :
      PartIn S c (ofFields fields)

/-! ## Every part can be written -/

theorem CommandTemplate.exists_partIn (named : Bool) (c : CommandTemplate) :
    ∃ j, c.PartIn named j := ⟨_, .mk (.refl _)⟩

theorem CommandTemplate.exists_optionalPartIn (named : Bool) :
    ∀ x : Option CommandTemplate, ∃ j, OptionalPartIn named x j
  | none => ⟨_, .none⟩
  | some c => (c.exists_partIn named).imp fun _ => .some

theorem ToolchainSettings.exists_partIn (S : SettingsPart) (c : ToolchainSettings) :
    ∃ j, c.PartIn S j := by
  obtain ⟨compiler, hcompiler⟩ := c.compiler.exists_partIn (S.args "compiler")
  obtain ⟨linker, hlinker⟩ := c.linker.exists_partIn (S.args "linker")
  obtain ⟨version, hversion⟩ :=
    CommandTemplate.exists_optionalPartIn (S.args "version_command") c.versionCommand
  exact ⟨_, .mk hcompiler hlinker hversion (.refl _)⟩

theorem Settings.exists_partIn (S : SettingsPart) (c : Settings) : ∃ j, c.PartIn S j := by
  obtain ⟨toolchain, htoolchain⟩ := c.toolchain.exists_partIn S
  have hhost : ∃ host, c.host.PartIn S host := ⟨_, .mk (.refl _)⟩
  obtain ⟨host, hhost⟩ := hhost
  exact ⟨_, .mk htoolchain hhost (.refl _)⟩

/-! ## Saving writes all fields -/

theorem CommandTemplate.partIn_toJson (c : CommandTemplate) : c.PartIn true c.toJson :=
  .mk (.refl _)

theorem ToolchainSettings.partIn_toJson (c : ToolchainSettings) : c.PartIn .whole c.toJson := by
  refine .mk c.compiler.partIn_toJson c.linker.partIn_toJson ?_ (.refl _)
  cases c.versionCommand with
  | none => exact .none
  | some command => exact .some command.partIn_toJson

theorem Settings.partIn_toJson (c : Settings) : c.PartIn .whole c.toJson :=
  .mk c.toolchain.partIn_toJson (.mk (.refl _)) (.refl _)

/-! ## Parts can be read -/

@[simp]
theorem Path.readable_toJson (p : Path) : Readable p.toJson := Json.readable_ofString p.text

@[simp]
theorem LanguageVersion.readable_toJson (v : LanguageVersion) : Readable v.toJson :=
  .object (by simp)

@[simp]
theorem IntrinsicPolicy.readable_toJson (p : IntrinsicPolicy) : Readable p.toJson := by
  cases p with
  | reject => exact .string _
  | accept => exact .string _
  | acceptUpTo ceiling => exact .object (by simp)

theorem CommandTemplate.readable_of_partIn {named : Bool} {c : CommandTemplate} {j : Json}
    (h : c.PartIn named j) : Readable j := by
  cases h with
  | mk hfields => exact Json.readable_inPart (by simp [Json.readable_array_map]) hfields

theorem CommandTemplate.readable_of_optionalPartIn {named : Bool} {x : Option CommandTemplate}
    {j : Json} (h : OptionalPartIn named x j) : Readable j := by
  cases h with
  | none => exact .null
  | some h => exact readable_of_partIn h

theorem ToolchainSettings.readable_of_partIn {c : ToolchainSettings} {j : Json}
    (h : c.PartIn S j) : Readable j := by
  cases h with
  | @mk compiler linker version fields hcompiler hlinker hversion hfields =>
    refine Json.readable_inPart ?_ hfields
    simp [CommandTemplate.readable_of_partIn hcompiler, CommandTemplate.readable_of_partIn hlinker,
      CommandTemplate.readable_of_optionalPartIn hversion, Json.readable_ofOption]

theorem HostOptions.readable_of_partIn {c : HostOptions} {j : Json} (h : c.PartIn S j) :
    Readable j := by
  cases h with
  | mk hfields => exact Json.readable_inPart (by simp) hfields

theorem Settings.readable_of_partIn {c : Settings} {j : Json} (h : c.PartIn S j) : Readable j := by
  cases h with
  | mk htoolchain hhost hfields =>
    refine Json.readable_inPart ?_ hfields
    simp [ToolchainSettings.readable_of_partIn htoolchain, HostOptions.readable_of_partIn hhost,
      Json.readable_ofOption]

/-! ## Reading values -/

theorem Path.ofJson?_toJson (p : Path) : Path.ofJson? p.toJson = some p := rfl

theorem Path.nullable?_ofOption (x : Option Path) :
    Json.nullable? Path.ofJson? (ofOption Path.toJson x) = some x :=
  -- A path is a text, so one that is set is not taken for none.
  have hnull (p : Path) : p.toJson ≠ .null := nofun
  Json.nullable?_ofOption hnull Path.ofJson?_toJson x

theorem LanguageVersion.ofJson?_toJson (v : LanguageVersion) :
    LanguageVersion.ofJson? v.toJson = some v := by
  have hpart (n : UInt8) : Json.nat? 255 (ofNat n.toNat) = some n.toNat :=
    Json.nat?_ofNat (Nat.le_of_lt_succ n.toNat_lt)
  show (do
    let major ← Json.nat? 255 (ofNat v.major.toNat)
    let minor ← Json.nat? 255 (ofNat v.minor.toNat)
    some (LanguageVersion.mk major.toUInt8 minor.toUInt8)) = _
  rw [hpart, hpart]
  show some (LanguageVersion.mk v.major.toNat.toUInt8 v.minor.toNat.toUInt8) = some v
  simp

theorem LanguageVersion.nullable?_ofOption (x : Option LanguageVersion) :
    Json.nullable? LanguageVersion.ofJson? (ofOption LanguageVersion.toJson x) = some x :=
  have hnull (v : LanguageVersion) : v.toJson ≠ .null := nofun
  Json.nullable?_ofOption hnull LanguageVersion.ofJson?_toJson x

theorem IntrinsicPolicy.ofJson?_toJson (p : IntrinsicPolicy) :
    IntrinsicPolicy.ofJson? p.toJson = some p := by
  cases p with
  | reject => rfl
  | accept => rfl
  | acceptUpTo ceiling =>
    show (LanguageVersion.ofJson? ceiling.toJson).map acceptUpTo = _
    rw [LanguageVersion.ofJson?_toJson]
    rfl

/-! ## Reading parts -/

theorem CommandTemplate.ofJson?_of_partIn {named : Bool} {c : CommandTemplate} {j : Json}
    (h : c.PartIn named j) : CommandTemplate.ofJson? j = some (c.inPart named) := by
  cases h with
  | mk hfields =>
    obtain ⟨r, hr, hreads⟩ := Json.exists_record ["program", "args"] rfl (by decide) hfields
    have hlist : Json.list? Json.text? (.array (c.args.map ofString)) = some c.args :=
      Json.list?_array_map_of_forall fun _ _ => rfl
    have hprogram : r.required "program" Json.text? = some c.program :=
      hreads.required (by simp) (Eq.refl (Json.text? (ofString c.program))) rfl
    have hargs : r.defaulted "args" [] (Json.list? Json.text?) = some (c.inPart named).args :=
      hreads.defaulted (by simp) hlist []
    unfold ofJson?
    rw [hr, Option.bind_eq_bind, Option.bind_some, hprogram, hargs]
    rfl

theorem CommandTemplate.nullable?_of_optionalPartIn {named : Bool} {x : Option CommandTemplate}
    {j : Json} (h : OptionalPartIn named x j) :
    Json.nullable? CommandTemplate.ofJson? j = some (x.map (·.inPart named)) := by
  cases h with
  | none => rfl
  | some h =>
    have hread := ofJson?_of_partIn h
    -- A part of a command is an object, so it is not taken for none.
    cases h with
    | mk hfields =>
      show (CommandTemplate.ofJson? (ofFields _)).map some = _
      rw [hread]
      rfl

theorem ToolchainSettings.ofJson?_of_partIn {c : ToolchainSettings} {j : Json}
    (h : c.PartIn S j) : ToolchainSettings.ofJson? j = some (c.inPart S) := by
  cases h with
  | @mk compiler linker version fields hcompiler hlinker hversion hfields =>
    obtain ⟨r, hr, hreads⟩ := Json.exists_record
      ["compiler", "linker", "language_version", "scratch_dir", "version_command"] rfl (by decide)
      hfields
    have hcompiler : r.defaulted "compiler" standard.compiler CommandTemplate.ofJson? =
        some (c.inPart S).compiler :=
      hreads.defaulted (by simp) (CommandTemplate.ofJson?_of_partIn hcompiler) _
    have hlinker : r.defaulted "linker" standard.linker CommandTemplate.ofJson? =
        some (c.inPart S).linker :=
      hreads.defaulted (by simp) (CommandTemplate.ofJson?_of_partIn hlinker) _
    have hlanguage : r.defaulted "language_version" standard.language LanguageVersion.ofJson? =
        some (c.inPart S).language :=
      hreads.defaulted (by simp) c.language.ofJson?_toJson _
    have hscratch : r.defaulted "scratch_dir" standard.scratch (Json.nullable? Path.ofJson?) =
        some (c.inPart S).scratch :=
      hreads.defaulted (by simp) (Path.nullable?_ofOption c.scratch) _
    have hversion : r.defaulted "version_command" standard.versionCommand
        (Json.nullable? CommandTemplate.ofJson?) = some (c.inPart S).versionCommand :=
      hreads.defaulted (by simp) (CommandTemplate.nullable?_of_optionalPartIn hversion) _
    unfold ofJson?
    rw [hr, Option.bind_eq_bind, Option.bind_some, hcompiler, hlinker, hlanguage, hscratch,
      hversion]
    rfl

theorem HostOptions.ofJson?_of_partIn {c : HostOptions} {j : Json}
    (hthreads : c.maxThreads ≤ Json.wordLimit) (h : c.PartIn S j) :
    HostOptions.ofJson? j = some (c.inPart S) := by
  cases h with
  | mk hfields =>
    obtain ⟨r, hr, hreads⟩ := Json.exists_record
      ["name", "max_threads_per_threadgroup", "intrinsics"] rfl (by decide) hfields
    have hname : r.defaulted "name" standard.name Json.text? = some (c.inPart S).name :=
      hreads.defaulted (by simp) (Eq.refl (Json.text? (ofString c.name))) _
    have hthreads : r.defaulted "max_threads_per_threadgroup" standard.maxThreads
        (Json.nat? Json.wordLimit) = some (c.inPart S).maxThreads :=
      hreads.defaulted (by simp) (Json.nat?_ofNat hthreads) _
    have hintrinsics : r.defaulted "intrinsics" standard.intrinsics IntrinsicPolicy.ofJson? =
        some (c.inPart S).intrinsics :=
      hreads.defaulted (by simp) c.intrinsics.ofJson?_toJson _
    unfold ofJson?
    rw [hr, Option.bind_eq_bind, Option.bind_some, hname, hthreads, hintrinsics]
    rfl

namespace Settings

variable {c s : Settings} {j : Json}

/-- Numbers that settings hold can be written: sizes have 64 bits, and the text of the tolerance is
read back. -/
structure Fits (c : Settings) : Prop where
  groupSize : c.groupSize ≤ Json.wordLimit
  maxThreads : c.host.maxThreads ≤ Json.wordLimit
  tolerance : ∀ x ∈ c.tolerance, x.ReadsBack

theorem validate_eq_ok_iff :
    s.validate = .ok () ↔ s.groupSize ≠ 0 ∧ ∀ x ∈ s.tolerance, toleranceFits x = true := by
  unfold validate
  by_cases hsize : s.groupSize = 0
  · rw [if_pos hsize]
    exact ⟨nofun, fun h => absurd hsize h.1⟩
  · rw [if_neg hsize]
    cases s.tolerance with
    | none => exact ⟨fun _ => ⟨hsize, nofun⟩, fun _ => rfl⟩
    | some x => cases hx : toleranceFits x <;> simp [hsize, hx]

/-- A part of settings that hold, with the rest as in the standard settings, holds. -/
theorem validate_inPart (hvalid : c.validate = .ok ()) (S : SettingsPart) :
    (c.inPart S).validate = .ok () := by
  have hstandard : standard.validate = .ok () := rfl
  rw [validate_eq_ok_iff] at hvalid hstandard ⊢
  -- Each of the two fields comes from settings that hold, whether it is named or not.
  refine ⟨?_, ?_⟩
  · show (if S.top "group_size" then c.groupSize else standard.groupSize) ≠ 0
    split
    · exact hvalid.1
    · exact hstandard.1
  · show ∀ x ∈ (if S.top "tolerance" then c.tolerance else standard.tolerance), _
    split
    · exact hvalid.2
    · exact hstandard.2

theorem ofJson?_of_partIn (hvalid : c.validate = .ok ()) (hfits : c.Fits) (h : c.PartIn S j) :
    ofJson? j = some (c.inPart S) := by
  -- A tolerance that holds is finite, so it is not written as null.
  have htolerance : Json.nullable? Json.single? (ofOption ofSingle c.tolerance) =
      some c.tolerance := by
    rw [nullable?_ofOption_ofSingle fun x hx _ => hfits.tolerance x (Option.mem_toList.mp hx)]
    cases hx : c.tolerance with
    | none => rfl
    | some x =>
      have hfinite : x.isFinite = true :=
        (Bool.and_eq_true_iff.mp ((validate_eq_ok_iff.mp hvalid).2 x hx)).1
      rw [Option.filter_some_pos hfinite]
  cases h with
  | @mk toolchain host fields htoolchain hhost hfields =>
    obtain ⟨r, hr, hreads⟩ := Json.exists_record
      ["toolchain", "prebuilt_dir", "report_path", "json_report", "dynamic_language_version",
       "tolerance", "group_size", "host"] rfl (by decide) hfields
    have htoolchain : r.defaulted "toolchain" standard.toolchain ToolchainSettings.ofJson? =
        some (c.inPart S).toolchain :=
      hreads.defaulted (by simp) (ToolchainSettings.ofJson?_of_partIn htoolchain) _
    have hprebuilt : r.defaulted "prebuilt_dir" standard.prebuilt (Json.nullable? Path.ofJson?) =
        some (c.inPart S).prebuilt :=
      hreads.defaulted (by simp) (Path.nullable?_ofOption c.prebuilt) _
    have hreport : r.defaulted "report_path" standard.report Path.ofJson? =
        some (c.inPart S).report :=
      hreads.defaulted (by simp) c.report.ofJson?_toJson _
    have hjsonReport : r.defaulted "json_report" standard.jsonReport (Json.nullable? Path.ofJson?) =
        some (c.inPart S).jsonReport :=
      hreads.defaulted (by simp) (Path.nullable?_ofOption c.jsonReport) _
    have hlanguage : r.defaulted "dynamic_language_version" standard.language
        (Json.nullable? LanguageVersion.ofJson?) = some (c.inPart S).language :=
      hreads.defaulted (by simp) (LanguageVersion.nullable?_ofOption c.language) _
    have htolerance : r.defaulted "tolerance" standard.tolerance (Json.nullable? Json.single?) =
        some (c.inPart S).tolerance :=
      hreads.defaulted (by simp) htolerance _
    have hgroupSize : r.defaulted "group_size" standard.groupSize (Json.nat? Json.wordLimit) =
        some (c.inPart S).groupSize :=
      hreads.defaulted (by simp) (Json.nat?_ofNat hfits.groupSize) _
    have hhost : r.defaulted "host" standard.host HostOptions.ofJson? = some (c.inPart S).host :=
      hreads.defaulted (by simp) (HostOptions.ofJson?_of_partIn hfits.maxThreads hhost) _
    unfold ofJson?
    rw [hr, Option.bind_eq_bind, Option.bind_some, htoolchain, hprebuilt, hreport, hjsonReport,
      hlanguage, htolerance, hgroupSize, hhost]
    rfl

/-! ## Files -/

variable {t t' : FileTree} {base : Location} {p : Path} {text : String}

/-- A text is read as the settings in it, if they hold. -/
theorem readText_eq_ok_iff : readText p text = .ok s ↔
    (Json.read? text).bind ofJson? = some s ∧ s.validate = .ok () := by
  unfold readText
  cases (Json.read? text).bind ofJson? with
  | none => exact ⟨nofun, fun h => nomatch h.1⟩
  | some found =>
    dsimp only
    refine ⟨fun h => ?_, ?_⟩
    · cases hvalid : found.validate with
      | error f => rw [hvalid] at h; cases h
      | ok _ =>
        rw [hvalid] at h
        cases h
        exact ⟨rfl, hvalid⟩
    · rintro ⟨hfound, hvalid⟩
      cases hfound
      rw [hvalid]
      rfl

/-- A file is loaded as the settings in its text, if they hold. -/
theorem load_eq_ok_iff : load t base p = .ok s ↔
    ∃ content text, t.read base p = .ok content ∧ String.fromUTF8? content = some text ∧
      (Json.read? text).bind ofJson? = some s ∧ s.validate = .ok () := by
  unfold load
  cases t.read base p with
  | error f => exact ⟨nofun, fun ⟨_, _, h, _⟩ => nomatch h⟩
  | ok content =>
    cases htext : String.fromUTF8? content with
    | none => simp [htext]
    | some text => simp [htext, Except.mapError_eq_ok_iff, readText_eq_ok_iff]

/-- What is loaded holds. -/
theorem validate_of_load (h : load t base p = .ok s) : s.validate = .ok () := by
  obtain ⟨content, text, -, -, -, hvalid⟩ := load_eq_ok_iff.mp h
  exact hvalid

/-- **A file is loaded as the part of the settings that it names**, however it is written. -/
theorem load_of_partIn (hvalid : c.validate = .ok ()) (hfits : c.Fits) (h : c.PartIn S j)
    (hj : Json.read? text = some j) (hread : t.read base p = .ok text.toUTF8) :
    load t base p = .ok (c.inPart S) := by
  refine load_eq_ok_iff.mpr ⟨_, text, hread, fromUTF8?_toUTF8 text, ?_, validate_inPart hvalid S⟩
  rw [hj, Option.bind_some, ofJson?_of_partIn hvalid hfits h]

/-- **What was saved is loaded as it was.** -/
theorem load_of_saved (hvalid : c.validate = .ok ()) (hfits : c.Fits)
    (hsaved : t.write base p c.save.toUTF8 = .ok t') : load t' base p = .ok c := by
  have hj : Json.read? c.save = some c.toJson :=
    Json.read?_save (readable_of_partIn c.partIn_toJson)
  rw [load_of_partIn hvalid hfits c.partIn_toJson hj (FileTree.read_write hsaved), inPart_whole]

end Settings

end KernelLink
