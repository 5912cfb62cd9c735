import KernelLink.CommandLine.Execute
import KernelLink.Proofs.Settings.Partial

/-!
# Layers of settings

The settings of a command line come in three layers. At the bottom are the standard settings, above
them is what the settings file names, and on top is what the command line says itself. Each layer
has its say field by field: what one says about a field covers the layers below in that field, and
in no other. Whether settings hold is asked twice, of the file's settings before anything is laid
over them and of the result, so a command line cannot mend a file.
-/

namespace KernelLink

/-- What is said about a field covers what is below in that field, and in no other. -/
structure Overrides.Covers (o : Overrides) (loaded s : Settings) : Prop where
  prebuilt : s.prebuilt = match o.prebuilt with
    | some dir => some dir
    | none => loaded.prebuilt
  report : s.report = match o.report with
    | some p => p
    | none => loaded.report
  jsonReport : s.jsonReport = match o.jsonReport with
    | some p => some p
    | none => loaded.jsonReport
  language : s.language = match o.language with
    | some v => some v
    | none => loaded.language
  groupSize : s.groupSize = match o.groupSize with
    | some n => n
    | none => loaded.groupSize
  toolchain : s.toolchain = loaded.toolchain
  tolerance : s.tolerance = loaded.tolerance
  host : s.host = loaded.host

theorem Overrides.covers_iff {o : Overrides} {loaded s : Settings} :
    o.Covers loaded s ↔ s = o.apply loaded := by
  constructor
  · rintro ⟨hprebuilt, hreport, hjson, hlanguage, hsize, htoolchain, htolerance, hhost⟩
    obtain ⟨prebuilt, report, jsonReport, language, groupSize⟩ := o
    cases s
    subst hprebuilt hreport hjson hlanguage hsize htoolchain htolerance hhost
    cases prebuilt <;> cases report <;> cases jsonReport <;> cases language <;>
      cases groupSize <;> rfl
  · rintro rfl
    obtain ⟨prebuilt, report, jsonReport, language, groupSize⟩ := o
    exact
      { prebuilt := by cases prebuilt <;> rfl
        report := by cases report <;> rfl
        jsonReport := by cases jsonReport <;> rfl
        language := by cases language <;> rfl
        groupSize := by cases groupSize <;> rfl
        toolchain := rfl
        tolerance := rfl
        host := rfl }

namespace CommandLine

variable {line : CommandLine} {t : FileTree} {base : Location} {s loaded : Settings}

/-- The settings below those of the command line: the file's, or the standard ones without a
file. -/
def Loads (line : CommandLine) (t : FileTree) (base : Location) (loaded : Settings) : Prop :=
  match line.settingsFile with
  | some p => Settings.load t base p = .ok loaded
  | none => loaded = .standard

/-- The settings below are the only ones. -/
theorem Loads.unique {other : Settings} (h : line.Loads t base loaded)
    (hother : line.Loads t base other) : loaded = other := by
  unfold Loads at h hother
  cases hfile : line.settingsFile with
  | some p =>
    rw [hfile] at h hother
    exact Except.ok.inj (h.symm.trans hother)
  | none =>
    rw [hfile] at h hother
    exact h.trans hother.symm

/-- What is below holds by itself, so nothing that the command line says can mend it. -/
theorem Loads.validate (h : line.Loads t base loaded) : loaded.validate = .ok () := by
  unfold Loads at h
  cases hfile : line.settingsFile with
  | some p =>
    rw [hfile] at h
    exact Settings.validate_of_load h
  | none =>
    rw [hfile] at h
    subst h
    rfl

/-- The settings of a command line are those below under its own, if they hold. -/
theorem settings_of_loads (h : line.Loads t base loaded) :
    line.settings t base = (do
      (line.overrides.apply loaded).validate.mapError fun f => .run (.settings f)
      .ok (line.overrides.apply loaded)) := by
  unfold Loads at h
  unfold settings
  cases hfile : line.settingsFile with
  | some p =>
    rw [hfile] at h
    dsimp only at h ⊢
    rw [h]
    rfl
  | none =>
    rw [hfile] at h
    subst h
    rfl

/-- A settings file that cannot be used ends the command line. -/
theorem exists_error_of_not_loads (h : ∀ loaded, ¬line.Loads t base loaded) :
    ∃ f, line.settings t base = .error f := by
  unfold Loads at h
  unfold settings
  cases hfile : line.settingsFile with
  | some p =>
    rw [hfile] at h
    dsimp only at h ⊢
    cases hload : Settings.load t base p with
    | ok loaded => exact absurd hload (h loaded)
    | error f => exact ⟨.loading p f, rfl⟩
  | none =>
    rw [hfile] at h
    exact absurd rfl (h .standard)

theorem settings_eq_ok_iff : line.settings t base = .ok s ↔
    ∃ loaded, line.Loads t base loaded ∧ line.overrides.Covers loaded s ∧
      s.validate = .ok () := by
  simp only [Overrides.covers_iff]
  refine ⟨fun h => ?_, ?_⟩
  · by_cases hloads : ∃ loaded, line.Loads t base loaded
    · obtain ⟨loaded, hloads⟩ := hloads
      rw [settings_of_loads hloads] at h
      cases hvalid : (line.overrides.apply loaded).validate with
      | error f => rw [hvalid] at h; cases h
      | ok _ =>
        rw [hvalid] at h
        cases h
        exact ⟨loaded, hloads, rfl, hvalid⟩
    · obtain ⟨f, hf⟩ := exists_error_of_not_loads (not_exists.mp hloads)
      rw [hf] at h
      cases h
  · rintro ⟨loaded, hloads, rfl, hvalid⟩
    rw [settings_of_loads hloads, hvalid]
    rfl

/-- A command line has no settings if there are none below, or if those with its own over them do
not hold. -/
theorem exists_error_iff : (∃ f, line.settings t base = .error f) ↔
    (∀ loaded, ¬line.Loads t base loaded) ∨
      ∃ loaded s, line.Loads t base loaded ∧ line.overrides.Covers loaded s ∧
        s.validate ≠ .ok () := by
  refine ⟨fun ⟨f, hf⟩ => ?_, ?_⟩
  · refine or_iff_not_imp_left.mpr fun hloads => ?_
    obtain ⟨loaded, hloads⟩ := not_forall_not.mp hloads
    refine ⟨loaded, _, hloads, Overrides.covers_iff.mpr rfl, fun hvalid => ?_⟩
    rw [settings_eq_ok_iff.mpr ⟨loaded, hloads, Overrides.covers_iff.mpr rfl, hvalid⟩] at hf
    cases hf
  · rintro (hloads | ⟨loaded, s, hloads, hcovers, hvalid⟩)
    · exact exists_error_of_not_loads hloads
    · cases hsettings : line.settings t base with
      | error f => exact ⟨f, rfl⟩
      | ok s' =>
        -- Both come from the same settings below, so they are the same and hold or do not.
        obtain ⟨other, hother, hcovers', hholds⟩ := settings_eq_ok_iff.mp hsettings
        rw [hloads.unique hother, Overrides.covers_iff] at hcovers
        rw [Overrides.covers_iff, ← hcovers] at hcovers'
        subst hcovers'
        exact absurd hholds hvalid

/-- **Settings come in layers.** A file that names some of the fields of settings that hold, in the
toolchain and in the host too, is loaded with these and with the standard ones for the rest, and a
file that was saved is loaded as it was; no file is loaded as settings that do not hold. Over what
is loaded the command line has its say, field by field, and it has settings unless the file cannot
be used or the result does not hold. -/
theorem settings_layers {c : Settings} (hvalid : c.validate = .ok ()) (hfits : c.Fits) :
    (∀ S : SettingsPart,
      (∃ j, c.PartIn S j) ∧
      ∀ j, c.PartIn S j →
        Json.read? j.save = some j ∧
        ∀ (text : String) (t : FileTree) (base : Location) (p : Path),
          Json.read? text = some j → t.read base p = .ok text.toUTF8 →
            Settings.load t base p = .ok (c.inPart S)) ∧
    (∀ (t t' : FileTree) (base : Location) (p : Path),
      t.write base p c.save.toUTF8 = .ok t' → Settings.load t' base p = .ok c) ∧
    (∀ (t : FileTree) (base : Location) (p : Path) (s : Settings),
      Settings.load t base p = .ok s → s.validate = .ok ()) ∧
    ∀ (line : CommandLine) (t : FileTree) (base : Location),
      (∀ s, line.settings t base = .ok s ↔
        ∃ loaded, line.Loads t base loaded ∧ line.overrides.Covers loaded s ∧
          s.validate = .ok ()) ∧
      ((∃ f, line.settings t base = .error f) ↔
        (∀ loaded, ¬line.Loads t base loaded) ∨
          ∃ loaded s, line.Loads t base loaded ∧ line.overrides.Covers loaded s ∧
            s.validate ≠ .ok ()) := by
  refine ⟨fun S => ⟨c.exists_partIn S, fun j h => ⟨?_, ?_⟩⟩, ?_, ?_, ?_⟩
  · exact Json.read?_save (Settings.readable_of_partIn h)
  · intro text t base p hj hread
    exact Settings.load_of_partIn hvalid hfits h hj hread
  · intro t t' base p hsaved
    exact Settings.load_of_saved hvalid hfits hsaved
  · intro t base p s hload
    exact Settings.validate_of_load hload
  · intro line t base
    exact ⟨fun s => settings_eq_ok_iff, exists_error_iff⟩

/-- A file names a group size and a compiler without arguments; the command line names another group
size. -/
theorem settings_layers_compiler :
    let j := Json.ofFields [("group_size", Json.ofNat 8),
      ("toolchain", .ofFields [("compiler", .ofFields [("program", .ofString "cc")])])]
    let line : CommandLine :=
      ⟨.host, some ⟨"run.json"⟩, { Overrides.empty with groupSize := some 16 }, .run⟩
    ∃ t, FileTree.empty.write [] ⟨"run.json"⟩ j.save.toUTF8 = .ok t ∧
      line.settings t [] = .ok { Settings.standard with
        groupSize := 16
        toolchain := { ToolchainSettings.standard with compiler := ⟨"cc", []⟩ } } := by
  intro j line
  let c : Settings := { Settings.standard with
    groupSize := 8
    tolerance := some ⟨0x3f000000⟩
    toolchain := { ToolchainSettings.standard with compiler := ⟨"cc", ["-c"]⟩ } }
  let S : SettingsPart :=
    ⟨fun f => f == "group_size" || f == "toolchain", (· == "compiler"), fun _ => false,
      fun _ => false⟩
  have hvalid : c.validate = .ok () := by decide +kernel
  have hfits : c.Fits := by
    refine ⟨by decide, by decide, ?_⟩
    rintro x ⟨⟩
    exact Single.readsBack_iff.mpr (by decide +kernel)
  obtain ⟨hparts, -, -, hlines⟩ := settings_layers hvalid hfits
  have hcompiler : c.toolchain.compiler.PartIn false (.ofFields [("program", .ofString "cc")]) :=
    .mk (.refl _)
  have htoolchain : c.toolchain.PartIn S (.ofFields
      [("compiler", .ofFields [("program", .ofString "cc")])]) :=
    .mk hcompiler (.mk (.refl _)) (.some (.mk (.refl _))) (.refl _)
  have hj : c.PartIn S j := .mk htoolchain (.mk (.refl _)) (.swap _ _ _)
  obtain ⟨hread, hload⟩ := (hparts S).2 j hj
  refine ⟨FileTree.empty.put ["run.json"] (.file j.save.toUTF8), rfl, ?_⟩
  refine ((hlines line _ []).1 _).mpr ⟨c.inPart S, hload j.save _ _ _ hread rfl, ?_, rfl⟩
  exact Overrides.covers_iff.mpr rfl

end CommandLine

end KernelLink
