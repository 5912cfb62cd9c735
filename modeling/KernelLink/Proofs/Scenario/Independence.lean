import KernelLink.Proofs.Device.Compilation
import KernelLink.Proofs.Scenario.Settles

/-!
# Cases are independent

A run is the concatenation of its cases, and each case is what it would be if nothing else were run.
Between scenarios this is a matter of files, and every scenario leaves the files as it found them.
Between variants it is a matter of the memory that they share, and every variant does the same from
any memory that holds the inputs. What remains is the one way in which a case ends a whole run: an
empty tile.
-/

namespace KernelLink

open CaseM

namespace SuiteM

/-- Steps that leave the files as they found them do not see each other. -/
theorem run_mapM {α β : Type} {t : FileTree} {f : α → SuiteM β}
    (hf : ∀ a, ((f a).run t).2 = t) (as : List α) :
    (as.mapM f).run t = (as.mapM fun a => ((f a).run t).1, t) := by
  induction as with
  | nil => rfl
  | cons a as ih =>
    rw [List.mapM_cons, List.mapM_cons, run_bind]
    have hfiles := hf a
    rcases hr : (f a).run t with ⟨e | b, t'⟩
    · rw [hr] at hfiles
      obtain rfl : t' = t := hfiles
      rfl
    · rw [hr] at hfiles
      obtain rfl : t' = t := hfiles
      dsimp only
      rw [run_bind, ih]
      cases as.mapM fun a => ((f a).run t').1 <;> rfl

end SuiteM

namespace CaseTag

variable {c : CaseTag} {result : Except RunStop Checked} {records : List StageRecord}

theorem name_of_outcome {o : CaseOutcome} (h : c.outcome result records = .ok o) :
    o.name = c.name := by
  unfold outcome at h
  split at h
  · cases h; rfl
  · cases h; rfl
  · cases h

end CaseTag

/-- The names of the cases of a scenario. -/
def Scenario.caseNames (c : Catalog) : Scenario → List String
  | .multiVariant => c.variants.map variantCaseName
  | k => [k.name]

namespace Session

variable {s : Session} {t : FileTree} {c : CaseTag} {calm : Prop}

/-- The session with other variants in its catalog. -/
def withVariants (s : Session) (variants : List Variant) : Session :=
  { s with catalog := { s.catalog with variants } }

/-- The cases of a run from some files on. -/
def cases (s : Session) (t : FileTree) (kinds : List Scenario) :
    Except Crash (List CaseOutcome) :=
  ((s.run kinds).run t).1.map (·.cases)

/-! ## One case -/

section

variable (hclosed : t.Closed) (htools : s.settings.toolchain.KeepsToScratch s.surroundings)

include hclosed htools

theorem settles_asmRepro : Settles t s.Tiled (fun _ => True) (s.asmRepro c) := by
  unfold asmRepro
  refine (Settles.record c _ _ _).bind fun _ _ => ?_
  refine (settles_tryInProcess _).bind fun _ _ => ?_
  refine (settles_compileByToolchain hclosed htools _).bind fun built hbuilt => ?_
  refine (Settles.stage hbuilt).bind fun unit hunit => ?_
  refine (settles_linkStage hunit (List.forall_mem_nil _)).bind fun pipeline hpipeline => ?_
  refine (settles_uploadStage _).bind fun source _ => ?_
  exact (settles_dispatchStage hpipeline _ _ _ _ _ _).bind fun output _ => .pure trivial

theorem settles_reverseLink : Settles t s.Tiled (fun _ => True) (s.reverseLink c) := by
  unfold reverseLink
  refine (settles_loadShell hclosed htools _).bind fun shell hshell => ?_
  refine (settles_compileCallable _).bind fun unit hunit => ?_
  refine (settles_linkStage hshell (List.forall_mem_singleton.mpr hunit)).bind
    fun pipeline hpipeline => ?_
  refine (settles_uploadStage _).bind fun source _ => ?_
  exact (settles_dispatchStage hpipeline _ _ _ _ _ _).bind fun output _ => .pure trivial

theorem settles_roundtrip : Settles t s.Tiled (fun _ => True) (s.roundtrip c) := by
  unfold roundtrip
  refine (settles_loadShell hclosed htools _).bind fun shell hshell => ?_
  refine (settles_compileCallable _).bind fun unit hunit => ?_
  refine (settles_linkStage hshell (List.forall_mem_singleton.mpr hunit)).bind
    fun pipeline hpipeline => ?_
  refine (settles_uploadStage _).bind fun source _ => ?_
  exact (settles_dispatchStage hpipeline _ _ _ _ _ _).bind fun output _ => .pure trivial

/-- What variants share is loaded and uploaded, and nothing of it is run. -/
theorem settles_variantSetup :
    Settles t True (fun shared => s.device.Makes shared.shell.library) (s.variantSetup c) := by
  unfold variantSetup
  refine (settles_loadShell hclosed htools _).bind fun shell hshell => ?_
  refine (settles_uploadStage _).bind fun first _ => ?_
  exact (settles_uploadStage _).bind fun second _ => .pure hshell

end

theorem settles_variantCase {shared : VariantSetup}
    (hshell : s.device.Makes shared.shell.library) (v : Variant) :
    Settles t s.Tiled (fun _ => True) (s.variantCase c shared v) := by
  unfold variantCase
  refine (settles_compileCallable _).bind fun unit hunit => ?_
  refine (settles_linkStage hshell (List.forall_mem_singleton.mpr hunit)).bind
    fun pipeline hpipeline => ?_
  exact (settles_dispatchStage hpipeline _ _ _ _ _ _).bind fun output _ => .pure trivial

/-- A case that does not crash has an outcome. -/
theorem exists_outcome {body : CaseM Checked} {post : Checked → Prop} {σ : CaseState}
    (hbody : Settles t calm post body) (hσ : σ.files = t) (hcalm : calm) :
    ∃ o, c.outcome (body.eval σ).1 (body.eval σ).2.records = .ok o := by
  have hend := (hbody σ hσ).2
  rcases hr : (body.eval σ).1 with (fault | crash) | checked
  · exact ⟨_, rfl⟩
  · rw [hr] at hend
    exact absurd hcalm hend
  · exact ⟨_, rfl⟩

/-! ## The cases of one scenario -/

/-- From the files `t`, the scenario leaves the files `t` and has the cases that it should have, in
order; and it has them if no tile is empty. -/
structure Yields (s : Session) (t : FileTree) (names : List String)
    (r : Except Crash (List CaseOutcome) × FileTree) : Prop where
  files : r.2 = t
  names : ∀ outcomes, r.1 = .ok outcomes → outcomes.map (·.name) = names
  calm : s.Tiled → ∃ outcomes, r.1 = .ok outcomes

theorem yields_singleCase {k : Scenario} {body : CaseTag → CaseM Checked} {post : Checked → Prop}
    (hbody : ∀ c, Settles t s.Tiled post (body c)) :
    s.Yields t [k.name] ((s.singleCase k body).run t) := by
  rw [run_singleCase]
  refine ⟨(hbody (s.tag k.name) (start t) rfl).1, fun outcomes h => ?_, fun htiled => ?_⟩
  · rcases ho : (s.tag k.name).outcome ((body (s.tag k.name)).eval (start t)).1
        ((body (s.tag k.name)).eval (start t)).2.records with crash | o
    · simp only [ho] at h
      cases h
    · simp only [ho] at h
      cases h
      exact congrArg ([·]) (CaseTag.name_of_outcome ho)
  · obtain ⟨o, ho⟩ := exists_outcome (c := s.tag k.name) (σ := start t) (hbody (s.tag k.name)) rfl
      htiled
    exact ⟨[o], by simp only [ho]; rfl⟩

theorem yields_variantCases {shared : VariantSetup} (hshell : s.device.Makes shared.shell.library)
    (records : List StageRecord) (variants : List Variant) (σ : CaseState) (hσ : σ.files = t) :
    s.Yields t (variants.map variantCaseName)
      ((s.variantCases shared records variants σ).1,
        (s.variantCases shared records variants σ).2.files) := by
  induction variants generalizing σ with
  | nil => exact ⟨hσ, by rintro _ ⟨⟩; rfl, fun _ => ⟨_, rfl⟩⟩
  | cons v rest ih =>
    have hcase := settles_variantCase (t := t) (c := s.tag (variantCaseName v)) hshell v
    have hfiles := (hcase { σ with records } hσ).1
    have houtcome := exists_outcome (c := s.tag (variantCaseName v)) (σ := { σ with records })
      hcase hσ
    rw [variantCases_cons]
    dsimp only
    generalize (s.variantCase (s.tag (variantCaseName v)) shared v).eval { σ with records } = r
      at hfiles houtcome ⊢
    have hrest := ih r.2 hfiles
    generalize s.variantCases shared records rest r.2 = later at hrest ⊢
    rcases ho : (s.tag (variantCaseName v)).outcome r.1 r.2.records with crash | o
    · refine ⟨hfiles, nofun, fun htiled => ?_⟩
      obtain ⟨o, ho'⟩ := houtcome htiled
      rw [ho'] at ho
      cases ho
    · refine ⟨hrest.files, fun outcomes h => ?_, fun htiled => ?_⟩
      · rcases hl : later.1 with crash | others
        · simp only [hl] at h
          cases h
        · simp only [hl] at h
          cases h
          rw [List.map_cons, List.map_cons, hrest.names others hl, CaseTag.name_of_outcome ho]
          rfl
      · obtain ⟨others, hl⟩ := hrest.calm htiled
        dsimp only at hl
        exact ⟨o :: others, by simp only [hl]; rfl⟩

section

variable (hclosed : t.Closed) (htools : s.settings.toolchain.KeepsToScratch s.surroundings)

include hclosed htools

theorem yields_multiVariant :
    s.Yields t (s.catalog.variants.map variantCaseName) (s.multiVariant.run t) := by
  rw [run_multiVariant]
  obtain ⟨hfiles, hend⟩ := settles_variantSetup hclosed htools
    (c := s.tag Scenario.multiVariant.name) (start t) rfl
  rcases hr : (s.variantSetup (s.tag Scenario.multiVariant.name)).eval (start t) with
    ⟨(fault | crash) | shared, σ⟩
  · rw [hr] at hfiles
    refine ⟨hfiles, ?_, fun _ => ⟨_, rfl⟩⟩
    rintro _ ⟨⟩
    rw [List.map_map]
    rfl
  · rw [hr] at hend
    exact absurd trivial hend
  · rw [hr] at hfiles hend
    exact yields_variantCases hend σ.records s.catalog.variants σ hfiles

theorem yields_runScenario (k : Scenario) :
    s.Yields t (k.caseNames s.catalog) ((s.runScenario k).run t) := by
  cases k with
  | asmRepro =>
    rw [runScenario]
    exact yields_singleCase fun c => settles_asmRepro hclosed htools
  | reverseLink =>
    rw [runScenario]
    exact yields_singleCase fun c => settles_reverseLink hclosed htools
  | roundtrip =>
    rw [runScenario]
    exact yields_singleCase fun c => settles_roundtrip hclosed htools
  | multiVariant =>
    rw [runScenario]
    exact yields_multiVariant hclosed htools

end

/-! ## Variants in any company -/

/-- The inputs that the variants share are in the memory when the first of them runs. -/
theorem inputsHeld_of_variantSetup {shared : VariantSetup} {σ σ₀ : CaseState}
    (h : (s.variantSetup c).eval σ₀ = (.ok shared, σ)) :
    ∃ w₁ w₂, InputsHeld shared.first shared.second w₁ w₂ σ.memory := by
  unfold variantSetup at h
  rw [eval_bind] at h
  rcases hshell : (s.loadShell c (gemmShell s.catalog.tile)).eval σ₀ with ⟨stop | shell, σ₁⟩
  · rw [hshell] at h
    cases h
  rw [hshell] at h
  dsimp only at h
  rw [eval_bind, eval_uploadStage] at h
  rcases DeviceMemory.upload_cases (countingInputs variantCount) with ⟨fault, hup⟩ | ⟨w₁, hup⟩
  · rw [hup] at h
    cases h
  rw [hup] at h
  dsimp only at h
  rw [eval_bind, eval_uploadStage] at h
  rcases DeviceMemory.upload_cases (halvingInputs variantCount) with ⟨fault, hup'⟩ | ⟨w₂, hup'⟩
  · rw [hup'] at h
    cases h
  rw [hup'] at h
  cases h
  exact ⟨w₁, w₂, (DeviceMemory.holds_push_self _ w₁).push w₂, DeviceMemory.holds_push_self _ w₂⟩

/-- Which variants a catalog has makes no difference to any one of them. -/
theorem variantCases_withVariants (all : List Variant) (shared : VariantSetup)
    (records : List StageRecord) (variants : List Variant) (σ : CaseState) :
    (s.withVariants all).variantCases shared records variants σ =
      s.variantCases shared records variants σ := by
  have hcase (c : CaseTag) (v : Variant) :
      (s.withVariants all).variantCase c shared v = s.variantCase c shared v := by
    have hcompile : (s.withVariants all).compileCallable = s.compileCallable := rfl
    have hlink : (s.withVariants all).linkStage = s.linkStage := rfl
    have hdispatch : (s.withVariants all).dispatchStage = s.dispatchStage := rfl
    have hverifier : (s.withVariants all).verifier = s.verifier := rfl
    have htile : (s.withVariants all).catalog.tile = s.catalog.tile := rfl
    simp only [variantCase, hcompile, hlink, hdispatch, hverifier, htile]
  have htag : (s.withVariants all).tag = s.tag := rfl
  induction variants generalizing σ with
  | nil => rfl
  | cons v rest ih => simp only [variantCases_cons, ih, hcase, htag]

theorem flatten_mapM_singleton {ε α β : Type} (f : α → β) (as : List α) :
    (as.mapM fun a => (.ok [f a] : Except ε (List β))).map List.flatten = .ok (as.map f) := by
  induction as with
  | nil => rfl
  | cons a as ih =>
    rw [List.mapM_cons]
    cases h : (as.mapM fun a => (.ok [f a] : Except ε (List β))) with
    | error e =>
      rw [h] at ih
      cases ih
    | ok bs =>
      rw [h] at ih
      have hflat : bs.flatten = as.map f := Except.ok.inj ih
      show Except.ok (f a :: bs.flatten) = _
      rw [hflat]
      rfl

theorem run_multiVariant_withVariants (hclosed : t.Closed)
    (htools : s.settings.toolchain.KeepsToScratch s.surroundings) {p : Catalog → Prop}
    (hr : s.device.registry.FromCatalogs p) (variants : List Variant) :
    ((s.withVariants variants).multiVariant.run t).1 =
      (variants.mapM fun v => ((s.withVariants [v]).multiVariant.run t).1).map List.flatten := by
  obtain ⟨-, hend⟩ := settles_variantSetup hclosed htools
    (c := s.tag Scenario.multiVariant.name) (start t) rfl
  have hsetup (all : List Variant) :
      (s.withVariants all).variantSetup ((s.withVariants all).tag Scenario.multiVariant.name) =
        s.variantSetup (s.tag Scenario.multiVariant.name) := rfl
  simp only [run_multiVariant, hsetup]
  rcases hrun : (s.variantSetup (s.tag Scenario.multiVariant.name)).eval (start t) with
    ⟨(fault | crash) | shared, σ⟩
  · -- what failed for all of them fails for each
    have hvariants (all : List Variant) : (s.withVariants all).catalog.variants = all := rfl
    have htag (all : List Variant) (name : String) : (s.withVariants all).tag name = s.tag name :=
      rfl
    simp only [hvariants, htag, List.map_singleton]
    exact (flatten_mapM_singleton _ variants).symm
  · rw [hrun] at hend
    exact absurd trivial hend
  · rw [hrun] at hend
    obtain ⟨w₁, w₂, hheld⟩ := inputsHeld_of_variantSetup hrun
    dsimp only
    simp only [variantCases_withVariants]
    exact variantCases_eq_mapM (fun c v => uniform_variantCase hr hend c v) σ.records hheld
      variants σ hheld

/-! ## Runs that crash -/

/-- A shell that is in its file is loaded. -/
theorem exists_loadShell {dir : Path} {shell : CatalogEntry} {content : ByteArray} {l : Library}
    {σ : CaseState} (hdir : s.settings.prebuilt = some dir)
    (hfile : σ.files.lookup s.surroundings.base (shellPath dir shell.entry) = .ok (.file content))
    (hload : s.device.load content = .ok l) :
    ∃ m σ', (s.loadShell c shell).eval σ = (.ok m, σ') ∧ m.library = l := by
  have hloaded : ∃ m, s.device.loadPrebuilt σ.files s.surroundings.base
      (shellPath dir shell.entry) = .ok m ∧ m.library = l := by
    unfold HostDevice.loadPrebuilt HostDevice.loadFile FileTree.isFile FileTree.read
    rw [hfile]
    dsimp only [bind, Except.bind]
    rw [hload]
    exact ⟨_, rfl, rfl⟩
  obtain ⟨m, hm, hlibrary⟩ := hloaded
  refine ⟨m, σ.recorded (c.stageRecord .loadPrebuilt .pass
    (m.describe ++ " from " ++ (shellPath dir shell.entry).text)), ?_, hlibrary⟩
  unfold loadShell
  rw [hdir]
  dsimp only
  rw [eval_bind_of_ok (eval_files _), CaseTag.eval_stage]
  unfold loadPrebuilt
  dsimp only [ExceptT.run]
  rw [hm]

/-- A shell that has no file is not. -/
theorem exists_fault_of_loadShell {dir : Path} {shell : CatalogEntry} {σ : CaseState}
    (hdir : s.settings.prebuilt = some dir)
    (hfile : σ.files.isFile s.surroundings.base (shellPath dir shell.entry) = false) :
    ∃ fault σ', (s.loadShell c shell).eval σ = (.error (.fault fault), σ') := by
  unfold loadShell
  rw [hdir]
  dsimp only
  rw [eval_bind_of_ok (eval_files _), CaseTag.eval_stage]
  unfold loadPrebuilt
  dsimp only [ExceptT.run]
  unfold HostDevice.loadPrebuilt
  rw [hfile]
  exact ⟨_, _, rfl⟩

/-- What can be loaded compiles in process where every binding is accepted. -/
theorem exists_compileInProcess (hpolicy : s.device.options.intrinsics = .accept)
    {source : KernelSource} {l : Library} (hload : s.device.load source.text.toUTF8 = .ok l)
    (version : Option LanguageVersion) :
    ∃ m, s.compileInProcess source version = .ok m ∧ m.library = l := by
  unfold compileInProcess HostDevice.compileModule
  rw [HostDevice.compile_of_load hpolicy hload]
  exact ⟨_, rfl, rfl⟩

/-- With a shell and a function to link, an empty tile crashes the case. -/
theorem crash_of_reverseLink {shell unit : CompiledModule} {p : LinkedPipeline} {σ : CaseState}
    (hshell : (s.loadShell c (reverseShell s.catalog.tile)).eval (start t) = (.ok shell, σ))
    (hunit : s.compileInProcess s.catalog.transform.entry.source s.settings.language = .ok unit)
    (hlink : s.device.resolve ⟨shell, reverseName⟩ [⟨unit, transformName⟩] = .ok p)
    (hkernel : p.pipeline.kernel.tile? = some 0)
    (hvalid : ∀ source output, ∃ shape, s.device.validate p (s.launch (reverseShell s.catalog.tile)
      reverseCount [(0, source), (1, output)]) = .ok shape) :
    ((s.reverseLink c).eval (start t)).1 = .error (.crash .emptyTile) := by
  have hlength : (countingInputs reverseCount).length = reverseCount := by
    unfold countingInputs
    rw [List.length_map, List.length_range]
  have hup := DeviceMemory.upload_of_ne_nil (show countingInputs reverseCount ≠ [] by decide)
  have hfill := DeviceMemory.upload_of_ne_nil
    (show List.replicate reverseCount Single.zero ≠ [] by decide)
  have hcompile : (s.compileCallable c s.catalog.transform.entry).eval σ =
      (.ok unit, σ.recorded (c.stageRecord .compileDynamic .pass unit.describe)) := by
    unfold compileCallable
    rw [CaseTag.eval_stage, hunit]
  have hlinked (σ : CaseState) :
      (s.linkStage c ⟨shell, (reverseShell s.catalog.tile).entry⟩ [⟨unit, transformName⟩]).eval σ =
        (.ok p, σ.recorded (c.stageRecord .link .pass p.describe)) := by
    have hentry : (reverseShell s.catalog.tile).entry = reverseName := rfl
    unfold linkStage
    rw [CaseTag.eval_stage, hentry, hlink]
  unfold reverseLink
  rw [eval_bind_of_ok hshell, eval_bind_of_ok hcompile, eval_bind_of_ok (hlinked _), eval_bind,
    eval_uploadStage, hup]
  dsimp only
  rw [eval_bind, eval_dispatchStage, executeInto_eq, hlength]
  unfold DeviceMemory.fill
  rw [hfill]
  dsimp only
  obtain ⟨shape, hshape⟩ := hvalid _ _
  rw [List.singleton_append, HostDevice.execute_of_emptyTile hkernel hshape]

theorem run_singleCase_of_crash {k : Scenario} {body : CaseTag → CaseM Checked} {e : Crash}
    (h : ((body (s.tag k.name)).eval (start t)).1 = .error (.crash e)) :
    ((s.singleCase k body).run t).1 = .error e := by
  rw [run_singleCase]
  dsimp only
  rw [h]
  rfl

theorem run_singleCase_of_fault {k : Scenario} {body : CaseTag → CaseM Checked} {fault : RunFault}
    (h : ((body (s.tag k.name)).eval (start t)).1 = .error (.fault fault)) :
    ∃ o, ((s.singleCase k body).run t).1 = .ok [o] := by
  rw [run_singleCase]
  dsimp only
  rw [h]
  exact ⟨_, rfl⟩

/-! ## Whole runs -/

theorem cases_eq (hs : s.Steady t) (kinds : List Scenario) :
    s.cases t kinds =
      (kinds.mapM fun k => ((s.runScenario k).run (s.version.run t).2).1).map List.flatten := by
  have hmapM := SuiteM.run_mapM (fun k => (yields_runScenario hs.files hs.tools k).files) kinds
  have hrun (version : Option String) :
      ((kinds.mapM s.runScenario >>= fun outcomes =>
        pure ⟨s.reportHeader version, s.generatedSources kinds, outcomes.flatten⟩ :
          SuiteM RunReport).run (s.version.run t).2).1.map (·.cases) =
        (kinds.mapM fun k => ((s.runScenario k).run (s.version.run t).2).1).map List.flatten := by
    rw [run_bind, hmapM]
    cases kinds.mapM fun k => ((s.runScenario k).run (s.version.run t).2).1 <;> rfl
  unfold cases run
  rw [run_bind]
  exact hrun _

/-- A run over one scenario has the cases of the scenario. -/
theorem cases_singleton (hs : s.Steady t) (k : Scenario) :
    s.cases t [k] = ((s.runScenario k).run (s.version.run t).2).1 := by
  rw [cases_eq hs, List.mapM_cons]
  rcases ((s.runScenario k).run (s.version.run t).2).1 with crash | outcomes
  · rfl
  · show Except.ok (outcomes ++ []) = _
    rw [List.append_nil]

theorem cases_nil (hs : s.Steady t) : s.cases t [] = .ok [] := cases_eq hs []

/-- A run has the cases of its first scenario before the cases of the others, if it has those. -/
theorem cases_cons (hs : s.Steady t) (k : Scenario) (kinds : List Scenario) :
    s.cases t (k :: kinds) =
      (s.cases t [k]).bind fun first => (s.cases t kinds).map (first ++ ·) := by
  rw [cases_singleton hs, cases_eq hs, cases_eq hs, List.mapM_cons]
  rcases ((s.runScenario k).run (s.version.run t).2).1 with crash | first
  · rfl
  · cases kinds.mapM fun k => ((s.runScenario k).run (s.version.run t).2).1 <;> rfl

/-- A run ends with the first case that crashes. -/
theorem cases_cons_of_crash (hs : s.Steady t) {k : Scenario} {e : Crash} (kinds : List Scenario)
    (h : ((s.runScenario k).run (s.version.run t).2).1 = .error e) :
    s.cases t (k :: kinds) = .error e := by
  rw [cases_cons hs, cases_singleton hs, h]
  rfl

/-- A run has the cases of its scenarios in order. -/
theorem names_of_cases (hs : s.Steady t) {kinds : List Scenario} {outcomes : List CaseOutcome}
    (h : s.cases t kinds = .ok outcomes) :
    outcomes.map (·.name) = kinds.flatMap (·.caseNames s.catalog) := by
  induction kinds generalizing outcomes with
  | nil =>
    rw [cases_nil hs] at h
    cases h; rfl
  | cons k kinds ih =>
    rw [cases_cons hs, cases_singleton hs] at h
    rcases hfirst : ((s.runScenario k).run (s.version.run t).2).1 with crash | first
    · rw [hfirst] at h
      cases h
    rcases hrest : s.cases t kinds with crash | rest
    · rw [hfirst, hrest] at h
      cases h
    rw [hfirst, hrest] at h
    cases h
    rw [List.map_append, List.flatMap_cons, ih hrest,
      (yields_runScenario hs.files hs.tools k).names first hfirst]

/-- A run ends unless a tile is empty. -/
theorem exists_cases (hs : s.Steady t) (htiled : s.Tiled) (kinds : List Scenario) :
    ∃ outcomes, s.cases t kinds = .ok outcomes := by
  induction kinds with
  | nil => exact ⟨[], cases_nil hs⟩
  | cons k kinds ih =>
    obtain ⟨first, hfirst⟩ := (yields_runScenario hs.files hs.tools k).calm htiled
    obtain ⟨rest, hrest⟩ := ih
    exact ⟨first ++ rest, by rw [cases_cons hs, cases_singleton hs, hfirst, hrest]; rfl⟩

/-- Another catalog changes neither the device nor the commands. -/
theorem Steady.withVariants (hs : s.Steady t) (variants : List Variant) :
    (s.withVariants variants).Steady t := ⟨hs.files, hs.tools⟩

/--
**Cases are independent.** On a session whose commands keep to themselves and whose device knows
what catalogs register:

- a run over some scenarios is the concatenation of the runs over each of them alone;
- the run over some variants is the concatenation of the runs over each of them alone, whichever
  variants there are and whatever became of those before;
- a run has one case for each scenario, and one for each variant of the scenario with variants, in
  order;
- and there is a run, unless a tile is empty.
-/
theorem cases_independent (hs : s.Steady t)
    (hr : s.device.registry.FromCatalogs fun _ => True) :
    (∀ kinds, s.cases t kinds = (kinds.mapM fun k => s.cases t [k]).map List.flatten) ∧
    (∀ variants, (s.withVariants variants).cases t [.multiVariant] =
      (variants.mapM fun v => (s.withVariants [v]).cases t [.multiVariant]).map List.flatten) ∧
    (∀ kinds outcomes, s.cases t kinds = .ok outcomes →
      outcomes.map (·.name) = kinds.flatMap (·.caseNames s.catalog)) ∧
    (s.Tiled → ∀ kinds, ∃ outcomes, s.cases t kinds = .ok outcomes) := by
  refine ⟨fun kinds => ?_, fun variants => ?_, fun _ _ => names_of_cases hs, exists_cases hs⟩
  · simp only [cases_singleton hs]
    exact cases_eq hs kinds
  · simp only [cases_singleton (hs.withVariants _), runScenario]
    exact run_multiVariant_withVariants hs.files hs.tools hr variants

/-- A session that finds binaries of kernel shells nowhere runs every case that it should. -/
theorem cases_independent_withoutShells :
    ∃ outcomes, withoutShells.cases .empty [.roundtrip, .multiVariant, .roundtrip] = .ok outcomes ∧
      outcomes.map (·.name) =
        ["roundtrip-2d", "multi-variant[A*B+42]", "multi-variant[fma(A,B,100)]",
          "multi-variant[sqrt(A)+B*2]", "roundtrip-2d"] := by
  have hregistry (p : Catalog → Prop) (hp : p .standard) :
      withoutShells.device.registry.FromCatalogs p := by
    have hstandard : withoutShells.device.registry = Catalog.standard.registry := rfl
    rw [hstandard]
    exact Catalog.fromCatalogs_registry hp
  have hsteady : withoutShells.Steady .empty :=
    ⟨fun _ _ => rfl, fun _ _ _ _ _ _ _ => nofun, fun _ _ _ _ _ _ _ => nofun⟩
  obtain ⟨-, -, hnames, hruns⟩ := cases_independent hsteady
    (hregistry (fun _ => True) trivial)
  obtain ⟨outcomes, hrun⟩ := hruns (hregistry _ (by decide)) [.roundtrip, .multiVariant, .roundtrip]
  exact ⟨outcomes, hrun, hnames _ _ hrun⟩

end Session

/-- The standard catalog with empty tiles. -/
def Catalog.untiled : Catalog := { Catalog.standard with tile := 0 }

namespace Session

/-- A session over empty tiles, with its kernel shells in the root directory. -/
def overEmptyTiles : Session where
  device := ⟨{ HostOptions.standard with intrinsics := .accept }, Catalog.untiled.registry⟩
  settings := { Settings.standard with groupSize := 1, prebuilt := some ⟨"/"⟩ }
  catalog := .untiled
  surroundings := ⟨[], ⟨"/"⟩, fun _ _ _ => .error .notFound, 0⟩

/-- Of the shells only the first is there. -/
def reverseShellOnly : FileTree :=
  ⟨[(["reverse_kernel.metallib"], .file (reverseShell 0).source.text.toUTF8)], []⟩

theorem registry_overEmptyTiles : overEmptyTiles.device.registry = Catalog.untiled.registry := rfl

theorem steady_overEmptyTiles : overEmptyTiles.Steady reverseShellOnly where
  files := FileTree.closed_of_root _ _
  tools := ⟨fun _ _ _ _ _ _ _ => nofun, fun _ _ _ _ _ _ _ => nofun⟩

theorem load_reverse_overEmptyTiles :
    overEmptyTiles.device.load (reverseShell 0).source.text.toUTF8 =
      .ok ⟨[⟨reverseName, .stagedUnary reverseName 0 (.call transformName)⟩], [],
        [Convention.unary.signature transformName]⟩ := by
  have he : reverseShell 0 ∈ Catalog.untiled.entries :=
    List.mem_cons_of_mem _ (List.mem_append_left _ List.mem_cons_self)
  obtain ⟨b, hb, -, hload⟩ := Catalog.load_eq_library registry_overEmptyTiles he
  cases hb
  exact hload

theorem load_transform_overEmptyTiles :
    overEmptyTiles.device.load Transform.standard.entry.source.text.toUTF8 =
      .ok ⟨[], [⟨Convention.unary.signature transformName, .unary .standard⟩], []⟩ := by
  have he : Transform.standard.entry ∈ Catalog.untiled.entries :=
    List.mem_cons_of_mem _ (List.mem_append_right _ List.mem_cons_self)
  obtain ⟨b, hb, -, hload⟩ := Catalog.load_eq_library registry_overEmptyTiles he
  cases hb
  exact hload

theorem resolve_overEmptyTiles {shell unit : CompiledModule}
    (hshell : shell.library =
      ⟨[⟨reverseName, .stagedUnary reverseName 0 (.call transformName)⟩], [],
        [Convention.unary.signature transformName]⟩)
    (hunit : unit.library =
      ⟨[], [⟨Convention.unary.signature transformName, .unary .standard⟩], []⟩) :
    overEmptyTiles.device.resolve ⟨shell, reverseName⟩ [⟨unit, transformName⟩] =
      .ok ⟨⟨reverseName, .stagedUnary reverseName 0 (.call transformName),
        [(transformName, .unary .standard)], 1024⟩, reverseName, [transformName]⟩ := by
  obtain ⟨library, _, _⟩ := shell
  obtain ⟨library', _, _⟩ := unit
  dsimp only at hshell hunit
  subst hshell hunit
  rfl

/-- The shell that is there makes the first scenario crash, -/
theorem crash_overEmptyTiles :
    ((overEmptyTiles.reverseLink c).eval (start reverseShellOnly)).1 =
      .error (.crash .emptyTile) := by
  have hfound (content : ByteArray) :
      (FileTree.mk [(["reverse_kernel.metallib"], .file content)] []).lookup []
        (shellPath ⟨"/"⟩ reverseName) = .ok (.file content) := rfl
  obtain ⟨shell, σ, hshell, hlibrary⟩ :=
    @exists_loadShell overEmptyTiles c _ (reverseShell 0) _ _ (start reverseShellOnly) rfl
      (hfound _) load_reverse_overEmptyTiles
  obtain ⟨unit, hunit, hlibrary'⟩ := @exists_compileInProcess overEmptyTiles rfl _ _
    load_transform_overEmptyTiles overEmptyTiles.settings.language
  exact crash_of_reverseLink hshell hunit (resolve_overEmptyTiles hlibrary hlibrary') rfl
    fun _ _ => ⟨_, rfl⟩

/-- and the one that is not there is a fault of the second. -/
theorem fault_overEmptyTiles : ∃ fault,
    ((overEmptyTiles.roundtrip c).eval (start reverseShellOnly)).1 = .error (.fault fault) := by
  obtain ⟨fault, σ, hshell⟩ := @exists_fault_of_loadShell overEmptyTiles c _
    (roundtripShell Catalog.untiled.geometry) (start reverseShellOnly) rfl rfl
  exact ⟨fault, congrArg Prod.fst (eval_bind_of_error hshell)⟩

/-- An empty tile in the first case takes the second with it, which alone would have its outcome. -/
theorem exists_case_lost_to_crash :
    ∃ (s : Session) (t : FileTree), s.Steady t ∧
      s.device.registry.FromCatalogs (fun c => c = s.catalog) ∧
      s.cases t [.reverseLink, .roundtrip] = .error .emptyTile ∧
      ∃ o, s.cases t [.roundtrip] = .ok [o] := by
  have hregistry : overEmptyTiles.device.registry.FromCatalogs (fun c => c = .untiled) := by
    rw [registry_overEmptyTiles]
    exact Catalog.fromCatalogs_registry rfl
  have hversion : (overEmptyTiles.version.run reverseShellOnly).2 = reverseShellOnly := rfl
  refine ⟨overEmptyTiles, reverseShellOnly, steady_overEmptyTiles, hregistry, ?_, ?_⟩
  · refine cases_cons_of_crash steady_overEmptyTiles _ ?_
    rw [hversion, runScenario]
    exact run_singleCase_of_crash crash_overEmptyTiles
  · obtain ⟨fault, hfault⟩ := @fault_overEmptyTiles (overEmptyTiles.tag Scenario.roundtrip.name)
    rw [cases_singleton steady_overEmptyTiles, hversion, runScenario]
    exact run_singleCase_of_fault hfault

end Session

end KernelLink
