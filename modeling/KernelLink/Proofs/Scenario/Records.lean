import KernelLink.Proofs.Scenario.Steps

/-!
# What the records of a case say

A case is judged by its summary and its status, and explained by its records; nothing but the code
of every stage makes the two agree. It has to on each way out: a stage that stops without a record
gives an error without a cause, and one that records a fault twice gives two. So the way that a case
takes is followed record by record. A step of a case takes it some way along a path of stages, or
stops with one record that blames the very fault it stops with, and what steps do one by one they do
together. The outcome is then read off the end of the way.
-/

namespace KernelLink

variable {s : Session} {k : Scenario} {c : CaseTag}

/-! ## The statement -/

/-- The record of a stage that did not end its case. In one place a failure is legitimate: the
in-process compiler need not take the standalone kernel. -/
def StageRecord.Clean (k : Scenario) (r : StageRecord) : Prop :=
  r.outcome = .pass ∨
    k = .asmRepro ∧ r.stage = .compileDynamic ∧ r.outcome = .tolerated

/-- How a session gets kernel shells. -/
def Session.loadStage (s : Session) : Stage :=
  if s.settings.prebuilt.isSome then .loadPrebuilt else .compileToolchain

/-- The stages that the cases of a scenario go through. Variants share an upload, which comes before
their own stages and is seen only if it fails. -/
def Session.stagePaths (s : Session) : Scenario → List (List Stage)
  | .asmRepro => [[.compose, .compileDynamic, .compileToolchain, .link, .dispatch, .verify]]
  | .reverseLink => [[s.loadStage, .compileDynamic, .link, .dispatch, .verify]]
  | .roundtrip => [[s.loadStage, .compileDynamic, .link, .dispatch, .verify]]
  | .multiVariant => [[s.loadStage, .compileDynamic, .link, .dispatch, .verify],
      [s.loadStage, .dispatch]]

namespace CaseOutcome

/-- The record is the cause of the status, and tells it in the words of the summary. -/
structure CausedBy (o : CaseOutcome) (last : StageRecord) : Prop where
  summary : last.detail = o.summary
  pass : o.status = .pass ↔ last.stage = .verify ∧ last.outcome = .pass
  fail : o.status = .fail ↔ last.stage = .verify ∧ last.outcome = .fail
  error : o.status = .error ↔ last.stage ≠ .verify ∧ last.outcome = .error

/-- The outcome tells the truth about its records. -/
structure Truthful (s : Session) (k : Scenario) (o : CaseOutcome) : Prop where
  /-- The last record is the cause, and no record before it is. -/
  records : ∃ earlier last, o.records = earlier ++ [last] ∧ o.CausedBy last ∧
    ∀ r ∈ earlier, r.Clean k
  /-- The case has gone some way along a path of its scenario. -/
  stages : ∃ path ∈ s.stagePaths k, o.records.map (·.stage) <+: path
  /-- One comparison is there, unless the case ended before it. -/
  compared : o.verification.isSome ≠ o.tile.isSome ↔ o.status ≠ .error
  /-- A case passes only if what it compared passes. -/
  passed : o.status = .pass → (∀ r ∈ o.verification, r.passed = true) ∧
    ∀ r ∈ o.tile, r.passed = true

end CaseOutcome

/-! ## Following a case -/

/-- The record blames a fault, at a stage before the comparison. -/
structure StageRecord.Blames (r : StageRecord) (fault : RunFault) : Prop where
  outcome : r.outcome = .error
  stage : r.stage ≠ .verify
  detail : r.detail = fault.describe

/-- Records that lead along the first path until the second is left of it, or that end on it with
the fault that steps ended with. A crash explains nothing. -/
def Leads {α : Type} (k : Scenario) (path rest : List Stage) (new : List StageRecord) :
    Except RunStop α → Prop
  | .ok _ => (∀ r ∈ new, r.Clean k) ∧ new.map (·.stage) ++ rest = path
  | .error (.fault fault) => ∃ clean last, new = clean ++ [last] ∧ (∀ r ∈ clean, r.Clean k) ∧
      last.Blames fault ∧ new.map (·.stage) <+: path
  | .error (.crash _) => True

namespace CaseM

variable {α β : Type} {path mid rest : List Stage} {x : CaseM α} {f : α → CaseM β}

/-- From whatever state, the steps add records that lead along a path. -/
def Follows (k : Scenario) (path rest : List Stage) (x : CaseM α) : Prop :=
  ∀ σ, ∃ new, (x.eval σ).2.records = σ.records ++ new ∧ Leads k path rest new (x.eval σ).1

theorem Follows.pure (a : α) : Follows k path path (Pure.pure a : CaseM α) :=
  fun _ => ⟨[], (List.append_nil _).symm, nofun, rfl⟩

theorem Follows.crash (e : Crash) : Follows k path rest (throw (.crash e) : CaseM α) :=
  fun _ => ⟨[], (List.append_nil _).symm, trivial⟩

theorem Follows.bind (hx : Follows k path mid x) (hf : ∀ a, Follows k mid rest (f a)) :
    Follows k path rest (x >>= f) := by
  intro σ
  obtain ⟨new, hnew, hlead⟩ := hx σ
  rw [eval_bind]
  rcases hr : x.eval σ with ⟨stop | a, σ'⟩
  · rw [hr] at hnew hlead
    refine ⟨new, hnew, ?_⟩
    -- a stop does not depend on what is left of the path
    cases stop with
    | fault fault => exact hlead
    | crash e => trivial
  · rw [hr] at hnew hlead
    obtain ⟨hclean, hstages⟩ := hlead
    obtain ⟨later, hlater, hlead'⟩ := hf a σ'
    refine ⟨new ++ later, ?_, ?_⟩
    · rw [hlater, hnew, List.append_assoc]
    · dsimp only
      rcases hr' : ((f a).eval σ').1 with stop | b
      · rw [hr'] at hlead'
        cases stop with
        | crash e => trivial
        | fault fault =>
          obtain ⟨clean, last, rfl, hclean', hblames, hpath⟩ := hlead'
          refine ⟨new ++ clean, last, (List.append_assoc _ _ _).symm, ?_, hblames, ?_⟩
          · exact List.forall_mem_append.mpr ⟨hclean, hclean'⟩
          · rw [List.map_append, ← hstages]
            exact List.prefix_append_right_inj _ |>.mpr hpath
      · rw [hr'] at hlead'
        obtain ⟨hclean', hstages'⟩ := hlead'
        refine ⟨List.forall_mem_append.mpr ⟨hclean, hclean'⟩, ?_⟩
        rw [List.map_append, List.append_assoc, hstages', hstages]

/-- Reading the state records nothing. -/
theorem Follows.get_bind {f : CaseState → CaseM α} (hf : ∀ σ, Follows k path rest (f σ)) :
    Follows k path rest (MonadState.get >>= f) := by
  intro σ
  rw [eval_bind_of_ok eval_get]
  exact hf σ σ

theorem Follows.modify {g : CaseState → CaseState} (h : ∀ σ, (g σ).records = σ.records) :
    Follows k path path (modify g : CaseM Unit) :=
  fun σ => ⟨[], (h σ).trans (List.append_nil _).symm, nofun, rfl⟩

/-- What happens to files is not recorded where it happens. -/
theorem Follows.files (m : RunM α) : Follows k path path (files m) :=
  fun _ => ⟨[], (List.append_nil _).symm, nofun, rfl⟩

end CaseM

open CaseM

namespace CaseTag

variable {α : Type} {stage : Stage} {rest : List Stage}

theorem follows_record {outcome : Outcome} {detail : String}
    (h : (c.stageRecord stage outcome detail).Clean k) :
    Follows k (stage :: rest) rest (c.record stage outcome detail) :=
  fun _ => ⟨[_], rfl, List.forall_mem_singleton.mpr h, rfl⟩

theorem follows_stopWith {rest' : List Stage} (hstage : stage ≠ .verify) (fault : RunFault) :
    Follows k (stage :: rest) rest' (c.stopWith stage fault : CaseM α) :=
  fun _ => ⟨[_], rfl, [], _, rfl, nofun, ⟨rfl, hstage, rfl⟩, ⟨rest, rfl⟩⟩

/-- A recorded stage takes a case one stage further. -/
theorem follows_stage (hstage : stage ≠ .verify) (result : Except RunFault α)
    (detail : α → String) :
    Follows k (stage :: rest) rest (c.stage stage result detail) := by
  cases result with
  | error fault => exact follows_stopWith hstage fault
  | ok x => exact (follows_record (.inl rfl)).bind fun _ => .pure x

/-- A check stays where it is, and stops as the stage that is next. -/
theorem follows_check (hstage : stage ≠ .verify) (result : Except RunFault α) :
    Follows k (stage :: rest) (stage :: rest) (c.check stage result) := by
  cases result with
  | error fault => exact follows_stopWith hstage fault
  | ok x => exact .pure x

end CaseTag

/-! ## Stages -/

namespace Session

variable {rest : List Stage}

theorem follows_loadShell (shell : CatalogEntry) :
    Follows k (s.loadStage :: rest) rest (s.loadShell c shell) := by
  unfold loadShell loadStage
  cases s.settings.prebuilt with
  | some dir =>
    rw [Option.isSome_some, if_pos rfl]
    exact (Follows.files _).bind fun _ => CaseTag.follows_stage (by decide) _ _
  | none =>
    rw [Option.isSome_none, if_neg (by decide)]
    exact (Follows.files _).bind fun _ => CaseTag.follows_stage (by decide) _ _

theorem follows_compileCallable (callable : CatalogEntry) :
    Follows k (.compileDynamic :: rest) rest (s.compileCallable c callable) :=
  CaseTag.follows_stage (by decide) _ _

theorem follows_linkStage (kernel : EntryRef) (callables : List EntryRef) :
    Follows k (.link :: rest) rest (s.linkStage c kernel callables) :=
  CaseTag.follows_stage (by decide) _ _

/-- An upload that fails is a failed dispatch; one that does not is no stage at all. -/
theorem follows_uploadStage (values : List Single) :
    Follows k (.dispatch :: rest) (.dispatch :: rest) (uploadStage c values) := by
  unfold uploadStage CaseM.allocated
  refine .get_bind fun σ => ?_
  refine (CaseTag.follows_check (by decide) _).bind fun (memory, handle) => ?_
  exact (Follows.modify fun _ => by rfl).bind fun _ => .pure handle

theorem follows_dispatchStage (p : LinkedPipeline) (kernel : CatalogEntry) (invocations : Nat)
    (inputs : Bindings) (outputIndex outputLength : Nat) (filling : Single) :
    Follows k (.dispatch :: rest) rest
      (s.dispatchStage c p kernel invocations inputs outputIndex outputLength filling) := by
  unfold dispatchStage
  refine .get_bind fun σ => ?_
  split
  · refine (Follows.modify fun _ => by rfl).bind fun _ => ?_
    exact (CaseTag.follows_record (.inl rfl)).bind fun _ => .pure _
  · exact CaseTag.follows_stopWith (by decide) _
  · exact .crash _

/-- The one place where a refusal is tolerated. -/
theorem follows_tryInProcess (source : KernelSource) :
    Follows .asmRepro (.compileDynamic :: rest) rest (s.tryInProcess c source) := by
  unfold tryInProcess
  split
  · exact CaseTag.follows_record (.inl rfl)
  · exact CaseTag.follows_record (.inr ⟨rfl, rfl, rfl⟩)
  · exact CaseTag.follows_stopWith (by decide) _

/-! ## Scenarios -/

theorem follows_asmRepro : Follows .asmRepro
    [.compose, .compileDynamic, .compileToolchain, .link, .dispatch, .verify] [.verify]
    (s.asmRepro c) := by
  unfold asmRepro
  refine (CaseTag.follows_record (.inl rfl)).bind fun _ => ?_
  refine (follows_tryInProcess _).bind fun _ => ?_
  refine (Follows.files _).bind fun built => ?_
  refine (CaseTag.follows_stage (by decide) _ _).bind fun unit => ?_
  refine (follows_linkStage _ _).bind fun pipeline => ?_
  refine (follows_uploadStage _).bind fun source => ?_
  refine (follows_dispatchStage _ _ _ _ _ _ _).bind fun output => ?_
  exact .pure _

theorem follows_reverseLink : Follows .reverseLink
    [s.loadStage, .compileDynamic, .link, .dispatch, .verify] [.verify] (s.reverseLink c) := by
  unfold reverseLink
  refine (follows_loadShell _).bind fun shell => ?_
  refine (follows_compileCallable _).bind fun unit => ?_
  refine (follows_linkStage _ _).bind fun pipeline => ?_
  refine (follows_uploadStage _).bind fun source => ?_
  refine (follows_dispatchStage _ _ _ _ _ _ _).bind fun output => ?_
  exact .pure _

theorem follows_roundtrip : Follows .roundtrip
    [s.loadStage, .compileDynamic, .link, .dispatch, .verify] [.verify] (s.roundtrip c) := by
  unfold roundtrip
  refine (follows_loadShell _).bind fun shell => ?_
  refine (follows_compileCallable _).bind fun unit => ?_
  refine (follows_linkStage _ _).bind fun pipeline => ?_
  refine (follows_uploadStage _).bind fun source => ?_
  refine (follows_dispatchStage _ _ _ _ _ _ _).bind fun output => ?_
  exact .pure _

/-- Both uploads stand in front of a dispatch that never comes. -/
theorem follows_variantSetup :
    Follows .multiVariant [s.loadStage, .dispatch] [.dispatch] (s.variantSetup c) := by
  unfold variantSetup
  refine (follows_loadShell _).bind fun shell => ?_
  refine (follows_uploadStage _).bind fun first => ?_
  refine (follows_uploadStage _).bind fun second => ?_
  exact .pure _

theorem follows_variantCase (shared : VariantSetup) (v : Variant) : Follows .multiVariant
    [.compileDynamic, .link, .dispatch, .verify] [.verify] (s.variantCase c shared v) := by
  unfold variantCase
  refine (follows_compileCallable _).bind fun unit => ?_
  refine (follows_linkStage _ _).bind fun pipeline => ?_
  refine (follows_dispatchStage _ _ _ _ _ _ _).bind fun output => ?_
  exact .pure _

end Session

/-! ## Outcomes -/

namespace CaseTag

variable {records : List StageRecord}

/-- A comparison is told as it is. -/
theorem truthful_finish (hclean : ∀ r ∈ records, r.Clean k)
    (hpath : ∃ path ∈ s.stagePaths k, records.map (·.stage) ++ [.verify] <+: path)
    (checked : Checked) : (c.finish records checked).Truthful s k where
  records := by
    refine ⟨records, _, rfl, ?_, hclean⟩
    unfold finish stageRecord
    cases h : checked.passed <;> constructor <;> simp
  stages := by
    obtain ⟨path, hmem, hpre⟩ := hpath
    refine ⟨path, hmem, ?_⟩
    unfold finish
    rw [List.map_append]
    exact hpre
  compared := by
    unfold finish
    cases checked with
    | elements report => cases h : (Checked.elements report).passed <;> simp
    | tile report => cases h : (Checked.tile report).passed <;> simp
  passed := by
    unfold finish
    intro hstatus
    have hpassed : checked.passed = true := by
      cases h : checked.passed with
      | true => rfl
      | false =>
        rw [if_neg (by rw [h]; decide)] at hstatus
        cases hstatus
    cases checked with
    | elements report => exact ⟨fun r hr => Option.some.inj hr ▸ hpassed, nofun⟩
    | tile report => exact ⟨nofun, fun r hr => Option.some.inj hr ▸ hpassed⟩

/-- A fault is told as its record tells it. -/
theorem truthful_failed {clean : List StageRecord} {last : StageRecord} {fault : RunFault}
    (hrecords : records = clean ++ [last]) (hclean : ∀ r ∈ clean, r.Clean k)
    (hblames : last.Blames fault)
    (hpath : ∃ path ∈ s.stagePaths k, records.map (·.stage) <+: path) :
    (c.failed records fault).Truthful s k where
  records := by
    refine ⟨clean, last, hrecords, ?_, hclean⟩
    obtain ⟨houtcome, hstage, hdetail⟩ := hblames
    unfold failed
    constructor <;> simp [houtcome, hstage, hdetail]
  stages := hpath
  compared := by simp [failed]
  passed := nofun

/-- A case that goes on from clean records, and follows a path on from theirs, has a truthful
outcome if it has one. -/
theorem truthful_outcome {x : CaseM Checked} {σ : CaseState} {path : List Stage} {o : CaseOutcome}
    (hx : Follows k path [.verify] x) (hclean : ∀ r ∈ σ.records, r.Clean k)
    (hpath : σ.records.map (·.stage) ++ path ∈ s.stagePaths k)
    (h : c.outcome (x.eval σ).1 (x.eval σ).2.records = .ok o) : o.Truthful s k := by
  obtain ⟨new, hnew, hlead⟩ := hx σ
  rw [hnew] at h
  rcases hr : (x.eval σ).1 with (fault | crash) | checked
  · rw [hr] at h hlead
    obtain ⟨clean, last, rfl, hclean', hblames, hpre⟩ := hlead
    obtain rfl := Except.ok.inj h
    refine truthful_failed (List.append_assoc _ _ _).symm
      (List.forall_mem_append.mpr ⟨hclean, hclean'⟩) hblames ⟨_, hpath, ?_⟩
    rw [List.map_append]
    exact (List.prefix_append_right_inj _).mpr hpre
  · rw [hr] at h
    cases h
  · rw [hr] at h hlead
    obtain ⟨hclean', hstages⟩ := hlead
    obtain rfl := Except.ok.inj h
    refine truthful_finish (List.forall_mem_append.mpr ⟨hclean, hclean'⟩) ⟨_, hpath, ?_⟩ checked
    exact ⟨[], by rw [List.append_nil, List.map_append, List.append_assoc, hstages]⟩

end CaseTag

namespace Session

variable {t t' : FileTree} {outcomes : List CaseOutcome}

theorem truthful_of_singleCase {body : CaseTag → CaseM Checked} {path : List Stage}
    (hbody : ∀ c, Follows k path [.verify] (body c)) (hpath : path ∈ s.stagePaths k)
    (h : (s.singleCase k body).run t = (.ok outcomes, t')) : ∀ o ∈ outcomes, o.Truthful s k := by
  rw [run_singleCase] at h
  rcases ho : (s.tag k.name).outcome ((body (s.tag k.name)).eval (start t)).1
      ((body (s.tag k.name)).eval (start t)).2.records with crash | o
  · simp only [ho] at h
    cases h
  · simp only [ho] at h
    cases h
    have htruthful : o.Truthful s k :=
      CaseTag.truthful_outcome (σ := start t) (hbody _) (by unfold start; nofun) hpath ho
    exact List.forall_mem_singleton.mpr htruthful

/-- Every variant starts from the shared records, so what came before a variant does not matter. -/
theorem truthful_of_variantCases {shared : VariantSetup} {records : List StageRecord}
    (hclean : ∀ r ∈ records, r.Clean .multiVariant)
    (hstages : records.map (·.stage) = [s.loadStage]) (variants : List Variant) (σ : CaseState)
    {σ' : CaseState} (h : s.variantCases shared records variants σ = (.ok outcomes, σ')) :
    ∀ o ∈ outcomes, o.Truthful s .multiVariant := by
  induction variants generalizing σ outcomes with
  | nil =>
    cases h
    nofun
  | cons v rest ih =>
    have hpath : records.map (·.stage) ++ [.compileDynamic, .link, .dispatch, .verify] ∈
        s.stagePaths .multiVariant := by
      rw [hstages]
      exact List.mem_cons_self
    rw [variantCases_cons] at h
    dsimp only at h
    split at h
    · cases h
    · rename_i o ho
      have htruthful : o.Truthful s .multiVariant :=
        CaseTag.truthful_outcome (follows_variantCase shared v) hclean hpath ho
      rcases hr : s.variantCases shared records rest
          ((s.variantCase (s.tag (variantCaseName v)) shared v).eval { σ with records }).2 with
        ⟨crash | later, σ''⟩
      · rw [hr] at h
        cases h
      · rw [hr] at h
        cases h
        exact List.forall_mem_cons.mpr ⟨htruthful, ih _ hr⟩

theorem truthful_of_multiVariant (h : s.multiVariant.run t = (.ok outcomes, t')) :
    ∀ o ∈ outcomes, o.Truthful s .multiVariant := by
  obtain ⟨new, hnew, hlead⟩ :=
    follows_variantSetup (s := s) (c := s.tag Scenario.multiVariant.name) (start t)
  rw [run_multiVariant] at h
  rcases hr : (s.variantSetup (s.tag Scenario.multiVariant.name)).eval (start t) with
    ⟨(fault | crash) | shared, σ⟩
  · -- the fault is told by every variant, with the records of what they share
    rw [hr] at h hnew hlead
    obtain ⟨clean, last, rfl, hclean, hblames, hpre⟩ := hlead
    cases h
    refine List.forall_mem_map.mpr fun v _ => ?_
    refine CaseTag.truthful_failed hnew hclean hblames
      ⟨_, List.mem_cons_of_mem _ List.mem_cons_self, ?_⟩
    dsimp only at hnew
    rw [hnew]
    exact hpre
  · rw [hr] at h
    cases h
  · rw [hr] at h hnew hlead
    obtain ⟨hclean, hstages⟩ := hlead
    dsimp only [start, List.nil_append] at hnew
    have hloaded : σ.records.map (·.stage) = [s.loadStage] := by
      rw [hnew]
      exact List.append_cancel_right hstages
    rcases hv : s.variantCases shared σ.records s.catalog.variants σ with ⟨crash | later, σ'⟩
    · simp only [hv] at h
      cases h
    · simp only [hv] at h
      cases h
      exact truthful_of_variantCases (hnew ▸ hclean) hloaded _ _ hv

/--
**The outcomes of a scenario tell the truth about their records**, whatever the session is and
whatever its commands do: every outcome that running a scenario returns has its cause as its last
record, and no other record of a failure.
-/
theorem truthful_of_runScenario (h : (s.runScenario k).run t = (.ok outcomes, t')) :
    ∀ o ∈ outcomes, o.Truthful s k := by
  cases k with
  | asmRepro =>
    rw [runScenario] at h
    exact truthful_of_singleCase (fun c => follows_asmRepro) List.mem_cons_self h
  | reverseLink =>
    rw [runScenario] at h
    exact truthful_of_singleCase (fun c => follows_reverseLink) List.mem_cons_self h
  | roundtrip =>
    rw [runScenario] at h
    exact truthful_of_singleCase (fun c => follows_roundtrip) List.mem_cons_self h
  | multiVariant =>
    rw [runScenario] at h
    exact truthful_of_multiVariant h

theorem loadPrebuilt_withoutShells :
    (withoutShells.loadPrebuilt (shellPath ⟨"shells"⟩ gemmName)).run .empty =
      (.error (.load "shells/gemm_kernel.metallib" "artifact not found"), .empty) := by
  rfl

theorem variantSetup_withoutShells (c : CaseTag) :
    (withoutShells.variantSetup c).eval (start .empty) =
      (c.stopWith .loadPrebuilt
        (.load "shells/gemm_kernel.metallib" "artifact not found")).eval (start .empty) := by
  refine eval_bind_of_error ?_
  show (files (withoutShells.loadPrebuilt (shellPath ⟨"shells"⟩ gemmName)) >>= _).eval _ = _
  rw [eval_bind_of_ok (eval_files _), CaseTag.eval_stage]
  dsimp only [start]
  rw [loadPrebuilt_withoutShells]
  rfl

/-- Without binaries each of the standard variants tells the one load that failed. -/
theorem truthful_of_runScenario_withoutShells :
    ∃ outcomes t', (withoutShells.runScenario .multiVariant).run .empty = (.ok outcomes, t') ∧
      outcomes.map (·.records.map (·.stage)) =
        (Catalog.standard.variants.map fun _ => [.loadPrebuilt]) ∧
      ∀ o ∈ outcomes, o.Truthful withoutShells .multiVariant := by
  have hrun := run_multiVariant (s := withoutShells) .empty
  rw [variantSetup_withoutShells, CaseTag.eval_stopWith] at hrun
  exact ⟨_, _, hrun, rfl, truthful_of_runScenario hrun⟩

end Session

end KernelLink
