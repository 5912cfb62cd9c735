import KernelLink.Scenario.Run

/-!
# What the steps of a case do

One equation for each operation that the stages of a case are made of: how it ends from a given
state, and which state it leaves. Stages differ in what they try; what they record, and what they do
with files and memory, is said here.
-/

namespace KernelLink

/-- The state with one more record. -/
def CaseState.recorded (σ : CaseState) (r : StageRecord) : CaseState :=
  { σ with records := σ.records ++ [r] }

@[simp] theorem CaseState.records_recorded (σ : CaseState) (r : StageRecord) :
    (σ.recorded r).records = σ.records ++ [r] := rfl

@[simp] theorem CaseState.files_recorded (σ : CaseState) (r : StageRecord) :
    (σ.recorded r).files = σ.files := rfl

@[simp] theorem CaseState.memory_recorded (σ : CaseState) (r : StageRecord) :
    (σ.recorded r).memory = σ.memory := rfl

namespace CaseM

variable {α β : Type} {x : CaseM α} {f : α → CaseM β} {σ σ' : CaseState}

/-- How steps of a case end from a state, and the state that they leave. -/
def eval (x : CaseM α) (σ : CaseState) : Except RunStop α × CaseState := x.run σ

@[simp] theorem eval_pure (a : α) : (pure a : CaseM α).eval σ = (.ok a, σ) := rfl

@[simp] theorem eval_throw (e : RunStop) : (throw e : CaseM α).eval σ = (.error e, σ) := rfl

@[simp] theorem eval_get : (get : CaseM CaseState).eval σ = (.ok σ, σ) := rfl

@[simp] theorem eval_modify (g : CaseState → CaseState) :
    (modify g : CaseM Unit).eval σ = (.ok (), g σ) := rfl

@[simp] theorem eval_files (m : RunM α) :
    (files m).eval σ = (.ok (m.run σ.files).1, { σ with files := (m.run σ.files).2 }) := rfl

theorem eval_bind : (x >>= f).eval σ =
    match x.eval σ with
    | (.ok a, σ') => (f a).eval σ'
    | (.error e, σ') => (.error e, σ') := by
  unfold eval
  rw [ExceptT.run_bind]
  show StateT.bind (ExceptT.run x) _ σ = _
  unfold StateT.bind
  rcases ExceptT.run x σ with ⟨_ | _, _⟩ <;> rfl

theorem eval_bind_of_ok {a : α} (h : x.eval σ = (.ok a, σ')) :
    (x >>= f).eval σ = (f a).eval σ' := by
  rw [eval_bind, h]

theorem eval_bind_of_error {e : RunStop} (h : x.eval σ = (.error e, σ')) :
    (x >>= f).eval σ = (.error e, σ') := by
  rw [eval_bind, h]

end CaseM

namespace CaseTag

open CaseM

variable {α : Type} {c : CaseTag} {σ : CaseState}

@[simp] theorem eval_record (stage : Stage) (outcome : Outcome) (detail : String) :
    (c.record stage outcome detail).eval σ =
      (.ok (), σ.recorded (c.stageRecord stage outcome detail)) := rfl

@[simp] theorem eval_stopWith (stage : Stage) (fault : RunFault) :
    (c.stopWith stage fault : CaseM α).eval σ =
      (.error (.fault fault), σ.recorded (c.stageRecord stage .error fault.describe)) := rfl

theorem eval_stage (stage : Stage) (result : Except RunFault α) (detail : α → String) :
    (c.stage stage result detail).eval σ =
      match result with
      | .ok x => (.ok x, σ.recorded (c.stageRecord stage .pass (detail x)))
      | .error fault =>
        (.error (.fault fault), σ.recorded (c.stageRecord stage .error fault.describe)) := by
  cases result <;> rfl

theorem eval_check (stage : Stage) (result : Except RunFault α) :
    (c.check stage result).eval σ =
      match result with
      | .ok x => (.ok x, σ)
      | .error fault =>
        (.error (.fault fault), σ.recorded (c.stageRecord stage .error fault.describe)) := by
  cases result <;> rfl

end CaseTag

namespace Session

open CaseM

variable {s : Session} {c : CaseTag} {σ : CaseState}

theorem eval_uploadStage (values : List Single) :
    (uploadStage c values).eval σ =
      match σ.memory.upload values with
      | .ok (memory, handle) => (.ok handle, { σ with memory })
      | .error fault => (.error (.fault fault),
          σ.recorded (c.stageRecord .dispatch .error fault.describe)) := by
  unfold uploadStage CaseM.allocated
  rw [eval_bind_of_ok eval_get, eval_bind, CaseTag.eval_check]
  rcases σ.memory.upload values with fault | ⟨memory, handle⟩ <;> rfl

theorem executeInto_eq (p : LinkedPipeline) (kernel : CatalogEntry) (invocations : Nat)
    (inputs : Bindings) (outputIndex outputLength : Nat) (filling : Single) (m : DeviceMemory) :
    s.executeInto p kernel invocations inputs outputIndex outputLength filling m =
      match m.fill outputLength filling with
      | .error fault => .error (.fault fault)
      | .ok (m, output) =>
        match s.device.execute p
          (s.launch kernel invocations (inputs ++ [(outputIndex, output)])) m with
        | .error e => .error e
        | .ok (record, m) => .ok ((record, (m.values output).toArray), m) := by
  unfold executeInto
  rcases m.fill outputLength filling with fault | ⟨m, output⟩
  · rfl
  · show (s.device.execute p _ m >>= _) = _
    dsimp only
    rcases s.device.execute p
      (s.launch kernel invocations (inputs ++ [(outputIndex, output)])) m with e | ⟨record, m'⟩ <;>
      rfl

theorem eval_dispatchStage (p : LinkedPipeline) (kernel : CatalogEntry) (invocations : Nat)
    (inputs : Bindings) (outputIndex outputLength : Nat) (filling : Single) :
    (s.dispatchStage c p kernel invocations inputs outputIndex outputLength filling).eval σ =
      match s.executeInto p kernel invocations inputs outputIndex outputLength filling σ.memory with
      | .ok ((record, output), memory) =>
        (.ok output, { σ with memory }.recorded
          (c.stageRecord .dispatch .pass record.describe))
      | .error (.fault fault) => (.error (.fault fault),
          σ.recorded (c.stageRecord .dispatch .error fault.describe))
      | .error (.crash crash) => (.error (.crash crash), σ) := by
  unfold dispatchStage
  rw [eval_bind_of_ok eval_get]
  rcases s.executeInto p kernel invocations inputs outputIndex outputLength filling σ.memory with
    (fault | crash) | ⟨⟨record, output⟩, memory⟩ <;> rfl

/-! ## Cases -/

/-- Where every scenario starts. -/
def start (t : FileTree) : CaseState := ⟨[], t, .empty⟩

theorem run_singleCase (k : Scenario) (body : CaseTag → CaseM Checked) (t : FileTree) :
    (s.singleCase k body).run t =
      let (result, σ) := (body (s.tag k.name)).eval (start t)
      (((s.tag k.name).outcome result σ.records).map ([·]), σ.files) := rfl

-- comparing the two sides would otherwise try to run the case
seal variantCase in
theorem variantCases_cons (shared : VariantSetup) (records : List StageRecord) (v : Variant)
    (rest : List Variant) :
    s.variantCases shared records (v :: rest) σ =
      let c := s.tag (variantCaseName v)
      let (result, σ) := (s.variantCase c shared v).eval { σ with records }
      match c.outcome result σ.records with
      | .error crash => (.error crash, σ)
      | .ok outcome =>
        let (later, σ) := s.variantCases shared records rest σ
        (later.map (outcome :: ·), σ) := by
  rfl

theorem run_multiVariant (t : FileTree) :
    s.multiVariant.run t =
      match (s.variantSetup (s.tag Scenario.multiVariant.name)).eval (start t) with
      | (.ok shared, σ) =>
        let (outcomes, σ) := s.variantCases shared σ.records s.catalog.variants σ
        (outcomes, σ.files)
      | (.error (.fault fault), σ) =>
        (.ok (s.catalog.variants.map fun v =>
          (s.tag (variantCaseName v)).failed σ.records fault), σ.files)
      | (.error (.crash crash), σ) => (.error crash, σ.files) := by
  rcases hr : (s.variantSetup (s.tag Scenario.multiVariant.name)).eval (start t) with
    ⟨(fault | crash) | shared, σ⟩ <;>
  · unfold CaseM.eval start at hr
    unfold multiVariant
    dsimp only [ExceptT.run] at hr ⊢
    rw [hr]

/-- A session that looks for binaries of kernel shells in a place where there are none. -/
def withoutShells : Session where
  device := HostDevice.mk .standard Catalog.standard.registry
  settings := { Settings.standard with prebuilt := some ⟨"shells"⟩ }
  catalog := .standard
  surroundings := ⟨[], ⟨"/"⟩, fun _ _ _ => .error .notFound, 0⟩

end Session

end KernelLink
