import KernelLink.Proofs.Catalog.Registered
import KernelLink.Proofs.Device.AllOrNothing
import KernelLink.Proofs.Device.Buffers
import KernelLink.Proofs.Device.Memory
import KernelLink.Proofs.Launch.Validation
import KernelLink.Proofs.Scenario.Steps

/-!
# Variants do not see each other

The variants of a scenario run on one device memory: the inputs are uploaded once, every variant
adds an output buffer, and every dispatch copies all of its buffers back. A variant would see what
ran before it if one of them changed an input, or if anything depended on how many buffers there
are. Neither is so. The kernel writes the buffer at its output index alone, and this is the new one;
everything else of a memory is read through the two inputs. So a variant does the same from every
memory that still holds them, and leaves such a memory behind.
-/

namespace KernelLink

/-! ## The number of buffers -/

namespace DeviceMemory

variable {m : DeviceMemory} {h : BufferHandle} {w : Array Single}

theorem size_buffers_set : (m.set h w).buffers.size = m.buffers.size := Array.size_modify

theorem size_buffers_writeBack (b : Bindings) (t : BufferTable) :
    (Pipeline.writeBack b t m).buffers.size = m.buffers.size := by
  induction b generalizing m with
  | nil => rfl
  | cons e rest ih =>
    rw [Pipeline.writeBack_cons, ih]
    split
    · exact size_buffers_set
    · rfl

end DeviceMemory

/-! ## Launches that differ in their buffers only -/

theorem repeatedIndex?_congr {b b' : Bindings} (h : b.map Prod.fst = b'.map Prod.fst)
    (seen : List Nat) : repeatedIndex? seen b = repeatedIndex? seen b' := by
  induction b generalizing b' seen with
  | nil =>
    rw [List.map_nil, eq_comm, List.map_eq_nil_iff] at h
    rw [h]
  | cons e rest ih =>
    obtain ⟨e', rest', rfl⟩ : ∃ e' rest', b' = e' :: rest' := by
      refine List.exists_cons_of_ne_nil fun hnil => ?_
      rw [hnil] at h
      cases h
    obtain ⟨i, g⟩ := e
    obtain ⟨i', g'⟩ := e'
    obtain ⟨rfl, hrest⟩ := List.cons.inj h
    unfold repeatedIndex?
    rw [ih hrest]

/-- A validation looks at the indices of the bindings, not at the buffers. -/
theorem HostDevice.validate_congr (d : HostDevice) (p : LinkedPipeline) {l l' : Launch}
    (hthreads : l.invocations = l'.invocations) (hgroup : l.groupSize = l'.groupSize)
    (hrequired : l.requiredGroup = l'.requiredGroup)
    (hindices : l.bindings.map Prod.fst = l'.bindings.map Prod.fst) :
    d.validate p l = d.validate p l' := by
  unfold validate Launch.shape
  rw [hthreads, hgroup, hrequired, repeatedIndex?_congr hindices]

/-! ## One launch on two inputs and a new output -/

/-- The inputs of the variants are in the memory. -/
structure InputsHeld (first second : BufferHandle) (w₁ w₂ : Array Single) (m : DeviceMemory) :
    Prop where
  first : m.Holds first w₁
  second : m.Holds second w₂

/-- What a launch on the inputs and a new output finds. -/
def inputTable (w₁ w₂ w : Array Single) : BufferTable :=
  ((BufferTable.bind [] 0 w₁).bind 1 w₂).bind 2 w

section

variable {first second : BufferHandle} {w₁ w₂ w : Array Single} {m : DeviceMemory}

/-- The inputs, and the buffer that is allocated next. -/
def variantBindings (first second : BufferHandle) (m : DeviceMemory) : Bindings :=
  [(0, first), (1, second), (2, ⟨m.buffers.size⟩)]

theorem InputsHeld.table_eq (h : InputsHeld first second w₁ w₂ m) (w : Array Single) :
    Pipeline.table ⟨m.buffers.push w⟩ (variantBindings first second m) = inputTable w₁ w₂ w := by
  have h₁ := (DeviceMemory.holds_iff.mp (h.first.push w)).2
  have h₂ := (DeviceMemory.holds_iff.mp (h.second.push w)).2
  have h₃ := (DeviceMemory.holds_iff.mp (m.holds_push_self w)).2
  show ((BufferTable.bind [] 0 (DeviceMemory.words _ first)).bind 1
    (DeviceMemory.words _ second)).bind 2 (DeviceMemory.words _ ⟨m.buffers.size⟩) = _
  rw [h₁, h₂, h₃]
  rfl

/-- The new buffer is bound for the output and for nothing else. -/
theorem InputsHeld.apart (h : InputsHeld first second w₁ w₂ m) :
    (variantBindings first second m).Apart 2 where
  indices := by
    show [0, 1, 2].Nodup
    decide
  output := by
    unfold variantBindings
    intro o ho i hi
    simp only [List.mem_cons, Prod.mk.injEq, List.not_mem_nil, or_false] at ho hi
    rcases ho with ⟨ho, -⟩ | ⟨ho, -⟩ | ⟨-, rfl⟩
    · omega
    · omega
    · rcases hi with ⟨-, hi⟩ | ⟨-, hi⟩ | ⟨rfl, -⟩
      · exact absurd hi.symm h.first.ne_next
      · exact absurd hi.symm h.second.ne_next
      · rfl

/-- What a run on the inputs copies back is its output; the inputs are as they were. -/
theorem InputsHeld.writeBack (h : InputsHeld first second w₁ w₂ m) {t : BufferTable}
    (hframe : BufferTable.Frame 2 (inputTable w₁ w₂ w) t) :
    ∃ out, t.get? 2 = some out ∧
      (Pipeline.writeBack (variantBindings first second m) t ⟨m.buffers.push w⟩).words
        ⟨m.buffers.size⟩ = out ∧
      InputsHeld first second w₁ w₂
        (Pipeline.writeBack (variantBindings first second m) t ⟨m.buffers.push w⟩) := by
  have hapart := h.apart
  rw [← h.table_eq w] at hframe
  obtain ⟨out, hout⟩ : ∃ out, t.get? 2 = some out := by
    have hsize := hframe.size 2
    have hbound : (2, ⟨m.buffers.size⟩) ∈ variantBindings first second m := by
      simp [variantBindings]
    rw [Pipeline.get?_table_of_mem hapart.indices hbound] at hsize
    cases hg : t.get? 2 with
    | none => rw [hg] at hsize; cases hsize
    | some out => exact ⟨out, rfl⟩
  have hkeep : ∀ {g : BufferHandle} {v : Array Single}, g ≠ ⟨m.buffers.size⟩ →
      DeviceMemory.Holds ⟨m.buffers.push w⟩ g v →
      DeviceMemory.Holds
        (Pipeline.writeBack (variantBindings first second m) t ⟨m.buffers.push w⟩) g v := by
    intro g v hne hg
    obtain ⟨hlt, hwords⟩ := DeviceMemory.holds_iff.mp hg
    refine DeviceMemory.holds_iff.mpr ⟨?_, ?_⟩
    · rw [DeviceMemory.size_buffers_writeBack]
      exact hlt
    · rw [Pipeline.words_writeBack_others hapart.indices hframe (by simpa [variantBindings])]
      exact hwords
  refine ⟨out, hout, ?_, ?_, ?_⟩
  · exact Pipeline.words_writeBack_output hapart hframe (by simp [variantBindings]) hout
  · exact hkeep h.first.ne_next (h.first.push w)
  · exact hkeep h.second.ne_next (h.second.push w)

end

/-! ## Steps that do the same from every memory with the inputs -/

namespace CaseM

variable {α β : Type} {R : DeviceMemory → Prop} {x : CaseM α} {f : α → CaseM β}

/-- From every memory of a kind, the steps end in the same way, record the same and leave a memory
of the kind. -/
def Uniform (R : DeviceMemory → Prop) (x : CaseM α) : Prop :=
  ∃ result new, ∀ σ, R σ.memory →
    (x.eval σ).1 = result ∧ (x.eval σ).2.records = σ.records ++ new ∧ R (x.eval σ).2.memory

theorem Uniform.pure (a : α) : Uniform R (Pure.pure a : CaseM α) :=
  ⟨.ok a, [], fun _ hσ => ⟨rfl, (List.append_nil _).symm, hσ⟩⟩

theorem Uniform.bind (hx : Uniform R x) (hf : ∀ a, Uniform R (f a)) : Uniform R (x >>= f) := by
  obtain ⟨result, new, hx⟩ := hx
  cases result with
  | error e =>
    refine ⟨.error e, new, fun σ hσ => ?_⟩
    obtain ⟨hresult, hnew, hmemory⟩ := hx σ hσ
    rw [eval_bind_of_error (Prod.ext hresult rfl)]
    exact ⟨rfl, hnew, hmemory⟩
  | ok a =>
    obtain ⟨result', new', hf⟩ := hf a
    refine ⟨result', new ++ new', fun σ hσ => ?_⟩
    obtain ⟨hresult, hnew, hmemory⟩ := hx σ hσ
    obtain ⟨hresult', hnew', hmemory'⟩ := hf _ hmemory
    rw [eval_bind_of_ok (Prod.ext hresult rfl)]
    refine ⟨hresult', ?_, hmemory'⟩
    rw [hnew', hnew, List.append_assoc]

/-- A stage, and what follows if it has a result. -/
theorem Uniform.stage_bind {c : CaseTag} {stage : Stage} {result : Except RunFault α}
    {detail : α → String} (hf : ∀ a, result = .ok a → Uniform R (f a)) :
    Uniform R (c.stage stage result detail >>= f) := by
  cases result with
  | error fault =>
    refine ⟨.error (.fault fault), [c.stageRecord stage .error fault.describe], fun σ hσ => ?_⟩
    rw [eval_bind, CaseTag.eval_stage]
    exact ⟨rfl, rfl, hσ⟩
  | ok a =>
    obtain ⟨last, new, hf⟩ := hf a rfl
    refine ⟨last, c.stageRecord stage .pass (detail a) :: new, fun σ hσ => ?_⟩
    obtain ⟨hlast, hnew, hmemory⟩ := hf (σ.recorded (c.stageRecord stage .pass (detail a))) hσ
    rw [eval_bind, CaseTag.eval_stage]
    refine ⟨hlast, ?_, hmemory⟩
    rw [hnew, CaseState.records_recorded, List.append_assoc, List.singleton_append]

end CaseM

open CaseM

namespace Session

variable {s : Session} {first second : BufferHandle} {w₁ w₂ : Array Single}

/-- A run on the inputs and a new output ends in the same way whatever else there is, and leaves the
inputs alone. -/
theorem execute_inputs (d : HostDevice) {p : LinkedPipeline} (hout : p.pipeline.kernel.output = 2)
    (first second : BufferHandle) (w₁ w₂ : Array Single) (threads group : Nat)
    (required : Option Nat) (w : Array Single) :
    ∃ r : Except RunStop (CompletionRecord × Array Single),
      ∀ m, InputsHeld first second w₁ w₂ m →
        match d.execute p ⟨threads, group, variantBindings first second m, required⟩
          ⟨m.buffers.push w⟩ with
        | .ok (record, m') =>
          r = .ok (record, m'.words ⟨m.buffers.size⟩) ∧ InputsHeld first second w₁ w₂ m'
        | .error e => r = .error e := by
  have hvalid (m : DeviceMemory) :
      d.validate p ⟨threads, group, variantBindings first second m, required⟩ =
        d.validate p ⟨threads, group, variantBindings first second .empty, required⟩ :=
    d.validate_congr p rfl rfl rfl rfl
  simp only [HostDevice.execute_eq, hvalid]
  cases d.validate p ⟨threads, group, variantBindings first second .empty, required⟩ with
  | error fault => exact ⟨_, fun m _ => rfl⟩
  | ok shape =>
    dsimp only
    by_cases hs : p.pipeline.Accepts shape
    · -- the groups run on one table, whatever memory it was copied from
      have hrun (m : DeviceMemory) (hm : InputsHeld first second w₁ w₂ m) :=
        Pipeline.dispatch_of_accepts (b := variantBindings first second m)
          (m := ⟨m.buffers.push w⟩) hs
      rcases ht : p.pipeline.runGroups shape shape.groupCount 0 (inputTable w₁ w₂ w) with
        ⟨k, fault | _⟩ | t
      · refine ⟨.error (.fault (.command fault.code (p.pipeline.name ++ " (threadgroup " ++
          toString k ++ "): " ++ fault.message))), fun m hm => ?_⟩
        rw [hrun m hm, hm.table_eq, ht]
        rfl
      · refine ⟨.error (.crash .emptyTile), fun m hm => ?_⟩
        rw [hrun m hm, hm.table_eq, ht]
      · have hframe := Pipeline.frame_runGroups _ _ ht
        rw [hout] at hframe
        refine ⟨.ok (⟨p.pipeline.name, shape, .completed⟩, (t.get? 2).getD #[]), fun m hm => ?_⟩
        obtain ⟨out, hget, hwords, hheld⟩ := hm.writeBack hframe
        rw [hrun m hm, hm.table_eq, ht]
        refine ⟨?_, hheld⟩
        rw [hwords, hget, Option.getD_some]
    · refine ⟨.error (.fault (.command Pipeline.rejectedCode ("threadgroup size " ++
        toString shape.threadsPerGroup ++ " outside 1..=" ++
          toString p.pipeline.maxThreads))), fun m _ => ?_⟩
      rw [Pipeline.dispatch_of_not_accepts hs]
      rfl

/-- The same with the output's allocation before and its reading after. -/
theorem executeInto_inputs {p : LinkedPipeline} (hout : p.pipeline.kernel.output = 2)
    (first second : BufferHandle) (w₁ w₂ : Array Single) (kernel : CatalogEntry)
    (invocations length : Nat) (filling : Single) :
    ∃ r : Except RunStop (CompletionRecord × Array Single),
      ∀ m, InputsHeld first second w₁ w₂ m →
        match s.executeInto p kernel invocations [(0, first), (1, second)] 2 length filling m with
        | .ok (a, m') => r = .ok a ∧ InputsHeld first second w₁ w₂ m'
        | .error e => r = .error e := by
  simp only [executeInto_eq]
  rcases DeviceMemory.upload_cases (List.replicate length filling) with
    ⟨fault, hfill⟩ | ⟨w, hfill⟩
  · refine ⟨.error (.fault fault), fun m _ => ?_⟩
    rw [DeviceMemory.fill, hfill]
  · obtain ⟨r, hr⟩ := execute_inputs s.device hout first second w₁ w₂ invocations
      s.settings.groupSize kernel.groupWidth w
    refine ⟨r.map fun (record, words) =>
      (record, (wordsOfBytes (bytesOfWords words.toList)).toArray), fun m hm => ?_⟩
    have hrun := hr m hm
    have hlaunch : s.launch kernel invocations ([(0, first), (1, second)] ++
        [(2, ⟨m.buffers.size⟩)]) = ⟨invocations, s.settings.groupSize,
          variantBindings first second m, kernel.groupWidth⟩ := rfl
    rw [DeviceMemory.fill, hfill]
    dsimp only
    rw [hlaunch]
    rcases he : s.device.execute p ⟨invocations, s.settings.groupSize,
        variantBindings first second m, kernel.groupWidth⟩ ⟨m.buffers.push w⟩ with
      e | ⟨record, m'⟩
    · rw [he] at hrun
      rw [hrun]
      rfl
    · rw [he] at hrun
      obtain ⟨rfl, hheld⟩ := hrun
      exact ⟨rfl, hheld⟩

/-- What a dispatch stage records, by how the run ended. -/
def dispatchRecords (c : CaseTag) :
    Except RunStop (CompletionRecord × Array Single) → List StageRecord
  | .ok (record, _) => [c.stageRecord .dispatch .pass record.describe]
  | .error (.fault fault) => [c.stageRecord .dispatch .error fault.describe]
  | .error (.crash _) => []

theorem uniform_dispatchStage (c : CaseTag) {p : LinkedPipeline}
    (hout : p.pipeline.kernel.output = 2) (kernel : CatalogEntry) (invocations length : Nat)
    (filling : Single) :
    Uniform (InputsHeld first second w₁ w₂)
      (s.dispatchStage c p kernel invocations [(0, first), (1, second)] 2 length filling) := by
  obtain ⟨r, hr⟩ := s.executeInto_inputs hout first second w₁ w₂ kernel invocations length filling
  refine ⟨r.map (·.2), dispatchRecords c r, fun σ hσ => ?_⟩
  have hrun := hr σ.memory hσ
  rw [eval_dispatchStage]
  rcases he : s.executeInto p kernel invocations [(0, first), (1, second)] 2 length filling
      σ.memory with (fault | crash) | ⟨⟨record, output⟩, m'⟩
  · rw [he] at hrun
    rw [hrun]
    exact ⟨rfl, rfl, hσ⟩
  · rw [he] at hrun
    rw [hrun]
    exact ⟨rfl, (List.append_nil _).symm, hσ⟩
  · rw [he] at hrun
    rw [hrun.1]
    exact ⟨rfl, rfl, hrun.2⟩

end Session

/-! ## The cases of variants -/

theorem HostDevice.makes_of_compileModule {d : HostDevice} {source : KernelSource}
    {version : Option LanguageVersion} {m : CompiledModule}
    (h : d.compileModule source version = .ok m) : d.Makes m.library := by
  unfold compileModule at h
  split at h
  · rename_i library hlibrary
    cases h
    exact .inl ⟨_, _, hlibrary⟩
  · cases h
  · cases h

namespace Session

variable {s : Session} {shared : VariantSetup} {w₁ w₂ : Array Single}

/-- **A variant does the same from every memory with the inputs**, as long as the shell was made by
the device and the device knows its kernels from catalogs. -/
theorem uniform_variantCase {p : Catalog → Prop} (hr : s.device.registry.FromCatalogs p)
    (hshell : s.device.Makes shared.shell.library) (c : CaseTag) (v : Variant) :
    Uniform (InputsHeld shared.first shared.second w₁ w₂) (s.variantCase c shared v) := by
  refine Uniform.stage_bind fun unit hunit => ?_
  refine Uniform.stage_bind fun pipeline hpipeline => ?_
  have hout : pipeline.pipeline.kernel.output = 2 := by
    have hmade : ∀ r ∈ [(⟨unit, computeTileName⟩ : EntryRef)], s.device.Makes r.unit.library :=
      List.forall_mem_singleton.mpr (HostDevice.makes_of_compileModule hunit)
    obtain ⟨catalog, -, b, hb, hname, hkernel⟩ :=
      HostDevice.exists_binding_of_resolve hr hshell hmade hpipeline
    exact Catalog.output_of_mem_bindings hb hkernel hname
  exact (uniform_dispatchStage c hout _ _ _ _).bind fun output => .pure _

theorem variantCases_nil (records : List StageRecord) (σ : CaseState) :
    s.variantCases shared records [] σ = (.ok [], σ) := rfl

/-- So what a variant's case is does not depend on what ran before it. -/
theorem variantCases_eq_mapM {R : DeviceMemory → Prop}
    (hu : ∀ c v, Uniform R (s.variantCase c shared v)) (records : List StageRecord)
    {σ₀ : CaseState} (hσ₀ : R σ₀.memory) (variants : List Variant) (σ : CaseState)
    (hσ : R σ.memory) :
    (s.variantCases shared records variants σ).1 =
      (variants.mapM fun v => (s.variantCases shared records [v] σ₀).1).map List.flatten := by
  induction variants generalizing σ with
  | nil => rfl
  | cons v rest ih =>
    obtain ⟨result, new, hcase⟩ := hu (s.tag (variantCaseName v)) v
    obtain ⟨hresult, hnew, hmemory⟩ := hcase { σ with records } hσ
    obtain ⟨hresult₀, hnew₀, -⟩ := hcase { σ₀ with records } hσ₀
    rw [List.mapM_cons, variantCases_cons, variantCases_cons]
    simp only [variantCases_nil, hresult, hnew, hresult₀, hnew₀]
    cases ho : (s.tag (variantCaseName v)).outcome result (records ++ new) with
    | error crash => rfl
    | ok o =>
      dsimp only
      rw [ih _ hmemory]
      cases (rest.mapM fun v => (s.variantCases shared records [v] σ₀).1) <;> rfl

end Session

end KernelLink
