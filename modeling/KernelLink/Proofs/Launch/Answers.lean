import KernelLink.Catalog
import KernelLink.Proofs.Device.EmptyTile

/-!
# What a caller is answered

A launch is looked at twice, by the caller's side before it is submitted and by the device when it
arrives, and the two look at different numbers: the caller's side knows the device's limit and what
the kernel stages, the device only its pipeline. The first look has to be at least as strict, or a
caller's mistake would come back as a command that failed. It is: whatever is accepted, the device
runs. What then comes back is a record, whatever the command made of it, and a fault only for those
who ask for a completed one. The exception is a kernel with an empty tile, which no look refuses and
no record tells of.
-/

namespace KernelLink

theorem Fault.code_bounds (f : Fault) : 1 ≤ f.code ∧ f.code ≤ 5 := by
  cases f <;> simp [Fault.code]

namespace Pipeline

variable {p : Pipeline} {s : DispatchShape} {b : Bindings} {m m' : DeviceMemory} {c : Completion}

/-- A command of a shape that the pipeline runs is completed, or is stopped by a fault, says which
and leaves the memory alone. -/
theorem completion_of_accepts (hs : p.Accepts s) (h : p.dispatch b s m = .ok (c, m')) :
    c = .completed ∨ ∃ (f : Fault) (detail : String), c = .failed f.code detail ∧ m' = m := by
  rw [dispatch_of_accepts hs] at h
  split at h
  · cases h
    exact .inl rfl
  · rename_i index f hr
    cases h
    exact .inr ⟨f, _, rfl, rfl⟩
  · cases h

end Pipeline

namespace HostDevice

variable {d : HostDevice} {p : LinkedPipeline} {l : Launch} {s : DispatchShape}
  {m m' : DeviceMemory} {r : CompletionRecord}

/-- The checks of a launch, in the numbers of the pipeline and of the device. -/
theorem exists_validate_iff : (∃ s, d.validate p l = .ok s) ↔
    1 ≤ l.invocations ∧ 1 ≤ l.groupSize ∧
    l.groupSize ≤ min p.pipeline.maxThreads d.options.maxThreads ∧
    (∀ width, l.requiredGroup = some width → l.groupSize = width) ∧
    (l.bindings.map Prod.fst).Nodup := by
  constructor
  · rintro ⟨s, hs⟩
    obtain ⟨-, hinvocations, hgroup, hwidest, hwidth, hindices⟩ := validate_eq_ok_iff.mp hs
    exact ⟨hinvocations, hgroup, hwidest, fun width hw => (hwidth width hw).symm, hindices⟩
  · rintro ⟨hinvocations, hgroup, hwidest, hwidth, hindices⟩
    exact ⟨l.shape, validate_eq_ok_iff.mpr ⟨rfl, hinvocations, hgroup, hwidest,
      fun width hw => (hwidth width hw).symm, hindices⟩⟩

/-! ## Refused launches -/

theorem submit_of_refused {fault : LaunchFault} (h : d.validate p l = .error fault)
    (m : DeviceMemory) : d.submit p l m = .error (.fault (.launch fault)) := by
  unfold submit
  rw [h]

theorem execute_of_refused {fault : LaunchFault} (h : d.validate p l = .error fault)
    (m : DeviceMemory) : d.execute p l m = .error (.fault (.launch fault)) := by
  rw [execute_eq, h]

/-! ## Accepted launches -/

/-- What is accepted for submission is a shape that the device runs. -/
theorem accepts_of_validate (h : d.validate p l = .ok s) : p.pipeline.Accepts s := by
  obtain ⟨rfl, -, hgroup, hwidest, -⟩ := validate_eq_ok_iff.mp h
  exact ⟨hgroup, Nat.le_trans hwidest (Nat.min_le_left _ _)⟩

/-- So the device does not reject it: the code for that is no fault's. -/
theorem status_ne_rejected (h : d.validate p l = .ok s) {b : Bindings} {c : Completion}
    (hd : p.pipeline.dispatch b s m = .ok (c, m')) :
    c.status ≠ .failed Pipeline.rejectedCode := by
  rcases Pipeline.completion_of_accepts (accepts_of_validate h) hd with rfl | ⟨f, _, rfl, -⟩
  · nofun
  · intro hrejected
    have hcode : f.code = 100 := CommandStatus.failed.inj hrejected
    have hbounds := f.code_bounds
    omega

/-- An accepted launch has a completion unless the kernel's tile is empty. -/
theorem exists_dispatch_iff (h : d.validate p l = .ok s) (b : Bindings) (m : DeviceMemory) :
    (∃ c m', p.pipeline.dispatch b s m = .ok (c, m')) ↔ p.pipeline.kernel.tile? ≠ some 0 := by
  constructor
  · rintro ⟨c, m', hd⟩ htile
    obtain ⟨rfl, hthreads, -⟩ := validate_eq_ok_iff.mp h
    rw [Pipeline.dispatch_of_emptyTile htile (accepts_of_validate h) hthreads] at hd
    cases hd
  · intro htile
    rcases hd : p.pipeline.dispatch b s m with crash | ⟨c, m'⟩
    · exact absurd hd (Pipeline.dispatch_ne_error htile crash)
    · exact ⟨c, m', rfl⟩

/-- A record is what the device made of the launch, under the pipeline's name and in the shape that
was accepted. -/
theorem submit_eq_ok_iff (h : d.validate p l = .ok s) :
    d.submit p l m = .ok (r, m') ↔ r.kernel = p.pipeline.name ∧ r.shape = s ∧
      p.pipeline.dispatch l.bindings s m = .ok (r.completion, m') := by
  obtain ⟨kernel, shape, completion⟩ := r
  unfold submit
  rw [h]
  dsimp only
  rcases p.pipeline.dispatch l.bindings s m with crash | ⟨c, m₁⟩
  · simp
  · constructor
    · intro he
      cases he
      exact ⟨rfl, rfl, rfl⟩
    · rintro ⟨rfl, rfl, he⟩
      cases he
      rfl

theorem exists_submit_iff (h : d.validate p l = .ok s) :
    (∃ r m', d.submit p l m = .ok (r, m')) ↔ p.pipeline.kernel.tile? ≠ some 0 := by
  rw [← exists_dispatch_iff h l.bindings m]
  constructor
  · rintro ⟨r, m', hr⟩
    exact ⟨r.completion, m', ((submit_eq_ok_iff h).mp hr).2.2⟩
  · rintro ⟨c, m', hd⟩
    exact ⟨⟨p.pipeline.name, s, c⟩, m', (submit_eq_ok_iff h).mpr ⟨rfl, rfl, hd⟩⟩

/-- What becomes of a record for those who ask for a completed command. -/
theorem execute_of_submit (h : d.submit p l m = .ok (r, m')) : d.execute p l m =
    match r.completion.status with
    | .completed => .ok (r, m')
    | .failed code => .error (.fault (.command code (r.completion.detail.getD ""))) := by
  unfold execute
  rw [h]
  rfl

theorem execute_eq_ok_iff (h : d.submit p l m = .ok (r, m')) :
    d.execute p l m = .ok (r, m') ↔ r.completion.status = .completed := by
  rw [execute_of_submit h]
  cases r.completion.status with
  | completed => exact ⟨fun _ => rfl, fun _ => rfl⟩
  | failed code => exact ⟨nofun, nofun⟩

/-- A command that failed has said why and changed nothing. -/
theorem execute_of_failed (hs : d.validate p l = .ok s) (h : d.submit p l m = .ok (r, m'))
    {code : Nat} (hcode : r.completion.status = .failed code) :
    m' = m ∧ ∃ detail, r.completion.detail = some detail ∧
      d.execute p l m = .error (.fault (.command code detail)) := by
  obtain ⟨-, -, hd⟩ := (submit_eq_ok_iff hs).mp h
  rcases Pipeline.completion_of_accepts (accepts_of_validate hs) hd with hc | ⟨f, detail, hc, hm⟩
  · rw [hc] at hcode
    cases hcode
  · have hdetail : r.completion.detail = some detail := by
      rw [hc]
      rfl
    refine ⟨hm, detail, hdetail, ?_⟩
    rw [execute_of_submit h, hcode, hdetail]
    rfl

/--
**Validation is exact, and as strict as the device.** For any device, pipeline and launch:

- a launch is accepted if it has invocations, in groups that are not empty, not wider than the
  pipeline and the device allow and as wide as the kernel asks, with no index bound twice;
- one that is refused is an invalid dispatch, and no memory comes back;
- of one that is accepted the device never says that its shape is rejected. There is a record of it
  unless the kernel's tile is empty, in the launch's own shape, and asking for a completed command
  gives that record, or else the command's own code and detail.
-/
theorem answers_of_launch (d : HostDevice) (p : LinkedPipeline) (l : Launch) :
    ((∃ s, d.validate p l = .ok s) ↔
      1 ≤ l.invocations ∧ 1 ≤ l.groupSize ∧
      l.groupSize ≤ min p.pipeline.maxThreads d.options.maxThreads ∧
      (∀ width, l.requiredGroup = some width → l.groupSize = width) ∧
      (l.bindings.map Prod.fst).Nodup) ∧
    (∀ fault, d.validate p l = .error fault → (RunFault.launch fault).kind = "InvalidDispatch" ∧
      ∀ m, d.submit p l m = .error (.fault (.launch fault)) ∧
        d.execute p l m = .error (.fault (.launch fault))) ∧
    ∀ s, d.validate p l = .ok s → ∀ m,
      (∀ c m', p.pipeline.dispatch l.bindings s m = .ok (c, m') →
        c.status ≠ .failed Pipeline.rejectedCode) ∧
      ((∃ r m', d.submit p l m = .ok (r, m')) ↔ p.pipeline.kernel.tile? ≠ some 0) ∧
      ∀ r m', d.submit p l m = .ok (r, m') →
        r.shape = l.shape ∧ p.pipeline.dispatch l.bindings l.shape m = .ok (r.completion, m') ∧
        (d.execute p l m = .ok (r, m') ↔ r.completion.status = .completed) ∧
        ∀ code, r.completion.status = .failed code → m' = m ∧
          ∃ detail, r.completion.detail = some detail ∧
            d.execute p l m = .error (.fault (.command code detail)) := by
  refine ⟨exists_validate_iff, fun fault hrefused => ⟨rfl, fun m =>
    ⟨submit_of_refused hrefused m, execute_of_refused hrefused m⟩⟩, fun s hs m => ?_⟩
  refine ⟨fun c m' => status_ne_rejected hs, exists_submit_iff hs, fun r m' hr => ?_⟩
  obtain ⟨-, hshape, hd⟩ := (submit_eq_ok_iff hs).mp hr
  obtain rfl : s = l.shape := (validate_eq_ok_iff.mp hs).1
  exact ⟨hshape, hd, execute_eq_ok_iff hr, fun code => execute_of_failed hs hr⟩

/-- A launch that doubles one element: accepted as it is, and refused with a wider group. -/
theorem answers_of_launch_doubling :
    let d : HostDevice := ⟨.standard, .empty⟩
    let p : LinkedPipeline := ⟨Pipeline.doubling, "doubling", []⟩
    let launch (group : Nat) : Launch := ⟨1, group, [(0, ⟨0⟩), (1, ⟨2⟩)], some 1⟩
    (∃ r m', d.submit p (launch 1) Pipeline.threeBuffers = .ok (r, m') ∧ r.shape = ⟨1, 1⟩ ∧
      m'.words ⟨2⟩ = #[.ofNat 6] ∧ d.execute p (launch 1) Pipeline.threeBuffers = .ok (r, m')) ∧
    d.submit p (launch 2) Pipeline.threeBuffers =
      .error (.fault (.launch (.widthMismatch "doubling" 1 2))) := by
  intro d p launch
  obtain ⟨-, -, haccepted⟩ := answers_of_launch d p (launch 1)
  obtain ⟨-, hrefused, -⟩ := answers_of_launch d p (launch 2)
  obtain ⟨-, -, hanswer⟩ := haccepted ⟨1, 1⟩ rfl Pipeline.threeBuffers
  have hdoubled : Pipeline.doubling.dispatch [(0, ⟨0⟩), (1, ⟨2⟩)] ⟨1, 1⟩ Pipeline.threeBuffers =
    .ok (.completed, _) := rfl
  have hrecord : d.submit p (launch 1) Pipeline.threeBuffers =
      .ok (⟨"doubling", ⟨1, 1⟩, .completed⟩, _) :=
    (submit_eq_ok_iff rfl).mpr ⟨rfl, rfl, hdoubled⟩
  obtain ⟨hshape, -, hexecute, -⟩ := hanswer _ _ hrecord
  exact ⟨⟨_, _, hrecord, hshape, rfl, hexecute.mpr rfl⟩, ((hrefused _ rfl).2 _).1⟩

/-- The kernel that reverses, over an empty tile and with its transform linked. -/
def emptyReverse : LinkedPipeline where
  pipeline := ⟨reverseName, .stagedUnary reverseName 0 (.call transformName),
    [(transformName, .unary .standard)], 1024⟩
  kernel := reverseName
  linked := [transformName]

/-- An accepted launch of which no record comes back. -/
theorem exists_accepted_launch_without_record :
    ∃ (d : HostDevice) (p : LinkedPipeline) (l : Launch) (s : DispatchShape),
      d.validate p l = .ok s ∧ ∀ m, d.submit p l m = .error (.crash .emptyTile) ∧
        d.execute p l m = .error (.crash .emptyTile) := by
  have hvalid : (⟨.standard, .empty⟩ : HostDevice).validate emptyReverse ⟨1, 1, [], some 1⟩ =
    .ok ⟨1, 1⟩ := rfl
  exact ⟨_, _, _, _, hvalid, fun m => ⟨rfl, execute_of_emptyTile rfl hvalid m⟩⟩

end HostDevice

end KernelLink
