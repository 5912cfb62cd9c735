import KernelLink.Proofs.Device.Memory

/-!
# A dispatch happens or it does not

Kernels write element by element and copy row by row, so a fault at a late group, lane or row leaves
a table that is half written. None of that is ever seen: the table is a copy, and only a dispatch
whose groups have all ended copies it back. And when it is copied back, it differs from what was
copied in at the kernel's output index alone, because every group kept to that index.

Two bindings of one index break this, and nothing on the device refuses them: the buffer of the
earlier binding is given the words of the later one, in the later one's length. A launch with such
bindings is refused before it reaches the device.
-/

namespace KernelLink

namespace Pipeline

variable {p : Pipeline} {s : DispatchShape} {b : Bindings} {m m' : DeviceMemory}
  {t t' : BufferTable} {c : Completion}

/-- The state in which a group starts. -/
def groupStart (p : Pipeline) (t : BufferTable) : GroupState :=
  ⟨t, Array.replicate p.kernel.threadgroupLength .zero⟩

theorem runGroup_eq (g : GroupShape) : p.runGroup g t =
    match (p.kernel.run g p.linked).eval (p.groupStart t) with
    | (.ok (), after) => .ok after.buffers
    | (.error stop, _) => .error stop := rfl

/-- One group changes the output buffer at most. -/
theorem frame_runGroup {g : GroupShape} (h : p.runGroup g t = .ok t') :
    BufferTable.Frame p.kernel.output t t' := by
  have hk := ((p.kernel.built_run g p.linked).keeps (p.groupStart t)).buffers
  rw [runGroup_eq] at h
  split at h
  · rename_i after he
    rw [he] at hk
    cases h; exact hk
  · cases h

theorem runGroups_zero (index : Nat) : p.runGroups s 0 index t = .ok t := rfl

theorem runGroups_succ (count index : Nat) : p.runGroups s (count + 1) index t =
    match p.runGroup (s.group index) t with
    | .ok t => p.runGroups s count (index + 1) t
    | .error stop => .error (index, stop) := rfl

/-- What stops a run of groups has stopped the group that it names, on some table. -/
theorem runGroup_of_runGroups_error {count index k : Nat} {stop : Stop}
    (h : p.runGroups s count index t = .error (k, stop)) :
    ∃ t', p.runGroup (s.group k) t' = .error stop := by
  induction count generalizing index t with
  | zero => cases h
  | succ count ih =>
    rw [runGroups_succ] at h
    split at h
    · exact ih h
    · rename_i hg
      cases h
      exact ⟨t, hg⟩

/-- However many groups run, together they change the output buffer at most. -/
theorem frame_runGroups (count index : Nat) (h : p.runGroups s count index t = .ok t') :
    BufferTable.Frame p.kernel.output t t' := by
  induction count generalizing index t with
  | zero =>
    rw [runGroups_zero] at h
    cases h; exact .refl _ _
  | succ count ih =>
    rw [runGroups_succ] at h
    split at h
    · rename_i t₁ hg
      exact (frame_runGroup hg).trans (ih (index + 1) h)
    · cases h

/-- Whether a shape is one that the pipeline runs. -/
def Accepts (p : Pipeline) (s : DispatchShape) : Prop :=
  1 ≤ s.threadsPerGroup ∧ s.threadsPerGroup ≤ p.maxThreads

theorem dispatch_of_not_accepts (hs : ¬ p.Accepts s) : p.dispatch b s m =
    .ok (.failed rejectedCode
      ("threadgroup size " ++ toString s.threadsPerGroup ++ " outside 1..=" ++
        toString p.maxThreads), m) := by
  unfold Accepts at hs
  unfold dispatch
  rw [if_pos (by omega)]

theorem dispatch_of_accepts (hs : p.Accepts s) : p.dispatch b s m =
    match p.runGroups s s.groupCount 0 (table m b) with
    | .ok t => .ok (.completed, writeBack b t m)
    | .error (index, .fault f) =>
      .ok (.failed f.code
        (p.name ++ " (threadgroup " ++ toString index ++ "): " ++ f.message), m)
    | .error (_, .emptyTile) => .error .emptyTile := by
  unfold Accepts at hs
  unfold dispatch
  exact if_neg (by omega)

/--
A dispatch has ended in one of two ways: it has failed, says why and has left the memory alone, or
all of its groups have run and their table has been copied back.
-/
theorem dispatch_cases (h : p.dispatch b s m = .ok (c, m')) :
    (∃ code detail, c = .failed code detail ∧ m' = m) ∨
    (p.Accepts s ∧ c = .completed ∧ ∃ t, p.runGroups s s.groupCount 0 (table m b) = .ok t ∧
      m' = writeBack b t m) := by
  by_cases hs : p.Accepts s
  · rw [dispatch_of_accepts hs] at h
    split at h
    · rename_i t ht
      cases h
      exact .inr ⟨hs, rfl, t, ht, rfl⟩
    · cases h; exact .inl ⟨_, _, rfl, rfl⟩
    · cases h
  · rw [dispatch_of_not_accepts hs] at h
    cases h; exact .inl ⟨_, _, rfl, rfl⟩

/--
**All or nothing.** A command that fails leaves the memory as it was and says why. One that
completes leaves the buffers alone that are not bound, and without repeated indices it moves no
length and changes no contents but those of the buffer at the output index.
-/
theorem dispatch_all_or_nothing (h : p.dispatch b s m = .ok (c, m')) :
    (∀ code, c.status = .failed code →
      m' = m ∧ ∃ detail, c.detail = some detail) ∧
    (c.status = .completed →
      (∀ g, (∀ i, (i, g) ∉ b) → m'.words g = m.words g) ∧
      ((b.map Prod.fst).Nodup → ∀ g, (m'.words g).size = (m.words g).size ∧
        ((p.kernel.output, g) ∉ b → m'.words g = m.words g))) := by
  rcases dispatch_cases h with ⟨code, detail, rfl, rfl⟩ | ⟨-, rfl, t, ht, rfl⟩
  · refine ⟨fun _ _ => ⟨rfl, detail, rfl⟩, fun hc => ?_⟩
    cases hc
  · refine ⟨fun code hc => ?_, fun _ => ⟨fun g hg => ?_, fun hn g => ⟨?_, fun ho => ?_⟩⟩⟩
    · cases hc
    · exact words_writeBack_of_not_mem hg
    · exact size_writeBack_of_frame hn (frame_runGroups _ _ ht)
    · exact words_writeBack_others hn (frame_runGroups _ _ ht) ho

/-- A pipeline that doubles, on tiles of one element. -/
def doubling : Pipeline := ⟨"doubling", .stagedUnary "doubling" 1 (.scale (.ofNat 2)), [], 1024⟩

/-- Buffers of two, one and one elements. -/
def threeBuffers : DeviceMemory := ⟨#[#[.ofNat 3, .ofNat 4], #[.ofNat 5], #[.zero]]⟩

theorem dispatch_all_or_nothing_doubling :
    ∃ m', doubling.dispatch [(0, ⟨0⟩), (1, ⟨2⟩)] ⟨1, 1⟩ threeBuffers = .ok (.completed, m') ∧
      m'.words ⟨2⟩ = #[.ofNat 6] ∧
      m'.words ⟨0⟩ = threeBuffers.words ⟨0⟩ ∧ m'.words ⟨1⟩ = threeBuffers.words ⟨1⟩ := by
  have h : doubling.dispatch [(0, ⟨0⟩), (1, ⟨2⟩)] ⟨1, 1⟩ threeBuffers = .ok (.completed, _) := rfl
  obtain ⟨hfree, hbound⟩ := (dispatch_all_or_nothing h).2 rfl
  exact ⟨_, h, rfl, (hbound (by decide) ⟨0⟩).2 (by decide), hfree ⟨1⟩ (by simp)⟩

/-- Two buffers bound at one index: the first gets the words of the second, and with them its
length. -/
theorem dispatch_repeated_index_resizes :
    ¬ ∀ (p : Pipeline) (b : Bindings) (s : DispatchShape) (m m' : DeviceMemory),
      p.dispatch b s m = .ok (.completed, m') → ∀ g, (m'.words g).size = (m.words g).size := by
  intro hsize
  have h : doubling.dispatch [(0, ⟨0⟩), (1, ⟨2⟩), (0, ⟨1⟩)] ⟨1, 1⟩ threeBuffers
      = .ok (.completed, _) := rfl
  exact absurd (hsize _ _ _ _ _ h ⟨0⟩) (by decide)

end Pipeline

end KernelLink
