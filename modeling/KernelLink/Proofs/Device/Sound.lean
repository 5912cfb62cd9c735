import KernelLink.Proofs.Device.Groups
import KernelLink.Proofs.Device.Linking
import KernelLink.Proofs.Exec.Sound

/-!
# What can stop a dispatch

Groups run one after the other, each on threadgroup memory of its own. What can stop one of them is
therefore what can stop a dispatch, and for a pipeline whose kernel is resolved that is a buffer
alone, or the memory of a tile whose cells cannot be counted: its first copy goes on to a row that
the buffer has and the memory has not. A pipeline that was linked joins what it was linked from,
which says what each call reaches.
-/

namespace KernelLink

namespace Pipeline

variable {p : Pipeline} {s : DispatchShape} {b : Bindings} {m : DeviceMemory} {t : BufferTable}
  {stop : Stop}

/-- **A tile of more cells than can be counted fails every dispatch that runs a group of it**, over
a buffer or, where the buffer has the rows, over the memory that was made for fewer cells. -/
theorem dispatch_of_not_fits {name callee : String} {g : TileGeometry}
    (hk : p.kernel = .tileRoundtrip name g callee) (ho : ¬g.extent.Fits) (b : Bindings)
    (s : DispatchShape) (m : DeviceMemory) :
    ∃ completion m', p.dispatch b s m = .ok (completion, m') ∧
      (∀ code, completion.status = .failed code → code = rejectedCode ∨ code ≤ 3) ∧
      (completion.status = .failed 3 ↔ p.Accepts s ∧ 0 < s.threads ∧
        ∃ h, b.at? 0 = some h ∧ g.Overruns (m.words h)) := by
  by_cases hs : p.Accepts s
  · by_cases hthreads : 0 < s.threads
    · obtain ⟨count, hcount⟩ := Nat.exists_eq_add_of_le' (s.groupCount_pos hs.1 hthreads)
      obtain ⟨f, hf, hle, hcode⟩ := runGroup_of_not_fits hk ho (s.group 0) (table m b)
      rw [dispatch_of_accepts hs, hcount, runGroups_succ, hf]
      refine ⟨_, _, rfl, ?_, ?_⟩
      · rintro code ⟨⟩
        exact .inr hle
      · rw [get?_table] at hcode
        simpa [Completion.failed, hs, hthreads] using hcode
    · -- no thread, no group
      have hnone : s.groupCount = 0 := by
        have := s.groupCount_le hs.1
        omega
      rw [dispatch_of_accepts hs, hnone]
      exact ⟨_, _, rfl, nofun, nofun, fun h => absurd h.2.1 hthreads⟩
  · rw [dispatch_of_not_accepts hs]
    refine ⟨_, _, rfl, ?_, ?_⟩
    · rintro code ⟨⟩
      exact .inl rfl
    · exact ⟨nofun, fun h => absurd h.1 hs⟩

end Pipeline

/-! ## Pipelines that were linked -/

section

variable {d : HostDevice} {kernel : FunctionRef} {functions : List FunctionRef} {p : Pipeline}

theorem kernel?_of_findKernel {k : LibraryKernel} (h : findKernel kernel = .ok k) :
    kernel.library.kernel? kernel.name = some k := by
  unfold findKernel at h
  cases hk : kernel.library.kernel? kernel.name with
  | some k' =>
    rw [hk] at h
    cases h; rfl
  | none =>
    rw [hk] at h
    dsimp only at h
    split at h <;> cases h

theorem mem_of_findKernel {k : LibraryKernel} (h : findKernel kernel = .ok k) :
    k ∈ kernel.library.kernels :=
  List.mem_of_find?_eq_some (kernel?_of_findKernel h)

theorem HostDevice.link_of_buildPipeline (h : d.buildPipeline kernel functions = .ok p) :
    link d.options.maxThreads kernel functions = .ok p := by
  unfold buildPipeline at h
  cases hl : link d.options.maxThreads kernel functions with
  | error fault => rw [hl] at h; cases h
  | ok p' => rw [hl] at h; cases h; rfl

/-- Whatever is linked to it, a pipeline runs a kernel of the library that it was built from. -/
theorem HostDevice.exists_kernel_of_buildPipeline
    (h : d.buildPipeline kernel functions = .ok p) :
    ∃ k ∈ kernel.library.kernels, k.kernel = p.kernel := by
  have hlink := link_of_buildPipeline h
  rw [link_eq] at hlink
  split at hlink
  · cases hlink
  · rename_i k hk
    split at hlink
    · cases hlink
    · split at hlink
      · cases hlink
      · cases hlink
        exact ⟨k, mem_of_findKernel hk, rfl⟩

end

end KernelLink
