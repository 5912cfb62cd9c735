import KernelLink.Proofs.Catalog.Bindings
import KernelLink.Proofs.Device.Linking
import KernelLink.Proofs.Exec.Staged

/-!
# Kernels that catalogs register

A registry may have been built from any number of catalogs, one over the other. A text that is
loaded may come from anywhere as well. But a kernel that runs was found in the registry under its
name, and whatever a registry has under a name some catalog has put there. So the name of a kernel
says which buffer it writes, and if no catalog has an empty tile then no kernel has one.
-/

namespace KernelLink

namespace Registry

variable {r : Registry Emulation}

/-- Whatever is registered under a name, a catalog that satisfies `p` registers under this name. -/
def FromCatalogs (p : Catalog → Prop) (r : Registry Emulation) : Prop :=
  ∀ key e, r.get? key = some e → ∃ c, p c ∧ ∃ b ∈ c.bindings, b.name = key.name ∧ b.emulation = e

variable {p : Catalog → Prop}

/-- It does not matter how many catalogs there are, nor in which order they are registered. -/
theorem fromCatalogs_registerAll {bs : List EmulationBinding}
    (h : ∀ b ∈ bs, ∃ c, p c ∧ b ∈ c.bindings) : (empty.registerAll bs).FromCatalogs p := by
  intro key e he
  obtain ⟨b, hb, hkey, hemulation⟩ := exists_of_get?_registerAll he
  obtain ⟨c, hc, hmem⟩ := h b hb
  exact ⟨c, hc, b, hmem, congrArg FunctionKey.name hkey, hemulation⟩

end Registry

namespace Catalog

variable {c : Catalog}

theorem fromCatalogs_registry {p : Catalog → Prop} (hc : p c) : c.registry.FromCatalogs p := by
  rw [registry_eq]
  exact Registry.fromCatalogs_registerAll fun b hb => ⟨c, hc, hb⟩

/-- The kernels that a catalog registers. -/
def kernels (c : Catalog) : List Kernel :=
  [.stagedUnary asyncCopyName (max c.asyncCopy.elements 1)
      (.scale (copyScale c.asyncCopy).toSingle),
    .stagedUnary reverseName c.tile (.call transformName),
    .tileRoundtrip roundtripName c.geometry processTileName,
    .pairedTiles gemmName c.tile computeTileName]

/-- Each of them is registered under its own name. -/
theorem kernel_of_mem_bindings {b : EmulationBinding} (hb : b ∈ c.bindings) {k : Kernel}
    (hk : b.emulation = .kernel k) :
    k.name = b.name ∧ k ∈ c.kernels := by
  have hsole : ∀ b ∈ c.soleBindings, ∀ k, b.emulation = .kernel k →
      k.name = b.name ∧ k ∈ c.kernels := by
    unfold kernels
    refine List.forall_mem_cons.mpr ⟨?_, List.forall_mem_cons.mpr ⟨?_, List.forall_mem_cons.mpr
      ⟨?_, List.forall_mem_cons.mpr ⟨?_, List.forall_mem_singleton.mpr nofun⟩⟩⟩⟩
    · rintro k ⟨⟩
      exact ⟨rfl, by simp⟩
    · rintro k ⟨⟩
      exact ⟨rfl, by simp⟩
    · rintro k ⟨⟩
      exact ⟨rfl, by simp⟩
    · rintro k ⟨⟩
      exact ⟨rfl, by simp⟩
  rcases mem_bindings_iff.mp hb with hb | ⟨t, -, rfl⟩ | ⟨v, -, rfl⟩
  · exact hsole b hb k hk
  · cases hk
  · cases hk

/-- Under its name a kernel writes one buffer, whatever the catalog. -/
theorem output_of_mem_bindings {b : EmulationBinding} (hb : b ∈ c.bindings) {k : Kernel}
    (hk : b.emulation = .kernel k) (hname : b.name = gemmName) : k.output = 2 := by
  obtain ⟨hkname, hmem⟩ := kernel_of_mem_bindings hb hk
  rw [hname] at hkname
  simp only [kernels, List.mem_cons, List.not_mem_nil, or_false] at hmem
  rcases hmem with rfl | rfl | rfl | rfl
  · exact absurd hkname (show asyncCopyName ≠ gemmName by decide)
  · exact absurd hkname (show reverseName ≠ gemmName by decide)
  · exact absurd hkname (show roundtripName ≠ gemmName by decide)
  · rfl

/-- No kernel of a catalog with a tile has an empty one. -/
theorem tile?_of_mem_bindings (hc : 1 ≤ c.tile) {b : EmulationBinding} (hb : b ∈ c.bindings)
    {k : Kernel} (hk : b.emulation = .kernel k) : k.tile? ≠ some 0 := by
  obtain ⟨-, hmem⟩ := kernel_of_mem_bindings hb hk
  simp only [kernels, List.mem_cons, List.not_mem_nil, or_false] at hmem
  unfold Kernel.tile?
  rcases hmem with rfl | rfl | rfl | rfl
  · simp
  · simp
    omega
  · simp
  · simp
    omega

end Catalog

/-! ## Kernels that run -/

namespace HostDevice

variable {d : HostDevice} {l : Library}

/-- A kernel behaves as the registry says for its name and some body. -/
theorem Makes.exists_find?_of_mem_kernels (h : d.Makes l) {k : LibraryKernel}
    (hk : k ∈ l.kernels) : ∃ body, d.registry.find? k.name body = some (.kernel k.kernel) := by
  obtain ⟨s, hs⟩ := h.exists_lower
  obtain ⟨f, -, hf⟩ := exists_left_of_mem (lower_eq_ok_iff.mp hs).2.1 hk
  obtain ⟨hname, hfind⟩ := Registry.bindKernel_eq_ok_iff.mp hf
  exact ⟨f.body, by rw [hname]; exact hfind⟩

variable {kernel : EntryRef} {callables : List EntryRef} {p : LinkedPipeline}

/-- What a resolved pipeline runs was found under the name that was asked for. -/
theorem find?_of_resolve (hk : d.Makes kernel.unit.library)
    (hm : ∀ r ∈ callables, d.Makes r.unit.library) (h : d.resolve kernel callables = .ok p) :
    ∃ body, d.registry.find? kernel.entry body = some (.kernel p.pipeline.kernel) := by
  rcases resolve_cases hm with ⟨r, -, herr⟩ | ⟨-, ⟨-, pipeline, hok, hjoins⟩ | ⟨-, reason, herr⟩⟩
  · rw [herr] at h
    cases h
  · rw [hok] at h
    cases h
    obtain ⟨k, hkmem, hname, hkernel⟩ := hjoins.runs
    obtain ⟨body, hfound⟩ := hk.exists_find?_of_mem_kernels hkmem
    rw [hname, hkernel] at hfound
    exact ⟨body, hfound⟩
  · rw [herr] at h
    cases h

/-- Where catalogs have registered, what runs is a kernel that a catalog has under the name. -/
theorem exists_binding_of_resolve {q : Catalog → Prop} (hr : d.registry.FromCatalogs q)
    (hk : d.Makes kernel.unit.library) (hm : ∀ r ∈ callables, d.Makes r.unit.library)
    (h : d.resolve kernel callables = .ok p) :
    ∃ c, q c ∧ ∃ b ∈ c.bindings, b.name = kernel.entry ∧
      b.emulation = .kernel p.pipeline.kernel := by
  obtain ⟨body, hfound⟩ := find?_of_resolve hk hm h
  exact hr _ _ hfound

end HostDevice

end KernelLink
