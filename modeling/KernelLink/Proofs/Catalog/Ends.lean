import KernelLink.Proofs.Catalog.Behaviour
import KernelLink.Proofs.Catalog.Calls
import KernelLink.Proofs.Device.Groups
import KernelLink.Proofs.Exec.InRange
import KernelLink.Proofs.Launch.Answers

/-!
# Accepted launches end

Nobody checks a launch against what a kernel stages: validation compares widths, the device looks at
its own limit, and the kernel divides by the length of its tile and reads at what it has computed.
The widths come from the catalog, where a kernel never asks for a group narrower than one thread. An
async copy never stages less than one element either, so a launch in groups of its width runs to an
end, as does one of the two-dimensional kernel, which divides by nothing. The other two stage as
many elements as they are told to. When that is none, a group of one is accepted and the division
has no result.
-/

namespace KernelLink

/-! ## Registries of entries -/

/-- Whatever is registered under a key, some entry registers it under this key. -/
def Registry.OfEntries (r : Registry Emulation) : Prop :=
  ∀ key e, r.get? key = some e → ∃ p : Recipe, p.binding.key = key ∧ p.binding.emulation = e

theorem Registry.ofEntries_empty : (Registry.empty : Registry Emulation).OfEntries := nofun

/-- Registering one more entry over the others. -/
theorem Registry.OfEntries.registerInto {r : Registry Emulation} (h : r.OfEntries) (p : Recipe) :
    (p.entry.registerInto r).OfEntries := by
  intro key e he
  rw [p.registerInto_entry, get?_put] at he
  by_cases hkey : key = p.binding.key
  · rw [if_pos hkey] at he
    exact ⟨p, hkey.symm, Option.some.inj he⟩
  · rw [if_neg hkey] at he
    exact h key e he

/-- Registering entries one after the other. -/
theorem Registry.OfEntries.foldl {r : Registry Emulation} (h : r.OfEntries)
    {es : List CatalogEntry} (hes : ∀ e ∈ es, ∃ p : Recipe, p.entry = e) :
    (es.foldl (fun r e => e.registerInto r) r).OfEntries := by
  induction es generalizing r with
  | nil => exact h
  | cons e es ih =>
    obtain ⟨⟨p, rfl⟩, hrest⟩ := List.forall_mem_cons.mp hes
    exact ih (h.registerInto p) hrest

namespace Catalog

variable {c : Catalog} {e : CatalogEntry}

/-- How the entries of the kernels are built, in their order. -/
def kernelRecipes (c : Catalog) : List Recipe :=
  [.asyncCopy c.asyncCopy, .reverse c.tile, .roundtrip c.geometry, .gemm c.tile]

theorem map_entry_kernelRecipes (c : Catalog) :
    c.kernelRecipes.map (·.entry) = c.asyncCopyEntry :: c.shells := rfl

theorem exists_recipe (he : e ∈ c.entries) : ∃ p : Recipe, p.entry = e := by
  unfold entries at he
  rw [← List.cons_append, ← map_entry_kernelRecipes] at he
  unfold callables at he
  simp only [List.mem_append, List.mem_map, List.mem_cons, List.not_mem_nil, or_false] at he
  rcases he with ⟨p, -, rfl⟩ | (rfl | rfl | rfl) | ⟨v, -, rfl⟩
  · exact ⟨p, rfl⟩
  · exact ⟨.transform c.transform, rfl⟩
  · exact ⟨.transform .alternate, rfl⟩
  · exact ⟨.processTile c.processTile, rfl⟩
  · exact ⟨.variant v, rfl⟩

theorem ofEntries_registry (c : Catalog) : c.registry.OfEntries :=
  Registry.ofEntries_empty.foldl fun _ => exists_recipe

end Catalog

/-! ## The tile behind a key -/

/-- A body says how much is staged, even where it does not say all of a constant. -/
theorem Recipe.tile?_eq_of_key_eq {p q : Recipe} {k k' : Kernel}
    (h : p.binding.key = q.binding.key) (hp : p.binding.emulation = .kernel k)
    (hq : q.binding.emulation = .kernel k') : k.tile? = k'.tile? := by
  have halike : p.Alike q := alike_of_name_eq (congrArg FunctionKey.name h)
  have hbody := bodyWords_eq_of_key_eq h
  cases halike with
  | asyncCopy s t =>
    obtain ⟨hn, -, -⟩ := eq_of_asyncCopyBody_eq hbody
    cases hp
    cases hq
    exact congrArg (fun n => some (max n 1)) hn
  | reverse m n =>
    cases hp
    cases hq
    exact congrArg some (eq_of_reverseBody_eq hbody)
  | gemm m n =>
    cases hp
    cases hq
    exact congrArg some (eq_of_gemmBody_eq hbody)
  | roundtrip g g' =>
    cases hp
    cases hq
    rfl
  | transform f g => cases hp
  | processTile f g => cases hp
  | variant v w => cases hp

namespace Catalog

variable {c : Catalog} {p : Recipe}

theorem entry_mem_entries (hp : p ∈ c.kernelRecipes) : p.entry ∈ c.entries := by
  unfold entries
  rw [← List.cons_append, ← map_entry_kernelRecipes]
  exact List.mem_append_left _ (List.mem_map.mpr ⟨p, hp, rfl⟩)

theorem binding_mem_soleBindings (hp : p ∈ c.kernelRecipes) : p.binding ∈ c.soleBindings := by
  have hsole : c.soleBindings =
      c.kernelRecipes.map (·.binding) ++ c.processTile.entry.emulations := rfl
  rw [hsole]
  exact List.mem_append_left _ (List.mem_map.mpr ⟨p, hp, rfl⟩)

theorem exists_kernel (hp : p ∈ c.kernelRecipes) : ∃ k, p.binding.emulation = .kernel k := by
  unfold kernelRecipes at hp
  simp only [List.mem_cons, List.not_mem_nil, or_false] at hp
  rcases hp with rfl | rfl | rfl | rfl <;> exact ⟨_, rfl⟩

/-- What the text of a kernel entry is scanned to: one kernel, under the key that the entry
registers. -/
theorem exists_scan (hp : p ∈ c.kernelRecipes) :
    ∃ s f, scanSource p.entry.source.text = .ok s ∧ s.kernels = [f] ∧
      FunctionKey.of f.name f.body = p.binding.key := by
  obtain ⟨k, hk⟩ := exists_kernel hp
  -- A device with nothing but the catalog's behaviours makes a library of the one kernel.
  obtain ⟨d, hd⟩ : ∃ d : HostDevice, d.registry = c.registry :=
    ⟨⟨.standard, c.registry⟩, by dsimp only⟩
  obtain ⟨b, hb, -, hload⟩ := load_eq_library hd (entry_mem_entries hp)
  rw [p.emulations_entry] at hb
  obtain rfl : p.binding = b := List.singleton_inj.mp hb
  obtain ⟨s, hscan, hlower⟩ := HostDevice.MakesFrom.exists_lower (.inr hload)
  have hkernels := (lower_eq_ok_iff.mp hlower).2.1
  have hlibrary : p.binding.library.kernels = [⟨p.binding.name, k⟩] := by
    unfold EmulationBinding.library
    rw [hk]
  rw [hlibrary] at hkernels
  obtain ⟨f, fs, hf, hfs, hs⟩ := List.forall₂_cons_right_iff.mp hkernels
  rw [List.forall₂_nil_right_iff] at hfs
  subst hfs
  refine ⟨s, f, hscan, hs, ?_⟩
  -- It found the kernel under the key of what was scanned, where only this entry registers.
  obtain ⟨hname, hfound⟩ := Registry.bindKernel_eq_ok_iff.mp hf
  have hregistered : c.registry.get? (FunctionKey.of f.name f.body) = some (.kernel k) := by
    rw [← hd]
    exact hfound
  rw [registry_eq] at hregistered
  obtain ⟨b', hb', hkey, -⟩ := Registry.exists_of_get?_registerAll hregistered
  have hb'name : b'.name = p.binding.name := (congrArg FunctionKey.name hkey).trans hname.symm
  rw [← hkey, eq_of_mem_soleBindings (binding_mem_soleBindings hp) hb' hb'name]

/-! ## Launches of catalog kernels -/

variable {d : HostDevice} {l : Library} {name : String} {functions : List FunctionRef}

/-- Whatever is linked to it, a pipeline of a kernel entry stages what the entry says. It may run
another entry's kernel, one that was registered over it, but that has the same tile. -/
theorem tile?_of_buildPipeline (hr : d.registry.OfEntries) (hp : p ∈ c.kernelRecipes)
    (hl : d.MakesFrom p.entry.source.text l) {pipeline : Pipeline}
    (hbuilt : d.buildPipeline ⟨l, name⟩ functions = .ok pipeline) :
    ∃ k, p.binding.emulation = .kernel k ∧ pipeline.kernel.tile? = k.tile? := by
  obtain ⟨k, hk⟩ := exists_kernel hp
  obtain ⟨s, f, hscan, hs, hkey⟩ := exists_scan hp
  obtain ⟨s', hscan', hlower⟩ := hl.exists_lower
  obtain rfl : s = s' := Except.ok.inj (hscan.symm.trans hscan')
  obtain ⟨k', hk', hrun⟩ := HostDevice.exists_kernel_of_buildPipeline hbuilt
  obtain ⟨f', hf', hbound⟩ := exists_left_of_mem (lower_eq_ok_iff.mp hlower).2.1 hk'
  rw [hs, List.mem_singleton] at hf'
  subst hf'
  obtain ⟨-, hfound⟩ := Registry.bindKernel_eq_ok_iff.mp hbound
  obtain ⟨q, hq, hemulation⟩ := hr _ _ hfound
  rw [hrun] at hemulation
  exact ⟨k, hk, Recipe.tile?_eq_of_key_eq (hq.trans hkey) hemulation hk⟩

/-- The kernels that stage the catalog's own tile. -/
theorem tile?_eq_some_zero_iff (hp : p ∈ c.kernelRecipes) {k : Kernel}
    (hk : p.binding.emulation = .kernel k) :
    k.tile? = some 0 ↔ c.tile = 0 ∧ p.entry.entry ∈ [reverseName, gemmName] := by
  have hcopy : asyncCopyName ∉ [reverseName, gemmName] := by decide
  have hroundtrip : roundtripName ∉ [reverseName, gemmName] := by decide
  unfold kernelRecipes at hp
  simp only [List.mem_cons, List.not_mem_nil, or_false] at hp
  rcases hp with rfl | rfl | rfl | rfl
  · cases hk
    refine ⟨fun h => ?_, fun h => absurd h.2 hcopy⟩
    have hmax : max c.asyncCopy.elements 1 = 0 := Option.some.inj h
    omega
  · cases hk
    exact ⟨fun h => ⟨Option.some.inj h, List.mem_cons_self⟩, fun h => congrArg some h.1⟩
  · cases hk
    exact ⟨nofun, fun h => absurd h.2 hroundtrip⟩
  · cases hk
    exact ⟨fun h => ⟨Option.some.inj h, List.mem_cons_of_mem _ List.mem_cons_self⟩,
      fun h => congrArg some h.1⟩

/--
**Accepted launches end, unless they divide by an empty tile.** Take a kernel entry of any catalog,
made from its source on a device that knows what entries register, and linked in whatever way the
device builds. A launch of it that is accepted is completed, or fails with the code of a fault,
whatever width it requires, whatever is bound and whatever the buffers hold; the exception are the
two kernels that stage the catalog's tile where the catalog has an empty one. Nothing on the way is
out of range: not the position at which a group starts, and not what a group accesses.
-/
theorem accepted_launch_ends_iff {p : LinkedPipeline} {launch : Launch} {s : DispatchShape}
    (hr : d.registry.OfEntries) (he : e ∈ c.asyncCopyEntry :: c.shells)
    (hl : d.MakesFrom e.source.text l) (hp : d.buildPipeline ⟨l, name⟩ functions = .ok p.pipeline)
    (hs : d.validate p launch = .ok s) (m : DeviceMemory) :
    ((∃ completion m', p.pipeline.dispatch launch.bindings s m = .ok (completion, m') ∧
        (completion.status = .completed ∨
          ∃ code, 1 ≤ code ∧ code ≤ 5 ∧ completion.status = .failed code)) ↔
      ¬(c.tile = 0 ∧ e.entry ∈ [reverseName, gemmName])) ∧
    (∀ index, index < s.groupCount → index * s.threadsPerGroup < s.threads) ∧
    ∀ g t, (p.pipeline.kernel.strictRun g p.pipeline.linked).eval (p.pipeline.groupStart t) =
      (p.pipeline.kernel.run g p.pipeline.linked).eval (p.pipeline.groupStart t) := by
  have haccepts := HostDevice.accepts_of_validate hs
  refine ⟨?_, fun index => (DispatchShape.lt_groupCount_iff haccepts.1).mp,
    fun g t => Kernel.eval_strictRun _ g _ Array.size_replicate⟩
  rw [← map_entry_kernelRecipes, List.mem_map] at he
  obtain ⟨recipe, hrecipe, rfl⟩ := he
  obtain ⟨k, hk, htile⟩ := tile?_of_buildPipeline hr hrecipe hl hp
  rw [← tile?_eq_some_zero_iff hrecipe hk, ← htile, ← ne_eq,
    ← HostDevice.exists_dispatch_iff hs launch.bindings m]
  constructor
  · rintro ⟨completion, m', hd, -⟩
    exact ⟨completion, m', hd⟩
  · rintro ⟨completion, m', hd⟩
    refine ⟨completion, m', hd, ?_⟩
    rcases Pipeline.completion_of_accepts haccepts hd with rfl | ⟨f, detail, rfl, -⟩
    · exact .inl rfl
    · exact .inr ⟨f.code, f.code_bounds.1, f.code_bounds.2, rfl⟩

/-- A shell and a transform that are linked, and a launch without any buffer. -/
theorem accepted_launch_ends_unbound :
    let d : HostDevice := ⟨.standard, standard.registry⟩
    let shell : Library := ⟨[⟨reverseName, .stagedUnary reverseName 32 (.call transformName)⟩], [],
      [Convention.unary.signature transformName]⟩
    let callables : Library :=
      ⟨[], [⟨Convention.unary.signature transformName, .unary .standard⟩], []⟩
    let p : LinkedPipeline := ⟨⟨reverseName, .stagedUnary reverseName 32 (.call transformName),
      [(transformName, .unary .standard)], 1024⟩, reverseName, [transformName]⟩
    let launch : Launch := ⟨33, 32, [], (reverseShell 32).groupWidth⟩
    d.MakesFrom (reverseShell 32).source.text shell ∧
      d.buildPipeline ⟨shell, reverseName⟩ [⟨callables, transformName⟩] = .ok p.pipeline ∧
      d.validate p launch = .ok ⟨33, 32⟩ ∧
      ∃ completion m', p.pipeline.dispatch [] ⟨33, 32⟩ .empty = .ok (completion, m') ∧
        (completion.status = .completed ∨
          ∃ code, 1 ≤ code ∧ code ≤ 5 ∧ completion.status = .failed code) := by
  intro d shell callables p launch
  have hd : d.registry = standard.registry := by dsimp only [d]
  have hr : d.registry.OfEntries := by
    rw [hd]
    exact ofEntries_registry standard
  have he : reverseShell 32 ∈ standard.shells := List.mem_cons_self
  have hshell : d.MakesFrom (reverseShell 32).source.text shell := by
    obtain ⟨b, hb, -, hload⟩ := load_eq_library hd
      (List.mem_cons_of_mem _ (List.mem_append_left _ he))
    cases hb
    exact .inr hload
  have hp : d.buildPipeline ⟨shell, reverseName⟩ [⟨callables, transformName⟩] = .ok p.pipeline := by
    decide
  have hvalid : d.validate p launch = .ok ⟨33, 32⟩ := rfl
  obtain ⟨hends, -, -⟩ := accepted_launch_ends_iff hr (List.mem_cons_of_mem _ he) hshell hp hvalid
    .empty
  exact ⟨hshell, hp, hvalid, hends.mpr fun h => absurd h.1 (by decide)⟩

/-- The same with an empty tile: everything is accepted, and no launch ends. -/
theorem exists_accepted_launch_without_end :
    ∃ (c : Catalog) (e : CatalogEntry) (d : HostDevice) (l : Library)
      (functions : List FunctionRef) (p : LinkedPipeline) (launch : Launch) (s : DispatchShape),
      d.registry = c.registry ∧ e ∈ c.asyncCopyEntry :: c.shells ∧ d.MakesFrom e.source.text l ∧
      d.buildPipeline ⟨l, e.entry⟩ functions = .ok p.pipeline ∧
      launch.requiredGroup = e.groupWidth ∧ d.validate p launch = .ok s ∧
      ∀ m, p.pipeline.dispatch launch.bindings s m = .error .emptyTile := by
  obtain ⟨c, hc⟩ : ∃ c : Catalog, c = { standard with tile := 0 } := ⟨_, rfl⟩
  obtain ⟨d, hd, hoptions⟩ : ∃ d : HostDevice, d.registry = c.registry ∧ d.options = .standard :=
    ⟨⟨.standard, c.registry⟩, by dsimp only, by dsimp only⟩
  have he : reverseShell 0 ∈ c.shells := by
    rw [hc]
    exact List.mem_cons_self
  obtain ⟨b, hb, -, hload⟩ := load_eq_library hd
    (List.mem_cons_of_mem _ (List.mem_append_left _ he))
  cases hb
  have hp : d.buildPipeline ⟨⟨[⟨reverseName, .stagedUnary reverseName 0 (.call transformName)⟩], [],
      [Convention.unary.signature transformName]⟩, reverseName⟩
      [⟨⟨[], [⟨Convention.unary.signature transformName, .unary .standard⟩], []⟩, transformName⟩] =
      .ok HostDevice.emptyReverse.pipeline := by
    unfold HostDevice.buildPipeline
    rw [hoptions]
    decide
  have hvalid : d.validate HostDevice.emptyReverse ⟨1, 1, [], (reverseShell 0).groupWidth⟩ =
      .ok ⟨1, 1⟩ := by
    refine HostDevice.validate_eq_ok_iff.mpr ⟨rfl, by decide, by decide, ?_, ?_, List.nodup_nil⟩
    · unfold HostDevice.widestGroup HostDevice.info
      rw [hoptions]
      decide
    · rintro width ⟨⟩
      rfl
  exact ⟨c, reverseShell 0, d, _, _, HostDevice.emptyReverse, _, _, hd, List.mem_cons_of_mem _ he,
    .inr hload, hp, rfl, hvalid, fun m => Pipeline.dispatch_of_emptyTile rfl
      (HostDevice.accepts_of_validate hvalid) (by decide)⟩

end Catalog

end KernelLink
