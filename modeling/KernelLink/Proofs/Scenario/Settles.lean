import KernelLink.Proofs.Catalog.Registered
import KernelLink.Proofs.Device.EmptyTile
import KernelLink.Proofs.Scenario.Variants
import KernelLink.Proofs.Toolchain.Scratch

/-!
# What a case leaves behind

A case starts with no buffers, so all that it can leave to the cases after it are files, and all
that it can do to them is to end the whole run. Both are followed here from stage to stage: the
files after a stage are those before it if the commands keep to their scratch directories, and a
stage crashes only over an empty tile. What a stage gives is said along with it, since a dispatch
does not crash because of where its kernel comes from: from a library that the device made, and so
from the registry.
-/

namespace KernelLink

namespace CaseM

variable {α β : Type} {t : FileTree} {calm : Prop} {post : α → Prop} {post' : β → Prop}
  {x : CaseM α} {f : α → CaseM β}

/-- From the files `t` the steps leave the files `t` and give what `post` says. If things are calm
they do not crash. -/
def Settles (t : FileTree) (calm : Prop) (post : α → Prop) (x : CaseM α) : Prop :=
  ∀ σ, σ.files = t → (x.eval σ).2.files = t ∧
    match (x.eval σ).1 with
    | .ok a => post a
    | .error (.fault _) => True
    | .error (.crash _) => ¬calm

theorem Settles.pure {a : α} (h : post a) : Settles t calm post (Pure.pure a : CaseM α) :=
  fun _ hσ => ⟨hσ, h⟩

theorem Settles.bind (hx : Settles t calm post x) (hf : ∀ a, post a → Settles t calm post' (f a)) :
    Settles t calm post' (x >>= f) := by
  intro σ hσ
  obtain ⟨hfiles, hend⟩ := hx σ hσ
  rw [eval_bind]
  rcases hr : x.eval σ with ⟨(fault | crash) | a, σ'⟩
  · rw [hr] at hfiles
    exact ⟨hfiles, trivial⟩
  · rw [hr] at hfiles hend
    exact ⟨hfiles, hend⟩
  · rw [hr] at hfiles hend
    exact hf a hend σ' hfiles

theorem Settles.record (c : CaseTag) (stage : Stage) (outcome : Outcome) (detail : String) :
    Settles t calm (fun _ => True) (c.record stage outcome detail) :=
  fun _ hσ => ⟨hσ, trivial⟩

theorem Settles.stopWith (c : CaseTag) (stage : Stage) (fault : RunFault) :
    Settles t calm post (c.stopWith stage fault : CaseM α) :=
  fun _ hσ => ⟨hσ, trivial⟩

theorem Settles.stage {c : CaseTag} {stage : Stage} {result : Except RunFault α}
    {detail : α → String} (h : ∀ a, result = .ok a → post a) :
    Settles t calm post (c.stage stage result detail) := by
  cases result with
  | error fault => exact .stopWith c stage fault
  | ok a => exact (Settles.record c stage _ _).bind fun _ _ => .pure (h a rfl)

/-- Steps that change files in between, and put them back. -/
theorem Settles.files {m : RunM α} (hfiles : (m.run t).2 = t)
    (hpost : ∀ a, (m.run t).1 = .ok a → post a) :
    Settles t calm (fun result => ∀ a, result = .ok a → post a) (CaseM.files m) := by
  intro σ hσ
  rw [eval_files, hσ]
  exact ⟨hfiles, hpost⟩

end CaseM

open CaseM

/-! ## Modules that a device makes -/

namespace HostDevice

variable {d : HostDevice} {t : FileTree} {base : Location} {p : Path}

theorem makes_of_loadFile {l : Library} (h : d.loadFile t base p = .ok l) : d.Makes l := by
  unfold loadFile at h
  split at h
  · exact .inr ⟨_, h⟩
  · cases h

theorem makes_of_loadPrebuilt {m : CompiledModule} (h : d.loadPrebuilt t base p = .ok m) :
    d.Makes m.library := by
  unfold loadPrebuilt at h
  split at h
  · split at h
    · rename_i library hlibrary
      cases h
      exact makes_of_loadFile hlibrary
    · cases h
  · cases h

end HostDevice

/-! ## Sessions whose commands keep to themselves -/

namespace Session

/-- From these files on, the session's commands leave alone what is not theirs: the files are a
tree, and no command changes anything outside of its scratch directory. The command that tells the
version comes first and may do as it likes. -/
structure Steady (s : Session) (t : FileTree) : Prop where
  files : (s.version.run t).2.Closed
  tools : s.settings.toolchain.KeepsToScratch s.surroundings

/-- No catalog behind the registry has an empty tile. -/
def Tiled (s : Session) : Prop := s.device.registry.FromCatalogs (1 ≤ ·.tile)

variable {s : Session} {t : FileTree} {c : CaseTag} {calm : Prop}

/-- Building a module leaves the files as they were. -/
theorem run_compileByToolchain (hclosed : t.Closed)
    (htools : s.settings.toolchain.KeepsToScratch s.surroundings) (source : KernelSource) :
    ((s.compileByToolchain source).run t).2 = t ∧
      ∀ m, ((s.compileByToolchain source).run t).1 = .ok m → s.device.Makes m.library := by
  refine ToolchainSettings.run_build hclosed htools fun b place t' ht' => ?_
  unfold ExceptT.run
  dsimp only
  split
  · rename_i library hlibrary
    refine ⟨ht', fun m hm => ?_⟩
    cases hm
    exact HostDevice.makes_of_loadFile hlibrary
  · exact ⟨ht', nofun⟩

/-! ## Stages -/

theorem settles_tryInProcess (source : KernelSource) :
    Settles t calm (fun _ => True) (s.tryInProcess c source) := by
  unfold tryInProcess
  split
  · exact .record c _ _ _
  · exact .record c _ _ _
  · exact .stopWith c _ _

theorem settles_compileByToolchain (hclosed : t.Closed)
    (htools : s.settings.toolchain.KeepsToScratch s.surroundings) (source : KernelSource) :
    Settles t calm (fun built => ∀ m, built = .ok m → s.device.Makes m.library)
      (CaseM.files (s.compileByToolchain source)) := by
  obtain ⟨hfiles, hmade⟩ := run_compileByToolchain hclosed htools source
  exact .files hfiles hmade

theorem settles_loadShell (hclosed : t.Closed)
    (htools : s.settings.toolchain.KeepsToScratch s.surroundings) (shell : CatalogEntry) :
    Settles t calm (fun m => s.device.Makes m.library) (s.loadShell c shell) := by
  unfold loadShell
  cases s.settings.prebuilt with
  | some dir =>
    refine (Settles.files ?_ ?_).bind fun result h => .stage h
    · rfl
    · exact fun m hm => HostDevice.makes_of_loadPrebuilt hm
  | none => exact (settles_compileByToolchain hclosed htools shell.source).bind fun _ h => .stage h

theorem settles_compileCallable (callable : CatalogEntry) :
    Settles t calm (fun m => s.device.Makes m.library) (s.compileCallable c callable) :=
  .stage fun _ h => HostDevice.makes_of_compileModule h

/-- A pipeline runs a kernel from the registry. -/
theorem settles_linkStage {kernel : EntryRef} {callables : List EntryRef}
    (hk : s.device.Makes kernel.unit.library)
    (hm : ∀ r ∈ callables, s.device.Makes r.unit.library) :
    Settles t calm (fun p => s.Tiled → p.pipeline.kernel.tile? ≠ some 0)
      (s.linkStage c kernel callables) := by
  refine .stage fun p hp htiled => ?_
  obtain ⟨catalog, htile, b, hb, -, hkernel⟩ :=
    HostDevice.exists_binding_of_resolve htiled hk hm hp
  exact Catalog.tile?_of_mem_bindings htile hb hkernel

theorem settles_uploadStage (values : List Single) :
    Settles t calm (fun _ => True) (uploadStage c values) := by
  intro σ hσ
  rw [eval_uploadStage]
  split <;> exact ⟨hσ, trivial⟩

theorem settles_dispatchStage {p : LinkedPipeline} (hp : calm → p.pipeline.kernel.tile? ≠ some 0)
    (kernel : CatalogEntry) (invocations : Nat) (inputs : Bindings)
    (outputIndex outputLength : Nat) (filling : Single) :
    Settles t calm (fun _ => True)
      (s.dispatchStage c p kernel invocations inputs outputIndex outputLength filling) := by
  intro σ hσ
  rw [eval_dispatchStage]
  split
  · exact ⟨hσ, trivial⟩
  · exact ⟨hσ, trivial⟩
  · rename_i crash hcrash
    refine ⟨hσ, fun hcalm => ?_⟩
    rw [executeInto_eq] at hcrash
    split at hcrash
    · cases hcrash
    · split at hcrash
      · rename_i hrun
        cases hcrash
        exact HostDevice.execute_ne_crash (hp hcalm) crash hrun
      · cases hcrash

end Session

end KernelLink
