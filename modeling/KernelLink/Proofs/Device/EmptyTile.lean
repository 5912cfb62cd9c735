import KernelLink.Proofs.Device.Groups
import KernelLink.Proofs.Launch.Validation

/-!
# What no device reports

A run that stops is stopped by a fault, which the command reports, or by an empty tile, which nobody
reports: the staging arithmetic divides by its length and the run has no result at all. Only the
check in front of the arithmetic can stop a run like that, for a tile with too many cells to be
counted never gets to the copy back that would miss them. So a kernel whose tile holds something
ends every command with a completion, however it is bound and linked.
-/

namespace KernelLink

namespace GroupM

variable {α β : Type} {out : Nat} {empty : Prop} {x : GroupM α} {f : α → GroupM β}

/-- Whatever stops the step is reported. -/
def Reports (x : GroupM α) : Prop := ∀ s, (x.eval s).1 ≠ .error .emptyTile

theorem Reports.bind (hx : Reports x) (hf : ∀ a, Reports (f a)) : Reports (x >>= f) := by
  intro s
  rw [eval_bind]
  have h := hx s
  rcases hr : x.eval s with ⟨e | a, s'⟩
  · rw [hr] at h
    exact fun he => h (congrArg Except.error (Except.error.inj he))
  · exact hf a s'

/-- Without an empty tile, whatever a group does is reported if it stops. -/
theorem Built.reports (h : Built out empty x) (hempty : ¬empty) : Reports x := by
  induction h with
  | pure a => exact fun _ => nofun
  | fault f => exact fun _ => nofun
  | emptyTile h => exact absurd h hempty
  | bind _ _ hx hf => exact hx.bind hf
  | buffer index =>
    intro s
    rw [eval_buffer]
    cases s.buffers.get? index <;> nofun
  | memory _ _ hf => exact fun s => hf s s
  | stage _ => exact fun _ => nofun
  | store _ => exact fun _ => nofun

end GroupM

/-! ## Kernels -/

namespace Kernel

open GroupM

variable {k : Kernel}

/-- An empty tile stops a group before it does anything. -/
theorem eval_run_of_emptyTile (h : k.tile? = some 0) (g : GroupShape) (linked : Linked)
    (s : GroupState) : (k.run g linked).eval s = (.error .emptyTile, s) := by
  cases k with
  | stagedUnary name tile op =>
    obtain rfl : tile = 0 := Option.some.inj h
    rfl
  | tileRoundtrip name geometry callee => cases h
  | pairedTiles name tile callee =>
    obtain rfl : tile = 0 := Option.some.inj h
    rfl

end Kernel

/-! ## Commands -/

namespace Pipeline

variable {p : Pipeline} {s : DispatchShape} {b : Bindings} {m : DeviceMemory} {t : BufferTable}

theorem runGroup_ne_emptyTile (h : p.kernel.tile? ≠ some 0) (g : GroupShape) :
    p.runGroup g t ≠ .error .emptyTile := by
  by_cases ho : p.kernel.Overflows
  · -- such a tile is missed too, but not before it has failed to be copied in
    obtain ⟨f, hf⟩ := runGroup_of_overflows ho g t
    rw [hf]
    nofun
  · have hreports := (p.kernel.built_run g p.linked).reports (not_or_intro h ho) (p.groupStart t)
    rw [runGroup_eq]
    rcases hr : (p.kernel.run g p.linked).eval (p.groupStart t) with ⟨stop | u, after⟩
    · rw [hr] at hreports
      exact fun he => hreports (congrArg Except.error (Except.error.inj he))
    · nofun

theorem runGroups_ne_emptyTile (h : p.kernel.tile? ≠ some 0) (count index k : Nat) :
    p.runGroups s count index t ≠ .error (k, .emptyTile) := by
  intro he
  obtain ⟨t', hg⟩ := runGroup_of_runGroups_error he
  exact runGroup_ne_emptyTile h _ hg

/-- **A kernel whose tile holds something ends every command.** -/
theorem dispatch_ne_error (h : p.kernel.tile? ≠ some 0) (e : Crash) :
    p.dispatch b s m ≠ .error e := by
  by_cases hs : p.Accepts s
  · rw [dispatch_of_accepts hs]
    split
    · nofun
    · nofun
    · rename_i hr
      exact absurd hr (runGroups_ne_emptyTile h _ _ _)
  · rw [dispatch_of_not_accepts hs]
    nofun

/-- With an empty tile, every command that gets as far as its first group crashes. -/
theorem dispatch_of_emptyTile (h : p.kernel.tile? = some 0) (hs : p.Accepts s)
    (hthreads : 0 < s.threads) : p.dispatch b s m = .error .emptyTile := by
  obtain ⟨count, hcount⟩ := Nat.exists_eq_add_of_le' (s.groupCount_pos hs.1 hthreads)
  rw [dispatch_of_accepts hs, hcount, runGroups_succ, runGroup_eq,
    Kernel.eval_run_of_emptyTile h]

end Pipeline

/-- The same of a launch that is validated first and whose failure is a fault. -/
theorem HostDevice.execute_ne_crash {d : HostDevice} {p : LinkedPipeline} {l : Launch}
    {m : DeviceMemory} (h : p.pipeline.kernel.tile? ≠ some 0) (e : Crash) :
    d.execute p l m ≠ .error (.crash e) := by
  rw [execute_eq]
  cases d.validate p l with
  | error fault => nofun
  | ok shape =>
    dsimp only
    rcases hd : p.pipeline.dispatch l.bindings shape m with crash | ⟨completion, m'⟩
    · exact absurd hd (Pipeline.dispatch_ne_error h crash)
    · cases hs : completion.status <;> simp [hs]

/-- A launch over an empty tile crashes if it is valid: validation does not look at the tile. -/
theorem HostDevice.execute_of_emptyTile {d : HostDevice} {p : LinkedPipeline} {l : Launch}
    {shape : DispatchShape} (h : p.pipeline.kernel.tile? = some 0)
    (hvalid : d.validate p l = .ok shape) (m : DeviceMemory) :
    d.execute p l m = .error (.crash .emptyTile) := by
  obtain ⟨rfl, hthreads, hgroup, hwidest, -, -⟩ := validate_eq_ok_iff.mp hvalid
  have haccepts : p.pipeline.Accepts l.shape := ⟨hgroup, Nat.le_trans hwidest (Nat.min_le_left _ _)⟩
  rw [execute_eq, hvalid]
  dsimp only
  rw [Pipeline.dispatch_of_emptyTile h haccepts hthreads]

end KernelLink
