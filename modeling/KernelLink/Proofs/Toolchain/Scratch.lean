import KernelLink.Proofs.Machine.Files
import KernelLink.Toolchain.Build

/-!
# A build leaves no trace

What a build writes itself is written inside of its scratch directory, and what its commands write
is their own affair. If the commands keep to the scratch directory as well, the files after the
build are the files before it: whatever the build did, wherever it stopped, the removal of the
directory takes it all away.
-/

namespace KernelLink

namespace RunM

variable {α β : Type} {m : RunM α} {f : α → RunM β} {place : Location} {t₀ t t' : FileTree}
  {post : α → Prop}

/-- On a tree that is `t₀` outside of a place, the steps leave another one, and what they give is as
`post` says. -/
def KeepsOutside (place : Location) (t₀ : FileTree) (post : α → Prop) (m : RunM α) : Prop :=
  ∀ t, t.remove place = t₀ →
    (m.run t).2.remove place = t₀ ∧ ∀ a, (m.run t).1 = .ok a → post a

theorem KeepsOutside.bind {post' : β → Prop} (hm : KeepsOutside place t₀ post m)
    (hf : ∀ a, post a → KeepsOutside place t₀ post' (f a)) :
    KeepsOutside place t₀ post' (m >>= f) := by
  intro t ht
  obtain ⟨hkeep, hpost⟩ := hm t ht
  rw [run_bind]
  rcases hr : m.run t with ⟨e | a, t'⟩
  · rw [hr] at hkeep
    exact ⟨hkeep, nofun⟩
  · rw [hr] at hkeep hpost
    exact hf a (hpost a rfl) t' hkeep

theorem KeepsOutside.fault (e : RunFault) : KeepsOutside place t₀ post (throw e : RunM α) :=
  fun _ ht => ⟨ht, nofun⟩

theorem KeepsOutside.get_bind {f : FileTree → RunM α}
    (hf : ∀ t, KeepsOutside place t₀ post (f t)) :
    KeepsOutside place t₀ post (MonadState.get >>= f) := by
  intro t ht
  rw [run_bind]
  exact hf t t ht

/-- A change of files that is made whole or not at all. -/
theorem KeepsOutside.files {context : String} {change : FileTree → Except FileFault FileTree}
    (h : ∀ t t', t.remove place = t₀ → change t = .ok t' → t'.remove place = t₀) :
    KeepsOutside place t₀ (fun _ => True) (RunM.files context (FileM.change change)) := by
  intro t ht
  refine ⟨?_, fun _ _ => trivial⟩
  show ((FileM.change fun _ => change t).run t).2.remove place = t₀
  cases hc : change t with
  | error fault => exact ht
  | ok t' => exact h t t' ht hc

end RunM

open RunM

/-! ## Names in a scratch directory -/

theorem slash_not_mem_fileStem (label : String) : '/' ∉ (fileStem label).toList := by
  unfold fileStem
  dsimp only
  split
  · decide
  · rw [String.toList_ofList, List.mem_map]
    rintro ⟨c, -, hc⟩
    split at hc
    · rename_i hplain
      subst hc
      revert hplain
      decide
    · revert hc
      decide

/-- The files of a build have plain names. -/
theorem plainName_fileStem (label : String) {c : Char} {rest : List Char} {extension : String}
    (hext : extension.toList = c :: rest) (hlong : 2 ≤ rest.length)
    (hslash : '/' ∉ extension.toList) : Path.PlainName (fileStem label ++ extension) where
  nonempty := by
    intro he
    have := congrArg (List.length ∘ String.toList) he
    simp [hext] at this
  slash := by
    rw [String.toList_append, List.mem_append, not_or]
    exact ⟨slash_not_mem_fileStem label, hslash⟩
  up := by
    intro he
    have := congrArg (List.length ∘ String.toList) he
    simp [hext] at this
    omega

/-! ## Commands that keep to their directory -/

/-- Told to make one file of a directory out of another one there, the command changes nothing
outside of the directory. -/
def CommandTemplate.KeepsTo (c : CommandTemplate) (flag : String) (s : Surroundings)
    (given made : String) : Prop :=
  ∀ workdir place t t' r, t.locate s.base workdir = .ok place →
    s.programs c.program (c.render flag [workdir.join given] (workdir.join made)) t = .ok (r, t') →
    t'.remove place = t.remove place

/-- Both commands of the toolchain keep to the directory of a build, whatever its source is. -/
structure ToolchainSettings.KeepsToScratch (tools : ToolchainSettings) (s : Surroundings) :
    Prop where
  compiler : ∀ label, tools.compiler.KeepsTo tools.language.stdFlag s
    (fileStem label ++ ".metal") (fileStem label ++ ".air")
  linker : ∀ label, tools.linker.KeepsTo tools.language.stdFlag s
    (fileStem label ++ ".air") (fileStem label ++ ".metallib")

variable {s : Surroundings} {place : Location} {t₀ t : FileTree}

theorem ToolchainSettings.keepsOutside_runStep {tools : ToolchainSettings} {step : ToolStep}
    {c : CommandTemplate} {given made : String} {workdir : Path}
    (hc : c.KeepsTo tools.language.stdFlag s given made)
    (hplace : t₀.locate s.base workdir = .ok place) :
    KeepsOutside place t₀ (fun _ => True)
      (tools.runStep s step c [workdir.join given] (workdir.join made)) := by
  intro t ht
  refine ⟨?_, fun _ _ => trivial⟩
  -- the directory is found in the middle of a build where it was found before
  have hfound := FileTree.locate_of_within (FileTree.within_of_remove_eq ht) hplace
  unfold runStep ExceptT.run
  dsimp only
  split
  · exact ht
  · rename_i r t' hrun
    have hkept := hc workdir place t t' r hfound hrun
    split <;> exact hkept.trans ht

/-! ## Scratch directories -/

/-- A scratch directory cannot be made, whatever it is for; or it is made at a place where nothing
was, and the place is removed after use. -/
theorem withScratch_cases (s : Surroundings) (wanted : Option Path) (t : FileTree) :
    (∃ f, ∀ {α : Type} (use : Path → RunM α), (withScratch s wanted use).run t =
      (.error (.scratch f (freshScratch t s.base (scratchParent s wanted))), t)) ∨
    ∃ place, t.locate s.base (freshScratch t s.base (scratchParent s wanted)) = .ok place ∧
      t.get? place = none ∧ ∀ {α : Type} (use : Path → RunM α), (withScratch s wanted use).run t =
        let ended := (use (freshScratch t s.base (scratchParent s wanted))).run
          (t.put place .directory)
        (ended.1, ended.2.remove place) := by
  generalize hworkdir : freshScratch t s.base (scratchParent s wanted) = workdir
  cases hl : t.locate s.base workdir with
  | error f =>
    refine .inl ⟨f, fun use => ?_⟩
    unfold withScratch ExceptT.run
    dsimp only
    rw [hworkdir, hl, FileTree.makeDirectory_of_error hl]
  | ok place =>
    cases hg : t.get? place with
    | some node =>
      refine .inl ⟨.alreadyExists, fun use => ?_⟩
      unfold withScratch ExceptT.run
      dsimp only
      rw [hworkdir, hl, FileTree.makeDirectory_of_some hl hg]
    | none =>
      refine .inr ⟨place, rfl, hg, fun use => ?_⟩
      unfold withScratch ExceptT.run
      dsimp only
      rw [hworkdir, hl, FileTree.makeDirectory_of_none hl hg]
      rfl

/-- The new directory is all that there is at its place, or below it. -/
theorem remove_put_directory (hclosed : t.Closed) (h : t.get? place = none) :
    (t.put place .directory).remove place = t :=
  (FileTree.remove_put List.prefix_rfl).trans (hclosed place h)

/-- **A scratch directory leaves no trace** of what is done inside of it. -/
theorem run_withScratch {α : Type} {wanted : Option Path} {use : Path → RunM α} {post : α → Prop}
    (hclosed : t.Closed)
    (huse : ∀ workdir place, t.locate s.base workdir = .ok place →
      KeepsOutside place t post (use workdir)) :
    ((withScratch s wanted use).run t).2 = t ∧
      ∀ a, ((withScratch s wanted use).run t).1 = .ok a → post a := by
  rcases withScratch_cases s wanted t with ⟨f, hrun⟩ | ⟨place, hplace, hg, hrun⟩
  · rw [hrun use]
    exact ⟨rfl, nofun⟩
  · rw [hrun use]
    exact huse _ place hplace _ (remove_put_directory hclosed hg)

/-- **A build leaves no trace**, if its commands and what is made of the binary leave none outside
of the scratch directory. -/
theorem ToolchainSettings.run_build {α : Type} {tools : ToolchainSettings} {source : KernelSource}
    {use : Build → RunM α} {post : α → Prop} (hclosed : t.Closed)
    (htools : tools.KeepsToScratch s)
    (huse : ∀ b place, KeepsOutside place t post (use b)) :
    ((tools.build s source use).run t).2 = t ∧
      ∀ a, ((tools.build s source use).run t).1 = .ok a → post a := by
  unfold build
  refine run_withScratch hclosed fun workdir place hplace => ?_
  have htext : Path.PlainName (fileStem source.label ++ ".metal") :=
    plainName_fileStem _ rfl (by decide) (by decide)
  refine KeepsOutside.bind (KeepsOutside.files fun t₁ t₂ ht₁ hwrite => ?_) fun _ _ => ?_
  · have hwithin := FileTree.within_of_remove_eq ht₁
    exact (FileTree.remove_write hwithin htext hplace hwrite).trans ht₁
  refine (keepsOutside_runStep (htools.compiler _) hplace).bind fun _ _ => ?_
  refine (keepsOutside_runStep (htools.linker _) hplace).bind fun _ _ => ?_
  refine .get_bind fun t' => ?_
  split
  · exact huse _ place
  · exact .fault _

end KernelLink
