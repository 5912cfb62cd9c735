import KernelLink.Proofs.Toolchain.Commands

/-!
# Three ways to one library

An artifact of the host device is its source's text. So with commands that copy, the binary that a
build loads before its directory goes, the binary that it keeps, and the bytes of the text are the
same content, and the device makes the same of it: the library, or the reason why there is none.
-/

namespace KernelLink

variable {base : Location} {files after : FileTree} {p : Path} {content : ByteArray}

/-- The command succeeded, and its output held then what its inputs had held. -/
def CommandRun.Copied (c : CommandRun) (base : Location) : Prop :=
  c.Succeeded ∧ ∃ content, (∀ given ∈ c.inputs, c.before.read base given = .ok content) ∧
    c.after.read base c.output = .ok content

theorem FileTree.isThere_of_read (h : files.read base p = .ok content) :
    files.isThere base p = true := by
  unfold isThere
  rw [read_eq_ok_iff.mp h]
  rfl

theorem HostDevice.loadFile_of_read (d : HostDevice) (h : files.read base p = .ok content) :
    d.loadFile files base p = d.load content := by
  unfold loadFile
  rw [h]

namespace ToolchainSettings

variable {tools : ToolchainSettings} {s : Surroundings} {source : KernelSource} {workdir : Path}

/-- Where both commands copy, a build ends without a binary only if there was no source to copy, and
the binary holds the source's text. -/
theorem Ends.read_binary {ended : Except RunFault Build} {log : List CommandRun}
    (h : Ends tools s source workdir files (ended, after, log))
    (hcopied : ∀ c ∈ log, c.Copied s.base) :
    (∃ context f, ended = .error (.files context f)) ∨
      ∃ b, ended = .ok b ∧ after.read s.base b.binary = .ok source.text.toUTF8 := by
  have hfaultless : ∀ c ∈ log, c.fault? = none := fun c hc =>
    CommandRun.succeeded_iff_fault?.mp (hcopied c hc).1
  cases h with
  | unwritten => exact .inl ⟨_, _, rfl⟩
  | compile _ _ hfailed =>
    rw [hfaultless _ (by simp)] at hfailed
    cases hfailed
  | link _ _ _ _ hfailed =>
    rw [hfaultless _ (by simp)] at hfailed
    cases hfailed
  | missing _ _ _ hrunLinker _ hgone =>
    subst hrunLinker
    obtain ⟨-, _, -, hbinary⟩ := hcopied _ (List.mem_cons_of_mem _ List.mem_cons_self)
    cases hgone.symm.trans (FileTree.isThere_of_read hbinary)
  | built hwrite hrun _ hrunLinker =>
    subst hrun hrunLinker
    obtain ⟨-, _, htext, hobject⟩ := hcopied _ List.mem_cons_self
    obtain ⟨-, _, hobject', hbinary⟩ := hcopied _ (List.mem_cons_of_mem _ List.mem_cons_self)
    -- the linker finds what the compiler left, and the compiler the source
    cases (htext _ List.mem_cons_self).symm.trans (FileTree.read_write hwrite)
    cases (hobject' _ List.mem_cons_self).symm.trans hobject
    exact .inr ⟨_, rfl, hbinary⟩

/-- With commands that copy, a build that starts makes use of a binary that holds the text. -/
theorem run_build_of_copied {α : Type} {use : Build → RunM α}
    (hcopied : ∀ c ∈ tools.commands s source files, c.Copied s.base) :
    (∃ f p, ((tools.build s source use).run files).1 = .error (.scratch f p)) ∨
    (∃ context f, ((tools.build s source use).run files).1 = .error (.files context f)) ∨
    ∃ place b filled, filled.read s.base b.binary = .ok source.text.toUTF8 ∧
      (tools.build s source use).run files =
        (((use b).run filled).1, ((use b).run filled).2.remove place) := by
  rcases build_cases tools s source files with
    ⟨f, -, hrun⟩ | ⟨place, ended, after, -, -, hends, hrun⟩
  · exact .inl ⟨f, _, congrArg Prod.fst (hrun use)⟩
  · rcases hends.read_binary hcopied with ⟨context, f, rfl⟩ | ⟨b, rfl, hbinary⟩
    · exact .inr (.inl ⟨context, f, congrArg Prod.fst (hrun use)⟩)
    · exact .inr (.inr ⟨place, b, after, hbinary, hrun use⟩)

end ToolchainSettings

namespace Session

variable {s : Session} {source : KernelSource} {destination kept : Path}

/-- With commands that copy, what the toolchain's module is made of is the text. -/
theorem compileByToolchain_of_copied
    (hcopied : ∀ c ∈ s.settings.toolchain.commands s.surroundings source files,
      c.Copied s.surroundings.base)
    (hscratch : ∀ f p, ((s.compileByToolchain source).run files).1 ≠ .error (.scratch f p))
    (hfiles : ∀ context f, ((s.compileByToolchain source).run files).1 ≠ .error (.files context f)) :
    ((s.compileByToolchain source).run files).1 =
      match s.device.load source.text.toUTF8 with
      | .ok library => .ok ⟨library, .toolchain, source.label⟩
      | .error fault => .error (loadFault source.label fault) := by
  rw [compileByToolchain_eq] at hscratch hfiles ⊢
  rcases ToolchainSettings.run_build_of_copied hcopied with
    ⟨f, p, he⟩ | ⟨context, f, he⟩ | ⟨place, b, filled, hbinary, hrun⟩
  · exact absurd he (hscratch f p)
  · exact absurd he (hfiles context f)
  · have hfile := s.device.loadFile_of_read hbinary
    rw [hrun]
    show s.loadBinary source b filled = _
    unfold loadBinary
    cases hload : s.device.load source.text.toUTF8 <;> simp only [hfile, hload]

/-- A binary that is kept holds what it held in the scratch directory: making room for it takes
nothing away. -/
theorem read_of_keeping {b : Build} {context context' : String} {filled t : FileTree}
    (hbinary : filled.read base b.binary = .ok content)
    (hrun : (do
      RunM.files context (FileM.ensureParent base destination)
      RunM.files context' (FileM.change fun files => files.copy base b.binary destination)
      pure destination : RunM Path).run filled = (.ok kept, t)) :
    t.read base destination = .ok content := by
  have hroom := @FileM.grows_ensureParent base destination filled
  rw [run_bind] at hrun
  rcases hmade : (RunM.files context (FileM.ensureParent base destination)).run filled with
    ⟨e | _, made⟩
  · rw [hmade] at hrun
    cases hrun
  · have hbinary' := FileTree.read_of_within (congrArg Prod.snd hmade ▸ hroom) hbinary
    rw [hmade] at hrun
    dsimp only at hrun
    rw [run_bind, ToolchainSettings.run_files_change] at hrun
    cases hcopy : made.copy base b.binary destination with
    | error f =>
      rw [hcopy] at hrun
      cases hrun
    | ok copied =>
      rw [hcopy] at hrun
      cases hrun
      obtain ⟨content', hread, hkept⟩ := FileTree.read_copy hcopy
      cases hread.symm.trans hbinary'
      exact hkept

/-- With commands that copy, an artifact that was kept and is still there holds the text. -/
theorem read_artifact
    (hcopied : ∀ c ∈ s.settings.toolchain.commands s.surroundings source files,
      c.Copied s.surroundings.base)
    (hkept : (s.buildArtifact source destination).run files = (.ok kept, after))
    (hthere : after.isFile s.surroundings.base destination = true) :
    after.read s.surroundings.base destination = .ok source.text.toUTF8 := by
  unfold buildArtifact ToolchainSettings.buildArtifact at hkept
  rcases ToolchainSettings.run_build_of_copied hcopied with
    ⟨f, p, he⟩ | ⟨context, f, he⟩ | ⟨place, b, filled, hbinary, hrun⟩
  · rw [hkept] at he
    cases he
  · rw [hkept] at he
    cases he
  · rw [hrun] at hkept
    obtain ⟨hresult, hafter⟩ := Prod.mk.inj hkept
    have hread := read_of_keeping hbinary (Prod.ext hresult rfl)
    -- what is left after the removal is what was there before it
    obtain ⟨content', hread'⟩ := FileTree.isFile_iff.mp hthere
    subst hafter
    cases hread.symm.trans (FileTree.read_of_within (FileTree.remove_within _ place) hread')
    exact hread'

/--
**All ways from a source to a library lead to the same one**, with commands that copy.

The toolchain's module, the module of the artifact that was kept and the module of the text's bytes
are one library under three names, or there is one reason why none of them is.
-/
theorem artifact_ways_agree (s : Session) (source : KernelSource) (destination kept : Path)
    (label : String) (files files' after : FileTree)
    (hcopied : ∀ c ∈ s.settings.toolchain.commands s.surroundings source files,
      c.Copied s.surroundings.base)
    (hcopied' : ∀ c ∈ s.settings.toolchain.commands s.surroundings source files',
      c.Copied s.surroundings.base)
    (hscratch : ∀ f p, ((s.compileByToolchain source).run files).1 ≠ .error (.scratch f p))
    (hfiles : ∀ context f, ((s.compileByToolchain source).run files).1 ≠ .error (.files context f))
    (hkept : (s.buildArtifact source destination).run files' = (.ok kept, after))
    (hthere : after.isFile s.surroundings.base destination = true) :
    (∃ library,
      ((s.compileByToolchain source).run files).1 = .ok ⟨library, .toolchain, source.label⟩ ∧
      ((s.loadPrebuilt destination).run after).1 =
        .ok ⟨library, .prebuilt (some destination), destination.stem?.getD destination.text⟩ ∧
      s.device.loadBytes label source.text.toUTF8 = .ok ⟨library, .prebuilt none, label⟩) ∨
    ∃ reason,
      ((s.compileByToolchain source).run files).1 = .error (.load source.label reason) ∧
      ((s.loadPrebuilt destination).run after).1 = .error (.load destination.text reason) ∧
      s.device.loadBytes label source.text.toUTF8 = .error (.load label reason) := by
  have hread := read_artifact hcopied' hkept hthere
  have hprebuilt : ((s.loadPrebuilt destination).run after).1 =
      match s.device.load source.text.toUTF8 with
      | .ok library =>
        .ok ⟨library, .prebuilt (some destination), destination.stem?.getD destination.text⟩
      | .error fault => .error (loadFault destination.text fault) := by
    have hfile := s.device.loadFile_of_read hread
    show s.device.loadPrebuilt after s.surroundings.base destination = _
    unfold HostDevice.loadPrebuilt
    cases hload : s.device.load source.text.toUTF8 <;> simp only [if_pos hthere, hfile, hload]
  rw [compileByToolchain_of_copied hcopied hscratch hfiles, hprebuilt]
  unfold HostDevice.loadBytes
  cases hload : s.device.load source.text.toUTF8 with
  | ok library => exact .inl ⟨library, rfl, rfl, rfl⟩
  | error fault =>
    obtain ⟨reason, rfl⟩ := HostDevice.load_fault hload
    exact .inr ⟨reason, rfl, rfl, rfl⟩

/-- A kernel by the three ways, in files with nothing in them. -/
theorem artifact_ways_agree_kernel :
    let k : Kernel := .stagedUnary "k" 32 (.call "f")
    let s := copyingSession ⟨.standard, Registry.empty.register "k" "" (.kernel k)⟩
      [CommandTemplate.inputPlace, CommandTemplate.outputPlace]
    let source : KernelSource := ⟨"k", "__asm(\"f\") kernel void k() \x7b\x7d", .standard⟩
    ∃ library after,
      (s.buildArtifact source ⟨"out/k.metallib"⟩).run .empty = (.ok ⟨"out/k.metallib"⟩, after) ∧
      ((s.compileByToolchain source).run .empty).1 = .ok ⟨library, .toolchain, "k"⟩ ∧
      ((s.loadPrebuilt ⟨"out/k.metallib"⟩).run after).1 =
        .ok ⟨library, .prebuilt (some ⟨"out/k.metallib"⟩), "k"⟩ ∧
      s.device.loadBytes "bytes" source.text.toUTF8 = .ok ⟨library, .prebuilt none, "bytes"⟩ := by
  intro k s source
  have hcommands : (s.settings.toolchain.commands s.surroundings source .empty).all fun c =>
      c.status? = some 0 ∧
        (c.inputs.all fun given => c.before.read [] given = .ok source.text.toUTF8) ∧
        c.after.read [] c.output = .ok source.text.toUTF8 := by decide +kernel
  have hcopied : ∀ c ∈ s.settings.toolchain.commands s.surroundings source .empty,
      c.Copied s.surroundings.base := by
    intro c hc
    obtain ⟨hstatus, hinputs, houtput⟩ := of_decide_eq_true (List.all_eq_true.mp hcommands c hc)
    refine ⟨CommandRun.exitedWith_iff.mpr hstatus, _, fun given hgiven => ?_, houtput⟩
    exact of_decide_eq_true (List.all_eq_true.mp hinputs given hgiven)
  have hmodule : ((s.compileByToolchain source).run .empty).1 =
      .ok ⟨⟨[⟨"k", k⟩], [], []⟩, .toolchain, "k"⟩ := by decide +kernel
  have hkept : ((s.buildArtifact source ⟨"out/k.metallib"⟩).run .empty).1 =
        .ok ⟨"out/k.metallib"⟩ ∧
      ((s.buildArtifact source ⟨"out/k.metallib"⟩).run .empty).2.isFile [] ⟨"out/k.metallib"⟩ := by
    decide +kernel
  have hstem : (Path.mk "out/k.metallib").stem? = some "k" := by decide +kernel
  rcases hrun : (s.buildArtifact source ⟨"out/k.metallib"⟩).run .empty with ⟨result, after⟩
  rw [hrun] at hkept
  obtain ⟨rfl, hthere⟩ := hkept
  rcases artifact_ways_agree s source ⟨"out/k.metallib"⟩ ⟨"out/k.metallib"⟩ "bytes" .empty .empty
    after hcopied hcopied (fun _ _ he => nomatch hmodule.symm.trans he)
    (fun _ _ he => nomatch hmodule.symm.trans he) hrun hthere with
    ⟨library, htoolchain, hprebuilt, hbytes⟩ | ⟨reason, hfault, -⟩
  · rw [hstem] at hprebuilt
    exact ⟨library, after, rfl, htoolchain, hprebuilt, hbytes⟩
  · cases hmodule.symm.trans hfault

end Session

end KernelLink
