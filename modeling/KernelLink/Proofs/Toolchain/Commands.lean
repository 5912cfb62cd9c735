import KernelLink.Proofs.Device.Compilation
import KernelLink.Proofs.Machine.Reading
import KernelLink.Proofs.Toolchain.Scratch
import KernelLink.Session

/-!
# The commands that a build runs

A build can be watched: the same steps, with every command taken down when it is run. Taking them
down changes neither the result nor the files, so the log tells what the build itself does. It ends
in one of five ways inside of its scratch directory, and each of them is seen in the log: nothing
was run, the compiler failed, the linker failed, the linker left nothing, or there is a binary.
-/

namespace KernelLink

/-! ## A command as it was run -/

/-- What a command was told, the files that it found, and what launching it gave. -/
structure CommandRun where
  step : ToolStep
  command : CommandTemplate
  inputs : List Path
  output : Path
  before : FileTree
  answer : Except FileFault (ProgramResult × FileTree)

namespace CommandRun

variable {c : CommandRun} {fault : ToolFault}

/-- The files that the command left. -/
def after (c : CommandRun) : FileTree :=
  match c.answer with
  | .ok (_, files) => files
  | .error _ => c.before

/-- The command was launched and exited with a status. -/
def ExitedWith (c : CommandRun) (n : Nat) : Prop :=
  ∃ r files, c.answer = .ok (r, files) ∧ r.status = some n

def Succeeded (c : CommandRun) : Prop := c.ExitedWith 0

/-- The command could not be launched, or it died without an exit status. -/
def EndedWithoutStatus (c : CommandRun) : Prop :=
  (∃ f, c.answer = .error f) ∨ ∃ r files, c.answer = .ok (r, files) ∧ r.status = none

/-- The exit status, if there is one. -/
def status? (c : CommandRun) : Option Nat :=
  match c.answer with
  | .ok (r, _) => r.status
  | .error _ => none

/-- What the build makes of the command. -/
def fault? (c : CommandRun) : Option ToolFault :=
  match c.answer with
  | .error f => some (.notLaunched c.command.program f)
  | .ok (r, _) => if r.succeeded then none else some (.failed r.status r.combinedText)

/-- The command changed nothing outside of a place. -/
def KeepsTo (c : CommandRun) (place : Location) : Prop :=
  c.after.remove place = c.before.remove place

theorem exitedWith_iff {n : Nat} : c.ExitedWith n ↔ c.status? = some n := by
  unfold ExitedWith status?
  rcases c.answer with f | ⟨r, files⟩ <;> simp

theorem endedWithoutStatus_iff : c.EndedWithoutStatus ↔ c.status? = none := by
  unfold EndedWithoutStatus status?
  rcases c.answer with f | ⟨r, files⟩ <;> simp

theorem succeeded_iff_fault? : c.Succeeded ↔ c.fault? = none := by
  unfold Succeeded
  rw [exitedWith_iff]
  unfold status? fault? ProgramResult.succeeded
  rcases c.answer with f | ⟨r, files⟩ <;> simp

theorem status?_of_fault? (h : c.fault? = some fault) : fault.status? = c.status? := by
  unfold fault? at h
  unfold status?
  split at h
  · rename_i f ha
    cases h
    rw [ha]
    rfl
  · rename_i r files ha
    split at h
    · cases h
    · cases h
      rw [ha]
      rfl

end CommandRun

/-! ## Watching -/

/-- Steps of a run that take down the commands they run. -/
abbrev LogM := ExceptT RunFault (StateM (FileTree × List CommandRun))

namespace LogM

variable {α β : Type} {m : LogM α} {plain : RunM α}

/-- Steps that run no command. -/
def quietly (m : RunM α) : LogM α := fun (files, log) =>
  let (result, files) := m.run files
  (result, files, log)

/-- But for the log, the steps are the plain ones. -/
def Watches (m : LogM α) (plain : RunM α) : Prop :=
  ∀ files log, ∃ log', m.run (files, log) = ((plain.run files).1, (plain.run files).2, log')

theorem watches_quietly (m : RunM α) : Watches (quietly m) m := fun _ log => ⟨log, rfl⟩

theorem Watches.bind {f : α → LogM β} {g : α → RunM β} (hm : Watches m plain)
    (hf : ∀ a, Watches (f a) (g a)) : Watches (m >>= f) (plain >>= g) := by
  intro files log
  obtain ⟨log', h⟩ := hm files log
  rw [run_bind, run_bind, h]
  rcases plain.run files with ⟨e | a, files'⟩
  · exact ⟨log', rfl⟩
  · exact hf a files' log'

end LogM

namespace ToolchainSettings

variable {tools : ToolchainSettings} {s : Surroundings} {source : KernelSource} {workdir : Path}
  {step : ToolStep} {c : CommandTemplate} {inputs : List Path} {output : Path} {files : FileTree}

/-- A command as the toolchain runs it. -/
def commandRun (tools : ToolchainSettings) (s : Surroundings) (step : ToolStep)
    (c : CommandTemplate) (inputs : List Path) (output : Path) (files : FileTree) : CommandRun where
  step := step
  command := c
  inputs := inputs
  output := output
  before := files
  answer := s.programs c.program (c.render tools.language.stdFlag inputs output) files

theorem run_runStep : (tools.runStep s step c inputs output).run files =
    (match (tools.commandRun s step c inputs output files).fault? with
      | none => .ok ()
      | some fault => .error (.toolchain step fault),
    (tools.commandRun s step c inputs output files).after) := by
  unfold runStep commandRun CommandRun.fault? CommandRun.after ExceptT.run
  dsimp only
  cases s.programs c.program (c.render tools.language.stdFlag inputs output) files with
  | error f => rfl
  | ok answer =>
    dsimp only
    split <;> rfl

/-- Runs one of the two commands and takes it down. -/
def watchedStep (tools : ToolchainSettings) (s : Surroundings) (step : ToolStep)
    (c : CommandTemplate) (inputs : List Path) (output : Path) : LogM Unit := fun (files, log) =>
  let (result, after) := (tools.runStep s step c inputs output).run files
  (result, after, log ++ [tools.commandRun s step c inputs output files])

theorem watches_watchedStep :
    LogM.Watches (tools.watchedStep s step c inputs output) (tools.runStep s step c inputs output) :=
  fun _ _ => ⟨_, rfl⟩

/-! ## The steps of a build -/

/-- Where a build writes its source. -/
def textPath (source : KernelSource) (workdir : Path) : Path :=
  workdir.join (fileStem source.label ++ ".metal")

def objectPath (source : KernelSource) (workdir : Path) : Path :=
  workdir.join (fileStem source.label ++ ".air")

def binaryPath (source : KernelSource) (workdir : Path) : Path :=
  workdir.join (fileStem source.label ++ ".metallib")

/-- Writes the source where the compiler is to find it. -/
def writeSource (s : Surroundings) (source : KernelSource) (workdir : Path) : RunM Unit :=
  RunM.files ("writing " ++ (textPath source workdir).text)
    (FileM.change fun files => files.write s.base (textPath source workdir) source.text.toUTF8)

/-- The binary, if the linker left one. -/
def findBinary (s : Surroundings) (source : KernelSource) (workdir : Path) : RunM Build := do
  if (← get).isThere s.base (binaryPath source workdir) then
    pure ⟨workdir, binaryPath source workdir⟩
  else throw (.toolchain .link (.noBinary (binaryPath source workdir)))

/-- What a build does in its scratch directory, whichever way its commands are run. -/
def stepsWith {m : Type → Type} [Monad m] (quietly : {α : Type} → RunM α → m α)
    (run : ToolStep → CommandTemplate → List Path → Path → m Unit) (tools : ToolchainSettings)
    (s : Surroundings) (source : KernelSource) (workdir : Path) : m Build := do
  quietly (writeSource s source workdir)
  run .compile tools.compiler [textPath source workdir] (objectPath source workdir)
  run .link tools.linker [objectPath source workdir] (binaryPath source workdir)
  quietly (findBinary s source workdir)

def steps (tools : ToolchainSettings) (s : Surroundings) (source : KernelSource) (workdir : Path) :
    RunM Build :=
  stepsWith id (tools.runStep s) tools s source workdir

def watchedSteps (tools : ToolchainSettings) (s : Surroundings) (source : KernelSource)
    (workdir : Path) : LogM Build :=
  stepsWith LogM.quietly (tools.watchedStep s) tools s source workdir

/-- A build is its steps in a scratch directory, and what is made of the binary there. -/
theorem build_eq {α : Type} {use : Build → RunM α} : tools.build s source use =
    withScratch s tools.scratch fun workdir => tools.steps s source workdir >>= use := by
  unfold build
  refine congrArg (withScratch s tools.scratch) (funext fun workdir => ?_)
  unfold steps stepsWith findBinary
  simp only [id, bind_assoc]
  refine bind_congr fun _ => bind_congr fun _ => bind_congr fun _ => bind_congr fun files => ?_
  change (if files.isThere s.base (binaryPath source workdir) = true then
    use ⟨workdir, binaryPath source workdir⟩ else _) = _
  by_cases hthere : files.isThere s.base (binaryPath source workdir) = true
  · rw [if_pos hthere, if_pos hthere, pure_bind]
  · rw [if_neg hthere, if_neg hthere]
    rfl

/-- Watching changes nothing. -/
theorem watches_watchedSteps (tools : ToolchainSettings) (s : Surroundings) (source : KernelSource)
    (workdir : Path) :
    LogM.Watches (tools.watchedSteps s source workdir) (tools.steps s source workdir) := by
  unfold watchedSteps steps stepsWith
  refine (LogM.watches_quietly _).bind fun _ => ?_
  refine watches_watchedStep.bind fun _ => ?_
  refine watches_watchedStep.bind fun _ => ?_
  exact LogM.watches_quietly _

/-! ## How a build ends -/

/-- The compiler's part in a build. -/
def compilerRun (tools : ToolchainSettings) (s : Surroundings) (source : KernelSource)
    (workdir : Path) (files : FileTree) : CommandRun :=
  tools.commandRun s .compile tools.compiler [textPath source workdir] (objectPath source workdir)
    files

/-- The linker's part in a build. -/
def linkerRun (tools : ToolchainSettings) (s : Surroundings) (source : KernelSource)
    (workdir : Path) (files : FileTree) : CommandRun :=
  tools.commandRun s .link tools.linker [objectPath source workdir] (binaryPath source workdir)
    files

/-- The ways the steps of a build end on files: with a result, the files that are left and the
commands that were run. -/
inductive Ends (tools : ToolchainSettings) (s : Surroundings) (source : KernelSource)
    (workdir : Path) (files : FileTree) : Except RunFault Build × FileTree × List CommandRun → Prop
  | unwritten {f : FileFault}
    (write : files.write s.base (textPath source workdir) source.text.toUTF8 = .error f) :
    Ends tools s source workdir files
      (.error (.files ("writing " ++ (textPath source workdir).text) f), files, [])
  | compile {written : FileTree} {compiler : CommandRun} {fault : ToolFault}
    (write : files.write s.base (textPath source workdir) source.text.toUTF8 = .ok written)
    (run : tools.compilerRun s source workdir written = compiler)
    (failed : compiler.fault? = some fault) :
    Ends tools s source workdir files
      (.error (.toolchain .compile fault), compiler.after, [compiler])
  | link {written : FileTree} {compiler linker : CommandRun} {fault : ToolFault}
    (write : files.write s.base (textPath source workdir) source.text.toUTF8 = .ok written)
    (run : tools.compilerRun s source workdir written = compiler)
    (compiled : compiler.fault? = none)
    (runLinker : tools.linkerRun s source workdir compiler.after = linker)
    (failed : linker.fault? = some fault) :
    Ends tools s source workdir files
      (.error (.toolchain .link fault), linker.after, [compiler, linker])
  | missing {written : FileTree} {compiler linker : CommandRun}
    (write : files.write s.base (textPath source workdir) source.text.toUTF8 = .ok written)
    (run : tools.compilerRun s source workdir written = compiler)
    (compiled : compiler.fault? = none)
    (runLinker : tools.linkerRun s source workdir compiler.after = linker)
    (linked : linker.fault? = none)
    (gone : linker.after.isThere s.base (binaryPath source workdir) = false) :
    Ends tools s source workdir files
      (.error (.toolchain .link (.noBinary (binaryPath source workdir))), linker.after,
        [compiler, linker])
  | built {written : FileTree} {compiler linker : CommandRun}
    (write : files.write s.base (textPath source workdir) source.text.toUTF8 = .ok written)
    (run : tools.compilerRun s source workdir written = compiler)
    (compiled : compiler.fault? = none)
    (runLinker : tools.linkerRun s source workdir compiler.after = linker)
    (linked : linker.fault? = none)
    (there : linker.after.isThere s.base (binaryPath source workdir) = true) :
    Ends tools s source workdir files
      (.ok ⟨workdir, binaryPath source workdir⟩, linker.after, [compiler, linker])

theorem run_files_change {context : String} {change : FileTree → Except FileFault FileTree}
    {t : FileTree} : (RunM.files context (FileM.change change)).run t =
      match change t with
      | .ok t' => (.ok (), t')
      | .error f => (.error (.files context f), t) := by
  show (Except.mapError _ ((FileM.change change).run t).1, ((FileM.change change).run t).2) = _
  rw [FileM.run_change]
  cases change t <;> rfl

theorem run_findBinary : (findBinary s source workdir).run files =
    (if files.isThere s.base (binaryPath source workdir) = true then
      .ok ⟨workdir, binaryPath source workdir⟩
    else .error (.toolchain .link (.noBinary (binaryPath source workdir))), files) := by
  unfold findBinary
  rw [run_bind]
  generalize binaryPath source workdir = binary
  change (if files.isThere s.base binary = true then _ else _ : RunM Build).run files = _
  split <;> rfl

theorem run_quietly {α : Type} {m : RunM α} {log : List CommandRun} :
    (LogM.quietly m).run (files, log) = ((m.run files).1, (m.run files).2, log) := rfl

theorem run_watchedStep {log : List CommandRun} :
    (tools.watchedStep s step c inputs output).run (files, log) =
      (match (tools.commandRun s step c inputs output files).fault? with
        | none => .ok ()
        | some fault => .error (.toolchain step fault),
      (tools.commandRun s step c inputs output files).after,
      log ++ [tools.commandRun s step c inputs output files]) := by
  unfold watchedStep
  change (((tools.runStep s step c inputs output).run files).1,
    ((tools.runStep s step c inputs output).run files).2, _) = _
  rw [run_runStep]

/-- **The steps of a build end in one of the five ways.** -/
theorem ends_watchedSteps (tools : ToolchainSettings) (s : Surroundings) (source : KernelSource)
    (workdir : Path) (files : FileTree) :
    Ends tools s source workdir files ((tools.watchedSteps s source workdir).run (files, [])) := by
  unfold watchedSteps stepsWith
  rw [run_bind, run_quietly, writeSource, run_files_change]
  cases hwrite : files.write s.base (textPath source workdir) source.text.toUTF8 with
  | error f => exact .unwritten hwrite
  | ok written =>
    dsimp only
    rw [run_bind, run_watchedStep]
    generalize hcompiler : tools.commandRun s .compile tools.compiler [textPath source workdir]
      (objectPath source workdir) written = compiler
    cases hcompiled : compiler.fault? with
    | some fault => exact .compile hwrite hcompiler hcompiled
    | none =>
      dsimp only
      rw [run_bind, run_watchedStep]
      generalize hlinker : tools.commandRun s .link tools.linker [objectPath source workdir]
        (binaryPath source workdir) compiler.after = linker
      cases hlinked : linker.fault? with
      | some fault => exact .link hwrite hcompiler hcompiled hlinker hlinked
      | none =>
        dsimp only
        rw [run_quietly, run_findBinary]
        cases hthere : linker.after.isThere s.base (binaryPath source workdir) with
        | true => exact .built hwrite hcompiler hcompiled hlinker hlinked hthere
        | false => exact .missing hwrite hcompiler hcompiled hlinker hlinked hthere

/-! ## The log of a build -/

/-- The commands that building a source runs, in order. -/
def commands (tools : ToolchainSettings) (s : Surroundings) (source : KernelSource)
    (files : FileTree) : List CommandRun :=
  let watched := withScratch s tools.scratch fun workdir files =>
    let (_, after, log) := (tools.watchedSteps s source workdir).run (files, [])
    (.ok log, after)
  match (watched.run files).1 with
  | .ok log => log
  | .error _ => []

/-- The scratch directory of a build. -/
def scratchPath (tools : ToolchainSettings) (s : Surroundings) (files : FileTree) : Path :=
  freshScratch files s.base (scratchParent s tools.scratch)

/-- Each command of the build changes files inside of the scratch directory only. -/
def StaysInScratch (tools : ToolchainSettings) (s : Surroundings) (source : KernelSource)
    (files : FileTree) : Prop :=
  ∀ place, files.locate s.base (tools.scratchPath s files) = .ok place →
    ∀ c ∈ tools.commands s source files, c.KeepsTo place

/-- A build has no scratch directory and runs nothing; or its steps end in one of the five ways with
the commands of its log, and a binary is used before the directory is removed. -/
theorem build_cases (tools : ToolchainSettings) (s : Surroundings) (source : KernelSource)
    (files : FileTree) :
    (∃ f, tools.commands s source files = [] ∧ ∀ {α : Type} (use : Build → RunM α),
      (tools.build s source use).run files = (.error (.scratch f (tools.scratchPath s files)), files)) ∨
    ∃ place result after, files.locate s.base (tools.scratchPath s files) = .ok place ∧
      files.get? place = none ∧
      Ends tools s source (tools.scratchPath s files) (files.put place .directory)
        (result, after, tools.commands s source files) ∧
      ∀ {α : Type} (use : Build → RunM α), (tools.build s source use).run files =
        match result with
        | .ok b => (((use b).run after).1, ((use b).run after).2.remove place)
        | .error e => (.error e, after.remove place) := by
  rcases withScratch_cases s tools.scratch files with ⟨f, hrun⟩ | ⟨place, hplace, hg, hrun⟩
  · refine .inl ⟨f, ?_, fun use => ?_⟩
    · unfold commands
      dsimp only
      rw [hrun]
    · rw [build_eq, hrun]
      rfl
  · have hends := ends_watchedSteps tools s source (tools.scratchPath s files)
      (files.put place .directory)
    obtain ⟨log, hwatch⟩ := watches_watchedSteps tools s source (tools.scratchPath s files)
      (files.put place .directory) []
    have hlog : tools.commands s source files =
        ((tools.watchedSteps s source (tools.scratchPath s files)).run
          (files.put place .directory, [])).2.2 := by
      unfold commands
      generalize tools.watchedSteps s source = steps
      dsimp only
      rw [hrun]
      rfl
    rw [hwatch] at hends hlog
    dsimp only at hlog
    refine .inr ⟨place, _, _, hplace, hg, hlog ▸ hends, fun use => ?_⟩
    rw [build_eq, hrun]
    dsimp only
    rw [run_bind]
    unfold scratchPath
    generalize (tools.steps s source _).run (files.put place .directory) = ended
    rcases ended with ⟨_ | _, _⟩ <;> rfl

/-- What the steps leave outside of the scratch directory is what was there, if each command leaves
it alone. -/
theorem Ends.remove_eq {t after : FileTree} {place : Location} {result : Except RunFault Build}
    {log : List CommandRun} (h : Ends tools s source workdir files (result, after, log))
    (hfiles : files.remove place = t) (hplace : t.locate s.base workdir = .ok place)
    (hkeep : ∀ c ∈ log, c.KeepsTo place) : after.remove place = t := by
  have hwritten : ∀ {written}, files.write s.base (textPath source workdir) source.text.toUTF8 =
      .ok written → written.remove place = t := fun hwrite =>
    (FileTree.remove_write (FileTree.within_of_remove_eq hfiles)
      (plainName_fileStem _ rfl (by decide) (by decide)) hplace hwrite).trans hfiles
  have hcommand : ∀ c ∈ log, c.before.remove place = t → c.after.remove place = t :=
    fun c hc hbefore => (hkeep c hc).trans hbefore
  -- each step finds what the step before it left
  cases h with
  | unwritten => exact hfiles
  | compile hwrite hrun =>
    subst hrun
    exact hcommand _ (by simp) (hwritten hwrite)
  | link hwrite hrun _ hrunLinker | missing hwrite hrun _ hrunLinker
  | built hwrite hrun _ hrunLinker =>
    subst hrun hrunLinker
    exact hcommand _ (by simp) (hcommand (tools.compilerRun ..) (by simp) (hwritten hwrite))

end ToolchainSettings

/-! ## Telling the stage -/

/-- How a build ended is as its log tells. -/
structure TaggedByStage {α : Type} (base : Location) (log : List CommandRun)
    (result : Except RunFault α) : Prop where
  /-- The compiler comes first, and each command runs at most once. -/
  order : log.map (·.step) <+: [.compile, .link]
  /-- Nothing is run exactly where there is no directory or no source in it. -/
  unstarted : log = [] ↔ (∃ f p, result = .error (.scratch f p)) ∨
    ∃ context f, result = .error (.files context f)
  linker_runs : (∃ c ∈ log, c.step = .link) ↔ ∃ c ∈ log, c.step = .compile ∧ c.Succeeded
  compile_fault : (∃ fault, result = .error (.toolchain .compile fault)) ↔
    ∃ c ∈ log, c.step = .compile ∧ ¬c.Succeeded
  link_fault : (∃ fault, result = .error (.toolchain .link fault)) ↔
    ∃ c ∈ log, c.step = .link ∧ (¬c.Succeeded ∨ c.after.isThere base c.output = false)
  /-- A fault has the status of its command. Where that is zero, it is the binary that is missing. -/
  status : ∀ step fault, result = .error (.toolchain step fault) → ∃ c ∈ log, c.step = step ∧
    (fault.status? = none ↔ c.EndedWithoutStatus) ∧ ∀ n, fault.status? = some n ↔ c.ExitedWith n

namespace TaggedByStage

variable {α : Type} {base : Location} {result : Except RunFault α} {c l : CommandRun}
  {fault : ToolFault}

theorem nil (h : (∃ f p, result = .error (.scratch f p)) ∨
    ∃ context f, result = .error (.files context f)) : TaggedByStage base [] result := by
  have hno : ∀ step fault, result ≠ .error (.toolchain step fault) := by
    rintro step fault rfl
    rcases h with ⟨f, p, h⟩ | ⟨context, f, h⟩ <;> cases h
  exact {
    order := List.nil_prefix
    unstarted := iff_of_true rfl h
    linker_runs := by simp
    compile_fault := by simp [hno]
    link_fault := by simp [hno]
    status := fun step fault he => absurd he (hno step fault) }

theorem compile (hc : c.step = .compile) (hfailed : c.fault? = some fault)
    (h : result = .error (.toolchain .compile fault)) : TaggedByStage base [c] result := by
  have hnot : ¬c.Succeeded := by simp [CommandRun.succeeded_iff_fault?, hfailed]
  exact {
    order := by simp [hc]
    unstarted := by simp [h]
    linker_runs := by simp [hc, hnot]
    compile_fault := by simp [h, hc, hnot]
    link_fault := by simp [h, hc]
    status := by
      rintro step fault' he
      cases h.symm.trans he
      refine ⟨c, List.mem_cons_self, hc, ?_⟩
      simp [CommandRun.endedWithoutStatus_iff, CommandRun.exitedWith_iff,
        CommandRun.status?_of_fault? hfailed] }

/-- Both ways for the linker to have failed. -/
theorem link (hc : c.step = .compile) (hcompiled : c.Succeeded) (hl : l.step = .link)
    (hfailed : ¬l.Succeeded ∨ l.after.isThere base l.output = false)
    (hstatus : fault.status? = l.status?) (h : result = .error (.toolchain .link fault)) :
    TaggedByStage base [c, l] result where
  order := by simp [hc, hl]
  unstarted := by simp [h]
  linker_runs := by simp [hc, hl, hcompiled]
  compile_fault := by simp [h, hc, hl, hcompiled]
  link_fault := by simpa [h, hc, hl] using hfailed
  status := by
    rintro step fault' he
    cases h.symm.trans he
    refine ⟨l, List.mem_cons_of_mem _ List.mem_cons_self, hl, ?_⟩
    simp [CommandRun.endedWithoutStatus_iff, CommandRun.exitedWith_iff, hstatus]

/-- With a binary, what is made of it may fail in its own way only. -/
theorem built (hc : c.step = .compile) (hcompiled : c.Succeeded) (hl : l.step = .link)
    (hlinked : l.Succeeded) (hthere : l.after.isThere base l.output = true)
    (h : ∀ e, result = .error e → ∃ artifact reason, e = .load artifact reason) :
    TaggedByStage base [c, l] result := by
  have hno : ∀ {e}, (∀ artifact reason, e ≠ .load artifact reason) → result ≠ .error e :=
    fun hload he => by
      obtain ⟨artifact, reason, rfl⟩ := h _ he
      exact hload artifact reason rfl
  exact {
    order := by simp [hc, hl]
    unstarted := by simp [hno]
    linker_runs := by simp [hc, hl, hcompiled]
    compile_fault := by simp [hno, hc, hl, hcompiled]
    link_fault := by simp [hno, hc, hl, hlinked, hthere]
    status := fun step fault he => absurd he (hno (fun _ _ => nofun)) }

end TaggedByStage

namespace ToolchainSettings

theorem Ends.taggedByStage {α : Type} {tools : ToolchainSettings} {s : Surroundings}
    {source : KernelSource} {workdir : Path} {files after : FileTree}
    {ended : Except RunFault Build} {result : Except RunFault α} {log : List CommandRun}
    (h : Ends tools s source workdir files (ended, after, log))
    (hfault : ∀ e, ended = .error e → result = .error e)
    (hused : ∀ b, ended = .ok b → ∀ e, result = .error e →
      ∃ artifact reason, e = .load artifact reason) : TaggedByStage s.base log result := by
  cases h with
  | unwritten => exact .nil (.inr ⟨_, _, hfault _ rfl⟩)
  | compile _ hrun hfailed =>
    subst hrun
    exact .compile rfl hfailed (hfault _ rfl)
  | link _ hrun hcompiled hrunLinker hfailed =>
    subst hrun hrunLinker
    refine .link rfl (CommandRun.succeeded_iff_fault?.mpr hcompiled) rfl (.inl ?_)
      (CommandRun.status?_of_fault? hfailed) (hfault _ rfl)
    simp [CommandRun.succeeded_iff_fault?, hfailed]
  | missing _ hrun hcompiled hrunLinker hlinked hgone =>
    subst hrun hrunLinker
    have hlinked := CommandRun.succeeded_iff_fault?.mpr hlinked
    refine .link rfl (CommandRun.succeeded_iff_fault?.mpr hcompiled) rfl (.inr hgone) ?_
      (hfault _ rfl)
    exact (CommandRun.exitedWith_iff.mp hlinked).symm
  | built _ hrun hcompiled hrunLinker hlinked hthere =>
    subst hrun hrunLinker
    exact .built rfl (CommandRun.succeeded_iff_fault?.mpr hcompiled) rfl
      (CommandRun.succeeded_iff_fault?.mpr hlinked) hthere (hused _ rfl)

end ToolchainSettings

namespace Session

variable {s : Session} {source : KernelSource} {files : FileTree}

/-- A module made of a binary. -/
def loadBinary (s : Session) (source : KernelSource) (b : Build) (files : FileTree) :
    Except RunFault CompiledModule :=
  match s.device.loadFile files s.surroundings.base b.binary with
  | .ok library => .ok ⟨library, .toolchain, source.label⟩
  | .error fault => .error (loadFault source.label fault)

/-- Loading a binary changes no files. -/
theorem compileByToolchain_eq : s.compileByToolchain source =
    s.settings.toolchain.build s.surroundings source fun b files =>
      (s.loadBinary source b files, files) := by
  unfold compileByToolchain
  congr 1
  funext b files
  unfold loadBinary
  cases s.device.loadFile files s.surroundings.base b.binary <;> rfl

theorem loadBinary_fault {b : Build} {e : RunFault} (h : s.loadBinary source b files = .error e) :
    ∃ artifact reason, e = .load artifact reason := by
  unfold loadBinary HostDevice.loadFile at h
  split at h
  · cases h
  · rename_i fault hload
    cases h
    split at hload
    · obtain ⟨reason, rfl⟩ := HostDevice.load_fault hload
      exact ⟨_, reason, rfl⟩
    · cases hload
      exact ⟨_, _, rfl⟩

/--
**The toolchain cleans up after itself and tells which of its commands failed.**

Whatever the two commands do in the scratch directory, and wherever the build stops, the files are
afterwards as they were before. The log of the commands that were run decides how the build ended
and with which status, and a build that failed leaves no artifact.
-/
theorem compileByToolchain_cleans_up_and_tells (s : Session) (source : KernelSource)
    (destination : Path) (files : FileTree) (hclosed : files.Closed)
    (hstays : s.settings.toolchain.StaysInScratch s.surroundings source files) :
    ((s.compileByToolchain source).run files).2 = files ∧
    TaggedByStage s.surroundings.base
      (s.settings.toolchain.commands s.surroundings source files)
      ((s.compileByToolchain source).run files).1 ∧
    ∀ e, ((s.settings.toolchain.build s.surroundings source pure).run files).1 = .error e →
      (s.buildArtifact source destination).run files = (.error e, files) := by
  rw [compileByToolchain_eq]
  unfold buildArtifact ToolchainSettings.buildArtifact
  rcases ToolchainSettings.build_cases s.settings.toolchain s.surroundings source files with
    ⟨f, hlog, hrun⟩ | ⟨place, ended, after, hplace, hg, hends, hrun⟩
  · rw [hlog, hrun, hrun, hrun]
    refine ⟨rfl, .nil (.inl ⟨f, _, rfl⟩), fun e he => ?_⟩
    cases he
    rfl
  · have hafter : after.remove place = files :=
      hends.remove_eq (remove_put_directory hclosed hg) hplace (hstays place hplace)
    rw [hrun, hrun, hrun]
    cases ended with
    | error e =>
      dsimp only
      refine ⟨hafter, hends.taggedByStage ?_ nofun, fun e' he => ?_⟩
      · rintro e' he
        cases he
        rfl
      · cases he
        rw [hafter]
    | ok b =>
      refine ⟨hafter, hends.taggedByStage nofun ?_, nofun⟩
      rintro b' hb e he
      exact loadBinary_fault he

/-- Copies a file, told of two, and fails told of anything else. -/
def copyProgram : Programs := fun _ args files =>
  match args with
  | [given, made] =>
    match files.copy [] ⟨given⟩ ⟨made⟩ with
    | .ok after => .ok (⟨some 0, .empty, .empty⟩, after)
    | .error _ => .ok (⟨some 1, .empty, .empty⟩, files)
  | _ => .ok (⟨some 3, .empty, .empty⟩, files)

/-- A session whose compiler copies, and whose linker is told what is said. -/
def copyingSession (device : HostDevice) (linker : List String) : Session where
  device := device
  settings := { Settings.standard with
    toolchain := { ToolchainSettings.standard with
      compiler := ⟨"cp", [CommandTemplate.inputPlace, CommandTemplate.outputPlace]⟩
      linker := ⟨"cp", linker⟩ } }
  catalog := .standard
  surroundings := ⟨[], ⟨"/"⟩, copyProgram, 0⟩

/-- A linker that is told nothing fails after a compiler that did not. -/
theorem compileByToolchain_cleans_up_and_tells_link :
    let s := copyingSession ⟨.standard, .empty⟩ []
    let source : KernelSource := ⟨"k", "kernel void k() \x7b\x7d", .standard⟩
    let fault : RunFault := .toolchain .link (.failed (some 3) "")
    (s.compileByToolchain source).run .empty = (.error fault, .empty) ∧
      (s.buildArtifact source ⟨"out"⟩).run .empty = (.error fault, .empty) ∧
      ∃ c ∈ s.settings.toolchain.commands s.surroundings source .empty,
        c.step = .link ∧ c.ExitedWith 3 := by
  intro s source fault
  have hempty : ∀ t : FileTree, (t.nodes.isEmpty && t.modes.isEmpty) = true → t = .empty := by
    rintro ⟨nodes, modes⟩ h
    simpa [FileTree.empty] using h
  have hplace : FileTree.empty.locate [] (s.settings.toolchain.scratchPath s.surroundings .empty) =
      .ok ["revlink_000000"] := by decide +kernel
  have hleft : (s.settings.toolchain.commands s.surroundings source .empty).all fun c =>
      [c.before, c.after].all fun t => (t.remove ["revlink_000000"]).nodes.isEmpty &&
        (t.remove ["revlink_000000"]).modes.isEmpty := by decide +kernel
  have hstays : s.settings.toolchain.StaysInScratch s.surroundings source .empty := by
    intro place hlocate c hc
    obtain rfl := Except.ok.inj (hlocate.symm.trans hplace)
    have hboth := List.all_eq_true.mp (List.all_eq_true.mp hleft c hc)
    exact (hempty _ (hboth c.after (by simp))).trans (hempty _ (hboth c.before (by simp))).symm
  have hresult : ((s.compileByToolchain source).run .empty).1 = .error fault := by decide +kernel
  obtain ⟨hfiles, htagged, hartifact⟩ := compileByToolchain_cleans_up_and_tells s source ⟨"out"⟩
    .empty (fun _ _ => rfl) hstays
  obtain ⟨c, hc, hstep, -, hstatus⟩ := htagged.status .link _ hresult
  exact ⟨Prod.ext hresult hfiles, hartifact fault (by decide +kernel), c, hc, hstep,
    (hstatus 3).mp rfl⟩

end Session

end KernelLink
