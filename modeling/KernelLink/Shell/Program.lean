import KernelLink.Machine.Program
import KernelLink.Shell.Run
import KernelLink.Tool.Standard

/-!
# The programs of a machine without compilers

A shell and the standard tools, as programs that can be launched. A program gets no input, its
output and its errors are collected, and what it did to the files stays however it ends.
-/

namespace KernelLink

open Shell

/-- The state that a program starts in: nothing to read, and two pipes for what it writes. -/
def startState (base : Location) (files : FileTree) : State where
  machine := ⟨files, #[.nowhere, .pipe [], .pipe []]⟩
  base
  streams := [(0, 0), (1, 1), (2, 2)]
  bindings := variablesFrom [(byteText "PATH", ⟨some standardPath, true, false⟩)] base
  functions := []
  aliases := []
  documents := []
  nextDocument := 0
  name := byteText "sh"
  arguments := []
  options := []
  status := 0
  substituted := none
  line := 0
  speaker := none
  loops := 0
  locals := none
  traps := []
  pending := []
  background := none
  resumed := none
  letters := 0
  mask := 0o22
  niceness := 0
  isSubshell := false
  process := firstProcess
  sent := []

/-- How deeply commands may be nested. -/
def nestingLimit : Nat := 5000

def standardRunner : Runner := .nested standardTool? nestingLimit

/-- Runs a program. -/
def runStart (p : Runner.Start) : ShellM Unit :=
  if ["sh", "dash"].contains (String.ofList p.tool) then do
    modify fun s => { s with name := p.name }
    standardRunner.untilEnd (standardRunner.shell p.args)
  else do
    if let some n ← standardRunner.launch Runner.launchDepth p.tool p.name p.args then
      throw (.signal n)

/-- The result of a program that has run. -/
def resultOf (stop : Option Shell.Stop) (s : State) : ProgramResult :=
  let status := match stop with
    | some (.signal _) => none
    | _ => some s.status
  ⟨status, bytesOf (s.machine.remaining 1), bytesOf (s.machine.remaining 2)⟩

/-- The programs of a machine without compilers. -/
def standardPrograms (base : Location) : Programs := fun name args files =>
  if (name :: args).any (·.toList.contains '\x00') then .error .nulInArgument
  else
    let start := startState base files
    let path := byteText name
    let search : ShellM (Except FileFault Runner.Start) := do
      standardRunner.start false Runner.launchDepth (← standardRunner.find path) path
        (args.map byteText)
    match (search.run.run start).1 with
    | .ok (.ok p) =>
      let (stop, s) := (ShellM.attempt (runStart p)).run.run start
      .ok (resultOf (stop.toOption.getD none) s, s.machine.files)
    | .ok (.error .notFound) =>
      if name.toList.contains '/' then
        match files.lookup base ⟨name⟩ with
        | .ok _ => .error .notFound
        | .error f => .error f
      else .error .notFound
    | .ok (.error f) => .error f
    | .error _ => .error .notFound

end KernelLink
