import KernelLink.Machine.Files

/-!
# Programs

What an external program does is a function of its name, its arguments and the files: it cannot be
launched, or it ends with a status and texts and leaves changed files. Nothing else is assumed of
programs, so what is said about a toolchain holds for whatever its commands do.
-/

namespace KernelLink

/-- How a program ended and what it wrote. -/
structure ProgramResult where
  /-- Absent when a signal ended the program. -/
  status : Option Nat
  output : ByteArray
  errors : ByteArray

def ProgramResult.succeeded (r : ProgramResult) : Bool := r.status = some 0

/-- What launching a program does. A program that cannot be launched changes no files. -/
abbrev Programs :=
  String → List String → FileTree → Except FileFault (ProgramResult × FileTree)

/-- What surrounds a run and stays as it is. -/
structure Surroundings where
  /-- Where relative paths start. -/
  base : Location
  /-- Where scratch directories go unless another place is asked for. -/
  temporary : Path
  programs : Programs
  /-- Milliseconds since 1970. -/
  now : Nat

/-- The working directory as a path. -/
def Surroundings.basePath (s : Surroundings) : Path := ⟨"/" ++ "/".intercalate s.base⟩

end KernelLink
