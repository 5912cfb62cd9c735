import KernelLink.RunFault

/-!
# How a command line fails

A fault on the way from a command line to its end has a message and, below it, the causes it was
told by others, the nearest first. They are shown one per line, numbered if there are several.
-/

namespace KernelLink

inductive CommandLineFault where
  /-- The settings file cannot be used. -/
  | loading (p : Path) (fault : RunFault)
  | run (fault : RunFault)
  /-- Only macOS has the other back end. -/
  | noHardware
  | crashed
  | report (p : Path) (fault : FileFault)
  | jsonReport (p : Path) (fault : FileFault)
  | casesFailed (failed all : Nat)
deriving DecidableEq, Repr

namespace CommandLineFault

def message : CommandLineFault → String
  | loading p _ => "loading configuration " ++ p.text
  | run fault => fault.message
  | noHardware => "the metal backend is only available on macOS"
  | crashed => "suite worker panicked"
  | report p _ => "writing report " ++ p.text
  | jsonReport p _ => "writing JSON report " ++ p.text
  | casesFailed failed all =>
    toString failed ++ " of " ++ toString all ++ " cases did not pass"

/-- The causes below the message, the nearest first. -/
def causes : CommandLineFault → List String
  | loading _ fault => fault.message :: fault.cause?.toList
  | run fault => fault.cause?.toList
  | report _ fault => [fault.message]
  | jsonReport _ fault => [fault.message]
  | _ => []

/-- A text whose further lines start below its first. -/
def hanging (lead below : String) (text : String) : String :=
  lead ++ String.join (text.toList.map fun c =>
    if c = '\n' then "\n" ++ below else String.singleton c)

/-- Causes behind their numbers. -/
def numbered (n : Nat) : List String → List String
  | [] => []
  | cause :: rest => hanging ("    " ++ toString n ++ ": ") "       " cause :: numbered (n + 1) rest

def causeLines : List String → List String
  | [] => []
  | [cause] => ["", "Caused by:", hanging "    " "    " cause]
  | causes => ["", "Caused by:"] ++ numbered 0 causes

/-- What is shown to the user. -/
def shown (f : CommandLineFault) : String :=
  String.join ((("Error: " ++ f.message) :: causeLines f.causes).map (· ++ "\n"))

end CommandLineFault

end KernelLink
