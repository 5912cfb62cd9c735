import KernelLink.RunFault
import KernelLink.Source.Compose

/-!
# Modules

A module is a library together with where it came from and what it is called. There are three ways
to one: compiling a source in process, building it with the toolchain, and loading a binary that
was built before. The ways differ in the faults they can end with, not in the library they give.
-/

namespace KernelLink

/-- How a source becomes a module. -/
inductive Strategy where
  | inProcess
  | toolchain
deriving DecidableEq, Repr

def Strategy.display : Strategy → String
  | inProcess => "dynamic"
  | toolchain => "toolchain"

/-- Where a module came from. -/
inductive Provenance where
  | inProcess
  | toolchain
  /-- Loaded from a file, or from bytes that were at hand. -/
  | prebuilt (path : Option Path)
deriving DecidableEq, Repr

def Provenance.display : Provenance → String
  | inProcess => "Dynamic"
  | toolchain => "Toolchain"
  | prebuilt path =>
    let shown := match path with
      | some p => "Some(" ++ quotedText p.text ++ ")"
      | none => "None"
    "Prebuilt \x7b path: " ++ shown ++ " \x7d"

structure CompiledModule where
  library : Library
  provenance : Provenance
  label : String
deriving DecidableEq, Repr

namespace CompiledModule

def entryNames (m : CompiledModule) : List String := m.library.functionNames

def hasEntry (m : CompiledModule) (name : String) : Bool := m.entryNames.contains name

/-- The module as diagnostics show it. -/
def display (m : CompiledModule) : String :=
  "CompiledModule \x7b label: " ++ quotedText m.label ++ ", provenance: " ++
    m.provenance.display ++ ", entry_names: " ++ quotedList m.entryNames ++ ", .. \x7d"

/-- The module as reports show it. -/
def describe (m : CompiledModule) : String :=
  m.label ++ " exposes [" ++ ", ".intercalate m.entryNames ++ "]"

end CompiledModule

/-- A device's refusal to load an artifact. -/
def loadFault (artifact : String) : DeviceFault → RunFault
  | .load reason => .load artifact reason
  | fault => .device fault

namespace HostDevice

/-- Compiles a source in process. -/
def compileModule (d : HostDevice) (source : KernelSource) (version : Option LanguageVersion) :
    Except RunFault CompiledModule :=
  match d.compile source.text version with
  | .ok library => .ok ⟨library, .inProcess, source.label⟩
  | .error (.compile diagnostic) => .error (.compile diagnostic)
  | .error fault => .error (.device fault)

/-- Loads an artifact from a file. -/
def loadFile (d : HostDevice) (t : FileTree) (base : Location) (p : Path) :
    Except DeviceFault Library :=
  match t.read base p with
  | .ok content => d.load content
  | .error f => .error (.load (p.text ++ ": " ++ f.message))

/-- Loads a module that was built before. -/
def loadPrebuilt (d : HostDevice) (t : FileTree) (base : Location) (p : Path) :
    Except RunFault CompiledModule :=
  if t.isFile base p then
    match d.loadFile t base p with
    | .ok library => .ok ⟨library, .prebuilt (some p), p.stem?.getD p.text⟩
    | .error fault => .error (loadFault p.text fault)
  else .error (.load p.text "artifact not found")

/-- Loads a module from bytes. -/
def loadBytes (d : HostDevice) (label : String) (bytes : ByteArray) :
    Except RunFault CompiledModule :=
  match d.load bytes with
  | .ok library => .ok ⟨library, .prebuilt none, label⟩
  | .error fault => .error (loadFault label fault)

end HostDevice

end KernelLink
