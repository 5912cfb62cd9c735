import KernelLink.Catalog
import KernelLink.Launch
import KernelLink.Settings.Saved
import KernelLink.Toolchain.Build

/-!
# Sessions

One device, one toolchain, one catalog and one set of settings, and what can be done with them:
making modules, keeping binaries, and building all kernel shells where a later run will look for
them.
-/

namespace KernelLink

structure Session where
  device : HostDevice
  settings : Settings
  catalog : Catalog
  surroundings : Surroundings

/-- The host device that settings describe, knowing a catalog's behaviours. -/
def Settings.hostDevice (s : Settings) (c : Catalog) : HostDevice := ⟨s.host, c.registry⟩

/-- Where the binary of a kernel shell is kept. -/
def shellPath (dir : Path) (entry : String) : Path := dir.join (entry ++ ".metallib")

/-- Reads settings from a file and checks them. -/
def Settings.load (t : FileTree) (base : Location) (p : Path) : Except RunFault Settings :=
  match t.read base p with
  | .error f => .error (.files ("reading " ++ p.text) f)
  | .ok content =>
    match String.fromUTF8? content with
    | some text => (Settings.readText p text).mapError .settings
    | none => .error (.settings (.malformed p))

namespace Session

def version (s : Session) : StateM FileTree (Option String) :=
  s.settings.toolchain.version s.surroundings

/-- Compiles a source in process. -/
def compileInProcess (s : Session) (source : KernelSource) (version : Option LanguageVersion) :
    Except RunFault CompiledModule :=
  s.device.compileModule source version

/-- Builds a source with the toolchain and loads the binary before it is removed. -/
def compileByToolchain (s : Session) (source : KernelSource) : RunM CompiledModule :=
  s.settings.toolchain.build s.surroundings source fun b => fun t =>
    match s.device.loadFile t s.surroundings.base b.binary with
    | .ok library => (.ok ⟨library, .toolchain, source.label⟩, t)
    | .error fault => (.error (loadFault source.label fault), t)

def compile (s : Session) (strategy : Strategy) (source : KernelSource)
    (version : Option LanguageVersion) : RunM CompiledModule :=
  match strategy with
  | .inProcess => fun t => (s.compileInProcess source version, t)
  | .toolchain => s.compileByToolchain source

/-- Loads a binary that was built before. -/
def loadPrebuilt (s : Session) (p : Path) : RunM CompiledModule := fun t =>
  (s.device.loadPrebuilt t s.surroundings.base p, t)

/-- Builds a source and keeps the binary at a path. -/
def buildArtifact (s : Session) (source : KernelSource) (destination : Path) : RunM Path :=
  s.settings.toolchain.buildArtifact s.surroundings source destination

/-- Builds every kernel shell of the catalog into a directory. -/
def buildShells (s : Session) (out : Path) : RunM (List Path) :=
  s.catalog.shells.mapM fun shell => s.buildArtifact shell.source (shellPath out shell.entry)

end Session

end KernelLink
