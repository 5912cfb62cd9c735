import KernelLink.CommandLine.Usage
import KernelLink.Shell.Program
import Std.Time.DateTime.Timestamp

/-!
# The program

Everything is decided on a tree of files in memory. What is done here is to fill that tree with the
files that a command line can read, and to write back what is different afterwards.
-/

namespace KernelLink

/-- A tree with the directories on the way to a location. -/
def FileTree.withWay (t : FileTree) (place : Location) : FileTree :=
  (List.range place.length).foldl (fun t n => t.put (place.take (n + 1)) .directory) t

/-- The location that a path spells. -/
def Path.spelledLocation (p : Path) (base : Location) : Location :=
  let step (place : Location) (name : String) : Location :=
    if name.isEmpty ∨ name = "." then place
    else if name = ".." then place.dropLast
    else place ++ [name]
  p.pieces.foldl step (if p.isAbsolute then [] else base)

/-- Adds a file if it can be read. -/
def fetchFile (base : Location) (t : FileTree) (p : Path) : IO FileTree := do
  try
    let content ← IO.FS.readBinFile p.text
    let place := p.spelledLocation base
    pure ((t.withWay place.dropLast).put place (.file content))
  catch _ => pure t

/-- The files that settings can make a run read. -/
def Settings.shellPaths (s : Settings) : List Path :=
  match s.prebuilt with
  | none => []
  | some dir => Catalog.standard.shells.map fun shell => shellPath dir shell.entry

/-- Adds the files that a command line can read. -/
def fetchFiles (c : CommandLine) (t : FileTree) (base : Location) : IO FileTree := do
  let t ← c.settingsFile.toList.foldlM (fetchFile base) t
  match c.settings t base with
  | .ok s => s.shellPaths.foldlM (fetchFile base) t
  | .error _ => pure t

/-- Writes what is in one tree and not in another. -/
def writeBack (before after : FileTree) : IO Unit := do
  for (place, node) in after.nodes do
    let text := "/" ++ "/".intercalate place
    if !(before.get? place).any node.isSame then
      match node with
      | .directory => IO.FS.createDirAll text
      | .file content =>
        IO.FS.createDirAll ("/" ++ "/".intercalate place.dropLast)
        IO.FS.writeBinFile text content

/-- The working directory, the place for scratch directories, and the time. -/
def findSurroundings : IO Surroundings := do
  let base := (Path.mk (← IO.currentDir).toString).spelledLocation []
  let temporary := (← IO.getEnv "TMPDIR").getD "/tmp"
  let now := (← Std.Time.Timestamp.now).toMillisecondsSinceUnixEpoch.toInt.toNat
  pure ⟨base, ⟨temporary⟩, standardPrograms base, now⟩

/-- A tree with nothing but the directories that a run starts from. -/
def startingTree (around : Surroundings) : FileTree :=
  (FileTree.empty.withWay around.base).withWay (around.temporary.spelledLocation around.base)

end KernelLink

open KernelLink in
/-- Carries out a command line and ends with its status. -/
def main (words : List String) : IO UInt32 := do
  let around ← findSurroundings
  let start := startingTree around
  let before ← match CommandLine.parse words with
    | .ok c => fetchFiles c start around.base
    | .error _ => pure start
  let (ending, after) := runCommandLine words around before
  IO.print ending.output
  IO.eprint ending.errors
  writeBack before after
  pure ending.status.toUInt32
