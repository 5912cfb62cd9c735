import KernelLink.Machine.Path

/-!
# Files

A file tree is a finite map from locations to files and directories. Paths are followed name by
name, so a missing directory, a file in the place of a directory and a name that is too long are
told apart, and each operation refuses for the reason that comes first on the way.

Removing a directory takes away everything below it and nothing else; that is all a scratch
directory needs to leave no trace.
-/

namespace KernelLink

/-- Why a file operation is refused. -/
inductive FileFault where
  | notFound
  | permissionDenied
  | alreadyExists
  | notADirectory
  | isADirectory
  | nameTooLong
  /-- A copy of something that is no file. -/
  | notAFile
  /-- A file that may be run but says not by what. -/
  | notAProgram
  /-- A NUL character in a path. -/
  | nulInPath
  /-- A NUL character in a program's name or arguments. -/
  | nulInArgument
deriving DecidableEq, Repr

namespace FileFault

/-- The reason in words. -/
def reason : FileFault → String
  | notFound => "No such file or directory"
  | permissionDenied => "Permission denied"
  | alreadyExists => "File exists"
  | notADirectory => "Not a directory"
  | isADirectory => "Is a directory"
  | nameTooLong => "File name too long"
  | notAProgram => "Exec format error"
  | notAFile => "the source path is neither a regular file nor a symlink to a regular file"
  | nulInPath => "file name contained an unexpected NUL byte"
  | nulInArgument => "nul byte found in provided data"

/-- The number of a reason that the operating system gives. -/
def number? : FileFault → Option Nat
  | notFound => some 2
  | notAProgram => some 8
  | permissionDenied => some 13
  | alreadyExists => some 17
  | notADirectory => some 20
  | isADirectory => some 21
  | nameTooLong => some 36
  | _ => none

def message (f : FileFault) : String :=
  match f.number? with
  | some n => f.reason ++ " (os error " ++ toString n ++ ")"
  | none => f.reason

end FileFault

/-- The names on the way down from the root. -/
abbrev Location := List String

inductive FileNode where
  | file (content : ByteArray)
  | directory

namespace FileNode

def isDirectory : FileNode → Bool
  | directory => true
  | file _ => false

/-- Whether two nodes are of one kind and hold the same. -/
def isSame : FileNode → FileNode → Bool
  | file a, file b => a.data == b.data
  | directory, directory => true
  | _, _ => false

end FileNode

/-- The permissions of what nobody gave any. -/
def FileNode.ordinaryMode : FileNode → Nat
  | file _ => 0o644
  | directory => 0o755

/-- Files and directories by location. The root is always there. Permissions that were given stand
beside the map, because they are no part of what a file holds. -/
structure FileTree where
  nodes : List (Location × FileNode)
  modes : List (Location × Nat)

/-- The longest name, in bytes. -/
def nameLimit : Nat := 255

/-- The longest path, in bytes. -/
def pathLimit : Nat := 4095

namespace FileTree

def empty : FileTree := ⟨[], []⟩

def get? (t : FileTree) (place : Location) : Option FileNode :=
  if place.isEmpty then some .directory
  else (t.nodes.find? (·.1 = place)).map (·.2)

/-- Puts a node at a location, in place of any other. -/
def put (t : FileTree) (place : Location) (node : FileNode) : FileTree :=
  { t with nodes := (place, node) :: t.nodes.filter (·.1 ≠ place) }

/-- Takes away a location and everything below it. -/
def remove (t : FileTree) (place : Location) : FileTree :=
  ⟨t.nodes.filter fun node => !place.isPrefixOf node.1,
    t.modes.filter fun mode => !place.isPrefixOf mode.1⟩

/-- The permissions of what is at a location. -/
def mode (t : FileTree) (place : Location) : Nat :=
  match t.modes.find? (·.1 = place), t.get? place with
  | some (_, bits), _ => bits
  | none, some node => node.ordinaryMode
  | none, none => 0

/-- Whether what is at a location may be run. -/
def mayRun (t : FileTree) (place : Location) : Bool := t.mode place &&& 0o111 ≠ 0

/-- Gives permissions. -/
def permit (t : FileTree) (place : Location) (bits : Nat) : FileTree :=
  { t with modes := (place, bits) :: t.modes.filter (·.1 ≠ place) }

/-- Gives what was made since an earlier tree the permissions that a mask leaves, unless it was
given others. -/
def masked (t : FileTree) (mask : Nat) (earlier : FileTree) : FileTree :=
  let isNew (place : Location) : Bool :=
    (earlier.get? place).isNone && !t.modes.any (·.1 = place)
  let bits (node : FileNode) : Nat :=
    let all := if node.isDirectory then 0o777 else 0o666
    all - (all &&& mask)
  t.nodes.foldl (fun t (place, node) =>
    if isNew place ∧ bits node ≠ node.ordinaryMode then t.permit place (bits node) else t) t

/-- What is below a location, by the way from there. -/
def below (t : FileTree) (place : Location) : List (Location × FileNode) :=
  (t.nodes.filter fun node => place.isPrefixOf node.1 && place.length < node.1.length).map
    fun node => (node.1.drop place.length, node.2)

/-- What is below a location by its way from there, in order of spelling. A slash marks
directories. -/
def listing (t : FileTree) (place : Location) : List String :=
  let names := (t.below place).map fun (way, node) =>
    "/".intercalate way ++ (match node with
      | .directory => "/"
      | .file _ => "")
  names.mergeSort fun a b => a ≤ b

/-! ## Following paths -/

/-- Follows names down from a directory. All but the last have to be directories. -/
def descend (t : FileTree) (place : Location) : List String → Except FileFault Location
  | [] => .ok place
  | name :: rest =>
    if name = "." then t.descend place rest
    else if name = ".." then t.descend place.dropLast rest
    else if nameLimit < name.utf8ByteSize then .error .nameTooLong
    else
      let next := place ++ [name]
      if rest.isEmpty then .ok next
      else match t.get? next with
        | some .directory => t.descend next rest
        | some (.file _) => .error .notADirectory
        | none => .error .notFound

/-- The location that a path means, with relative paths starting at `base`. The last name need not
exist. -/
def locate (t : FileTree) (base : Location) (p : Path) : Except FileFault Location :=
  if p.text.toList.contains '\x00' then .error .nulInPath
  else if p.isEmpty then .error .notFound
  else if pathLimit < p.text.utf8ByteSize then .error .nameTooLong
  else t.descend (if p.isAbsolute then [] else base) (p.pieces.filter (!·.isEmpty))

/-- What a path leads to. -/
def lookup (t : FileTree) (base : Location) (p : Path) : Except FileFault FileNode := do
  let place ← t.locate base p
  match t.get? place with
  | none => .error .notFound
  | some (.file content) =>
    if p.endsWithSlash then .error .notADirectory else .ok (.file content)
  | some .directory => .ok .directory

def isThere (t : FileTree) (base : Location) (p : Path) : Bool := (t.lookup base p).isOk

def isFile (t : FileTree) (base : Location) (p : Path) : Bool :=
  match t.lookup base p with
  | .ok (.file _) => true
  | _ => false

def isDirectory (t : FileTree) (base : Location) (p : Path) : Bool :=
  match t.lookup base p with
  | .ok .directory => true
  | _ => false

/-! ## Reading and writing -/

def read (t : FileTree) (base : Location) (p : Path) : Except FileFault ByteArray := do
  match ← t.lookup base p with
  | .file content => .ok content
  | .directory => .error .isADirectory

/-- Writes a whole file, creating it if need be. -/
def write (t : FileTree) (base : Location) (p : Path) (content : ByteArray) :
    Except FileFault FileTree := do
  let place ← t.locate base p
  match t.get? place with
  | some .directory => .error .isADirectory
  | _ => if p.endsWithSlash then .error .isADirectory else .ok (t.put place (.file content))

/-- Copies a file over another or to a new place, with its permissions. -/
def copy (t : FileTree) (base : Location) (source target : Path) : Except FileFault FileTree := do
  match ← t.lookup base source with
  | .file content => do
    let after ← t.write base target content
    pure (after.permit (← t.locate base target) (t.mode (← t.locate base source)))
  | .directory => .error .notAFile

/-- Creates a directory whose parent exists. -/
def makeDirectory (t : FileTree) (base : Location) (p : Path) : Except FileFault FileTree := do
  let place ← t.locate base p
  match t.get? place with
  | some _ => .error .alreadyExists
  | none => .ok (t.put place .directory)

end FileTree

/-! ## Changing a tree step by step -/

/-- Steps on a file tree. What was changed before a fault stays changed. -/
abbrev FileM := ExceptT FileFault (StateM FileTree)

namespace FileM

/-- A change that is made whole or not at all. -/
def change (f : FileTree → Except FileFault FileTree) : FileM Unit := do
  match f (← get) with
  | .ok t => set t
  | .error fault => throw fault

/-- Creates a directory; one that is already there will do. -/
def ensureDirectory (base : Location) (p : Path) : FileM Unit := do
  match (← get).makeDirectory base p with
  | .ok t => set t
  | .error fault => if (← get).isDirectory base p then pure () else throw fault

/-- Creates the first directory of a list; where its parent is missing, first those behind it. -/
def ensureWithin (base : Location) : List Path → FileM Unit
  | [] => pure ()
  | p :: above => do
    if p.isEmpty then pure ()
    else match (← get).makeDirectory base p with
      | .error .notFound => do
        ensureWithin base above
        ensureDirectory base p
      | _ => ensureDirectory base p

/-- Creates a directory and its missing parents. -/
def ensureDirectories (base : Location) (p : Path) : FileM Unit :=
  ensureWithin base (p :: p.ancestors)

/-- Creates the directories that a file is to stand in. -/
def ensureParent (base : Location) (p : Path) : FileM Unit :=
  match p.parent? with
  | some parent => if parent.isEmpty then pure () else ensureDirectories base parent
  | none => pure ()

/-- Writes a whole file, creating the directories it stands in. -/
def writeInto (base : Location) (p : Path) (content : ByteArray) : FileM Unit := do
  ensureParent base p
  change fun t => t.write base p content

end FileM

end KernelLink
