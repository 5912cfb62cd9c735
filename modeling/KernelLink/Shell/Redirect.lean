import KernelLink.Shell.Cursor
import KernelLink.Shell.Expand
import KernelLink.Tool.Basic

/-!
# Redirections

The targets of all redirections of a command are expanded before the first of them is opened. They
are then opened from left to right, and the first that cannot be is a fault; what was done to the
streams until then is undone by whoever asked for it.
-/

namespace KernelLink.Shell

/-- A redirection whose words have been expanded. -/
inductive Target where
  | file (stream : Nat) (mode : OpenMode) (path : ByteText)
  | join (stream other : Nat)
  | close (stream : Nat)
  | document (stream : Nat) (text : ByteText)

/-- A stream that has a name in the file system. -/
def namedStream? (path : ByteText) : Option Nat :=
  match String.ofList path with
  | "/dev/stdin" | "/dev/fd/0" => some 0
  | "/dev/stdout" | "/dev/fd/1" => some 1
  | "/dev/stderr" | "/dev/fd/2" => some 2
  | _ => none

namespace ShellM

/-- Expands the target of a redirection. -/
def targetOf (run : Substitute) : Redirection → ShellM Target
  | .file stream mode target => do pure (.file stream mode (← Word.whole run target .front))
  | .join stream other => do
    match ← Word.whole run other .front with
    | ['-'] => pure (.close stream)
    | [c] => if c.isDigit then pure (.join stream (c.toNat - '0'.toNat)) else bad
    | _ => bad
  | .document stream number => do
    match (← get).documents.find? (·.1 = number) with
    | some (_, w) => pure (.document stream (FieldPiece.text (← partsPieces run ⟨false, false⟩ w)))
    | none => pure (.document stream [])
where
  bad : ShellM Target := fault (byteText (SyntaxFault.message ⟨.badStream, 0⟩))

/-- Why a file cannot be opened. -/
def cannotOpen {α : Type} (creates : Bool) (path : ByteText) (f : FileFault) : ShellM α :=
  let reason := match f with
    | .notFound | .notADirectory => if creates then "Directory nonexistent" else "No such file"
    | f => f.reason
  fault (byteText (if creates then "cannot create " else "cannot open ") ++ path ++
    byteText (": " ++ reason))

/-- The file that is to be written, with what it holds at first. -/
def createFile (mode : OpenMode) (path : ByteText) : ShellM Location := do
  let s ← get
  let files := s.machine.files
  let place : Path := ⟨stringOf path⟩
  let isProtected := mode = .write && s.options.contains 'C' && files.isFile s.base place
  let keeps := mode = .append || mode = .readWrite
  let content := if keeps then (files.read s.base place).toOption.getD .empty else .empty
  let made : Except FileFault (Location × FileTree) := do
    if isProtected then .error .alreadyExists
    else
      let after ← files.write s.base place content
      let location ← after.locate s.base place
      .ok (location, if s.mask = 0o22 then after else after.masked s.mask files)
  match made with
  | .ok (location, files) =>
    set { s with machine := { s.machine with files } }
    pure location
  | .error f => cannotOpen true path f

/-- Opens a file as a channel. -/
def openPath (mode : OpenMode) (path : ByteText) : ShellM Nat := do
  let s ← get
  match namedStream? path with
  | some stream =>
    match s.streams.channel? stream with
    | some channel => pure channel
    | none => cannotOpen (mode ≠ .read) path .notFound
  | none =>
    if isNowhere path then openChannel .nowhere
    else if isZeros path then openChannel (if mode = .read then .pipe manyZeros else .nowhere)
    else if mode = .read then
      let place : Path := ⟨stringOf path⟩
      match s.machine.files.lookup s.base place, s.machine.files.locate s.base place with
      | .ok _, .ok location => openChannel (.file location 0 false true false)
      | .error f, _ => cannotOpen false path f
      | _, .error f => cannotOpen false path f
    else
      let location ← createFile mode path
      openChannel (.file location 0 (mode = .append) (mode = .readWrite) true)

def useStreams (f : StreamTable → StreamTable) : ShellM Unit :=
  modify fun s => { s with streams := f s.streams }

/-- Makes a stream go to its target. -/
def redirectTo : Target → ShellM Unit
  | .file stream mode path => do
    let channel ← openPath mode path
    useStreams (·.set stream channel)
  | .join stream other => do
    match (← get).streams.channel? other with
    | some channel => useStreams (·.set stream channel)
    | none => faultAbout (decimalText other) "Bad file descriptor"
  | .close stream => useStreams (·.close stream)
  | .document stream text => do
    let channel ← openChannel (.pipe text)
    useStreams (·.set stream channel)

/-- Expands redirections and opens them. -/
def redirect (run : Substitute) (rs : List Redirection) : ShellM Unit := do
  let targets ← rs.mapM (targetOf run)
  targets.forM redirectTo

/-- Runs something with streams of its own. -/
def withStreams (m : ShellM Unit) : ShellM Unit := do
  let streams := (← get).streams
  ensuring m (useStreams fun _ => streams)

end ShellM

end KernelLink.Shell
