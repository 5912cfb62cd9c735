import KernelLink.Machine.Permissions
import KernelLink.Tool.Copy
import KernelLink.Tool.Format

/-!
# What is known about files

Besides its content a file has a size, a kind, permissions and a number of names, which tools show
and ask for. A directory takes one block whatever is in it, and has a name of its own in each
directory inside it.
-/

namespace KernelLink

namespace FileTree

/-- How many bytes a block has that files are kept in. -/
def blockSize : Nat := 4096

/-- The size of what a node holds. -/
def nodeSize : FileNode → Nat
  | .file content => content.size
  | .directory => blockSize

/-- How many blocks of 512 bytes a node takes. -/
def nodeBlocks (node : FileNode) : Nat := (nodeSize node + blockSize - 1) / blockSize * 8

/-- How many names the node at a location has. -/
def nameCount (t : FileTree) (place : Location) (node : FileNode) : Nat :=
  if node.isDirectory then
    2 + ((t.below place).filter fun (way, inner) => way.length = 1 && inner.isDirectory).length
  else 1

/-- The kind and the permissions of a node as ten marks. -/
def modeMarks (t : FileTree) (place : Location) (node : FileNode) : ByteText :=
  (if node.isDirectory then 'd' else '-') :: Permissions.shown (t.mode place)

end FileTree

/-- The kind of a node in words. -/
def FileNode.kindName : FileNode → String
  | .file content => if content.isEmpty then "regular empty file" else "regular file"
  | .directory => "directory"

/-!
## The status of files

What is known about a file is written in a format in which each directive names one fact. Times are
not kept, so all of them are the earliest there is.
-/

/-- What a directive stands for. -/
inductive StatusFact where
  | text (s : ByteText)
  /-- A number, written in a base. -/
  | number (base n : Nat)

/-- A file whose status is asked for. -/
structure StatusSubject where
  path : ByteText
  place : Location
  node : FileNode
  bits : Nat
  names : Nat

/-- The earliest time. -/
def earliestTime : ByteText := byteText "1970-01-01 00:00:00.000000000 +0000"

/-- The fact that a letter names. -/
def StatusSubject.fact? (f : StatusSubject) (letter : Char) : Option StatusFact :=
  let kind := if f.node.isDirectory then 0o40000 else 0o100000
  match letter with
  | 'a' => some (.number 8 f.bits)
  | 'A' => some (.text ((if f.node.isDirectory then 'd' else '-') :: Permissions.shown f.bits))
  | 'b' => some (.number 10 (FileTree.nodeBlocks f.node))
  | 'B' => some (.number 10 512)
  | 'd' | 'i' | 't' | 'T' | 'u' | 'g' | 'W' | 'X' | 'Y' | 'Z' => some (.number 10 0)
  | 'D' => some (.number 16 0)
  | 'f' => some (.number 16 (kind + f.bits))
  | 'F' => some (.text (byteText f.node.kindName))
  | 'h' => some (.number 10 f.names)
  | 'm' => some (.text ['/'])
  | 'n' => some (.text f.path)
  | 'N' => some (.text (shellQuoted f.path))
  | 'o' => some (.number 10 FileTree.blockSize)
  | 's' => some (.number 10 (FileTree.nodeSize f.node))
  | 'U' | 'G' => some (.text ownerName)
  | 'w' => some (.text ['-'])
  | 'x' | 'y' | 'z' => some (.text earliestTime)
  | 'C' => some (.text ['?'])
  | _ => none

/-- A fact as a directive asks for it. -/
def StatusFact.shown (flags : List Char) (width : Nat) (places : Option Nat) :
    StatusFact → ByteText
  | text s => padText width (flags.contains '-') false [] (places.elim s s.take)
  | number base n =>
    let digits := Nat.toDigits base n
    let digits := List.replicate (places.getD 0 - digits.length) '0' ++ digits
    let front : ByteText := if flags.contains '#' ∧ base = 8 then ['0']
      else if flags.contains '#' ∧ base = 16 then ['0', 'x'] else []
    padText width (flags.contains '-') (flags.contains '0' && places.isNone) [] (front ++ digits)

/-- The facts that a format asks for; with `escapes` backslashes count. -/
def StatusSubject.text (f : StatusSubject) (escapes : Bool) : (most : Nat) → ByteText → ByteText
  | 0, _ | _, [] => []
  | most + 1, '%' :: s =>
    let flags := s.takeWhile ['-', '+', ' ', '0', '#', '\x27', 'I'].contains
    let s := s.drop flags.length
    let digits := s.takeWhile (·.isDigit)
    let s := s.drop digits.length
    let (places, s) : Option Nat × ByteText := match s with
      | '.' :: rest =>
        let (n, rest) := Shell.digitsOf 10 rest
        (some n, rest)
      | s => (none, s)
    match s with
    | [] => ['%']
    | '%' :: rest => '%' :: f.text escapes most rest
    | letter :: rest =>
      let here := match f.fact? letter with
        | some fact => fact.shown flags (Shell.digitsOf 10 digits).1 places
        | none => ['?']
      here ++ f.text escapes most rest
  | most + 1, c :: s =>
    let style : EscapeStyle := ⟨true, true, false, false, false⟩
    match c, escapes, style.escape s with
    | '\\', true, .text front length => front ++ f.text escapes most (s.drop length)
    | c, _, _ => c :: f.text escapes most s

/-- How a status is written if nothing is said about that. -/
def ordinaryStatus : String :=
  "  File: %n\n  Size: %-10s\tBlocks: %-10b IO Block: %-6o %F\n" ++
  "Device: 0,0\tInode: %-10i  Links: %h\n" ++
  "Access: (%04a/%A)  Uid: (%5u/%8U)   Gid: (%5g/%8G)\n" ++
  "Access: %x\nModify: %y\nChange: %z\n Birth: %w\n"

def terseStatus : String := "%n %s %b %f %u %g %D %i %h %t %T %X %Y %Z %W %o\n"

def statusTable : OptionTable where
  flags := [('L', "dereference"), ('f', "file-system"), ('t', "terse")]
  valued := [('c', "format"), ('\x01', "printf"), ('\x02', "cached")]

/-- Writes the status of files. -/
def statusTool : Tool := fun call t =>
  withArguments statusTable 1 call t fun a =>
    let given? := (a.options.filter fun o => o.letter = 'c' || o.letter = '\x01').getLast?
    let (format, escapes, finish) : ByteText × Bool × ByteText := match given? with
      | some o => if o.letter = 'c' then (o.value, false, ['\n']) else (o.value, true, [])
      | none => (byteText (if a.has 't' then terseStatus else ordinaryStatus), false, [])
    if a.operands.isEmpty then (call.usage [byteText "missing operand"], t)
    else
      eachOperand (fun path t =>
        match call.stat t path, call.place? t path with
        | .ok node, some place =>
          let f : StatusSubject := ⟨path, place, node, t.mode place, t.nameCount place node⟩
          (.said (f.text escapes format.length format ++ finish), t)
        | .ok _, none => (.quiet, t)
        | .error f, _ =>
          let what := if a.has 'f' then "cannot read file system information for"
            else "cannot statx"
          (call.about what path f, t)) a.operands t

end KernelLink
