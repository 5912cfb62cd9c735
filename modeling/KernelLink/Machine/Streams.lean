import KernelLink.Machine.Files
import KernelLink.Text.Bytes

/-!
# Streams

What a running program reads and writes goes through channels: files with a position in them, and
pipes, which keep what was written until it is read. A stream number names a channel, and several
numbers, of several programs, can name the same one: then they share its position, and what is
written through them stays in order.
-/

namespace KernelLink

inductive Channel where
  /-- Nothing to read, and what is written is lost. -/
  | nowhere
  /-- What was written and has not been read. -/
  | pipe (content : ByteText)
  | file (place : Location) (position : Nat) (append reads writes : Bool)

/-- The files, and the channels that were ever opened. -/
structure Machine where
  files : FileTree
  channels : Array Channel

/-- Streams by number, as the channels they name. -/
abbrev StreamTable := List (Nat × Nat)

namespace StreamTable

def channel? (table : StreamTable) (stream : Nat) : Option Nat :=
  (List.find? (·.1 = stream) table).map (·.2)

def close (table : StreamTable) (stream : Nat) : StreamTable := table.filter (·.1 ≠ stream)

def set (table : StreamTable) (stream channel : Nat) : StreamTable :=
  (stream, channel) :: table.close stream

end StreamTable

namespace Machine

/-- Opens a channel and names it. -/
def openChannel (m : Machine) (c : Channel) : Nat × Machine :=
  (m.channels.size, { m with channels := m.channels.push c })

def channel (m : Machine) (n : Nat) : Channel := m.channels[n]?.getD .nowhere

/-- The bytes of the file at a location. -/
def fileText (m : Machine) (place : Location) : ByteText :=
  match m.files.get? place with
  | some (.file content) => byteTextOf content
  | _ => []

/-- What can still be read from a channel. -/
def remaining (m : Machine) (n : Nat) : ByteText :=
  match m.channel n with
  | .nowhere => []
  | .pipe content => content
  | .file place position _ reads _ => if reads then (m.fileText place).drop position else []

/-- Reads so many bytes off a channel. -/
def advance (m : Machine) (n count : Nat) : Machine :=
  let step : Channel → Channel
    | .nowhere => .nowhere
    | .pipe content => .pipe (content.drop count)
    | .file place position append reads writes => .file place (position + count) append reads writes
  { m with channels := m.channels.modify n step }

/-- Text with other text written over it from a position on. -/
def overwritten (content : ByteText) (position : Nat) (text : ByteText) : ByteText :=
  let front := content.take position
  front ++ List.replicate (position - content.length) '\x00' ++ text ++
    content.drop (position + text.length)

/-- Writes to a channel, if it can be written to. -/
def write (m : Machine) (n : Nat) (text : ByteText) : Option Machine :=
  match m.channel n with
  | .nowhere => some m
  | .pipe content =>
      some { m with channels := m.channels.setIfInBounds n (.pipe (content ++ text)) }
  | .file place position append reads writes =>
    if !writes then none
    else match m.files.get? place with
      | some (.file content) =>
        let content := byteTextOf content
        let start := if append then content.length else position
        let after := overwritten content start text
        some {
          files := m.files.put place (.file (bytesOf after))
          channels :=
            m.channels.setIfInBounds n (.file place (start + text.length) append reads writes) }
      | _ => some m

end Machine

end KernelLink
