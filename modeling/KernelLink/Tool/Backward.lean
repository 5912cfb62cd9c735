import KernelLink.Tool.Lines
import KernelLink.Tool.Search

/-!
# Backwards

The lines of files, or whatever a separator makes of them, from the last to the first; and each line
from its last character to the first.
-/

namespace KernelLink

/-- Where a separator is found last in a text, and how long it is. -/
abbrev LastSeparator := ByteText → Option (Nat × Nat)

/-- Finds the last place of a text that some other text stands at. -/
def lastPlace (separator : ByteText) : LastSeparator := fun s =>
  let back := separator.reverse
  let rec search (skipped : Nat) : ByteText → Option (Nat × Nat)
    | [] => none
    | c :: rest =>
      if back.isPrefixOf (c :: rest) then
        some (s.length - skipped - separator.length, separator.length)
      else search (skipped + 1) rest
  search 0 s.reverse

/-- Finds the last place of a text at which an expression matches. -/
def lastMatch (r : Regex) : LastSeparator := fun s =>
  let subject : Regex.Subject := ⟨s.toArray, false, false⟩
  (List.range s.length).reverse.findSome? fun n =>
    (r.matchAt? subject n).map fun m => (n, m.last - n)

/-- The pieces of a text from the last to the first. `isBefore` says that separators begin pieces
instead of ending them. -/
def piecesBackward (find : LastSeparator) (isBefore : Bool) : (most : Nat) → (done : ByteText) →
    ByteText → List ByteText
  | 0, done, s => [s ++ done]
  | most + 1, done, s =>
    match find s with
    | none => [s ++ done]
    | some (n, length) =>
      let front := s.take n
      let mark := (s.drop n).take length
      let behind := s.drop (n + length) ++ done
      if isBefore then (mark ++ behind) :: piecesBackward find isBefore most [] front
      else behind :: piecesBackward find isBefore most mark front

def reversedLinesTable : OptionTable where
  flags := [('b', "before"), ('r', "regex")]
  valued := [('s', "separator")]

/-- Writes the pieces of files in backward order. -/
def reversedLinesTool : Tool := fun call t =>
  withArguments reversedLinesTable 1 call t fun a =>
    let given := (a.value? 's').getD ['\n']
    let find : Except RegexFault LastSeparator :=
      if a.has 'r' then (Regex.read basicSearch given).map lastMatch
      else .ok (lastPlace (if given.isEmpty then ['\x00'] else given))
    if a.has 'r' ∧ given.isEmpty then (call.complain [byteText "separator cannot be empty"], t)
    else match find with
      | .error f => (call.complain [byteText f.reason], t)
      | .ok find =>
        let isPlain : Bool := given = ['\n'] && !a.has 'r' && !a.has 'b'
        let backward (text : ByteText) : ByteText :=
          if isPlain then (byteLines text).reverse.flatten
          else (piecesBackward find (a.has 'b') text.length [] text).flatten
        let treat (p : ByteText) : Reply :=
          match call.operandText t p with
          | .ok text => .said (backward text)
          | .error .isADirectory =>
            call.complain [quotedIfNeeded p, byteText ": read error: Invalid argument"]
          | .error f => call.complain [byteText "failed to open ", shellQuoted p,
              byteText " for reading: ", f.text]
        let operands := inputsOf a.operands
        let reply := (operands.map treat).foldl Reply.followedBy .quiet
        ({ reply with taken := call.takenBy operands }, t)

/-- Writes each line backwards. -/
def reversedTool : Tool := fun call t =>
  withArguments { flags := [], valued := [] } 1 call t fun a =>
    let treat (p : ByteText) : Reply :=
      match call.operandText t p with
      | .ok text => .said ((byteLines text).flatMap fun line =>
          (withoutNewline line).reverse ++ (if line.getLast? = some '\n' then ['\n'] else []))
      | .error f => call.complain [byteText "cannot open ", p, byteText ": ", f.text]
    let operands := inputsOf a.operands
    let reply := (operands.map treat).foldl Reply.followedBy .quiet
    ({ reply with taken := call.takenBy operands }, t)

end KernelLink
