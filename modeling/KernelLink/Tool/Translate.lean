import KernelLink.Shell.Pattern
import KernelLink.Tool.Lines

/-!
# Replacing characters

A set of characters is written as parts, one after the other. A set is used in two ways: as what it
holds, and as a sequence that is laid beside another one, so that each character stands for the one
next to it. Sequences are kept as runs of equal characters, because a part may repeat one character
very often.
-/

namespace KernelLink

/-! ## Sets as they are written -/

/-- A character of a set, and whether a backslash kept it from meaning something else. -/
structure SetChar where
  char : Char
  escaped : Bool

def SetChar.is (x : SetChar) (c : Char) : Bool := x.char = c && !x.escaped

/-- What a backslash and the text behind it stand for, how much of that text belongs to it, and what
there is to warn about. -/
def setEscape (s : ByteText) : SetChar × Nat × Option ByteText :=
  let valueOf (ds : ByteText) : Nat := ds.foldl (fun n d => 8 * n + (d.toNat - '0'.toNat)) 0
  let digits := (s.take 3).takeWhile octalDigit
  match s, digits with
  | [], _ => (⟨'\\', false⟩, 0,
      some (byteText "warning: an unescaped backslash at end of string is not portable"))
  | _, [a, b, c] =>
    if valueOf digits < 256 then (⟨Char.ofNat (valueOf digits), true⟩, 3, none)
    else (⟨Char.ofNat (valueOf [a, b]), true⟩, 2,
      some (joinText [byteText "warning: the ambiguous octal escape \\", digits,
        byteText " is being\n\tinterpreted as the 2-byte sequence \\0", [a, b, ',', ' ', c]]))
  | c :: _, [] =>
    let plain := (if c = 'e' then none else escapeLetter? c).getD c
    (⟨plain, true⟩, 1, none)
  | _, ds => (⟨Char.ofNat (valueOf ds), true⟩, ds.length, none)

/-- The characters of a text of at most a length, and what there is to warn about. -/
def setText : (most : Nat) → ByteText → List SetChar × List ByteText
  | 0, _ | _, [] => ([], [])
  | most + 1, '\\' :: s =>
    let (x, length, warning) := setEscape s
    let (xs, warnings) := setText most (s.drop length)
    (x :: xs, warning.toList ++ warnings)
  | most + 1, c :: s =>
    let (xs, warnings) := setText most s
    (⟨c, false⟩ :: xs, warnings)

/-! ## Parts -/

/-- A part of a set. -/
inductive SetPart where
  | char (c : Char)
  | range (low high : Char)
  | named (name : String) (members : ByteText)
  /-- All characters that are equivalent to one, which is only that one. -/
  | equivalent (c : Char)
  /-- A character many times; none means as often as is needed. -/
  | fill (c : Char) (count : Option Nat)

/-- Why a set cannot be read. -/
inductive SetFault where
  | reversed (low high : Char)
  | missingName
  | unknownName (name : ByteText)
  | missingEquivalent
  | notOneEquivalent (s : ByteText)
  | badCount (s : ByteText)

/-- The text up to one character and a closing bracket, and what follows them. -/
def setName? (finish : Char) : List SetChar → Option (ByteText × List SetChar)
  | a :: b :: rest =>
    if a.is finish ∧ b.is ']' then some ([], rest)
    else (setName? finish (b :: rest)).map fun (name, rest) => (a.char :: name, rest)
  | _ => none

/-- Whether a star, digits and a closing bracket are in front. -/
def isCountFront : List SetChar → Bool
  | star :: rest =>
    star.is '*' && ((rest.dropWhile (·.char.isDigit)).head?.any (·.is ']'))
  | [] => false

/-- A character that is repeated, behind its opening bracket. -/
def setFill? : List SetChar → Except SetFault (Option (SetPart × List SetChar))
  | c :: star :: rest =>
    let count := rest.takeWhile fun x => !x.escaped && x.char ≠ ']'
    let digits := count.map (·.char)
    match star.is '*', rest.drop count.length with
    | true, bracket :: rest =>
      let base := if digits.head? = some '0' then 8 else 10
      let (n, left) := Shell.digitsOf base digits
      if !bracket.is ']' then .ok none
      else if digits.isEmpty then .ok (some (.fill c.char none, rest))
      else if left.isEmpty ∧ n < 0xffffffffffffffff then
        .ok (some (.fill c.char (if n = 0 then none else some n), rest))
      else .error (.badCount digits)
    | _, _ => .ok none
  | _ => .ok none

/-- A part that stands in brackets, behind the opening one. -/
def bracketPart? (s : List SetChar) : Except SetFault (Option (SetPart × List SetChar)) :=
  let opening (c : Char) : Bool := s.head?.any (·.is c)
  let named? := if opening ':' then setName? ':' (s.drop 1)
    else if opening '=' then setName? '=' (s.drop 1) else none
  match named? with
  | none => setFill? s
  | some ([], _) => .error (if opening ':' then .missingName else .missingEquivalent)
  | some (name, rest) =>
    let part? : Option SetPart := if opening ':' then
        (Shell.namedClass? name).map fun fits =>
          .named (String.ofList name) (((List.range 256).map Char.ofNat).filter fits)
      else match name with
        | [c] => some (.equivalent c)
        | _ => none
    match part? with
    | some part => .ok (some (part, rest))
    | none =>
      if isCountFront (s.drop 1) then setFill? s
      else .error (if opening ':' then .unknownName name else .notOneEquivalent name)

/-- Reads a set of at most so many parts. Whatever is longer than one character takes three. -/
def readSet : (most : Nat) → List SetChar → Except SetFault (List SetPart)
  | 0, _ | _, [] => .ok []
  | most + 1, first :: rest => do
    let found? ← if first.is '[' ∧ rest.length ≥ 2 then bracketPart? rest else .ok none
    match found?, rest with
    | some (part, rest), _ => do .ok (part :: (← readSet most rest))
    | none, dash :: last :: more =>
      if !dash.is '-' then do .ok (.char first.char :: (← readSet most rest))
      else if last.char < first.char then .error (.reversed first.char last.char)
      else do .ok (.range first.char last.char :: (← readSet most more))
    | none, rest => do .ok (.char first.char :: (← readSet most rest))

/-! ## Sequences -/

/-- Characters, each with how often it follows itself. -/
abbrev CharRuns := List (Char × Nat)

def runsLength (runs : CharRuns) : Nat := runs.foldl (fun n (_, count) => n + count) 0

def byteRange (low high : Char) : ByteText :=
  (List.range (high.toNat + 1 - low.toNat)).map fun n => Char.ofNat (low.toNat + n)

/-- What a part stands for; `needed` is how often a character is repeated without a count. -/
def SetPart.runs (needed : Nat) : SetPart → CharRuns
  | char c | equivalent c => [(c, 1)]
  | range low high => (byteRange low high).map fun c => (c, 1)
  | named _ members => members.map fun c => (c, 1)
  | fill c count => [(c, count.getD needed)]

/-- What a set stands for. -/
def setRuns (needed : Nat) (parts : List SetPart) : CharRuns := parts.flatMap (·.runs needed)

/-- A set that is as long as another one if it says of one character that it is repeated. -/
def filledRuns (length : Nat) (parts : List SetPart) : CharRuns :=
  setRuns (length - runsLength (setRuns 0 parts)) parts

/-- The characters of two sequences that stand beside each other, as long as there are both. -/
def pairRuns : CharRuns → CharRuns → List (Char × Char)
  | (a, m) :: xs, (b, n) :: ys =>
    let here := if m = 0 ∨ n = 0 then [] else [(a, b)]
    here ++
      (if m < n then pairRuns xs ((b, n - m) :: ys)
      else if n < m then pairRuns ((a, m - n) :: xs) ys
      else pairRuns xs ys)
  | _, _ => []
termination_by xs ys => xs.length + ys.length

/-! ## What can be replaced -/

/-- Why characters of one set cannot be replaced by those of another. -/
inductive TranslationFault where
  | fillInFirst
  | severalFills
  | fillWithoutUse
  | equivalent
  /-- A class in the second set that does not say which character stands for which. -/
  | unordered
  /-- Classes that stand for other cases, but not in the same places of both sets. -/
  | misaligned
  | empty
  | endsInClass
  | manyTargets

def SetPart.isFill : SetPart → Bool
  | fill _ none => true
  | _ => false

def SetPart.isEquivalent : SetPart → Bool
  | equivalent _ => true
  | _ => false

def SetPart.isNamed : SetPart → Bool
  | named .. => true
  | _ => false

def SetPart.isCase : SetPart → Bool
  | named name _ => name = "upper" || name = "lower"
  | _ => false

/-- Where the classes of letters in a set begin. -/
def casePlaces (needed : Nat) (parts : List SetPart) : List Nat :=
  parts.zipIdx.filterMap fun (part, n) =>
    if part.isCase then some (runsLength (setRuns needed (parts.take n))) else none

/-- How two sets are used. -/
structure SetUse where
  complement : Bool
  translates : Bool
  truncates : Bool

/-- What keeps two sets from being used; `length` is how many characters the first one stands
for. -/
def SetUse.fault? (u : SetUse) (length : Nat) (first : List SetPart)
    (second? : Option (List SetPart)) : Option TranslationFault :=
  if first.any (·.isFill) then some .fillInFirst
  else
    match second? with
    | none => none
    | some second =>
      let runs := filledRuns length second
      let needed := length - runsLength (setRuns 0 second)
      let isAligned := u.complement || !second.any (·.isNamed) ||
        ((casePlaces needed second).filter (· ≤ length)).all (casePlaces 0 first).contains
      let isLonger := runsLength runs < length
      let kept := runs.filter (·.2 ≠ 0)
      if (second.filter (·.isFill)).length > 1 then some .severalFills
      else if !u.translates then
        if second.any (·.isFill) then some .fillWithoutUse else none
      else if second.any (·.isEquivalent) then some .equivalent
      else if second.any fun part => part.isNamed && !part.isCase then some .unordered
      else if !isAligned then some .misaligned
      else if isLonger && !u.truncates && kept.isEmpty then some .empty
      else if isLonger && !u.truncates && second.getLast?.any (·.isNamed) then some .endsInClass
      else if u.complement && first.any (·.isNamed) &&
          !((!isLonger || !u.truncates) && runsLength runs ≤ length &&
            kept.all fun run => some run.1 = kept.head?.map (·.1)) then some .manyTargets
      else none

/-! ## The tool -/

def translateTable : OptionTable where
  flags := [('c', "complement"), ('C', ""), ('A', ""), ('d', "delete"), ('s', "squeeze-repeats"),
    ('t', "truncate-set1")]
  valued := []

/-- A character as complaints about ranges show it. -/
def rangeEnd (c : Char) : ByteText :=
  if isPlainChar c then [c]
  else
    let digits := Nat.toDigits 8 c.toNat
    '\\' :: List.replicate (3 - digits.length) '0' ++ digits

/-- Text as complaints about sets show it. -/
def printableText (s : ByteText) : ByteText :=
  s.flatMap fun c => if isPlainChar c ∧ c ≠ '\\' then [c] else shellEscape c

def SetFault.reason : SetFault → List ByteText
  | reversed low high => [byteText "range-endpoints of '", rangeEnd low, ['-'], rangeEnd high,
      byteText "' are in reverse collating sequence order"]
  | missingName => [byteText "missing character class name '[::]'"]
  | unknownName name => [byteText "invalid character class ", wordQuoted (printableText name)]
  | missingEquivalent => [byteText "missing equivalence class character '[==]'"]
  | notOneEquivalent s =>
    [printableText s, byteText ": equivalence class operand must be a single character"]
  | badCount s => [byteText "invalid repeat count ", wordQuoted (printableText s),
      byteText " in [c*n] construct"]

def TranslationFault.reason : TranslationFault → String
  | fillInFirst => "the [c*] repeat construct may not appear in string1"
  | severalFills => "only one [c*] repeat construct may appear in string2"
  | fillWithoutUse => "the [c*] construct may appear in string2 only when translating"
  | equivalent => "[=c=] expressions may not appear in string2 when translating"
  | unordered => "when translating, the only character classes that may appear in\n" ++
      "string2 are \x27upper\x27 and \x27lower\x27"
  | misaligned => "misaligned [:upper:] and/or [:lower:] construct"
  | empty => "when not truncating set1, string2 must be non-empty"
  | endsInClass => "when translating with string1 longer than string2,\n" ++
      "the latter string must not end with a character class"
  | manyTargets => "when translating with complemented character classes,\n" ++
      "string2 must map all characters in the domain to one"

/-- Characters by what stands for them; the later of two pairs counts. -/
def charTable (pairs : List (Char × Char)) : Array Char :=
  pairs.foldl (fun table (c, d) => table.setIfInBounds c.toNat d)
    ((Array.range 256).map Char.ofNat)

/-- Keeps one of several equal characters of a set that follow each other. -/
def squeezed (fits : Char → Bool) (before : Option Char) : ByteText → ByteText
  | [] => []
  | c :: s =>
    if some c = before ∧ fits c then squeezed fits before s else c :: squeezed fits (some c) s

/-- Replaces, deletes and squeezes the characters of a text. -/
def translated (a : Arguments) (complement : Bool) (first : List SetPart)
    (second? : Option (List SetPart)) (text : ByteText) : ByteText :=
  let members := (setRuns 0 first).map (·.1)
  let inFirst : Array Bool := (Array.range 256).map fun n =>
    members.contains (Char.ofNat n) != complement
  let isFirst (c : Char) : Bool := inFirst.getD c.toNat false
  let domain : CharRuns := if complement then
      (((List.range 256).map Char.ofNat).filter isFirst).map fun c => (c, 1)
    else setRuns 0 first
  let length := runsLength domain
  let range := filledRuns length (second?.getD [])
  let rest := (range.filter (·.2 ≠ 0)).getLast?.map fun run => (run.1, length - runsLength range)
  let full := if a.has 't' then range else range ++ rest.toList
  let text := if a.has 'd' then text.filter fun c => !isFirst c else text
  let text := if second?.isSome ∧ !a.has 'd' then
      let table := charTable (pairRuns domain full)
      text.map fun c => table.getD c.toNat c
    else text
  if a.has 's' then
    let squeezes : Array Bool := match second? with
      | some _ =>
        let targets := (range.filter (·.2 ≠ 0)).map (·.1)
        (Array.range 256).map fun n => targets.contains (Char.ofNat n)
      | none => inFirst
    squeezed (fun c => squeezes.getD c.toNat false) none text
  else text

/-- Reads one set, with what there is to warn about. -/
def ToolCall.readSet (call : ToolCall) (s : ByteText) : Reply × Except SetFault (List SetPart) :=
  let (chars, warnings) := setText s.length s
  let said := warnings.foldl (fun (r : Reply) text =>
    r.followedBy { call.complain [text] with status := 0 }) .quiet
  (said, KernelLink.readSet chars.length chars)

/-- Replaces, deletes and squeezes characters. -/
def translateTool : Tool := fun call t =>
  match translateTable.read true false call.args with
  | .error f => (f.reply call.name 1, t)
  | .ok a =>
    let deletes := a.has 'd'
    let squeezes := a.has 's'
    let least := if deletes = squeezes then 2 else 1
    let most := if deletes && !squeezes then 1 else 2
    match a.operands.getLast?, a.operands[most]? with
    | none, _ => (call.usage [byteText "missing operand"], t)
    | some _, some extra =>
      (call.usage [byteText "extra operand ", wordQuoted extra,
        byteText (if a.operands.length = 2 then
          "\nOnly one string may be given when deleting without squeezing repeats." else "")], t)
    | some last, none =>
      if a.operands.length < least then
        (call.usage [byteText "missing operand after ", wordQuoted last,
          byteText (if squeezes then
            "\nTwo strings must be given when both deleting and squeezing repeats."
          else "\nTwo strings must be given when translating.")], t)
      else
        let complement := a.has 'c' || a.has 'C'
        let (said, first) := call.readSet last
        let (said, first, second?) : Reply × Except SetFault (List SetPart) ×
            Option (Except SetFault (List SetPart)) :=
          match a.operands with
          | [one, two] =>
            let (saidFirst, first) := call.readSet one
            let (saidSecond, second) := call.readSet two
            (if first.isOk then saidFirst.followedBy saidSecond else saidFirst, first, some second)
          | _ => (said, first, none)
        let fail (texts : List ByteText) : Reply × FileTree :=
          (said.followedBy (call.complain texts), t)
        match first, second? with
        | .error f, _ | .ok _, some (.error f) => fail f.reason
        | .ok first, second? =>
          let second? := second?.bind (·.toOption)
          let members := (setRuns 0 first).map (·.1)
          let length := if complement then
              (((List.range 256).map Char.ofNat).filter fun c => !members.contains c).length
            else runsLength (setRuns 0 first)
          let u : SetUse := ⟨complement, !deletes && second?.isSome, a.has 't'⟩
          match u.fault? length first second? with
          | some f => fail [byteText f.reason]
          | none =>
            let text := translated a complement first second? call.input
            (said.followedBy { Reply.said text with taken := call.input.length }, t)

end KernelLink
