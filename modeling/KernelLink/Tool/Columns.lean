import KernelLink.Tool.Lines

/-!
# Columns

Tools that cut places or fields out of lines, and join lines side by side.
-/

namespace KernelLink

/-! ## Lists of places -/

/-- A range of places, counted from one; open at the end if that is missing. -/
structure Span where
  first : Nat
  last : Option Nat
deriving DecidableEq, Repr

/-- Why a list of ranges cannot be read. -/
inductive SpanFault where
  | zero
  | decreasing
  | endless
  | twoDashes
  | tooLarge (digits : ByteText)
  | invalid (rest : ByteText)

/-- What has been read of a range: the digits in front of its dash, whether there was one, and the
digits behind it. -/
structure SpanDraft where
  front : ByteText := []
  hasDash : Bool := false
  back : ByteText := []

/-- One more than the largest number that a place may have. -/
def placeLimit : Nat := 18446744073709551615

namespace SpanDraft

def number (digits : ByteText) : Nat := (Shell.digitsOf 10 digits).1

/-- The range that was read. -/
def span (d : SpanDraft) : Except SpanFault Span :=
  if d.hasDash then
    let first := if d.front.isEmpty then 1 else number d.front
    if d.front.isEmpty && d.back.isEmpty then .error .endless
    else if d.back.isEmpty then .ok ⟨first, none⟩
    else if number d.back < first then .error .decreasing
    else .ok ⟨first, some (number d.back)⟩
  else if number d.front = 0 then .error .zero
  else .ok ⟨number d.front, some (number d.front)⟩

/-- The draft with one more digit; `rest` is what follows it. -/
def withDigit (d : SpanDraft) (c : Char) (rest : ByteText) : Except SpanFault SpanDraft :=
  let digits := (if d.hasDash then d.back else d.front) ++ [c]
  if placeLimit ≤ number digits then
    .error (.tooLarge (digits ++ rest.takeWhile (·.isDigit)))
  else .ok (if d.hasDash then { d with back := digits } else { d with front := digits })

end SpanDraft

/-- Reads ranges, which commas and blanks separate. -/
def readSpans (d : SpanDraft) : ByteText → Except SpanFault (List Span)
  | [] => do pure [← d.span]
  | c :: rest =>
    if c = '-' then
      if d.hasDash then .error .twoDashes
      else if !d.front.isEmpty && SpanDraft.number d.front = 0 then .error .zero
      else readSpans { d with hasDash := true } rest
    else if c = ',' ∨ c = ' ' ∨ c = '\t' then do
      let span ← d.span
      pure (span :: (← readSpans {} rest))
    else if c.isDigit then do
      readSpans (← d.withDigit c rest) rest
    else .error (.invalid (c :: rest))

/-- Ranges in order, joined where they share a place. -/
def joinSpans : List Span → List Span
  | [] => []
  | s :: rest =>
    match joinSpans rest with
    | next :: more =>
      match s.last with
      | none => [s]
      | some last =>
        if next.first ≤ last then
          ⟨s.first, next.last.map (max last)⟩ :: more
        else s :: next :: more
    | [] => [s]

/-- The ranges of all places from `first` on that are in none of some ranges, which are in order and
share no place. -/
def gapsFrom (first : Nat) : List Span → List Span
  | [] => [⟨first, none⟩]
  | s :: rest =>
    let gap := if first < s.first then [⟨first, some (s.first - 1)⟩] else []
    match s.last with
    | none => gap
    | some last => gap ++ gapsFrom (last + 1) rest

def Span.holds (s : Span) (n : Nat) : Bool :=
  decide (s.first ≤ n) && s.last.all fun last => decide (n ≤ last)

/-! ## Cutting lines -/

def cutTable : OptionTable where
  flags := [('s', "only-delimited"), ('n', ""), ('\x01', "complement"), ('z', "zero-terminated")]
  valued := [('b', "bytes"), ('c', "characters"), ('f', "fields"), ('d', "delimiter"),
    ('\x02', "output-delimiter")]

/-- Keeps the elements at places in some ranges. -/
def keepPlaces {α : Type} (spans : List Span) (xs : List α) : List α :=
  xs.zipIdx.filterMap fun (x, n) => if spans.any (·.holds (n + 1)) then some x else none

/-- Keeps the bytes at places in some ranges; something may be put between ranges. -/
def cutBytes (spans : List Span) (between : ByteText) (line : ByteText) : ByteText :=
  let parts := spans.map fun s => keepPlaces [s] line
  between.intercalate (parts.filter fun part => !part.isEmpty)

/-- Keeps the fields of a text in some ranges. Text without delimiters is one field, which is kept
whole or, with `onlyDelimited`, not at all. -/
def cutFields (spans : List Span) (delimiter : Char) (between : ByteText) (onlyDelimited : Bool)
    (s : ByteText) : Option ByteText :=
  if s.contains delimiter then
    some (between.intercalate (keepPlaces spans (splitAtEach delimiter s)))
  else if onlyDelimited then none
  else some s

/-- What is wrong with a list, in words. -/
def SpanFault.words (f : SpanFault) (byFields : Bool) : List ByteText :=
  let either (fields places : String) : ByteText := byteText (if byFields then fields else places)
  match f with
  | .zero =>
    [either "fields are numbered from 1" "byte/character positions are numbered from 1"]
  | .decreasing => [byteText "invalid decreasing range"]
  | .endless => [byteText "invalid range with no endpoint: -"]
  | .twoDashes => [either "invalid field range" "invalid byte or character range"]
  | .tooLarge digits =>
    [either "field number " "byte/character offset ", wordQuoted digits, byteText " is too large"]
  | .invalid rest =>
    [either "invalid field value " "invalid byte/character position ", wordQuoted rest]

/-- Writes parts of lines. -/
def cutTool : Tool := fun call t =>
  withArguments cutTable 1 call t fun a =>
    let usage (text : String) : Reply × FileTree := (call.usage [byteText text], t)
    let lists := a.options.filter fun o => ['b', 'c', 'f'].contains o.letter
    let delimiter := (a.value? 'd').getD ['\t']
    if delimiter.length > 1 then usage "the delimiter must be a single character"
    else match lists with
    | [] => usage "you must specify a list of bytes, characters, or fields"
    | _ :: _ :: _ => usage "only one list may be specified"
    | [list] =>
      let byFields := list.letter = 'f'
      if !byFields ∧ (a.value? 'd').isSome then
        usage "an input delimiter may be specified only when operating on fields"
      else if !byFields ∧ a.has 's' then
        usage "suppressing non-delimited lines makes sense\n\tonly when operating on fields"
      else match readSpans {} list.value with
        | .error f => (call.usage (f.words byFields), t)
        | .ok spans =>
          let inOrder := joinSpans (spans.mergeSort fun x y => x.first ≤ y.first)
          let spans := if a.has '\x01' then gapsFrom 1 inOrder else inOrder
          let finish := if a.has 'z' then '\x00' else '\n'
          let c := delimiter.headD '\x00'
          let given? := (a.value? '\x02').map fun s => if s.isEmpty then ['\x00'] else s
          let lines (text : ByteText) : List ByteText :=
            if byFields ∧ c = finish then
              if text.isEmpty then []
              else [if text.getLast? = some finish then text.dropLast else text]
            else linesEndedBy finish text
          let treat (_ text : ByteText) : Reply :=
            .said ((lines text).flatMap fun line =>
              if byFields then
                (cutFields spans c (given?.getD [c]) (a.has 's') line).elim []
                  fun s => s ++ [finish]
              else cutBytes spans (given?.getD []) line ++ [finish])
          (readOperands call t treat (inputsOf a.operands), t)

/-! ## Lines side by side -/

def pasteTable : OptionTable where
  flags := [('s', "serial"), ('z', "zero-terminated")]
  valued := [('d', "delimiters")]

/-- The delimiters that a list writes; a backslash at its end stands for nothing. -/
def readDelimiters : ByteText → Option (List ByteText)
  | [] => some []
  | ['\\'] => none
  | '\\' :: c :: rest =>
    let delimiter : ByteText := match c with
      | '0' => []
      | 'b' => ['\x08']
      | 'f' => ['\x0c']
      | 'n' => ['\n']
      | 'r' => ['\r']
      | 't' => ['\t']
      | 'v' => ['\x0b']
      | c => [c]
    (readDelimiters rest).map (delimiter :: ·)
  | c :: rest => (readDelimiters rest).map ([c] :: ·)

/-- Joins texts with delimiters that take turns. -/
def joinTurning (delimiters : List ByteText) : (turn : Nat) → List ByteText → ByteText
  | _, [] => []
  | _, [s] => s
  | turn, s :: rest =>
    s ++ delimiters.getD (turn % delimiters.length) [] ++ joinTurning delimiters (turn + 1) rest

/-- The elements whose place leaves a remainder. -/
def everyNth {α : Type} (n remainder : Nat) (xs : List α) : List α :=
  xs.zipIdx.filterMap fun (x, k) => if k % n = remainder then some x else none

/-- Writes lines of files side by side, or those of each file on one line. -/
def pasteTool : Tool := fun call t =>
  withArguments pasteTable 1 call t fun a =>
    let operands := inputsOf a.operands
    let list := (a.value? 'd').getD ['\t']
    let finish := if a.has 'z' then '\x00' else '\n'
    match readDelimiters list with
    | none =>
      let shown := if list.contains ':' then
          '"' :: list.flatMap (fun c => if c = '\\' then ['\\', c] else [c]) ++ ['"']
        else list
      (call.complain [byteText "delimiter list ends with an unescaped backslash: ", shown], t)
    | some delimiters =>
      let line (cells : List ByteText) : ByteText := joinTurning delimiters 0 cells ++ [finish]
      let cells (text : ByteText) : List ByteText := linesEndedBy finish text
      let refuse? (p : ByteText) : Option Reply := match call.operandText t p with
        | .error f => some (call.unreadable p f)
        | .ok _ => none
      if a.has 's' then
        let row (state : Reply × Bool) (p : ByteText) : Reply × Bool :=
          let (sofar, isRead) := state
          let isInput : Bool := p = ['-']
          let text := if isInput && isRead then .ok [] else call.operandText t p
          match text with
          | .ok text => (sofar.followedBy (.said (line (cells text))), isRead || isInput)
          | .error f => (sofar.followedBy (call.unreadable p f), isRead)
        let (reply, _) := operands.foldl row (.quiet, false)
        ({ reply with taken := call.takenBy operands }, t)
      else match operands.findSome? refuse? with
        | some reply => (reply, t)
        | none =>
          let dashes := (operands.filter (· = ['-'])).length
          let column (p : ByteText) (earlier : List ByteText) : List ByteText :=
            let all := cells ((call.operandText t p).toOption.getD [])
            if p = ['-'] then everyNth dashes (earlier.filter (· = ['-'])).length all else all
          let columns := operands.zipIdx.map fun (p, n) => column p (operands.take n)
          let height := columns.foldl (fun n c => max n c.length) 0
          let rows := (List.range height).map fun n => columns.map fun c => c.getD n []
          ({ Reply.said (rows.flatMap line) with taken := call.takenBy operands }, t)

end KernelLink
