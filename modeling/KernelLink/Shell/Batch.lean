import KernelLink.Shell.Errand

/-!
# Programs with arguments from text

Text can be made into arguments for other programs. It is cut into words first, either at one
character or at blanks and newlines, which quotes and backslashes protect. The words are then handed
out: each to a run of its own in the place of a mark, or so many at once as were asked for or as
fit. -/

namespace KernelLink.Shell

/-- A word of the text that arguments come from, or a reason to stop reading. -/
inductive BatchItem where
  | word (text : ByteText) (endsLine : Bool)
  | fault (message : String)

/-- What is to be done next. -/
inductive BatchStep where
  | run (words : List ByteText)
  /-- Something to be said on the errors. -/
  | mention (text : ByteText)
  /-- The end, with a complaint. -/
  | stop (message : ByteText)

/-- How text is made into arguments. -/
structure BatchManner where
  command : List ByteText
  /-- What stands for a word in the arguments of the command. -/
  mark : Option ByteText
  /-- How many words go to one run. -/
  most : Option Nat
  /-- From how many lines words go to one run. -/
  lines : Option Nat
  /-- How many bytes a command may take. -/
  room : Nat
  /-- Whether words that do not fit together are a fault. -/
  isStrict : Bool
  /-- The word that ends all words. -/
  finish : Option ByteText
  /-- The character that the text is cut at. -/
  delimiter : Option Char
  /-- Whether the command is run without any words. -/
  runsEmpty : Bool

namespace BatchManner

/-- How many bytes words take, each with its end. -/
def size (words : List ByteText) : Nat := words.foldl (fun n word => n + word.length + 1) 0

/-- How long a word may be. -/
def longest (m : BatchManner) : Nat :=
  m.room - 1 - if m.mark.isSome then 0 else size m.command

/-! ## Words -/

/-- A word that was read, and what follows it. -/
def emit (m : BatchManner) (word : ByteText) (endsLine : Bool) (rest : List BatchItem) :
    List BatchItem :=
  if m.longest < word.length then [.fault "argument line too long"]
  else .word word endsLine :: rest

/-- The words of a text, which quotes and backslashes protect. `current` is the word that has begun,
backwards, `quote` the quote that is open, and `isFirst` says that no word of the line has ended. -/
def quotedItems (m : BatchManner) (isFirst : Bool) (current : Option ByteText)
    (quote : Option Char) : ByteText → List BatchItem
  | [] =>
    let word := (current.getD []).reverse
    if word.isEmpty then []
    else match quote with
      | some '\x27' => [unmatched "single"]
      | some '"' => [unmatched "double"]
      | _ => if isFirst ∧ m.finish = some word then [] else m.emit word true []
  | c :: s =>
    let grown := some (c :: current.getD [])
    match quote, current with
    | some '\\', _ => quotedItems m isFirst grown none s
    | some q, _ =>
      if c = '\n' then [unmatched (if q = '"' then "double" else "single")]
      else if c = q then quotedItems m isFirst current none s
      else quotedItems m isFirst grown quote s
    | none, current =>
      let isBlank : Bool := m.mark.isNone && (c = ' ' || c = '\t')
      if current = none ∧ isSpace c then quotedItems m isFirst none none s
      else if c = '\n' ∨ isBlank then
        let word := (current.getD []).reverse
        if m.finish = some word then []
        else m.emit word (c = '\n') (quotedItems m (c = '\n') none none s)
      else if ['\x27', '"', '\\'].contains c then
        quotedItems m isFirst (some (current.getD [])) (some c) s
      else quotedItems m isFirst grown none s
where
  unmatched (kind : String) : BatchItem :=
    .fault ("unmatched " ++ kind ++
      " quote; by default quotes are special to xargs unless you use the -0 option")

/-- The pieces that a character cuts a text into; one at the end makes none of its own. -/
def cutItems (m : BatchManner) (c : Char) (text : ByteText) : List BatchItem :=
  let all := splitAtEach c text
  let all := if all.getLast? = some [] then all.dropLast else all
  all.foldr (fun word rest => m.emit word true rest) []

/-! ## Handing out -/

/-- Puts a text in every place of another one where a mark stands, passing over `skip` characters
first. -/
def fill (mark text : ByteText) (skip : Nat) : ByteText → ByteText
  | [] => []
  | c :: s =>
    if skip > 0 then fill mark text (skip - 1) s
    else if mark.isPrefixOf (c :: s) then text ++ fill mark text (mark.length - 1) s
    else c :: fill mark text 0 s

/-- An argument as a program sees it. -/
def seen (word : ByteText) : ByteText := word.takeWhile (· ≠ '\x00')

/-- A run for each word, in the place of a mark. -/
def each (m : BatchManner) (mark : ByteText) : List BatchItem → List BatchStep
  | [] => []
  | .fault message :: _ => [.stop (byteText message)]
  | .word word _ :: rest =>
    let words := m.command.take 1 ++ (m.command.drop 1).map (fill mark (seen word) 0)
    if mark.isEmpty ∧ 1 < m.command.length then [.stop (byteText "command too long")]
    else if m.room < size words then [.stop (byteText "argument list too long")]
    else .run words :: m.each mark rest

/-- Words that wait for a run, the last one first, how many they are, from how many lines, and how
many bytes they take with the command. -/
structure Gathered where
  words : List ByteText
  count : Nat
  lines : Nat
  bytes : Nat
  /-- Whether there was a run before. -/
  hasRun : Bool

/-- Runs for as many words as fit or as were asked for. -/
def gather (m : BatchManner) (g : Gathered) : List BatchItem → List BatchStep
  | [] => if g.count > 0 || (m.runsEmpty && !g.hasRun) then [run g] else []
  | .fault message :: _ =>
    (if g.count = 0 || m.isStrict then [] else [run g]) ++ [.stop (byteText message)]
  | .word word endsLine :: rest =>
    let bytes := word.length + 1
    let none' : Gathered := ⟨[], 0, 0, size m.command, true⟩
    let isFull : Bool := m.room < g.bytes + bytes
    if isFull && g.count = 0 then
      [.stop (byteText "cannot fit single argument within argument list size limit")]
    else if isFull && m.isStrict && (m.lines.isSome || m.most.isSome) then
      [.stop (byteText "argument list too long")]
    else
      let base := if isFull then none' else g
      let lines := base.lines + if endsLine then 1 else 0
      let next : Gathered :=
        ⟨seen word :: base.words, base.count + 1, lines, base.bytes + bytes, base.hasRun⟩
      let isDone : Bool := m.most = some next.count || m.lines.any (· ≤ lines)
      (if isFull then [run g] else []) ++
        if isDone then run next :: m.gather none' rest else m.gather next rest
where
  run (g : Gathered) : BatchStep := .run (m.command ++ g.words.reverse)

/-- What is to be done with a text. -/
def steps (m : BatchManner) (text : ByteText) : List BatchStep :=
  let items := match m.delimiter with
    | some c => m.cutItems c text
    | none => m.quotedItems true none none text
  let warning : List BatchStep := if m.delimiter.isNone && text.contains '\x00' then
      [.mention (byteText ("WARNING: a NUL character occurred in the input.  " ++
        "It cannot be passed through in the argument list.  " ++
        "Did you mean to use the --null option?"))]
    else []
  match m.mark with
  | some mark => warning ++ m.each mark items
  | none =>
    if m.room < size m.command then
      [.stop (byteText "cannot fit single argument within argument list size limit")]
    else warning ++ m.gather ⟨[], 0, 0, size m.command, false⟩ items

end BatchManner

/-! ## Arguments -/

/-- What `xargs` was asked to do. -/
structure Batch where
  steps : List BatchStep
  /-- Whether each run is shown before it begins. -/
  shows : Bool
  /-- Whether each run is to be agreed to. -/
  asks : Bool
  /-- What is said before anything is run. -/
  notes : List ByteText

namespace Batch

def table : OptionTable where
  flags := [('0', "null"), ('r', "no-run-if-empty"), ('t', "verbose"), ('x', "exit"),
    ('p', "interactive"), ('o', "open-tty")]
  valued := [('n', "max-args"), ('I', ""), ('d', "delimiter"), ('L', ""), ('P', "max-procs"),
    ('a', "arg-file"), ('s', "max-chars"), ('E', ""), ('\x01', "process-slot-var")]
  optional := [('i', "replace"), ('l', "max-lines"), ('e', "eof")]
  attached := ['i', 'l', 'e']

/-- The character that an escape names that is all of a text. -/
def escapedDelimiter (s : ByteText) : Except (List ByteText) Char :=
  let invalid (reason : List ByteText) : Except (List ByteText) Char :=
    .error ([byteText "Invalid escape sequence \\", s,
      byteText " in input delimiter specification"] ++ reason ++ [['.']])
  let number (base : Nat) (limit : String) (digits : ByteText) : Except (List ByteText) Char :=
    let (n, rest) := digitsOf base digits
    if 255 < n then
      invalid [byteText ("; character values must not exceed " ++ limit)]
    else if !rest.isEmpty then
      invalid [byteText "; trailing characters ", rest, byteText " not recognised"]
    else .ok (Char.ofNat n)
  match s with
  | 'a' :: _ => .ok '\x07'
  | 'b' :: _ => .ok '\x08'
  | 'f' :: _ => .ok '\x0c'
  | 'n' :: _ => .ok '\n'
  | 'r' :: _ => .ok '\r'
  | 't' :: _ => .ok '\t'
  | 'v' :: _ => .ok '\x0b'
  | '\\' :: _ => .ok '\\'
  | 'x' :: digits => number 16 "ff" digits
  | digits => if digits.head?.any Char.isDigit then number 8 "377" digits else invalid []

/-- The delimiter that an option names. -/
def delimiter (s : ByteText) : Except (List ByteText) Char :=
  match s with
  | [c] => .ok c
  | '\\' :: rest => escapedDelimiter rest
  | s => .error [byteText "Invalid input delimiter specification ", s,
      byteText ": the delimiter must be either a single character or an escape sequence ",
      byteText "starting with \\."]

/-- What options that exclude each other are called. -/
def groupName (letter : Char) : String × String :=
  match letter with
  | 'n' => ("--max-args", "--max-args/-n")
  | 'L' => ("--max-lines", "-L")
  | 'l' => ("--max-lines", "--max-lines/-l")
  | _ => ("--replace", "--replace/-I/-i")

/-- Which of the options counts that say how words are handed out, and what is said about the
others. -/
def division (options : List GivenOption) : Option GivenOption × List ByteText :=
  let said := options.filter fun o => ['n', 'L', 'l', 'I', 'i'].contains o.letter
  said.foldl (fun (last?, notes) o =>
    match last? with
    | none => (some o, notes)
    | some last =>
      let (earlier, _) := groupName last.letter
      let note := "warning: options " ++ earlier ++ " and " ++ (groupName o.letter).2 ++
        " are mutually exclusive, ignoring previous " ++ earlier ++ " value"
      (some o, if earlier = (groupName o.letter).1 then notes else notes ++ [byteText note]))
    (none, [])

/-- Reads what is to be run, with the text that arguments come from. -/
def read (name : ByteText) (args : List ByteText)
    (text : Option ByteText → Except Reply ByteText) : Except Reply Batch := do
  let a ← Errand.options table 1 name args
  let number (least : Int) (o : GivenOption) : Except Reply Int :=
    let body := o.value.dropWhile isSpace
    let digits := if body.head? = some '-' ∨ body.head? = some '+' then body.drop 1 else body
    let n : Int := digitsValue digits
    let n := if body.head? = some '-' then -n else n
    let letter := if o.letter = 'l' then ['l'] else [o.letter]
    if digits.isEmpty || !digits.all (·.isDigit) then
      .error (Errand.misuse name 1 [name, byteText ": invalid number \"", o.value,
        byteText "\" for -", letter, byteText " option\n"])
    else if n < least then
      .error (Errand.misuse name 1 [name, byteText ": value ", signedText n, byteText " for -",
        letter, byteText (" option should be >= " ++ toString least ++ "\n")])
    else .ok n
  let complain (texts : List ByteText) : Reply := .failed 1 (joinText (name :: [':', ' '] :: texts))
  (a.options.filter fun o => o.letter = 'n' || o.letter = 'L').forM fun o => discard (number 1 o)
  (a.options.filter fun o => o.letter = 'l' && !o.value.isEmpty).forM fun o =>
    discard (number 1 o)
  (a.options.filter (·.letter = 'P')).forM fun o => discard (number 0 o)
  let (division?, notes) := division a.options
  let count (letter : Char) : Except Reply (Option Nat) :=
    match division? with
    | some o =>
      if o.letter = letter then
        if o.value.isEmpty then .ok (some 1) else (number 1 o).map fun n => some n.toNat
      else .ok none
    | none => .ok none
  let mark := division?.bind fun o =>
    if o.letter = 'I' then some o.value
    else if o.letter = 'i' then some (if o.value.isEmpty then ['\x7b', '\x7d'] else o.value)
    else none
  let most ← count 'n'
  let lines := (← count 'L').orElse fun _ => (count 'l').toOption.join
  let (room, roomNotes) : Nat × List ByteText ← match a.options.reverse.find? (·.letter = 's') with
    | none => pure (131072, [])
    | some o =>
      match number 1 o with
      | .ok n => pure (n.toNat, [])
      | .error reply =>
        if o.value.any (·.isDigit) ∧ o.value.all fun c => c.isDigit || c = '-' then
          pure (1, [joinText [byteText "value ", o.value,
            byteText " for -s option should be >= 1"]])
        else throw reply
  let finish := (a.options.reverse.find? fun o => o.letter = 'E' || o.letter = 'e').bind fun o =>
    if o.value.isEmpty then none else some o.value
  let delimiter? ← match a.options.reverse.find? fun o => o.letter = 'd' || o.letter = '0' with
    | none => pure none
    | some o =>
      if o.letter = '0' then pure (some '\x00')
      else match delimiter o.value with
        | .ok c => pure (some c)
        | .error texts => throw (complain texts)
  let finishNotes : List ByteText := if finish.isSome && delimiter?.isSome then
    [byteText "warning: the -E option has no effect if -0 or -d is used.\n"] else []
  let input ← text (a.value? 'a')
  let manner : BatchManner :=
    { command := if a.operands.isEmpty then [byteText "echo"] else a.operands
      mark, most, lines, room
      isStrict := a.has 'x'
      finish := if delimiter?.isSome then none else finish
      delimiter := delimiter?
      runsEmpty := !a.has 'r' }
  pure ⟨manner.steps input, a.has 't' || a.has 'p', a.has 'p', notes ++ roomNotes ++ finishNotes⟩

end Batch

end KernelLink.Shell
