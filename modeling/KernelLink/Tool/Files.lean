import KernelLink.Shell.Arithmetic
import KernelLink.Tool.Copy

/-!
# Making and removing files

An operand that cannot be treated is complained about and does not keep the others from being
treated.
-/

namespace KernelLink

/-! ## Removing -/

def removeTable : OptionTable where
  flags :=
    [('r', "recursive"), ('R', "recursive"), ('f', "force"), ('d', "dir"), ('v', "verbose"),
     ('i', ""), ('I', ""), ('\x01', "one-file-system"), ('\x02', "no-preserve-root")]
  valued := []
  optional := [('\x03', "preserve-root"), ('\x04', "interactive")]

/-- What is said about removed files. -/
def removedText (kind : String) (path : ByteText) : ByteText :=
  joinText [byteText ("removed " ++ kind), shellQuoted path, ['\n']]

/-- How files are removed. -/
structure RemovalManner where
  recursive : Bool
  forced : Bool
  /-- Whether empty directories are removed. -/
  empties : Bool
  shows : Bool
  asks : Bool
  keepsRoot : Bool

/-- What a removal left. -/
structure Removal where
  reply : Reply
  files : FileTree
  /-- Whether a directory was kept because somebody said so. -/
  isKept : Bool

/-- What stands directly in a directory, in the order in which it was made. -/
def FileTree.children (t : FileTree) (place : Location) : List (String × FileNode) :=
  (t.inside place).filterMap fun (way, node) =>
    match way with
    | [name] => some (name, node)
    | _ => none

/-- Removes a file, or a directory with all that is in it, which goes first. -/
def removeNode (m : RemovalManner) (call : ToolCall) : (most : Nat) → (path : ByteText) →
    Location → FileNode → FileTree → Removal
  | 0, _, _, _, t => ⟨.quiet, t, false⟩
  | most + 1, path, place, node, t =>
    let ask (question : String) : Bool × Reply := if m.asks then
      call.ask [byteText ("remove " ++ question), shellQuoted path, byteText "? "]
      else (true, .quiet)
    let told (kind : String) : Reply := if m.shows then .said (removedText kind path) else .quiet
    match node with
    | .file content =>
      let (agrees, asked) :=
        ask (if content.isEmpty then "regular empty file " else "regular file ")
      if agrees then ⟨asked.followedBy (told ""), t.remove place, false⟩ else ⟨asked, t, false⟩
    | .directory =>
      let inner := t.children place
      if inner.isEmpty then
        let (agrees, asked) := ask "directory "
        if agrees then ⟨asked.followedBy (told "directory "), t.remove place, false⟩
        else ⟨asked, t, true⟩
      else
        let (descends, asked) := if m.asks then
          call.ask [byteText "descend into directory ", shellQuoted path, byteText "? "]
          else (true, .quiet)
        if !descends then ⟨asked, t, true⟩
        else
          let start : Removal := ⟨asked, t, false⟩
          let emptied := inner.foldl (fun (r : Removal) (name, node) =>
            let next := removeNode m (call.after r.reply) most (nameInside path (byteText name))
              (place ++ [name]) node r.files
            ⟨r.reply.followedBy next.reply, next.files, r.isKept || next.isKept⟩) start
          if emptied.isKept then emptied
          else
            let (agrees, asked) := if m.asks then (call.after emptied.reply).ask
              [byteText "remove directory ", shellQuoted path, byteText "? "] else (true, .quiet)
            let reply := emptied.reply.followedBy asked
            if !agrees then ⟨reply, emptied.files, false⟩
            else if (emptied.files.children place).isEmpty then
              ⟨reply.followedBy (told "directory "), emptied.files.remove place, false⟩
            else
              ⟨reply.followedBy (call.complain [byteText "cannot remove ", shellQuoted path,
                byteText ": Directory not empty"]), emptied.files, true⟩

/-- Removes one file, or a directory. -/
def removeOne (m : RemovalManner) (call : ToolCall) (path : ByteText) (t : FileTree) :
    Reply × FileTree :=
  let refused (reason : ByteText) : Reply × FileTree :=
    (call.complain [byteText "cannot remove ", shellQuoted path, byteText ": ", reason], t)
  let name := lastName path
  match t.lookup call.base (pathOf path), t.locate call.base (pathOf path) with
  | .ok node, .ok place =>
    let remove : Reply × FileTree :=
      let removal := removeNode m call (t.nodes.length + 1) path place node t
      (removal.reply, removal.files)
    if !node.isDirectory then remove
    else if m.recursive then
      if name = ['.'] ∨ name = ['.', '.'] then
        (call.complain [byteText "refusing to remove '.' or '..' directory: skipping ",
          shellQuoted path], t)
      else if place.isEmpty ∧ m.keepsRoot then
        ((call.complain [byteText "it is dangerous to operate recursively on ",
          shellQuoted path]).followedBy
          (call.complain [byteText "use --no-preserve-root to override this failsafe"]), t)
      else remove
    else if m.empties then
      if (t.below place).isEmpty then remove else refused (byteText "Directory not empty")
    else refused FileFault.isADirectory.text
  | .error f, _ | _, .error f =>
    if m.forced ∧ (f = .notFound ∨ f = .notADirectory) then (.quiet, t) else refused f.text

/-- Removes files one after the other. -/
def removeEach (m : RemovalManner) (call : ToolCall) : List ByteText → FileTree →
    Reply × FileTree
  | [], t => (.quiet, t)
  | path :: rest, t =>
    let (reply, t) := removeOne m call path t
    let (later, t) := removeEach m (call.after reply) rest t
    (reply.followedBy later, t)

/-- When somebody is asked before something is removed. -/
inductive Asking where
  | never
  | once
  | always
deriving DecidableEq

def askingChoices : List (List String) := [["never", "no", "none"], ["once"], ["always", "yes"]]

/-- Reads the options about asking; with the result comes whether files may be missing. -/
def askingOf (call : ToolCall) (a : Arguments) : Except Reply (Asking × Bool) :=
  a.options.foldlM (fun (asking, forced) o =>
    match o.letter with
    | 'f' => pure (.never, true)
    | 'i' => pure (.always, false)
    | 'I' => pure (.once, false)
    | '\x04' =>
      if !o.hasValue then pure (.always, false)
      else match choice askingChoices o.value with
        | .ok 0 => pure (.never, forced)
        | .ok 1 => pure (.once, false)
        | .ok _ => pure (.always, false)
        | .error f => throw (call.badChoice "--interactive" askingChoices o.value f)
    | _ => pure (asking, forced)) (Asking.never, false)

/-- What is wrong with options about the root. -/
def rootFault? (call : ToolCall) (a : Arguments) : Option Reply :=
  let isShortened := call.args.any fun arg =>
    (byteText "--no-p").isPrefixOf arg && arg.length < "--no-preserve-root".length
  let bad? := (a.options.filter (·.letter = '\x03')).find? fun o =>
    o.hasValue && o.value ≠ byteText "all"
  if isShortened then
    some (call.complain [byteText "you may not abbreviate the --no-preserve-root option"])
  else bad?.map fun o =>
    call.complain [byteText "unrecognized --preserve-root argument: ", shellQuoted o.value]

def removeTool : Tool := fun call t =>
  withArguments removeTable 1 call t fun a =>
    match rootFault? call a, askingOf call a with
    | some reply, _ | none, .error reply => (reply, t)
    | none, .ok (asking, forced) =>
      let recursive := a.has 'r' || a.has 'R'
      let manner : RemovalManner :=
        { recursive, forced
          empties := a.has 'd'
          shows := a.has 'v'
          asks := asking = .always
          keepsRoot := !a.has '\x02' }
      let count := a.operands.length
      let (agrees, asked) : Bool × Reply :=
        if asking = .once ∧ (recursive ∨ 3 < count) then
          call.ask [byteText (s!"remove {count} argument" ++ (if count = 1 then "" else "s") ++
            (if recursive then " recursively? " else "? "))]
        else (true, .quiet)
      if a.operands.isEmpty then
        (if forced then .quiet else call.usage [byteText "missing operand"], t)
      else if !agrees then (asked, t)
      else
        let (reply, t) := removeEach manner (call.after asked) a.operands t
        (asked.followedBy reply, t)

def removeDirectoryTable : OptionTable where
  flags := [('p', "parents"), ('v', "verbose"), ('\x01', "ignore-fail-on-non-empty")]
  valued := []

/-- Removes one empty directory; `isParent` says that it is one because something else was in it. -/
def removeEmpty (shows lenient isParent : Bool) (call : ToolCall) (path : ByteText) (t : FileTree) :
    Reply × FileTree :=
  let said : Reply := if shows then
    .said (joinText [call.name, byteText ": removing directory, ", shellQuoted path, ['\n']])
    else .quiet
  let what := if isParent then "failed to remove directory" else "failed to remove"
  let refused (reason : ByteText) : Reply × FileTree :=
    (call.complain [byteText (what ++ " "), shellQuoted path, byteText ": ", reason], t)
  let (reply, t) : Reply × FileTree :=
    match t.lookup call.base (pathOf path), t.locate call.base (pathOf path) with
    | .ok .directory, .ok place =>
      if lastName path = ['.'] then refused (byteText "Invalid argument")
      else if (t.below place).isEmpty then (.quiet, t.remove place)
      else if lenient then (.ended 1, t)
      else refused (byteText "Directory not empty")
    | .ok (.file _), _ => refused FileFault.notADirectory.text
    | .error f, _ | _, .error f => refused f.text
  (said.followedBy reply, t)

/-- The directories that a path stands in, the nearest first, as far as they are named. -/
def namedParents (path : ByteText) : List ByteText :=
  let trimmed := (path.reverse.dropWhile (· = '/')).reverse
  let ends := (List.range trimmed.length).filter fun n =>
    trimmed[n]? = some '/' && n ≠ 0 && trimmed[n - 1]? ≠ some '/'
  ends.reverse.map fun n => trimmed.take n

/-- Removes directories until one cannot be removed. -/
def removeWhile (remove : ByteText → FileTree → Reply × FileTree) : List ByteText → FileTree →
    Reply × FileTree
  | [], t => (.quiet, t)
  | path :: rest, t =>
    let (reply, t) := remove path t
    if reply.status ≠ 0 then (reply, t)
    else
      let (later, t) := removeWhile remove rest t
      (reply.followedBy later, t)

def removeDirectoryTool : Tool := fun call t =>
  withArguments removeDirectoryTable 1 call t fun a =>
    let lenient := a.has '\x01'
    let remove (isParent : Bool) := removeEmpty (a.has 'v') lenient isParent call
    let forgiven (result : Reply × FileTree) : Reply × FileTree :=
      let (reply, t) := result
      if lenient ∧ !(reply.writes.any (·.1)) then ({ reply with status := 0 }, t) else (reply, t)
    if a.operands.isEmpty then (call.usage [byteText "missing operand"], t)
    else
      eachOperand (fun path t =>
        let (reply, t) := remove false path t
        if reply.status ≠ 0 ∨ !a.has 'p' then forgiven (reply, t)
        else
          let (later, t) := forgiven (removeWhile (remove true) (namedParents path) t)
          (reply.followedBy later, t)) a.operands t

/-! ## Making -/

def makeDirectoryTable : OptionTable where
  flags := [('p', "parents"), ('v', "verbose"), ('Z', "")]
  valued := [('m', "mode")]
  optional := [('Z', "context")]

/-- Makes one directory. -/
def makeOne (shows : Bool) (call : ToolCall) (path : ByteText) (t : FileTree) : Reply × FileTree :=
  match t.makeDirectory call.base (pathOf path) with
  | .ok t =>
    (if shows then .said (joinText [call.name, byteText ": created directory ", shellQuoted path,
      ['\n']]) else .quiet, t)
  | .error f => (call.cannotMake path f, t)

def makeDirectoryTool : Tool := fun call t =>
  withArguments makeDirectoryTable 1 call t fun a =>
    let steps? := (a.value? 'm').map Permissions.change?
    let make (path : ByteText) (t : FileTree) : Reply × FileTree :=
      if a.has 'p' then
        makeChain (if a.has 'v' then some "created" else none) call (beginnings path) t
      else makeOne (a.has 'v') call path t
    if a.operands.isEmpty then (call.usage [byteText "missing operand"], t)
    else match steps? with
      | some none =>
        (call.complain [byteText "invalid mode ", wordQuoted ((a.value? 'm').getD [])], t)
      | none => eachOperand make a.operands t
      | some (some steps) =>
        eachOperand (fun path t =>
          let isNew : Bool := !(t.isThere call.base (pathOf path))
          let (reply, t) := make path t
          match reply.status, isNew, call.place? t path with
          | 0, true, some place =>
            (reply, t.permit place (Permissions.after call.mask true 0o777 steps))
          | _, _, _ => (reply, t)) a.operands t

def touchTable : OptionTable where
  flags := [('a', ""), ('c', "no-create"), ('f', ""), ('h', "no-dereference"), ('m', "")]
  valued := [('d', "date"), ('r', "reference"), ('t', ""), ('\x01', "time")]

/-- Creates a file that is not there. -/
def touchOne (creates : Bool) (call : ToolCall) (path : ByteText) (t : FileTree) :
    Reply × FileTree :=
  if path = ['-'] then (.quiet, t)
  else match call.stat t path with
  | .ok _ => (.quiet, t)
  | .error f =>
    if path.getLast? = some '/' then (call.about "setting times of" path f, t)
    else if !creates then (.quiet, t)
    else match t.write call.base (pathOf path) .empty with
      | .ok t => (.quiet, t)
      | .error f => (call.about "cannot touch" path f, t)

/-- Whether digits are a month, a day, an hour and a minute, perhaps with a year in front and
seconds behind. -/
def isStamp (s : ByteText) : Bool :=
  let digits := s.takeWhile (·.isDigit)
  let seconds := s.drop digits.length
  let year := digits.length - 8
  let pair (n : Nat) : Nat := digitsValue ((digits.drop (year + n)).take 2)
  let full := digitsValue (digits.take year)
  let years := match year with
    | 0 => 4
    | 2 => full + 2000
    | _ => full
  let isLeap := years % 4 = 0 && (years % 100 ≠ 0 || years % 400 = 0)
  let days := match pair 0 with
    | 2 => if isLeap then 29 else 28
    | 4 | 6 | 9 | 11 => 30
    | _ => 31
  [8, 10, 12].contains digits.length && 1 ≤ pair 0 && pair 0 ≤ 12 && 1 ≤ pair 2 && pair 2 ≤ days &&
    pair 4 < 24 && pair 6 < 60 &&
    match seconds with
    | [] => true
    | '.' :: rest => rest.length = 2 && rest.all (·.isDigit) && digitsValue rest < 60
    | _ => false

/-- The words that dates are written in besides numbers. -/
def dateWords : List String :=
  ["now", "today", "yesterday", "tomorrow", "ago", "next", "last", "this", "am", "pm", "utc", "gmt",
   "year", "month", "fortnight", "week", "day", "hour", "minute", "min", "second", "sec",
   "midnight", "noon", "january", "february", "march", "april", "may", "june", "july", "august",
   "september", "october", "november", "december", "sept", "sunday", "monday", "tuesday", "tues",
   "wednesday", "wednes", "thursday", "thur", "thurs", "friday", "saturday", "first", "third",
   "fourth", "fifth", "sixth", "seventh", "eighth", "ninth", "tenth", "eleventh", "twelfth", "est",
   "edt", "cst", "cdt", "mst", "mdt", "pst", "pdt", "cet", "cest", "bst", "dst", "jst", "msk"]

/-- Whether a word is one that dates are written in, whole, in three letters or as a plural. -/
def isDateWord (word : ByteText) : Bool :=
  let lower := word.map Char.toLower
  let isKnown (s : ByteText) : Bool := dateWords.contains (String.ofList s)
  lower.length ≤ 1 || isKnown lower || (lower.getLast? = some 's' && isKnown lower.dropLast) ||
    (lower.length = 3 &&
     dateWords.any fun known => 5 < known.length && lower.isPrefixOf known.toList)

/-- Whether a text may be a date: it has no other words, and dates in digits are possible. -/
def isDate (s : ByteText) : Bool :=
  let isPart (c : Char) : Bool := c.isAlpha
  let words := (splitAtEach ' ' (s.map fun c => if isPart c then c else ' ')).filter (!·.isEmpty)
  let pieces := (splitAtEach ' ' (s.map fun c => if c = 'T' then ' ' else c)).filter (!·.isEmpty)
  let isPossible (piece : ByteText) : Bool :=
    match splitAtEach '-' piece, splitAtEach ':' piece with
    | [year, month, day], _ =>
      if year.length < 4 ∨ !([year, month, day].all fun s => !s.isEmpty && s.all (·.isDigit))
      then true
      else 1 ≤ digitsValue month && digitsValue month ≤ 12 && 1 ≤ digitsValue day &&
        digitsValue day ≤ 31
    | _, hour :: minute :: _ =>
      if !hour.all (·.isDigit) ∨ hour.isEmpty then true
      else digitsValue hour < 24 && digitsValue (minute.takeWhile (·.isDigit)) < 60
    | _, _ => true
  let isKnown (c : Char) : Bool := c.isAlphanum || " \t\n:-+/,.@()".toList.contains c
  s.all isKnown && words.all isDateWord && pieces.all isPossible

def timeChoices : List (List String) := [["atime", "access", "use"], ["mtime", "modify"]]

/-- What is wrong with the times that options name. -/
def touchFault? (call : ToolCall) (t : FileTree) (a : Arguments) : Option Reply :=
  let times := a.options.findSome? fun o =>
    if o.letter ≠ '\x01' then none
    else match choice timeChoices o.value with
      | .ok _ => none
      | .error f => some (call.badChoice "--time" timeChoices o.value f)
  let badStamp :=
    ((a.options.filter (·.letter = 't')).find? fun o => !isStamp o.value).map (·.value)
  let badDate := (a.value? 'd').filter (!isDate ·)
  let badDateText (s : ByteText) : Reply :=
    call.complain [byteText "invalid date format ", wordQuoted s]
  times.orElse fun _ => (badStamp.map badDateText).orElse fun _ =>
    if a.has 't' ∧ (a.has 'd' ∨ a.has 'r') then
      some (call.usage [byteText "cannot specify times from more than one source"])
    else
      let missing := (a.value? 'r').bind fun file =>
        match call.stat t file with
        | .ok _ => none
        | .error f => some (call.about "failed to get attributes of" file f)
      missing.orElse fun _ => badDate.map badDateText

def touchTool : Tool := fun call t =>
  withArguments touchTable 1 call t fun a =>
    match touchFault? call t a with
    | some reply => (reply, t)
    | none =>
      if a.operands.isEmpty then (call.usage [byteText "missing file operand"], t)
      else if a.has 'h' then
        eachOperand (fun path t =>
          match call.stat t path with
          | .ok _ => (.quiet, t)
          | .error f =>
            if a.has 'c' ∨ path = ['-'] then (.quiet, t)
            else (call.about "setting times of" path f, t)) a.operands t
      else eachOperand (touchOne (!a.has 'c') call) a.operands t

def permitTable : OptionTable where
  flags := [('R', "recursive"), ('v', "verbose"), ('c', "changes"), ('f', "silent"),
    ('\x01', "quiet"), ('\x02', "preserve-root"), ('\x03', "no-preserve-root")]
  valued := [('\x04', "reference")]

/-- Whether an argument with a dash takes permissions away and is no option. -/
def isWithdrawal (arg : ByteText) : Bool :=
  match arg with
  | '-' :: c :: _ => ['r', 'w', 'x', 'X', 's', 't', 'u', 'g', 'o', 'a'].contains c
  | _ => false

/-- How permissions are changed. -/
structure PermitManner where
  change : (directory : Bool) → Nat → Nat
  /-- What the change would do if there were no mask, where that is to be looked at. -/
  expected : Option ((directory : Bool) → Nat → Nat)
  recursive : Bool
  showsAll : Bool
  showsChanges : Bool
  isSilent : Bool

/-- Changes what one file or directory permits. -/
def PermitManner.one (m : PermitManner) (call : ToolCall) (path : ByteText) (place : Location)
    (node : FileNode) (t : FileTree) : Reply × FileTree :=
  let old := t.mode place
  let bits := m.change node.isDirectory old
  let named (n : Nat) : ByteText :=
    joinText [Permissions.octal 4 n, byteText " (", Permissions.shown n, [')']]
  let said : Reply :=
    if bits ≠ old ∧ (m.showsAll ∨ m.showsChanges) then
      .said (joinText [byteText "mode of ", shellQuoted path, byteText " changed from ", named old,
        byteText " to ", named bits, ['\n']])
    else if m.showsAll then
      .said (joinText [byteText "mode of ", shellQuoted path, byteText " retained as ", named old,
        ['\n']])
    else .quiet
  let expected := m.expected.elim bits fun change => change node.isDirectory old
  let surprise : Reply := if Permissions.without bits expected = 0 then .quiet
    else call.complain [quotedIfNeeded path, byteText ": new permissions are ",
      Permissions.shown bits, byteText ", not ", Permissions.shown expected]
  (said.followedBy surprise, t.permit place bits)

/-- Changes what an operand permits, and all that is in it where that is asked for. -/
def PermitManner.operand (m : PermitManner) (call : ToolCall) (path : ByteText) (t : FileTree) :
    Reply × FileTree :=
  match call.stat t path, call.place? t path with
  | .ok node, some place =>
    let inner : List (ByteText × Location × FileNode) := if m.recursive then
        (t.inside place).map fun (way, node) =>
          (nameInside path (byteText ("/".intercalate way)), place ++ way, node)
      else []
    ((path, place, node) :: inner).foldl (fun (reply, t) (path, place, node) =>
      let (next, t) := m.one call path place node t
      (reply.followedBy next, t)) (Reply.quiet, t)
  | .ok _, none => (.quiet, t)
  | .error f, _ =>
    let said : Reply := if m.isSilent then .ended 1 else call.about "cannot access" path f
    let shown : Reply := if m.showsAll then
      .said (shellQuoted path ++ byteText " could not be accessed\n") else .quiet
    (said.followedBy shown, t)

/-- Changes what may be done with files. -/
def permitTool : Tool := fun call t =>
  let (withdrawals, args) := call.args.partition isWithdrawal
  withArguments permitTable 1 { call with args } t fun a =>
    let reference? := a.value? '\x04'
    let joined := if withdrawals.isEmpty then none else some ([','].intercalate withdrawals)
    let (mode?, paths) : Option ByteText × List ByteText :=
      if reference?.isSome then (none, a.operands)
      else match joined with
        | some mode => (some mode, a.operands)
        | none => (a.operands.head?, a.operands.drop 1)
    let manner (change : Bool → Nat → Nat) (expected : Option (Bool → Nat → Nat)) :
        PermitManner :=
      ⟨change, expected, a.has 'R', a.has 'v', a.has 'c', a.has 'f' || a.has '\x01'⟩
    match reference?, mode?, paths with
    | none, some one, [] =>
      (if joined.isSome then call.usage [byteText "missing operand"]
        else call.usage [byteText "missing operand after ", wordQuoted one], t)
    | _, _, [] => (call.usage [byteText "missing operand"], t)
    | some file, _, paths =>
      match call.stat t file, call.place? t file with
      | .ok _, some place =>
        let bits := t.mode place
        eachOperand ((manner (fun _ _ => bits) none).operand call) paths t
      | .error f, _ => (call.about "failed to get attributes of" file f, t)
      | _, none => (.quiet, t)
    | none, mode?, paths =>
      let mode := mode?.getD []
      match Permissions.change? mode with
      | none => (call.usage [byteText "invalid mode: ", wordQuoted mode], t)
      | some steps =>
        let change (directory : Bool) (old : Nat) : Nat :=
          Permissions.after call.mask directory old steps
        let expected := if joined.isSome then
          some fun directory old => Permissions.after 0 directory old steps else none
        eachOperand ((manner change expected).operand call) paths t

/-! ## Names -/

/-- Two operands, or what is wrong with how many there are. -/
def twoOperands (call : ToolCall) : List ByteText → Except Reply (ByteText × ByteText)
  | [] => .error (call.usage [byteText "missing operand"])
  | [one] => .error (call.usage [byteText "missing operand after ", wordQuoted one])
  | [first, second] => .ok (first, second)
  | _ :: _ :: third :: _ => .error (call.usage [byteText "extra operand ", wordQuoted third])

/-- Gives a file another name. -/
def hardLinkTool : Tool := fun call t =>
  withArguments { flags := [], valued := [] } 1 call t fun a =>
    match twoOperands call a.operands with
    | .error reply => (reply, t)
    | .ok (source, target) =>
      let refused (reason : ByteText) : Reply × FileTree :=
        (call.complain [byteText "cannot create link ", shellQuoted target, byteText " to ",
          shellQuoted source, byteText ": ", reason], t)
      match t.lookup call.base (pathOf source), t.locate call.base (pathOf target) with
      | .error f, _ | .ok (.file _), .error f => refused f.text
      | .ok .directory, _ => refused (byteText "Operation not permitted")
      | .ok (.file content), .ok place =>
        if (t.get? place).isSome then refused FileFault.alreadyExists.text
        else
          let bits := (call.place? t source).elim 0o644 t.mode
          (.quiet, (t.put place (.file content)).permit place bits)

/-- Takes the name of a file away. -/
def removeNameTool : Tool := fun call t =>
  withArguments { flags := [], valued := [] } 1 call t fun a =>
    match a.operands with
    | [] => (call.usage [byteText "missing operand"], t)
    | _ :: second :: _ => (call.usage [byteText "extra operand ", wordQuoted second], t)
    | [path] =>
      match t.lookup call.base (pathOf path), call.place? t path with
      | .ok (.file _), some place => (.quiet, t.remove place)
      | .error f, _ => (call.about "cannot unlink" path f, t)
      | _, _ => (call.about "cannot unlink" path .isADirectory, t)

/-!
## Paths as text and as places

A path has a last name and a part before it, which are read off its text. Where it leads to depends
on the files: names are followed one after the other, and how much of the path has to be there can
be chosen.
-/

/-! ### Parts of paths -/

def baseNameTable : OptionTable where
  flags := [('a', "multiple"), ('z', "zero")]
  valued := [('s', "suffix")]

/-- A name without a suffix, unless it is all suffix. -/
def withoutSuffix (suffix name : ByteText) : ByteText :=
  if suffix.isSuffixOf name ∧ suffix.length < name.length then
    name.take (name.length - suffix.length) else name

def baseNameTool : Tool := fun call t =>
  withLeadingOptions baseNameTable 1 call t fun a =>
    let finish : ByteText := if a.has 'z' then ['\x00'] else ['\n']
    let suffix? := a.value? 's'
    match a.operands with
    | [] => (call.usage [byteText "missing operand"], t)
    | operands =>
      if a.has 'a' ∨ suffix?.isSome then
        (.said (operands.flatMap fun p =>
          withoutSuffix (suffix?.getD []) (lastName p) ++ finish), t)
      else match operands with
        | [p] => (.said (lastName p ++ finish), t)
        | [p, suffix] => (.said (withoutSuffix suffix (lastName p) ++ finish), t)
        | _ => (call.usage [byteText "extra operand ", wordQuoted (operands.getD 2 [])], t)

/-- The directory part of a path. -/
def parentPath (path : ByteText) : ByteText :=
  let trimmed := (path.reverse.dropWhile (· = '/')).reverse
  if trimmed.isEmpty then (if path.isEmpty then ['.'] else ['/'])
  else if !trimmed.contains '/' then ['.']
  else
    let above := ((trimmed.reverse.dropWhile (· ≠ '/')).dropWhile (· = '/')).reverse
    if above.isEmpty then ['/'] else above

def parentTool : Tool := fun call t =>
  withArguments { flags := [('z', "zero")], valued := [] } 1 call t fun a =>
    let finish : ByteText := if a.has 'z' then ['\x00'] else ['\n']
    if a.operands.isEmpty then (call.usage [byteText "missing operand"], t)
    else (.said (a.operands.flatMap fun p => parentPath p ++ finish), t)

/-! ### Following paths -/

/-- How much of a path has to be there. -/
inductive Presence where
  | all
  | allButLast
  | nothing
deriving DecidableEq

/-- How paths are followed. -/
structure PathManner where
  presence : Presence
  /-- Whether only the text counts where that is enough. -/
  isLexical : Bool

/-- The path of a location. -/
def locationPath (place : Location) : ByteText := byteText ("/" ++ "/".intercalate place)

/-- Whether what stands behind a name can only stand behind a directory. -/
def needsDirectory (endsInSlash : Bool) (rest : List String) : Bool :=
  match rest.dropWhile (· = ".") with
  | [] => endsInSlash || !rest.isEmpty
  | name :: _ => name = ".."

/-- The location that names lead to. -/
def PathManner.follow (m : PathManner) (t : FileTree) (endsInSlash : Bool) (place : Location) :
    List String → Except FileFault Location
  | [] => .ok place
  | name :: rest =>
    if name = "." then m.follow t endsInSlash place rest
    else if name = ".." then m.follow t endsInSlash place.dropLast rest
    else
      let next := place ++ [name]
      let asDirectory := needsDirectory endsInSlash rest
      let fault? : Option FileFault :=
        if m.presence = .nothing then none
        else match t.lookup [] (pathOf (locationPath next)) with
          | .ok node => if asDirectory && !node.isDirectory then some .notADirectory else none
          | .error f => if m.isLexical && !asDirectory && !rest.isEmpty then none else some f
      match fault? with
      | none => m.follow t endsInSlash next rest
      | some f =>
        if m.presence = .allButLast ∧ f = .notFound ∧ rest.isEmpty then .ok next else .error f

/-- The location that a path leads to. -/
def ToolCall.follow (call : ToolCall) (t : FileTree) (m : PathManner) (path : ByteText) :
    Except FileFault Location :=
  let p := pathOf path
  if p.isEmpty then .error .notFound
  else if pathLimit < p.text.utf8ByteSize then .error .nameTooLong
  else m.follow t p.endsWithSlash (if p.isAbsolute then [] else call.base)
    (p.pieces.filter (!·.isEmpty))

/-- The choice among options of which the last one counts. -/
def Arguments.presence (a : Arguments) : Presence :=
  match a.options.reverse.find? fun o => o.letter = 'e' || o.letter = 'm' || o.letter = 'f' with
  | some o => if o.letter = 'e' then .all else if o.letter = 'm' then .nothing else .allButLast
  | none => .allButLast

def realPathTable : OptionTable where
  flags :=
    [('e', "canonicalize-existing"), ('m', "canonicalize-missing"), ('q', "quiet"),
     ('s', "strip"), ('s', "no-symlinks"), ('L', "logical"), ('P', "physical"), ('z', "zero")]
  valued := [('\x01', "relative-to"), ('\x02', "relative-base")]

/-- The way from one location to another. -/
def relativePath (start place : Location) : ByteText :=
  let common := (start.zip place).takeWhile fun (a, b) => a = b
  let ups := List.replicate (start.length - common.length) ".."
  let steps := ups ++ place.drop common.length
  byteText (if steps.isEmpty then "." else "/".intercalate steps)

/-- Where paths are shown from, if they are not shown from the root, and what they have to be in for
that. -/
structure Viewpoint where
  start : Location
  within : Location

/-- What is written for a location. -/
def Viewpoint.shown (v? : Option Viewpoint) (place : Location) : ByteText :=
  match v? with
  | some v =>
    if v.within.isPrefixOf place then relativePath v.start place else locationPath place
  | none => locationPath place

/-- Writes where paths lead to. -/
def realPathTool : Tool := fun call t =>
  withArguments realPathTable 1 call t fun a =>
    let finish : ByteText := if a.has 'z' then ['\x00'] else ['\n']
    let presence := a.presence
    let links? := a.options.reverse.find? fun o => ['s', 'L', 'P'].contains o.letter
    let isLexical : Bool := links?.any (·.letter ≠ 'P')
    let again : List PathManner := if links?.any (·.letter = 'L') then [⟨presence, false⟩] else []
    let follow (path : ByteText) : Except FileFault Location := do
      let place ← call.follow t ⟨presence, isLexical⟩ path
      again.foldlM (fun place m => call.follow t m (locationPath place)) place
    let directory (path : ByteText) : Except (ByteText × FileFault) Location := do
      let place ← (follow path).mapError fun f => (path, f)
      if presence = .all ∧ (t.get? place).any (!·.isDirectory) then .error (path, .notADirectory)
      else pure place
    let viewpoint : Except (ByteText × FileFault) (Option Viewpoint) :=
      match a.value? '\x01', a.value? '\x02' with
      | none, none => .ok none
      | some start, none => do
        let start ← directory start
        pure (some ⟨start, []⟩)
      | none, some within => do
        let within ← directory within
        pure (some ⟨within, within⟩)
      | some start, some within => do
        let start ← directory start
        let within ← directory within
        pure (if within.isPrefixOf start then some ⟨start, within⟩ else none)
    let refusal (path : ByteText) (f : FileFault) : Reply :=
      call.complain [quotedIfNeeded path, byteText ": ", f.text]
    if a.operands.isEmpty then (call.usage [byteText "missing operand"], t)
    else match viewpoint with
      | .error (path, f) => (refusal path f, t)
      | .ok viewpoint =>
        eachOperand (fun path t =>
          match follow path with
          | .ok place => (.said (Viewpoint.shown viewpoint place ++ finish), t)
          | .error f => (if a.has 'q' then .ended 1 else refusal path f, t)) a.operands t

def linkTargetTable : OptionTable where
  flags :=
    [('f', "canonicalize"), ('e', "canonicalize-existing"), ('m', "canonicalize-missing"),
     ('n', "no-newline"), ('q', "quiet"), ('s', "silent"), ('v', "verbose"), ('z', "zero")]
  valued := []

/-- Writes what links lead to. As no file is a link, this is only known of paths as a whole. -/
def linkTargetTool : Tool := fun call t =>
  withArguments linkTargetTable 1 call t fun a =>
    let isWhole := a.has 'f' || a.has 'e' || a.has 'm'
    let finish : ByteText := if a.has 'z' then ['\x00']
      else if a.has 'n' && a.operands.length = 1 then [] else ['\n']
    let refused (path reason : ByteText) (t : FileTree) : Reply × FileTree :=
      if a.has 'v' then (call.complain [quotedIfNeeded path, byteText ": ", reason], t)
      else (.ended 1, t)
    if a.operands.isEmpty then (call.usage [byteText "missing operand"], t)
    else
      eachOperand (fun path t =>
        if isWhole then
          match call.follow t ⟨a.presence, false⟩ path with
          | .ok place => (.said (locationPath place ++ finish), t)
          | .error f => refused path f.text t
        else match call.stat t path with
          | .ok _ => refused path (byteText "Invalid argument") t
          | .error f => refused path f.text t) a.operands t

def workingDirectoryTool : Tool := fun call t =>
  withArguments { flags := [('L', "logical"), ('P', "physical")], valued := [] } 1 call t fun a =>
    let warning : Reply := if a.operands.isEmpty then .quiet
      else { call.complain [byteText "ignoring non-option arguments"] with status := 0 }
    (warning.followedBy (.said (byteText ("/" ++ "/".intercalate call.base ++ "\n"))), t)

end KernelLink
