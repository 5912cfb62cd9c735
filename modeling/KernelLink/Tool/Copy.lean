import KernelLink.Machine.Permissions
import KernelLink.Number.Numeral
import KernelLink.Tool.Basic
import KernelLink.Tool.Operands

/-!
# Copies and moves

Files go to a path, or into a directory under their own names. Where they go is decided before the
first of them is touched. A source that cannot be treated does not keep the others from being
treated.
-/

namespace KernelLink

/-! ## Trees -/

namespace FileTree

/-- Moves a node and everything below it to another location. -/
def relocate (t : FileTree) (place target : Location) : FileTree :=
  let after := t.remove target
  let move (way : Location) : Location :=
    if place.isPrefixOf way then target ++ way.drop place.length else way
  ⟨after.nodes.map fun (way, node) => (move way, node),
    after.modes.map fun (way, bits) => (move way, bits)⟩

/-- What is below a location in the order in which it was made. -/
def inside (t : FileTree) (place : Location) : List (Location × FileNode) :=
  (t.below place).reverse

/-- Copies what is below a location to another one, except for that one itself; `mode` says what new
copies permit. -/
def copyBelow (t : FileTree) (mode : Nat → Nat) (place target : Location) : FileTree :=
  (t.inside place).foldl (fun after (way, node) =>
    let there := target ++ way
    if target.isPrefixOf (place ++ way) then after
    else match node, after.get? there with
      | .directory, some _ => after
      | node, some _ => after.put there node
      | node, none => (after.put there node).permit there (mode (t.mode (place ++ way)))) t

end FileTree

/-! ## Where files go -/

/-- A file to be treated: its path and where it goes. -/
structure Transfer where
  source : ByteText
  target : ByteText

/-- The last name of a path. -/
def lastName (path : ByteText) : ByteText :=
  let trimmed := (path.reverse.dropWhile (· = '/')).reverse
  if trimmed.isEmpty then path.take 1 else (trimmed.reverse.takeWhile (· ≠ '/')).reverse

/-- A name inside a directory. -/
def nameInside (directory name : ByteText) : ByteText :=
  if directory.getLast? = some '/' then directory ++ name else directory ++ '/' :: name

/-- Where operands go. The options `t` and `T` name the directory, or say that there is none. -/
def transfers (call : ToolCall) (t : FileTree) (a : Arguments) (missingDirectory : String) :
    Except Reply (List Transfer) :=
  let into (directory : ByteText) (sources : List ByteText) : List Transfer :=
    sources.map fun source => ⟨source, nameInside directory (lastName source)⟩
  let noDirectory := a.has 'T'
  let directory? := a.value? 't'
  match directory?, a.operands with
  | _, [] => .error (call.usage [byteText "missing file operand"])
  | none, [one] =>
    .error (call.usage [byteText "missing destination file operand after ", shellQuoted one])
  | some directory, sources =>
    if noDirectory then
      .error (call.complain [byteText
        "cannot combine --target-directory (-t) and --no-target-directory (-T)"])
    else match call.stat t directory with
      | .ok .directory => .ok (into directory sources)
      | .ok (.file _) => .error (call.about missingDirectory directory .notADirectory)
      | .error f => .error (call.about missingDirectory directory f)
  | none, [source, target] =>
    match noDirectory, call.stat t target with
    | false, .ok .directory => .ok (into target [source])
    | _, _ => .ok [⟨source, target⟩]
  | none, first :: second :: third :: rest =>
    let operands := first :: second :: third :: rest
    let target := operands.getLastD []
    if noDirectory then .error (call.usage [byteText "extra operand ", shellQuoted third])
    else match call.stat t target with
      | .ok .directory => .ok (into target operands.dropLast)
      | .ok (.file _) => .error (call.about "target" target .notADirectory)
      | .error f => .error (call.about "target" target f)

/-- The location of a path, if it has one. -/
def ToolCall.place? (call : ToolCall) (t : FileTree) (path : ByteText) : Option Location :=
  (t.locate call.base (pathOf path)).toOption

/-- What is said about a transfer that was asked to be shown, with the ending of the name that keeps
what was in the way. -/
def shown (verb : String) (x : Transfer) (ending : Option ByteText) : ByteText :=
  let backup : ByteText := match ending with
    | some e => joinText [byteText " (backup: ", shellQuoted (x.target ++ e), [')']]
    | none => []
  joinText [byteText verb, shellQuoted x.source, byteText " -> ", shellQuoted x.target, backup,
    ['\n']]

/-! ## Copying -/

/-- How the names of files are made that keep what was in the way. -/
inductive BackupKind where
  | simple
  | numbered
  /-- With numbers where there are some already. -/
  | existing

/-- How what is in the way is kept. -/
structure Backup where
  kind : BackupKind
  suffix : ByteText

/-- The number of a backup of a file, if a name is that of one. -/
def backupNumber? (name other : String) : Option Nat :=
  let front := name.toList ++ ['.', '~']
  let digits := (other.toList.drop front.length).dropLast
  if front.isPrefixOf other.toList ∧ other.toList.getLast? = some '~' ∧ !digits.isEmpty ∧
      digits.all (·.isDigit) then some (digitsValue digits)
  else none

/-- What is put behind the name of a file to keep it. -/
def Backup.ending (b : Backup) (t : FileTree) (place : Location) : ByteText :=
  let numbers := t.nodes.filterMap fun (other, _) =>
    if other.dropLast = place.dropLast then
      backupNumber? (place.getLastD "") (other.getLastD "")
    else none
  let next := byteText s!".~{numbers.foldl max 0 + 1}~"
  match b.kind with
  | .simple => b.suffix
  | .numbered => next
  | .existing => if numbers.isEmpty then b.suffix else next

/-- How files are treated when something is in their way. -/
structure Overwriting where
  /-- Whether it is kept. -/
  keepsOld : Bool
  /-- Whether somebody is asked. -/
  asks : Bool
  /-- How it is kept under another name. -/
  backup : Option Backup

/-- How files are copied. -/
structure CopyManner where
  recursive : Bool
  shows : Bool
  overwriting : Overwriting
  /-- What copies permit; nothing means that new ones are like their sources. -/
  mode : Option Nat
  /-- Whether copies permit all that their sources do. -/
  preserves : Bool
  /-- Whether something in the way is taken away first, and that is shown. -/
  replaces : Bool
  /-- Whether the content of files stays what it is. -/
  onlyAttributes : Bool := false
  /-- Whether copies are to share their content with their sources. -/
  clones : Bool := false
  /-- Whether nothing happens where the target is already what it is to be. -/
  keepsSame : Bool

/-- Why a file cannot be created; a slash at the end asks for a directory. -/
def creationFault (target : ByteText) (f : FileFault) : FileFault :=
  if f = .isADirectory ∧ target.getLast? = some '/' then .notADirectory else f

/-- Puts something that is in the way aside, and says what is put behind its name. -/
def Overwriting.putAside (o : Overwriting) (place? : Option Location) (t : FileTree) :
    Option ByteText × FileTree :=
  match o.backup, place? with
  | some b, some place =>
    match place.getLast? with
    | some name =>
      let ending := b.ending t place
      (some ending, t.relocate place (place.dropLast ++ [name ++ stringOf ending]))
    | none => (none, t)
  | _, _ => (none, t)

/-- Decides what happens to something that is in the way of a file, and goes on; what is put behind
its name is told. -/
def Overwriting.decide (o : Overwriting) (call : ToolCall) (question : List ByteText)
    (x : Transfer) (t : FileTree) (proceed : Option ByteText → FileTree → Reply × FileTree) :
    Reply × FileTree :=
  let (agrees, asked) := if o.asks then call.ask question else (true, .quiet)
  if agrees then
    let (ending, t) := o.putAside (call.place? t x.target) t
    let (reply, t) := proceed ending t
    (asked.followedBy reply, t)
  else ({ asked with status := 1 }, t)

/-- Writes a copy of a file, and gives it permissions if they are to change. -/
def ToolCall.create (call : ToolCall) (t : FileTree) (target : ByteText) (content : ByteArray)
    (mode : Option Nat) : Reply × FileTree :=
  if isNowhere target then (.quiet, t)
  else if let some errors := streamPath? target then (⟨0, [(errors, byteTextOf content)], 0⟩, t)
  else
    match t.write call.base (pathOf target) content, call.place? t target, mode with
    | .ok t, some place, some bits => (.quiet, t.permit place bits)
    | .ok t, _, _ => (.quiet, t)
    | .error f, _, _ => (call.about "cannot create regular file" target (creationFault target f), t)

/-- Copies a directory with all that is in it; `mode` says what new copies permit. -/
def copyDirectory (shows : Bool) (mode : Nat → Nat) (call : ToolCall) (x : Transfer)
    (t : FileTree) : Reply × FileTree :=
  match call.place? t x.source, call.place? t x.target with
  | some place, some target =>
    let isNew := (t.get? target).isNone
    let said : ByteText := (t.inside place).flatMap fun (way, _) =>
      let name := byteText ("/".intercalate way)
      shown "" ⟨nameInside x.source name, nameInside x.target name⟩ none
    let made := if isNew then (t.put target .directory).permit target (mode (t.mode place)) else t
    let after := made.copyBelow mode place target
    if place.isPrefixOf target then
      (call.complain [byteText "cannot copy a directory, ", shellQuoted x.source,
        byteText ", into itself, ", shellQuoted x.target], after)
    else (if shows then .said ((if isNew then shown "" x none else []) ++ said) else .quiet, after)
  | _, _ => (call.about "cannot create directory" x.target .notFound, t)

/-- Whether the target of a transfer already holds what it is to hold, and permits the same. -/
def CopyManner.isDone (m : CopyManner) (call : ToolCall) (x : Transfer) (node : FileNode)
    (t : FileTree) : Bool :=
  !node.isDirectory && (call.stat t x.target).toOption.any node.isSame &&
    (call.place? t x.target).any fun place => some (t.mode place) = m.mode

/-- Copies one file or directory. -/
def copyOne (m : CopyManner) (call : ToolCall) (x : Transfer) (t : FileTree) : Reply × FileTree :=
  match call.stat t x.source with
  | .error f => (call.about "cannot stat" x.source f, t)
  | .ok node =>
    let isDirectory := node.isDirectory
    if m.keepsSame && m.isDone call x node t then (.quiet, t)
    else if isDirectory ∧ !m.recursive then
      let reason :=
        if lastName call.name = byteText "cp" then "-r not specified; omitting directory "
        else "omitting directory "
      (call.complain [byteText reason, shellQuoted x.source], t)
    else
      let isNew : Bool := !(t.isThere call.base (pathOf x.target))
      let reduced (bits : Nat) : Nat :=
        if m.preserves then bits else Permissions.without bits (0o7000 ||| call.mask)
      let old := (call.place? t x.source).elim 0o666 t.mode
      let mode := m.mode <|> if isNew || m.preserves then some (reduced old) else none
      let copy (ending : Option ByteText) (t : FileTree) : Reply × FileTree :=
        match node with
        | .directory => copyDirectory m.shows reduced call x t
        | .file content =>
          let kept : ByteArray := match call.stat t x.target with
            | .ok (.file old) => old
            | _ => .empty
          let content := if m.onlyAttributes then kept else content
          let (reply, t') := call.create t x.target content mode
          let said : Reply := if m.shows && reply.status = 0 then .said (shown "" x ending)
            else .quiet
          if m.clones then
            (said.followedBy (call.complain [byteText "failed to clone ", shellQuoted x.target,
              byteText " from ", shellQuoted x.source, byteText ": Operation not supported"]), t)
          else if (streamPath? x.target).isSome then (reply.followedBy said, t')
          else (said.followedBy reply, t')
      match call.stat t x.target with
      | .error .notFound =>
        if x.target.isEmpty ∧ m.replaces then
          (call.complain [byteText "cannot overwrite directory ", shellQuoted x.target,
            byteText " with non-directory"], t)
        else if x.target.isEmpty ∧ m.shows then
          let (reply, t) := copy none t
          ((Reply.said (shown "" x none)).followedBy reply, t)
        else copy none t
      | .error f => (call.about "cannot stat" x.target f, t)
      | .ok old =>
        let same := (call.place? t x.source).isSome &&
          call.place? t x.source = call.place? t x.target
        if same && !isDirectory then
          (call.complain [shellQuoted x.source, byteText " and ", shellQuoted x.target,
            byteText " are the same file"], t)
        else if old.isDirectory ∧ !isDirectory then
          (call.complain [byteText "cannot overwrite directory ", shellQuoted x.target,
            byteText " with non-directory"], t)
        else if !old.isDirectory ∧ isDirectory then
          (call.complain [byteText "cannot overwrite non-directory ", shellQuoted x.target,
            byteText " with directory ", shellQuoted x.source], t)
        else if isDirectory then copy none t
        else if m.overwriting.keepsOld then (.quiet, t)
        else
          let question := [byteText "overwrite ", shellQuoted x.target, byteText "? "]
          m.overwriting.decide call question x t fun ending t =>
            if m.replaces ∧ m.shows ∧ m.overwriting.backup.isNone then
              let (reply, t) := copy none t
              ((Reply.said
                (joinText [byteText "removed ", shellQuoted x.target, ['\n']])).followedBy
                reply, t)
            else copy ending t

/-- Carries transfers out in order. A target that has just been written is not written again. -/
def carryOut (call : ToolCall) (one : ToolCall → Transfer → FileTree → Reply × FileTree)
    (done : List Transfer) : List Transfer → FileTree → Reply × FileTree
  | [], t => (.quiet, t)
  | x :: rest, t =>
    let place := call.place? t x.target
    let (reply, t) : Reply × FileTree :=
      match done.find? fun y =>
        place.isSome && call.place? t y.target = place && (call.stat t x.source).isOk with
      | some y =>
        if call.place? t y.source = call.place? t x.source then
          ({ call.complain [byteText "warning: source file ", shellQuoted x.source,
              byteText " specified more than once"] with status := 0 }, t)
        else
          (call.complain [byteText "will not overwrite just-created ", shellQuoted x.target,
            byteText " with ", shellQuoted x.source], t)
      | none => one call x t
    let (later, t) :=
      carryOut (call.after reply) one (if reply.status = 0 then x :: done else done) rest t
    (reply.followedBy later, t)

/-- Options that copies and moves have in common. -/
def transferOptions : List (Char × String) :=
  [('f', "force"), ('i', "interactive"), ('n', "no-clobber"), ('v', "verbose"),
   ('T', "no-target-directory"), ('b', ""), ('u', ""), ('Z', "")]

/-- Long options that copies and moves have in common, whose value may be left out. -/
def transferValues : List (Char × String) :=
  [('b', "backup"), ('u', "update"), ('Z', "context")]

/-- The kinds of backups. -/
def backupChoices : List (List String) :=
  [["none", "off"], ["simple", "never"], ["existing", "nil"], ["numbered", "t"]]

/-- How what is in the way is kept, if options ask for that. -/
def backupOf (call : ToolCall) (a : Arguments) : Except Reply (Option Backup) :=
  let suffix := ((a.value? 'S').or (call.valueOf? (byteText "SIMPLE_BACKUP_SUFFIX"))).filter
    fun s => !s.isEmpty && !s.contains '/'
  let backup (kind : BackupKind) : Option Backup := some ⟨kind, suffix.getD ['~']⟩
  let control := call.valueOf? (byteText "VERSION_CONTROL")
  if !a.has 'b' ∧ !a.has 'S' then .ok none
  else
    let (what, kind) : String × ByteText :=
      match (a.value? 'b').filter (!·.isEmpty), control with
      | some kind, _ => ("backup type", kind)
      | none, some kind => ("$VERSION_CONTROL", kind)
      | none, none => ("backup type", byteText "existing")
    match choice backupChoices kind with
    | .ok 0 => .ok none
    | .ok 1 => .ok (backup .simple)
    | .ok 3 => .ok (backup .numbered)
    | .ok _ => .ok (backup .existing)
    | .error f => .error (call.badChoice what backupChoices kind f)

def updateChoices : List (List String) := [["all"], ["none"], ["older"]]

/-- What options say about files that are in the way; of those in `deciding` the last one counts. -/
def overwritingOf (call : ToolCall) (deciding : List Char) (a : Arguments) :
    Except Reply Overwriting := do
  let backup ← backupOf call a
  let last? := (a.options.reverse.find? fun o => deciding.contains o.letter).map (·.letter)
  let update := ((a.value? 'u').filter (!·.isEmpty)).getD (byteText "older")
  match choice updateChoices update with
  | .error f => throw (call.badChoice "--update" updateChoices update f)
  | .ok n => pure ⟨last? = some 'n' || n = 1, last? = some 'i', backup⟩

def copyTable : OptionTable where
  flags := transferOptions ++
    [('r', "recursive"), ('R', "recursive"), ('a', "archive"), ('p', ""),
     ('d', "no-dereference"), ('P', "no-dereference"), ('L', "dereference"), ('H', ""),
     ('l', "link"), ('s', "symbolic-link"), ('x', "one-file-system"),
     ('\x02', "remove-destination"), ('\x04', "attributes-only"), ('\x05', "parents"),
     ('\x07', "strip-trailing-slashes"), ('\x08', "debug"), ('\x0b', "copy-contents")]
  valued := [('t', "target-directory"), ('S', "suffix"), ('\x01', "no-preserve"),
    ('\x06', "sparse")]
  optional := transferValues ++ [('p', "preserve"), ('\x03', "reflink")]

/-- Where operands go that keep their paths inside the directory that they are copied to. -/
def transfersWithParents (call : ToolCall) (t : FileTree) (a : Arguments) :
    Except Reply (List Transfer) := do
  let xs ← transfers call t a "target directory"
  let target := (a.value? 't').getD (a.operands.getLastD [])
  if t.isDirectory call.base (pathOf target) then
    pure (xs.map fun x => ⟨x.source, nameInside target x.source⟩)
  else throw (call.usage [byteText "with --parents, the destination must be a directory"])

/-- What is said about an option that may come to mean something else. -/
def keepingWarning (name : ByteText) : Reply :=
  { Reply.complaint (name ++
      byteText (": warning: behavior of -n is non-portable and may change " ++
      "in future; use --update=none instead")) with status := 0 }

def keptChoices : List (List String) :=
  [["mode"], ["timestamps"], ["ownership"], ["links"], ["context"], ["xattr"], ["all"]]

/-- Whether the permissions are among what an option names, in words with commas between them. -/
def namesMode (call : ToolCall) (option : String) (o : GivenOption) : Except Reply Bool := do
  let places ← (splitAtEach ',' o.value).mapM fun s =>
    (choice keptChoices s).mapError fun f => call.badChoice option keptChoices s f
  pure (places.any [0, 6].contains)

def sparseChoices : List (List String) := [["never"], ["auto"], ["always"]]

def cloneChoices : List (List String) := [["auto"], ["always"], ["never"]]

/-- Makes the directories that a path in a directory names, and shows them. -/
def makeParents (shows : Bool) (call : ToolCall) (x : Transfer) (t : FileTree) :
    ByteText × FileTree :=
  let front := x.target.take (x.target.length - x.source.length)
  let ends := (List.range x.source.length).filter fun n => n ≠ 0 && x.source[n]? = some '/'
  ends.foldl (fun (said, t) n =>
    let inner := x.source.take n
    let path := front ++ inner
    match t.makeDirectory call.base (pathOf path) with
    | .ok t => (if shows then joinText [said, inner, byteText " -> ", path, ['\n']] else said, t)
    | .error _ => (said, t)) ([], t)

/-- How the options of a copy ask for it. -/
def copyManner (call : ToolCall) (a : Arguments) : Except Reply CopyManner := do
  let overwriting ← overwritingOf call ['i', 'n'] a
  let checked (option : String) (choices : List (List String)) (s : ByteText) :
      Except Reply Nat :=
    (choice choices s).mapError fun f => call.badChoice option choices s f
  (a.options.filter (·.letter = '\x06')).forM fun o =>
    discard (checked "--sparse" sparseChoices o.value)
  let kept ← (a.options.filter fun o => o.letter = 'p' && o.hasValue).mapM
    (namesMode call "--preserve")
  let dropped ← (a.options.filter (·.letter = '\x01')).mapM (namesMode call "--no-preserve")
  let clone : Nat ← match a.value? '\x03' with
    | none => pure 0
    | some s => if s.isEmpty then pure 1 else checked "--reflink" cloneChoices s
  pure
    { recursive := a.has 'r' || a.has 'R' || a.has 'a'
      shows := a.has 'v'
      overwriting
      mode := if dropped.any id then
        some (Permissions.without 0o666 call.mask) else none
      preserves := a.has 'a' || kept.any id || a.options.any fun o => o.letter = 'p' && !o.hasValue
      replaces := false
      onlyAttributes := a.has '\x04'
      clones := clone = 1
      keepsSame := false }

/-- Copies files, and directories where that is asked for. -/
def copyTool : Tool := fun call t =>
  withArguments copyTable 1 call t fun a =>
    match copyManner call a with
    | .error reply => (reply, t)
    | .ok manner =>
      let parents := a.has '\x05'
      let found := if parents then transfersWithParents call t a
        else transfers call t a "target directory"
      let (reply, t) := match found with
        | .error reply => (reply, t)
        | .ok xs =>
          carryOut call (fun call x t =>
            let (said, t) := if parents then makeParents manner.shows call x t else ([], t)
            let (reply, t) := copyOne manner call x t
            (if said.isEmpty then reply else (Reply.said said).followedBy reply, t)) [] xs t
      (if a.has 'n' then (keepingWarning call.name).followedBy reply else reply, t)

/-! ## Moving -/

/-- Moves one file or directory. -/
def moveOne (o : Overwriting) (shows : Bool) (call : ToolCall) (x : Transfer) (t : FileTree) :
    Reply × FileTree :=
  match call.stat t x.source with
  | .error f => (call.about "cannot stat" x.source f, t)
  | .ok node =>
    let isDirectory := node.isDirectory
    let refused (f : FileFault) : Reply × FileTree :=
      (call.complain [byteText "cannot move ", shellQuoted x.source, byteText " to ",
        shellQuoted x.target, byteText ": ", f.text], t)
    let said (ending : Option ByteText) : Reply :=
      if shows then .said (shown "renamed " x ending) else .quiet
    let last := lastName x.source
    let place? := call.place? t x.source
    let target? := call.place? t x.target
    let intoItself : Bool := match place?, target? with
      | some place, some target => isDirectory && place.isPrefixOf target
      | _, _ => false
    if x.target.isEmpty ∧ !isDirectory then
      if o.keepsOld then (call.complain [byteText "not replacing ", shellQuoted x.target], t)
      else
        (call.complain [byteText "cannot overwrite directory ", shellQuoted x.target,
          byteText " with non-directory"], t)
    else if last = ['.'] ∨ last = ['.', '.'] ∨ last = ['/'] then
      (call.complain [byteText "cannot move ", shellQuoted x.source, byteText " to ",
        shellQuoted x.target, byteText ": Device or resource busy"], t)
    else if intoItself then
      (call.complain [byteText "cannot move ", shellQuoted x.source,
        byteText " to a subdirectory of itself, ", shellQuoted x.target], t)
    else
      let move (ending : Option ByteText) (t : FileTree) : Reply × FileTree :=
        match place?, t.locate call.base (pathOf x.target) with
        | some place, .ok target =>
          if x.target.getLast? = some '/' ∧ !isDirectory then refused .notADirectory
          else (said ending, t.relocate place target)
        | _, .error f => refused f
        | none, _ => refused .notFound
      match call.stat t x.target with
      | .error .notFound => move none t
      | .error f => (call.about "cannot stat" x.target f, t)
      | .ok old =>
        if isNowhere x.target then
          match place? with
          | some place => (said none, t.remove place)
          | none => (said none, t)
        else if place? = target? then
          (call.complain [shellQuoted x.source, byteText " and ", shellQuoted x.target,
            byteText " are the same file"], t)
        else if old.isDirectory ∧ !isDirectory then
          (call.complain [byteText "cannot overwrite directory ", shellQuoted x.target,
            byteText " with non-directory"], t)
        else if !old.isDirectory ∧ isDirectory then
          (call.complain [byteText "cannot overwrite non-directory ", shellQuoted x.target,
            byteText " with directory ", shellQuoted x.source], t)
        else if o.keepsOld then
          (call.complain [byteText "not replacing ", shellQuoted x.target], t)
        else if isDirectory ∧ !(t.below (target?.getD [])).isEmpty then
          (call.complain [byteText "cannot overwrite ", shellQuoted x.target,
            byteText ": Directory not empty"], t)
        else
          o.decide call [byteText "overwrite ", shellQuoted x.target, byteText "? "] x t move

def moveTable : OptionTable where
  flags := transferOptions ++
    [('\x01', "strip-trailing-slashes"), ('\x03', "no-copy"), ('\x04', "debug")]
  valued := [('t', "target-directory"), ('S', "suffix")]
  optional := transferValues

def moveTool : Tool := fun call t =>
  withArguments moveTable 1 call t fun a =>
    match overwritingOf call ['f', 'i', 'n'] a, transfers call t a "target directory" with
    | .error reply, _ | .ok _, .error reply => (reply, t)
    | .ok overwriting, .ok xs => carryOut call (moveOne overwriting (a.has 'v')) [] xs t

/-! ## Installing -/

def installTable : OptionTable where
  flags :=
    [('b', ""), ('c', ""), ('C', "compare"), ('d', "directory"), ('D', ""),
     ('p', "preserve-timestamps"), ('s', "strip"), ('v', "verbose"), ('T', "no-target-directory"),
     ('Z', ""), ('\x01', "debug")]
  valued :=
    [('m', "mode"), ('o', "owner"), ('g', "group"), ('t', "target-directory"), ('S', "suffix"),
     ('\x02', "strip-program")]
  optional := [('b', "backup"), ('Z', "context")]

/-- The directory that a path stands in; empty if it says nothing about that. -/
def directoryOf (path : ByteText) : ByteText :=
  let trimmed := (path.reverse.dropWhile (· = '/')).reverse
  ((trimmed.reverse.dropWhile (· ≠ '/')).drop 1).reverse

/-- The beginnings of a path, each one piece longer. -/
def beginnings (path : ByteText) : List ByteText :=
  let ends := (List.range path.length).filter fun n =>
    path[n]? = some '/' && n ≠ 0 && path[n - 1]? ≠ some '/'
  let whole := if path.getLast? = some '/' ∧ ends.contains (path.length - 1) then [] else [path]
  let shown := ends.map (fun n => path.take n) ++ whole
  if whole.isEmpty then shown.dropLast ++ [path] else shown

/-- Makes directories one inside the other until one cannot be made; what was made is shown. -/
def makeChain (shows : Option String) (call : ToolCall) : List ByteText → FileTree →
    Reply × FileTree
  | [], t => (.quiet, t)
  | path :: rest, t =>
    match t.lookup call.base (pathOf (path.reverse.dropWhile (· = '/')).reverse) with
    | .ok .directory => makeChain shows call rest t
    | .ok (.file _) =>
      (call.cannotMake path (if rest.isEmpty then .alreadyExists else .notADirectory), t)
    | .error _ =>
      match t.makeDirectory call.base (pathOf path) with
      | .ok t =>
        let said : Reply := match shows with
          | some verb =>
            .said (joinText [call.name, byteText (": " ++ verb ++ " directory "), shellQuoted path,
              ['\n']])
          | none => .quiet
        let (later, t) := makeChain shows call rest t
        (said.followedBy later, t)
      | .error f => (call.cannotMake path f, t)

/-- Takes a file away again from which nothing can be stripped. -/
def strip (call : ToolCall) (x : Transfer) (t : FileTree) : Reply × FileTree :=
  let complaint :=
    joinText [byteText "strip: ", x.target, byteText ": file format not recognized\n"]
  let reply := call.complain [byteText "strip process terminated abnormally"]
  ({ reply with writes := (true, complaint) :: reply.writes },
    (call.place? t x.target).elim t t.remove)

/-- Copies files with their directories, or makes directories. What is copied may be run unless
something else is asked for. -/
def installTool : Tool := fun call t =>
  withArguments installTable 1 call t fun a =>
    let shows := if a.has 'v' then some "creating" else none
    let make (path : ByteText) : FileTree → Reply × FileTree :=
      makeChain shows call (beginnings path)
    match a.value? 'm', (a.value? 'm').bind Permissions.change? with
    | some mode, none => (call.complain [byteText "invalid mode ", wordQuoted mode], t)
    | _, steps =>
      let stranger? := (a.value? 'o').filter (!isUser ·) |>.map fun s => ("user ", s)
      let strangers? := (a.value? 'g').filter (!isGroup ·) |>.map fun s => ("group ", s)
      match stranger? <|> strangers?, a.operands, overwritingOf call [] a with
      | some (kind, s), _ :: _, _ =>
        (call.complain [byteText ("invalid " ++ kind), shellQuoted s], t)
      | _, _, .error reply => (reply, t)
      | _, _, .ok overwriting => install a overwriting shows make steps call t
where
  install (a : Arguments) (overwriting : Overwriting) (shows : Option String)
      (make : ByteText → FileTree → Reply × FileTree)
      (steps : Option (List Permissions.Step)) (call : ToolCall) (t : FileTree) :
      Reply × FileTree :=
    let mode := steps.map (Permissions.after 0 (a.has 'd') 0)
    if a.has 'd' then
      if a.operands.isEmpty then (call.usage [byteText "missing file operand"], t)
      else
        eachOperand (fun path t =>
          let (reply, t) := make path t
          match reply.status, call.place? t path with
          | 0, some place => (reply, t.permit place (mode.getD 0o755))
          | _, _ => (reply, t)) a.operands t
    else
      let (made, t) : Reply × FileTree := match a.has 'D', a.value? 't', a.operands with
        | true, some directory, _ => make directory t
        | true, none, [_, target] =>
          let parent := directoryOf target
          if parent.isEmpty then (.quiet, t) else make parent t
        | _, _, _ => (.quiet, t)
      let manner : CopyManner :=
        { recursive := false
          shows := shows.isSome
          overwriting
          mode := some (mode.getD 0o755)
          preserves := false
          replaces := true
          keepsSame := a.has 'C' }
      match transfers call t a "failed to access" with
      | .error reply => (made.followedBy reply, t)
      | .ok xs =>
        let (reply, t) := carryOut call (fun call x t =>
          let (reply, t) := copyOne manner call x t
          if a.has 's' ∧ reply.status = 0 then strip call x t else (reply, t)) [] xs t
        (made.followedBy reply, t)

/-! ## Links -/

def linkTable : OptionTable where
  flags :=
    [('s', "symbolic"), ('f', "force"), ('n', "no-dereference"), ('v', "verbose"),
     ('T', "no-target-directory"), ('b', ""), ('d', "directory"), ('F', "directory"),
     ('i', "interactive"), ('L', "logical"), ('P', "physical"), ('r', "relative")]
  valued := [('t', "target-directory"), ('S', "suffix")]
  optional := [('b', "backup")]

/-- How links are made. -/
structure LinkManner where
  symbolic : Bool
  forced : Bool
  shows : Bool
  overwriting : Overwriting

/-- Makes one link. A link is a second copy: nothing here tells the two apart. -/
def linkOne (m : LinkManner) (call : ToolCall) (x : Transfer) (t : FileTree) : Reply × FileTree :=
  let kind := if m.symbolic then "symbolic" else "hard"
  let refused (f : FileFault) : Reply × FileTree :=
    let origin : ByteText := if m.symbolic ∨ f = .alreadyExists then []
      else byteText " => " ++ shellQuoted x.source
    (call.complain [byteText ("failed to create " ++ kind ++ " link "), shellQuoted x.target,
      origin,
      byteText ": ", f.text], t)
  let source := if m.symbolic ∧ x.source.head? ≠ some '/' ∧ !(directoryOf x.target).isEmpty then
    nameInside (directoryOf x.target) x.source else x.source
  let said (ending : Option ByteText) : Reply :=
    let backup : ByteText := match ending with
      | some e => shellQuoted (x.target ++ e) ++ byteText " ~ "
      | none => []
    if m.shows then
      .said (joinText [backup, shellQuoted x.target,
        byteText (if m.symbolic then " -> " else " => "),
        shellQuoted x.source, ['\n']])
    else .quiet
  match call.stat t source, m.symbolic with
  | .error f, false => (call.about "failed to access" x.source f, t)
  | .ok .directory, false =>
    (call.complain [quotedIfNeeded x.source, byteText ": hard link not allowed for directory"], t)
  | found, _ =>
    match t.locate call.base (pathOf x.target) with
    | .error f => refused f
    | .ok target =>
      let isThere : Bool := (t.get? target).isSome
      let make (ending : Option ByteText) (t : FileTree) : Reply × FileTree :=
        match found, call.place? t source with
        | .ok (.file content), some place =>
          (said ending, (t.put target (.file content)).permit target (t.mode place))
        | .ok .directory, some place =>
          (said ending, (t.put target .directory).copyBelow id place target)
        | _, _ => (said ending, t)
      if isThere ∧ !m.forced then refused .alreadyExists
      else if !isThere ∧ x.target.getLast? = some '/' then refused .notFound
      else if m.forced ∧ call.place? t source = some target then
        (call.complain [shellQuoted x.source, byteText " and ", shellQuoted x.target,
          byteText " are the same file"], t)
      else if isThere then
        m.overwriting.decide call [byteText "replace ", shellQuoted x.target, byteText "? "]
          x t make
      else make none t

/-- Makes links. A single operand is linked into the working directory. -/
def linkTool : Tool := fun call t =>
  withArguments linkTable 1 call t fun a =>
    match overwritingOf call ['f', 'i'] a with
    | .error reply => (reply, t)
    | .ok overwriting =>
      let forced := a.has 'f' || a.has 'i' || overwriting.backup.isSome
      let one := linkOne ⟨a.has 's', forced, a.has 'v', overwriting⟩
      match a.operands, a.value? 't' with
      | [source], none => one call ⟨source, nameInside ['.'] (lastName source)⟩ t
      | _, directory? =>
        let file? := directory?.filter fun path =>
          (call.stat t path).toOption.any fun node => !node.isDirectory
        match file?, transfers call t a "failed to access" with
        | some path, .error _ =>
          (call.complain [byteText "target ", shellQuoted path,
            byteText " is not a directory"], t)
        | _, .error reply => (reply, t)
        | _, .ok xs => carryOut call one [] xs t

end KernelLink
