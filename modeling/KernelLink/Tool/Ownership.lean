import KernelLink.Tool.Status

/-!
# Whom files belong to

All files belong to one user and one group, and stay with them: whoever is named as an owner has to
be known, but nothing else comes of it.
-/

namespace KernelLink

/-- Who is to own files. -/
structure Ownership where
  user : Option ByteText
  group : Option ByteText

/-- What a text says about owners that is not known. -/
inductive OwnershipFault where
  | user
  | group

namespace Ownership

/-- The owners that a text names: a user, a group behind a colon, or both. A user with nothing
behind the colon stands for the user's group too. -/
def read (s : ByteText) : Except OwnershipFault Ownership :=
  let user := s.takeWhile (· ≠ ':')
  let rest := s.drop user.length
  let group := rest.drop 1
  if !user.isEmpty && !isUser user then .error .user
  else if !group.isEmpty && !isGroup group then .error .group
  else
    let user? := if user.isEmpty then none else some user
    let group? := if !group.isEmpty then some group
      else if rest.isEmpty then none else user?
    .ok ⟨user?, group?⟩

/-- What is shown of a file whose owners stay as they are. -/
def kept (o : Ownership) (path : ByteText) : ByteText :=
  let (what, whom) : String × Option ByteText := match o.user, o.group with
    | some _, some _ => ("ownership", some (ownerName ++ [':'] ++ ownerName))
    | some _, none => ("ownership", some ownerName)
    | none, some _ => ("group", some ownerName)
    | none, none => ("ownership", none)
  joinText [byteText (what ++ " of "), shellQuoted path, byteText " retained",
    whom.elim [] fun s => byteText " as " ++ s, ['\n']]

end Ownership

def ownTable : OptionTable where
  flags := [('c', "changes"), ('f', "silent"), ('\x01', "quiet"), ('v', "verbose"),
    ('\x02', "dereference"), ('h', "no-dereference"), ('R', "recursive"), ('H', ""), ('L', ""),
    ('P', ""), ('\x03', "preserve-root"), ('\x04', "no-preserve-root")]
  valued := [('\x05', "from"), ('\x06', "reference")]

/-- Gives one operand and all that is in it to owners, which it has already. -/
def Ownership.give (o : Ownership) (a : Arguments) (wanted : ByteText) (call : ToolCall)
    (path : ByteText) (t : FileTree) : Reply × FileTree :=
  match call.stat t path, call.place? t path with
  | .ok _, place? =>
    let inner : List ByteText := if a.has 'R' then
        (place?.elim [] t.inside).map fun (way, _) =>
          nameInside path (byteText ("/".intercalate way))
      else []
    let paths := inner.reverse ++ [path]
    (if a.has 'v' then .said (paths.flatMap o.kept) else .quiet, t)
  | .error f, _ =>
    let what := if o.user.isSome then "ownership" else "group"
    let said : Reply := if a.has 'f' ∨ a.has '\x01' then .ended 1
      else call.about "cannot access" path f
    let shown : Reply := if a.has 'v' then
        .said (joinText [byteText ("failed to change " ++ what ++ " of "), shellQuoted path,
          byteText " to ", wanted, ['\n']])
      else .quiet
    (said.followedBy shown, t)

/-- Gives files to other owners; `read` says what owners a text names. -/
def giveTool (read : ByteText → Except OwnershipFault Ownership) : Tool := fun call t =>
  withArguments ownTable 1 call t fun a =>
    let refused (f : OwnershipFault) (s : ByteText) : Reply × FileTree :=
      let what := match f with
        | .user => "invalid user: "
        | .group => "invalid group: "
      (call.complain [byteText what, wordQuoted s], t)
    let badOrigin := (a.options.filter (·.letter = '\x05')).findSome? fun o =>
      match Ownership.read o.value with
      | .ok _ => none
      | .error f => some (refused f o.value)
    if let some result := badOrigin then result
    else match a.value? '\x06', a.operands with
    | none, [] | some _, [] => (call.usage [byteText "missing operand"], t)
    | none, [one] => (call.usage [byteText "missing operand after ", wordQuoted one], t)
    | some file, paths =>
      match call.stat t file with
      | .ok _ =>
        let o : Ownership := ⟨some ownerName, some ownerName⟩
        eachOperand (o.give a ownerName call) paths t
      | .error f => (call.about "failed to get attributes of" file f, t)
    | none, wanted :: paths =>
      match read wanted with
      | .ok o => eachOperand (o.give a wanted call) paths t
      | .error f => refused f wanted

/-- Gives files to a user, a group, or both. -/
def ownTool : Tool := giveTool Ownership.read

/-- Gives files to a group. -/
def ownGroupTool : Tool := giveTool fun s =>
  if s.isEmpty then .ok ⟨none, none⟩
  else if isGroup s then .ok ⟨none, some s⟩
  else .error .group

/-! ## Who is asking -/

def identityTable : OptionTable where
  flags := [('a', ""), ('g', "group"), ('G', "groups"), ('n', "name"), ('r', "real"), ('u', "user"),
    ('z', "zero"), ('Z', "context")]
  valued := []

/-- Writes who runs the program. -/
def identityTool : Tool := fun call t =>
  withArguments identityTable 1 call t fun a =>
    let kinds := ['u', 'g', 'G'].filter a.has
    let finish : ByteText := if a.has 'z' then ['\x00'] else ['\n']
    match a.operands.find? fun s => !isUser s with
    | some s =>
      let reason := if s.isEmpty then byteText ": " ++ FileFault.notFound.text else []
      (call.complain [wordQuoted s, byteText ": no such user", reason], t)
    | none =>
      if kinds.length > 1 then
        (call.complain [byteText "cannot print \x22only\x22 of more than one choice"], t)
      else if kinds.isEmpty ∧ (a.has 'n' ∨ a.has 'r') then
        (call.complain [byteText "printing only names or real IDs requires -u, -g, or -G"], t)
      else if kinds.isEmpty then (.said (byteText "uid=0(root) gid=0(root) groups=0(root)\n"), t)
      else (.said ((if a.has 'n' then ownerName else ['0']) ++ finish), t)

def ownNameTool : Tool := fun call t =>
  withArguments { flags := [], valued := [] } 1 call t fun a =>
    match a.operands with
    | [] => (.said (ownerName ++ ['\n']), t)
    | one :: _ => (call.usage [byteText "extra operand ", wordQuoted one], t)

end KernelLink
