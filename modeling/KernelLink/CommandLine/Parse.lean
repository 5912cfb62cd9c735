import KernelLink.CommandLine.Option

/-!
# Words of a command line

What a word looks like, before anything is known about options: a separator, behind which nothing is
an option any more, an option with a long name and perhaps a value behind an equals sign, letters
behind a single dash, or plain text. A dash alone is plain text.
-/

namespace KernelLink

inductive CommandWord where
  | separator
  | long (name : String) (value : Option String)
  | letters (first : Char) (rest : List Char)
  | plain
deriving DecidableEq, Repr

namespace CommandWord

/-- The name and the value of a long option, given what stands behind the dashes. -/
def ofLong (body : List Char) : CommandWord :=
  match body.span (· ≠ '=') with
  | (name, _ :: value) => .long (String.ofList name) (some (String.ofList value))
  | (name, []) => .long (String.ofList name) none

def ofText (text : String) : CommandWord :=
  match text.toList with
  | ['-', '-'] => .separator
  | '-' :: '-' :: body => ofLong body
  | '-' :: first :: rest => .letters first rest
  | _ => .plain

end CommandWord

/-!
## Reading command lines

Words are read from left to right. An option without an equals sign waits for the next word, which
becomes its value unless it looks like an option itself. Such a value is looked at only when
something follows that is sure to be an option, or at the end, so of two faults the one that shows
first in this order is reported: a word that nothing is known about before a value that was waiting,
and a subcommand's own faults before those of the option that stands just before it.
-/

/-- Why a command line is not carried out. -/
inductive UsageFault where
  /-- Nothing is wrong: help was asked for. -/
  | helpWanted
  /-- Neither options nor a subcommand. -/
  | nothingGiven
  | noSubcommand
  | unknownSubcommand (word : String)
  | unknownArgument (word : String)
  /-- An option that has no value got one. -/
  | unneededValue (word : String)
  | missingValue (option : OptionName)
  | noChoice (option : OptionName) (value : String)
  | unreadable (option : OptionName) (value : String)
  | missingOption (option : OptionName)
  | repeated (option : OptionName)
deriving DecidableEq, Repr

/-- What has been read on one side of the subcommand. -/
structure Progress where
  given : GivenOptions
  /-- The options whose values were taken. -/
  settled : List OptionName
  /-- The last option, with its value if it is there, as long as it was not looked at. -/
  waiting : Option (OptionName × Option String)
deriving DecidableEq, Repr

namespace Progress

def start : Progress := ⟨.empty, [], none⟩

/-- Whether the next word is a value. -/
def wantsValue (p : Progress) : Bool :=
  match p.waiting with
  | some (_, none) => true
  | _ => false

/-- Takes the value of an option. -/
def settle (p : Progress) (o : OptionName) (value : String) : Except UsageFault Progress :=
  if p.settled.contains o then .error (.repeated o)
  else match o.store value p.given with
    | .ok given => .ok ⟨given, o :: p.settled, none⟩
    | .error .noChoice => .error (.noChoice o value)
    | .error .unreadable => .error (.unreadable o value)

/-- Looks at the value that is waiting. -/
def resolve (p : Progress) : Except UsageFault Progress :=
  match p.waiting with
  | none => .ok p
  | some (o, none) => .error (.missingValue o)
  | some (o, some value) => p.settle o value

/-- Help is given once nothing is wrong before it. -/
def help (p : Progress) : UsageFault :=
  match p.resolve with
  | .ok _ => .helpWanted
  | .error f => f

end Progress

/-- What a word means where a subcommand may stand. -/
inductive Heading where
  | subcommand (n : SubcommandName)
  | help
deriving DecidableEq, Repr

def heading? (word : String) : Option Heading :=
  if word = "help" then some .help
  else (SubcommandName.all.find? fun n => n.text = word).map .subcommand

/-- The fault that asking for help ends in: the words have to lead to a subcommand. -/
def helpOn : List String → UsageFault
  | [] => .helpWanted
  | [word] => if (heading? word).isSome then .helpWanted else .unknownSubcommand word
  | word :: next :: _ => .unknownSubcommand (if (heading? word).isSome then next else word)

namespace Side

def heading? (s : Side) (word : String) : Option Heading :=
  match s with
  | before => KernelLink.heading? word
  | behind _ => none

/-- The fault of a word that is neither an option nor a value. -/
def unexpected (s : Side) (word : String) : UsageFault :=
  match s with
  | before => .unknownSubcommand word
  | behind _ => .unknownArgument word

/-- Behind a separator no word fits; one that would have been a subcommand did not need it. -/
def afterSeparator (s : Side) (word : String) : UsageFault :=
  if (s.heading? word).isSome then .unknownArgument word else s.unexpected word

/-- Where reading one side ends: at the end of the words, or at a subcommand. -/
abbrev End := Progress × Option (SubcommandName × List String)

def read (s : Side) (p : Progress) : List String → Except UsageFault End
  | [] => .ok (p, none)
  | word :: rest =>
    match if p.wantsValue then none else s.heading? word with
    | some .help => .error (helpOn rest)
    | some (.subcommand n) => .ok (p, some (n, rest))
    | none =>
      match CommandWord.ofText word with
      | .separator =>
        match rest with
        | [] => .ok (p, none)
        | next :: _ => .error (s.afterSeparator next)
      | .letters first _ => .error (if first = 'h' then p.help else .unknownArgument word)
      | .long "help" none => .error p.help
      | .long "help" (some _) => .error (.unneededValue word)
      | .long name value =>
        match s.option? name with
        | none => .error (.unknownArgument word)
        | some o => do
          let p ← p.resolve
          match value with
          | some value => do
            let p ← p.settle o value
            s.read p rest
          | none => s.read { p with waiting := some (o, none) } rest
      | .plain =>
        match p.waiting with
        | some (o, none) => s.read { p with waiting := some (o, some word) } rest
        | _ => .error (s.unexpected word)

end Side

namespace CommandLine

/-- Reads what stands behind a subcommand's name. -/
def readSubcommand (n : SubcommandName) (words : List String) :
    Except UsageFault (Overrides × Subcommand) := do
  let (p, _) ← (Side.behind n).read .start words
  let p ← p.resolve
  let subcommand ← (n.toSubcommand p.given).mapError .missingOption
  .ok (p.given.overrides, subcommand)

def parse (words : List String) : Except UsageFault CommandLine := do
  let (p, found) ← Side.before.read .start words
  match found with
  | some (n, rest) => do
    let (overrides, subcommand) ← readSubcommand n rest
    let p ← p.resolve
    .ok ⟨p.given.backend.getD .host, p.given.settingsFile, overrides.orElse p.given.overrides,
      subcommand⟩
  | none => do
    let p ← p.resolve
    .error (if p.settled.isEmpty then .nothingGiven else .noSubcommand)

end CommandLine

end KernelLink
