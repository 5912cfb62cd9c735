import KernelLink.Machine.Streams
import KernelLink.Shell.Arithmetic

/-!
# What a running shell knows

A shell has variables, functions, options, streams and traps, and it runs on a machine. A subshell
starts with a copy of all that; when it ends, only what it did to the machine stays.
-/

namespace KernelLink.Shell

/-- A variable without a value was named but never set. -/
structure Variable where
  value : Option ByteText
  exported : Bool
  isFixed : Bool
deriving DecidableEq, Repr

/-- Why commands stop before their end. -/
inductive Stop where
  /-- The shell ends, with the status that it has. -/
  | exit
  /-- The shell ends because of a fault. -/
  | fault
  /-- The function or the sourced script ends. -/
  | leave
  | breakLoops (levels : Nat)
  | continueLoop (levels : Nat)
  /-- A signal ends the shell. -/
  | signal (number : Nat)
deriving DecidableEq, Repr

structure State where
  machine : Machine
  /-- The working directory. -/
  base : Location
  streams : StreamTable
  bindings : List (ByteText × Variable)
  functions : List (ByteText × Command)
  aliases : List (ByteText × ByteText)
  documents : List (Nat × Word)
  nextDocument : Nat
  /-- What complaints begin with. -/
  name : ByteText
  arguments : List ByteText
  options : List Char
  status : Nat
  /-- The status of the last command substitution of the command that is being run. -/
  substituted : Option Nat
  line : Nat
  /-- The builtin that complaints come from. -/
  speaker : Option ByteText
  /-- How many loops are around the command that is being run. -/
  loops : Nat
  /-- What the local variables of the function were outside, if there is a function. -/
  locals : Option (List (ByteText × Option Variable))
  /-- What is done for a signal; zero stands for the end of the shell. -/
  traps : List (Nat × ByteText)
  /-- Signals that have come and wait for the next command. -/
  pending : List Nat
  /-- The last command that was run in the background, and how it ended. -/
  background : Option Nat
  /-- While a trap is run, the status that the shell had before. -/
  resumed : Option Nat
  /-- How many letters of its argument `getopts` has read. -/
  letters : Nat
  /-- What new files do not permit. -/
  mask : Nat
  /-- How much programs give way to others. -/
  niceness : Int
  isSubshell : Bool
  /-- The number of the shell's own process. -/
  process : Nat
  /-- Signals that were sent to shells around this one. -/
  sent : List (Nat × Nat)

abbrev ShellM := ExceptT Stop (StateM State)

/-- The number of the first shell's process. -/
def firstProcess : Nat := 100

/-- The number of the processes that a shell runs in the background. -/
def State.backgroundProcess (s : State) : Nat := s.process + 1

/-! ## Variables at the start -/

/-- The path of a location. -/
def placePath (place : Location) : ByteText := byteText ("/" ++ "/".intercalate place)

/-- Where programs are looked for if nothing else is said. -/
def standardPath : ByteText :=
  byteText "/usr/local/sbin:/usr/local/bin:/usr/sbin:/usr/bin:/sbin:/bin"

/-- The variables that a shell has of its own, whatever it was given. -/
def ownVariables (base : Location) : List (ByteText × Variable) :=
  let own (name value : String) : ByteText × Variable :=
    (byteText name, ⟨some (byteText value), false, false⟩)
  [own "IFS" " \t\n", own "OPTIND" "1", own "PPID" (toString (firstProcess - 1)),
   (byteText "PWD", ⟨some (placePath base), true, false⟩)]

/-- The variables that a shell has if it was not given them. -/
def missingVariables : List (ByteText × Variable) :=
  [(byteText "PATH", ⟨some standardPath, false, false⟩),
   (byteText "PS1", ⟨some (byteText "# "), false, false⟩),
   (byteText "PS2", ⟨some (byteText "> "), false, false⟩),
   (byteText "PS4", ⟨some (byteText "+ "), false, false⟩)]

/-- Variables with one that is set; it keeps the place that it had, and a new one comes last. -/
def bound (name : ByteText) (v : Variable) :
    List (ByteText × Variable) → List (ByteText × Variable)
  | [] => [(name, v)]
  | other :: rest => if other.1 = name then (name, v) :: rest else other :: bound name v rest

/-- The bucket that a shell keeps a variable in. -/
def bucket (name : ByteText) : Nat :=
  name.foldl (fun n c => n + c.toNat) (16 * name.head?.elim 0 Char.toNat) % 39

/-- The variables that a shell starts with when it is given some. -/
def variablesFrom (given : List (ByteText × Variable)) (base : Location) :
    List (ByteText × Variable) :=
  (given ++ ownVariables base).foldl (fun vs (name, v) => bound name v vs) missingVariables

namespace ShellM

/-! ## Streams -/

/-- Writes to a stream; false if nothing can be written there. -/
def write (stream : Nat) (text : ByteText) : ShellM Bool := do
  let s ← get
  match (s.streams.channel? stream).bind fun n => s.machine.write n text with
  | some machine =>
    set { s with machine }
    pure true
  | none => pure false

/-- What can be read from a stream; nothing if it is closed. -/
def remaining (stream : Nat) : ShellM (Option ByteText) := do
  let s ← get
  pure ((s.streams.channel? stream).map s.machine.remaining)

/-- Takes text off a stream. -/
def advance (stream count : Nat) : ShellM Unit :=
  modify fun s =>
    match s.streams.channel? stream with
    | some n => { s with machine := s.machine.advance n count }
    | none => s

def openChannel (c : Channel) : ShellM Nat := do
  let s ← get
  let (n, machine) := s.machine.openChannel c
  set { s with machine }
  pure n

/-! ## Faults -/

/-- Writes a line on the errors that says where it comes from. -/
def complain (text : ByteText) : ShellM Unit := do
  let s ← get
  let speaker := match s.speaker with
    | some builtin => builtin ++ [':', ' ']
    | none => []
  let place := s.name ++ [':', ' '] ++ decimalText s.line ++ [':', ' ']
  discard (write 2 (place ++ speaker ++ text ++ ['\n']))

def setStatus (status : Nat) : ShellM Unit := modify fun s => { s with status }

/-- Stops with a complaint. -/
def fault {α : Type} (text : ByteText) : ShellM α := do
  complain text
  setStatus 2
  throw .fault

/-- Stops with a complaint about something that is named. -/
def faultAbout {α : Type} (subject : ByteText) (reason : String) : ShellM α :=
  fault (subject ++ [':', ' '] ++ byteText reason)

def hasOption (c : Char) : ShellM Bool := do pure ((← get).options.contains c)

/-! ## Variables -/

def lookup (name : ByteText) : ShellM (Option Variable) := do
  pure (((← get).bindings.find? (·.1 = name)).map (·.2))

/-- The value of a variable. -/
def value? (name : ByteText) : ShellM (Option ByteText) := do
  pure ((← lookup name).bind (·.value))

/-- Replaces a variable, or takes it away. -/
def put (name : ByteText) (v : Option Variable) : ShellM Unit :=
  modify fun s =>
    { s with
      bindings := match v with
        | some v => bound name v s.bindings
        | none => s.bindings.filter (·.1 ≠ name)
      letters := if name = "OPTIND".toList then 0 else s.letters }

/-- Sets a variable unless it is protected. -/
def assign (name value : ByteText) : ShellM Unit := do
  let exportsAll ← hasOption 'a'
  match ← lookup name with
  | some v =>
    if v.isFixed then faultAbout name "is read only"
    else put name (some { v with value := some value, exported := v.exported || exportsAll })
  | none => put name (some ⟨some value, exportsAll, false⟩)

def unset (name : ByteText) : ShellM Unit := do
  match ← lookup name with
  | some v => if v.isFixed then faultAbout name "is read only" else put name none
  | none => pure ()

/-- Remembers what a variable is outside the function, once. -/
def makeLocal (name : ByteText) : ShellM Unit := do
  match (← get).locals with
  | some saved =>
    if saved.any (·.1 = name) then pure ()
    else
      let outside ← lookup name
      modify fun s => { s with locals := some ((name, outside) :: saved) }
  | none => pure ()

/-- The variables that programs see, in the order in which they are kept. -/
def inherited : ShellM (List (ByteText × ByteText)) := do
  pure ((← get).bindings.filterMap fun (name, v) =>
    if v.exported then v.value.map fun value => (name, value) else none)

/-- The variables that the programs of a shell see, bucket by bucket. -/
def environment : ShellM (List (ByteText × ByteText)) := do
  pure ((← inherited).mergeSort fun a b => bucket a.1 ≤ bucket b.1)

/-! ## Parts of a run -/

/-- Runs something and says how it stopped, if it did. -/
def attempt (m : ShellM Unit) : ShellM (Option Stop) := do
  tryCatch (do m; pure none) fun stop => pure (some stop)

/-- Runs something and puts things right afterwards, however it stops. -/
def ensuring (m : ShellM Unit) (after : ShellM Unit) : ShellM Unit := do
  let stop ← attempt m
  after
  match stop with
  | some stop => throw stop
  | none => pure ()

/-- Runs something that leaves no trace except on the machine, and says how it stopped and with
which status. -/
def apart (m : ShellM Unit) : ShellM (Option Stop × Nat) := do
  let before ← get
  set { before with isSubshell := true, traps := before.traps.filter (·.2.isEmpty), loops := 0 }
  let stop ← attempt m
  let after ← get
  set { before with machine := after.machine, sent := after.sent }
  pure (stop, after.status)

end ShellM

/-! ## Signals -/

def signalNames : List (String × Nat) :=
  [("EXIT", 0), ("HUP", 1), ("INT", 2), ("QUIT", 3), ("ILL", 4), ("TRAP", 5), ("ABRT", 6),
   ("BUS", 7), ("FPE", 8), ("KILL", 9), ("USR1", 10), ("SEGV", 11), ("USR2", 12), ("PIPE", 13),
   ("ALRM", 14), ("TERM", 15), ("CHLD", 17), ("CONT", 18), ("STOP", 19),
   ("TSTP", 20), ("TTIN", 21), ("TTOU", 22), ("URG", 23), ("XCPU", 24), ("XFSZ", 25),
   ("VTALRM", 26), ("PROF", 27), ("WINCH", 28), ("IO", 29), ("PWR", 30), ("SYS", 31)] ++
  (("RTMIN", 34) :: (List.range 15).map fun n => (s!"RTMIN+{n + 1}", 35 + n)) ++
  ((List.range 14).map fun n => (s!"RTMAX-{14 - n}", 50 + n)) ++ [("RTMAX", 64)]

/-- The signals that are ignored where nothing was asked for. -/
def harmlessSignals : List Nat := [17, 18, 23, 28]

/-- What is said when a signal ended a process. -/
def signalNotice : Nat → String
  | 1 => "Hangup"
  | 3 => "Quit"
  | 4 => "Illegal instruction"
  | 5 => "Trace/breakpoint trap"
  | 6 => "Aborted"
  | 7 => "Bus error"
  | 8 => "Floating point exception"
  | 9 => "Killed"
  | 10 => "User defined signal 1"
  | 11 => "Segmentation fault"
  | 12 => "User defined signal 2"
  | 14 => "Alarm clock"
  | 15 => "Terminated"
  | 16 => "Stack fault"
  | 24 => "CPU time limit exceeded"
  | 25 => "File size limit exceeded"
  | 26 => "Virtual timer expired"
  | 27 => "Profiling timer expired"
  | 29 => "I/O possible"
  | 30 => "Power failure"
  | 31 => "Bad system call"
  | n => if 34 ≤ n then "Real-time signal " ++ toString (n - 34) else ""

/-- The signal that a number or a name means. -/
def signal? (s : ByteText) : Option Nat :=
  if !s.isEmpty && s.all (·.isDigit) then
    let n := (digitsOf 10 s).1
    if n ≤ 64 then some n else none
  else
    let name := String.ofList (s.map Char.toUpper)
    (signalNames.find? (·.1 = name)).map (·.2)

end KernelLink.Shell
