import KernelLink.Number.Numeral
import KernelLink.Shell.Arithmetic
import KernelLink.Tool.Basic

/-!
# What operands name

Users and groups, sizes, and durations, as the words of a command line give them.
-/

namespace KernelLink

/-!
## Users and groups

The users and groups that a machine knows when nobody has added any, by name; any number will do as
well.
-/

/-- Who owns all files. -/
def ownerName : ByteText := byteText "root"

/-- The users that every machine knows. -/
def knownUsers : List String :=
  ["root", "daemon", "bin", "sys", "sync", "games", "man", "lp", "mail", "news", "uucp", "proxy",
   "www-data", "backup", "list", "irc", "_apt", "nobody"]

/-- The groups that every machine knows. -/
def knownGroups : List String :=
  ["root", "daemon", "bin", "sys", "adm", "tty", "disk", "lp", "mail", "news", "uucp", "man",
   "proxy", "kmem", "dialout", "fax", "voice", "cdrom", "floppy", "tape", "sudo", "audio", "dip",
   "www-data", "backup", "operator", "list", "irc", "src", "shadow", "utmp", "video", "sasl",
   "plugdev", "staff", "games", "users", "nogroup"]

/-- Whether a text is a number that users and groups may have. -/
def isOwnerNumber (s : ByteText) : Bool :=
  let digits := if s.head? = some '+' then s.drop 1 else s
  !digits.isEmpty && digits.all (·.isDigit) && (Shell.digitsOf 10 digits).1 < 4294967295

def isUser (s : ByteText) : Bool := knownUsers.contains (String.ofList s) || isOwnerNumber s

def isGroup (s : ByteText) : Bool := knownGroups.contains (String.ofList s) || isOwnerNumber s

/-!
## Sizes

Counts of bytes and lines are written as digits with letters behind them that multiply: by powers of
1024, or of 1000 where a B follows.
-/

/-- Why a text is no size. -/
inductive SizeFault where
  | invalid
  | tooLarge
deriving DecidableEq, Repr

/-- What stands behind a complaint about a size. -/
def SizeFault.reason : SizeFault → String
  | invalid => ""
  | tooLarge => ": Value too large for defined data type"

/-- The largest size. -/
def largestSize : Nat := 18446744073709551615

/-- How often a letter multiplies by a thousand. -/
def sizePower? (c : Char) : Option Nat :=
  (['K', 'M', 'G', 'T', 'P', 'E', 'Z', 'Y', 'R', 'Q'].idxOf? c.toUpper).map (· + 1)

/-- What a suffix multiplies by, if its letter is one of those that count here. -/
def sizeFactor? (letters : String) (suffix : ByteText) : Option Nat :=
  match suffix with
  | [] => some 1
  | c :: rest =>
    if !letters.toList.contains c then none
    else match c, rest with
      | 'b', [] => some 512
      | 'B', [] => some 1024
      | 'c', [] => some 1
      | 'w', [] => some 2
      | c, [] | c, ['i', 'B'] => (sizePower? c).map (Nat.pow 1024)
      | c, ['B'] | c, ['D'] => (sizePower? c).map (Nat.pow 1000)
      | _, _ => none

/-- Reads a size; a letter alone counts once. -/
def readSize (letters : String) (s : ByteText) : Except SizeFault Nat :=
  let s := s.dropWhile Shell.isSpace
  let s := if s.head? = some '+' then s.drop 1 else s
  let digits := s.takeWhile (·.isDigit)
  let suffix := s.drop digits.length
  let count := if digits.isEmpty then 1 else (Shell.digitsOf 10 digits).1
  if digits.isEmpty ∧ suffix.isEmpty then .error .invalid
  else match sizeFactor? letters suffix with
    | none => .error .invalid
    | some factor =>
      if largestSize < count * factor then .error .tooLarge else .ok (count * factor)

/-!
## Durations

A duration is a number of seconds, minutes, hours or days. It is counted in billionths of a second;
whatever is shorter takes no time.
-/

/-- Longer than anything lasts. -/
def endless : Nat := Nat.pow 10 40

/-- How many seconds a letter stands for. -/
def secondsOf? : ByteText → Option Nat
  | [] | ['s'] => some 1
  | ['m'] => some 60
  | ['h'] => some 3600
  | ['d'] => some 86400
  | _ => none

/-- Reads a duration. -/
def duration? (s : ByteText) : Option Nat :=
  let s := s.dropWhile Shell.isSpace
  let s := if s.head? = some '+' then s.drop 1 else s
  let whole := s.takeWhile (·.isDigit)
  let (fraction, rest) : ByteText × ByteText := match s.drop whole.length with
    | '.' :: rest => (rest.takeWhile (·.isDigit), rest.dropWhile (·.isDigit))
    | rest => ([], rest)
  let (power, rest) : Int × ByteText := match rest with
    | e :: sign :: ds =>
      let digits := if sign = '-' ∨ sign = '+' then ds else sign :: ds
      let read := digits.takeWhile (·.isDigit)
      if e.toLower = 'e' ∧ !read.isEmpty then
        let n : Int := min (digitsValue read) 100
        (if sign = '-' then -n else n, digits.drop read.length)
      else (0, rest)
    | rest => (0, rest)
  if whole.isEmpty ∧ fraction.isEmpty then
    let unit := s.dropWhile fun c => "infinity".toList.contains c.toLower
    let name := String.ofList ((s.take (s.length - unit.length)).map Char.toLower)
    if ["inf", "infinity"].contains name then (secondsOf? unit).map fun _ => endless else none
  else
    (secondsOf? rest).map fun (factor : Nat) =>
      let n := digitsValue (whole ++ fraction) * factor
      let places : Int := 9 - fraction.length + power
      if 0 ≤ places then n * Nat.pow 10 places.toNat else n / Nat.pow 10 places.natAbs

end KernelLink
