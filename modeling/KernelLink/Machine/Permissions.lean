import KernelLink.Text.Bytes
import KernelLink.Text.Delimiter

/-!
# Permissions

What may be done with a file, as nine bits: reading, writing and running, for its owner, its group
and all others; three more bits are kept but mean nothing here. Changes are written as octal digits
or as clauses such as `go-w`. Whoever runs programs here may read and write everything, so of all
bits only those for running ever keep a file from being used.
-/

namespace KernelLink.Permissions

/-- The bits of a number that another one does not have. -/
def without (bits other : Nat) : Nat := bits - (bits &&& other)

/-- The bits that belong to a class of users. -/
def classBits : Char → Nat
  | 'u' => 0o4700
  | 'g' => 0o2070
  | 'o' => 0o1007
  | _ => 0o7777

/-- What is granted or withdrawn. -/
inductive Grant where
  | fixed (bits : Nat)
  /-- Some bits, and running too for directories and for what somebody may run already. -/
  | runnable (bits : Nat)
  /-- What one class of users may do already. -/
  | copied (bits : Nat)

/-- The bits of a grant for something that has some permissions. -/
def Grant.bits (directory : Bool) (old : Nat) : Grant → Nat
  | fixed bits => bits
  | runnable bits => if directory || old &&& 0o111 ≠ 0 then bits ||| 0o111 else bits
  | copied bits =>
    let has (every : Nat) : Nat := if old &&& bits &&& every = 0 then 0 else every
    has 0o444 ||| has 0o222 ||| has 0o111

/-- A step of a change. -/
structure Step where
  operator : Char
  /-- The bits of the users that it is about; none if it names no users. -/
  users : Nat
  grant : Grant
  /-- The bits that are named, which a directory does not keep of its own accord. -/
  named : Nat

/-- The permissions after a step. Where no users are named, what new files do not permit stays as
it is. -/
def Step.apply (mask : Nat) (directory : Bool) (old : Nat) (s : Step) : Nat :=
  let kept := if directory then without 0o6000 s.named else 0
  let limit := if s.users = 0 then without 0o7777 mask else s.users
  let value := without (s.grant.bits directory old &&& limit) kept
  match s.operator with
  | '+' => old ||| value
  | '-' => without old value
  | _ => (old &&& ((if s.users = 0 then 0 else without 0o7777 s.users) ||| kept)) ||| value

/-- The bits that a letter grants. -/
def letterBits : Char → Nat
  | 'r' => 0o444
  | 'w' => 0o222
  | 'x' => 0o111
  | 's' => 0o6000
  | 't' => 0o1000
  | _ => 0

def isOctal (c : Char) : Bool := '0' ≤ c && c ≤ '7'

def octalValue (s : ByteText) : Nat := s.foldl (fun n c => 8 * n + (c.toNat - '0'.toNat)) 0

/-- Reads what follows an operator, and what comes behind it. -/
def step? (users : Nat) (operator : Char) (s : ByteText) : Option (Step × ByteText) :=
  let digits := s.takeWhile isOctal
  let letters := s.takeWhile ['r', 'w', 'x', 'X', 's', 't'].contains
  let bits := letters.foldl (fun n c => n ||| letterBits c) 0
  let named (bits : Nat) : Nat := if users = 0 then bits else users &&& bits
  let copied (bits : Nat) (rest : ByteText) : Option (Step × ByteText) :=
    some (⟨operator, users, .copied bits, named bits⟩, rest)
  match digits, s with
  | _ :: _, _ =>
    let rest := s.drop digits.length
    let isWhole := rest.isEmpty || rest.head? = some ','
    if users = 0 ∧ isWhole ∧ octalValue digits ≤ 0o7777 then
      some (⟨operator, 0o7777, .fixed (octalValue digits), 0o7777⟩, rest)
    else none
  | [], 'u' :: rest => copied 0o700 rest
  | [], 'g' :: rest => copied 0o070 rest
  | [], 'o' :: rest => copied 0o007 rest
  | [], _ =>
    let grant := if letters.contains 'X' then Grant.runnable bits else .fixed bits
    some (⟨operator, users, grant, named bits⟩, s.drop letters.length)

/-- Reads the operators of a clause, of which there are at most so many. -/
def steps? (users : Nat) : (most : Nat) → ByteText → Option (List Step)
  | 0, _ | _, [] => some []
  | most + 1, c :: s =>
    if !(['+', '-', '='].contains c) then none
    else do
      let (step, rest) ← step? users c s
      pure (step :: (← steps? users most rest))

/-- The steps of a clause. -/
def clause? (s : ByteText) : Option (List Step) :=
  let names := s.takeWhile ['u', 'g', 'o', 'a'].contains
  let users := names.foldl (fun n c => n ||| classBits c) 0
  match s.drop names.length with
  | [] => none
  | rest => steps? users rest.length rest

/-- The steps of a text of clauses. -/
def clauses? (s : ByteText) : Option (List Step) :=
  ((splitAtEach ',' s).mapM clause?).map (·.flatten)

/-- The steps of a change that is written as octal digits or as clauses. Five digits say everything
there is to say. -/
def change? (s : ByteText) : Option (List Step) :=
  if !s.isEmpty && s.all isOctal then
    let bits := octalValue s
    let named := if s.length < 5 then (bits &&& 0o7000) ||| 0o777 else 0o7777
    if bits ≤ 0o7777 then some [⟨'=', 0o7777, .fixed bits, named⟩] else none
  else clauses? s

/-- The permissions after some steps. -/
def after (mask : Nat) (directory : Bool) (old : Nat) (steps : List Step) : Nat :=
  steps.foldl (Step.apply mask directory) old

/-- Whether a text says what a file's permissions are to be. -/
def isMode (s : ByteText) : Bool := (change? s).isSome

/-- The permissions of one class as letters. -/
def letters (bits : Nat) : ByteText :=
  (if bits &&& 4 = 0 then [] else ['r']) ++ (if bits &&& 2 = 0 then [] else ['w']) ++
    (if bits &&& 1 = 0 then [] else ['x'])

/-- The permissions as clauses that would set them. -/
def text (bits : Nat) : ByteText :=
  ['u', '='] ++ letters (bits >>> 6 &&& 7) ++ [',', 'g', '='] ++ letters (bits >>> 3 &&& 7) ++
    [',', 'o', '='] ++ letters (bits &&& 7)

/-- The permissions in octal digits, at least so many. -/
def octal (width bits : Nat) : ByteText :=
  let digits := Nat.toDigits 8 bits
  List.replicate (width - digits.length) '0' ++ digits

/-- The permissions of one class as three marks; `special` is the letter for one more bit. -/
def marks (bits : Nat) (isSpecial : Bool) (special : Char) : ByteText :=
  let run := if isSpecial then (if bits &&& 1 = 0 then special.toUpper else special)
    else if bits &&& 1 = 0 then '-' else 'x'
  [if bits &&& 4 = 0 then '-' else 'r', if bits &&& 2 = 0 then '-' else 'w', run]

/-- The permissions as nine marks. -/
def shown (bits : Nat) : ByteText :=
  marks (bits >>> 6 &&& 7) (bits &&& 0o4000 ≠ 0) 's' ++
    marks (bits >>> 3 &&& 7) (bits &&& 0o2000 ≠ 0) 's' ++
    marks (bits &&& 7) (bits &&& 0o1000 ≠ 0) 't'

end KernelLink.Permissions
