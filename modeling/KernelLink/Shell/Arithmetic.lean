import KernelLink.Shell.Syntax

/-!
# Sums

The arithmetic of scripts: 64-bit integers that wrap around, variables, assignments, and operators
that leave their second operand alone when the first one decides. A text that is no sum is one up to
the place where reading failed; computing that part comes before saying so.
-/

namespace KernelLink.Shell

/-! ## Numbers -/

/-- The largest number; numerals beyond it mean it. -/
def largestNumber : Int := 0x7fffffffffffffff

/-- A number in 64 bits. -/
def wrapNumber (n : Int) : Int := Int.bmod n 0x10000000000000000

def digitValue? (base : Nat) (c : Char) : Option Nat :=
  let n? :=
    if c.isDigit then some (c.toNat - '0'.toNat)
    else if 'a' ≤ c ∧ c ≤ 'z' then some (c.toNat - 'a'.toNat + 10)
    else if 'A' ≤ c ∧ c ≤ 'Z' then some (c.toNat - 'A'.toNat + 10)
    else none
  n?.filter (· < base)

/-- The digits at the front in a base, and what follows them. -/
def digitsOf (base : Nat) (s : ByteText) : Nat × ByteText :=
  let ds := s.takeWhile fun c => (digitValue? base c).isSome
  (ds.foldl (fun n c => n * base + (digitValue? base c).getD 0) 0, s.drop ds.length)

/-- The numeral at the front, which begins with a digit: `0x` begins sixteen as a base, and any
other zero begins eight. -/
def numeral (s : ByteText) : Nat × ByteText :=
  match s with
  | '0' :: x :: d :: rest =>
    if (x = 'x' ∨ x = 'X') ∧ (digitValue? 16 d).isSome then digitsOf 16 (d :: rest)
    else digitsOf 8 s
  | '0' :: _ => digitsOf 8 s
  | s => digitsOf 10 s

def isSpace (c : Char) : Bool := c = ' ' || (9 ≤ c.toNat && c.toNat ≤ 13)

/-- The number that a whole text writes, with blanks around it and a sign. -/
def numberOf? (read : ByteText → Nat × ByteText) (s : ByteText) : Option Int :=
  let s := s.dropWhile isSpace
  let (negative, s) : Bool × ByteText := match s with
    | '-' :: s => (true, s)
    | '+' :: s => (false, s)
    | s => (false, s)
  if s.head?.any (·.isDigit) then
    let (n, rest) := read s
    let value : Int := if negative then -n else n
    if rest.all isSpace ∧ -largestNumber - 1 ≤ value ∧ value ≤ largestNumber then some value
    else none
  else none

/-- The value of a variable in a sum; an empty one counts as zero. -/
def variableNumber? (s : ByteText) : Option Int :=
  if s.all isSpace then some 0 else numberOf? numeral s

/-! ## Reading sums -/

inductive SumToken where
  | number (n : Int)
  | name (s : ByteText)
  | symbol (s : String)
  | stray
deriving DecidableEq, Repr

/-- The symbols, the longer ones first. -/
def sumSymbols : List String :=
  ["<<=", ">>=", "<<", ">>", "<=", ">=", "==", "!=", "&&", "||", "*=", "/=", "%=", "+=", "-=", "&=",
   "^=", "|=", "=", "<", ">", "!", "~", "&", "|", "^", "*", "/", "%", "+", "-", "(", ")", "?", ":"]

def sumTokens : (most : Nat) → ByteText → List SumToken
  | 0, _ => []
  | _, [] => []
  | most + 1, c :: s =>
    if isSpace c then sumTokens most s
    else if c.isDigit then
      let (n, rest) := numeral (c :: s)
      .number (min n largestNumber) :: sumTokens most rest
    else if isNameStart c then
      let name := (c :: s).takeWhile isNameChar
      .name name :: sumTokens most ((c :: s).drop name.length)
    else match sumSymbols.find? fun t => t.toList.isPrefixOf (c :: s) with
      | some t => .symbol t :: sumTokens most ((c :: s).drop t.length)
      | none => .stray :: sumTokens most s

inductive BinaryOp where
  | or | xor | and | equal | unequal | less | greater | atMost | atLeast
  | shiftLeft | shiftRight | add | subtract | multiply | divide | remainder
deriving DecidableEq, Repr

/-- Why a text is no sum, or has no value. -/
inductive SumFault where
  | noPrimary
  | noEnd
  | noParenthesis
  | noColon
  | divisionByZero
  /-- A quotient of 64 bits that does not fit them. -/
  | overflow
deriving DecidableEq, Repr

def SumFault.reason : SumFault → String
  | noPrimary => "expecting primary"
  | noEnd => "expecting EOF"
  | noParenthesis => "expecting ')'"
  | noColon => "expecting ':'"
  | divisionByZero => "division by zero"
  | overflow => "overflow"

inductive Sum where
  | number (n : Int)
  | named (name : ByteText)
  | negate (a : Sum)
  | isZero (a : Sum)
  | complement (a : Sum)
  | binary (op : BinaryOp) (a b : Sum)
  | both (a b : Sum)
  | either (a b : Sum)
  | choice (test a b : Sum)
  | assign (name : ByteText) (op : Option BinaryOp) (a : Sum)
  /-- Nothing that can be read is here. -/
  | broken (f : SumFault)
  /-- Something is wrong behind a sum. -/
  | failing (a : Sum) (f : SumFault)
deriving Repr

/-- What a symbol between two operands does, and how loosely it binds. -/
def binarySymbol? : String → Option (BinaryOp × Nat)
  | "*" => some (.multiply, 0)
  | "/" => some (.divide, 0)
  | "%" => some (.remainder, 0)
  | "+" => some (.add, 1)
  | "-" => some (.subtract, 1)
  | "<<" => some (.shiftLeft, 2)
  | ">>" => some (.shiftRight, 2)
  | "<" => some (.less, 3)
  | "<=" => some (.atMost, 3)
  | ">" => some (.greater, 3)
  | ">=" => some (.atLeast, 3)
  | "==" => some (.equal, 4)
  | "!=" => some (.unequal, 4)
  | "&" => some (.and, 5)
  | "^" => some (.xor, 6)
  | "|" => some (.or, 7)
  | _ => none

/-- What an assignment does besides assigning. -/
def assignSymbol? (s : String) : Option (Option BinaryOp) :=
  if s = "=" then some none
  else if s ∈ ["==", "!=", "<=", ">="] then none
  else if s.endsWith "=" then
    (binarySymbol? (String.ofList s.toList.dropLast)).map fun (op, _) => some op
  else none

/-- The readers of sums, by nesting: they give a sum and what follows it, which is nothing where
reading failed. -/
structure SumGrammar where
  primary : List SumToken → Sum × List SumToken
  whole : List SumToken → Sum × List SumToken

namespace SumGrammar

def readPrimary (g : SumGrammar) : List SumToken → Sum × List SumToken
  | .number n :: ts => (.number n, ts)
  | .name s :: ts => (.named s, ts)
  | .symbol "(" :: ts =>
    match g.whole ts with
    | (a, .symbol ")" :: ts) => (a, ts)
    | (a, _) => (.failing a .noParenthesis, [])
  | .symbol "+" :: ts => g.primary ts
  | .symbol "-" :: ts =>
    let (a, ts) := g.primary ts
    (.negate a, ts)
  | .symbol "!" :: ts =>
    let (a, ts) := g.primary ts
    (.isZero a, ts)
  | .symbol "~" :: ts =>
    let (a, ts) := g.primary ts
    (.complement a, ts)
  | _ => (.broken .noPrimary, [])

/-- Operands joined by symbols that bind no more loosely than `level`, behind the first operand. -/
def binaryRest (g : SumGrammar) : (most : Nat) → (level : Nat) → Sum → List SumToken →
    Sum × List SumToken
  | 0, _, a, ts => (a, ts)
  | most + 1, level, a, ts =>
    match ts with
    | .symbol s :: rest =>
      match binarySymbol? s with
      | some (op, loose) =>
        if loose ≤ level then
          let (b, rest) := g.primary rest
          let (b, rest) := if loose = 0 then (b, rest) else g.binaryRest most (loose - 1) b rest
          g.binaryRest most level (.binary op a b) rest
        else (a, ts)
      | none => (a, ts)
    | ts => (a, ts)

def readBinary (g : SumGrammar) (ts : List SumToken) : Sum × List SumToken :=
  let (a, ts) := g.primary ts
  g.binaryRest (2 * ts.length + 2) 7 a ts

def bothRest (g : SumGrammar) : (most : Nat) → List SumToken → Sum × List SumToken
  | 0, _ => (.broken .noPrimary, [])
  | most + 1, ts =>
    match g.readBinary ts with
    | (a, .symbol "&&" :: ts) =>
      let (b, ts) := g.bothRest most ts
      (.both a b, ts)
    | result => result

def eitherRest (g : SumGrammar) : (most : Nat) → List SumToken → Sum × List SumToken
  | 0, _ => (.broken .noPrimary, [])
  | most + 1, ts =>
    match g.bothRest (ts.length + 1) ts with
    | (a, .symbol "||" :: ts) =>
      let (b, ts) := g.eitherRest most ts
      (.either a b, ts)
    | result => result

def choiceRest (g : SumGrammar) : (most : Nat) → List SumToken → Sum × List SumToken
  | 0, _ => (.broken .noPrimary, [])
  | most + 1, ts =>
    match g.eitherRest (ts.length + 1) ts with
    | (test, .symbol "?" :: ts) =>
      match g.whole ts with
      | (a, .symbol ":" :: ts) =>
        let (b, ts) := g.choiceRest most ts
        (.choice test a b, ts)
      | (a, _) => (.choice test a (.broken .noColon), [])
    | result => result

def readWhole (g : SumGrammar) (ts : List SumToken) : Sum × List SumToken :=
  match ts with
  | .name name :: .symbol s :: rest =>
    match assignSymbol? s with
    | some op =>
      let (a, rest) := g.whole rest
      (.assign name op a, rest)
    | none => g.choiceRest (ts.length + 1) ts
  | ts => g.choiceRest (ts.length + 1) ts

/-- The readers for sums that are nested no deeper than a number. -/
def nested : (depth : Nat) → SumGrammar
  | 0 => ⟨fun _ => (.broken .noPrimary, []), fun _ => (.broken .noPrimary, [])⟩
  | depth + 1 =>
    { primary := fun ts => readPrimary (nested depth) ts
      whole := fun ts => readWhole (nested depth) ts }

end SumGrammar

namespace Sum

/-- Reads a whole sum. -/
def read (s : ByteText) : Sum :=
  let ts := sumTokens s.length s
  match (SumGrammar.nested (ts.length + 2)).whole ts with
  | (a, []) => a
  | (a, _) => .failing a .noEnd

/-- Why the text of a sum is none, if it is not. -/
def fault? : Sum → Option SumFault
  | number _ | named _ => none
  | negate a | isZero a | complement a | assign _ _ a => a.fault?
  | binary _ a b | both a b | either a b => a.fault? <|> b.fault?
  | choice test a b => test.fault? <|> a.fault? <|> b.fault?
  | broken f => some f
  | failing a f => a.fault? <|> some f

end Sum

/-! ## Values -/

def truth (b : Bool) : Int := if b then 1 else 0

/-- A number's 64 bits. -/
def bitsOfNumber (n : Int) : Nat := (Int.emod n 0x10000000000000000).toNat

/-- Whether one number can be divided by another. The least one has no negative. -/
def checkDivisor (a b : Int) : Except SumFault Unit :=
  if b = 0 then .error .divisionByZero
  else if b = -1 ∧ a = -largestNumber - 1 then .error .overflow
  else .ok ()

/-- An operation on two numbers. -/
def BinaryOp.apply (op : BinaryOp) (a b : Int) : Except SumFault Int :=
  match op with
  | or => .ok (wrapNumber (bitsOfNumber a ||| bitsOfNumber b))
  | xor => .ok (wrapNumber (bitsOfNumber a ^^^ bitsOfNumber b))
  | and => .ok (wrapNumber (bitsOfNumber a &&& bitsOfNumber b))
  | equal => .ok (truth (a = b))
  | unequal => .ok (truth (a ≠ b))
  | less => .ok (truth (a < b))
  | greater => .ok (truth (a > b))
  | atMost => .ok (truth (a ≤ b))
  | atLeast => .ok (truth (a ≥ b))
  | shiftLeft => .ok (wrapNumber (a * Nat.pow 2 (bitsOfNumber b % 64)))
  | shiftRight => .ok (Int.fdiv a (Nat.pow 2 (bitsOfNumber b % 64)))
  | add => .ok (wrapNumber (a + b))
  | subtract => .ok (wrapNumber (a - b))
  | multiply => .ok (wrapNumber (a * b))
  | divide => do
    checkDivisor a b
    .ok (Int.tdiv a b)
  | remainder => do
    checkDivisor a b
    .ok (Int.tmod a b)

/-- What computing a sum needs from around it. -/
structure SumScope (m : Type → Type) where
  get : ByteText → m Int
  set : ByteText → Int → m Unit
  fail : SumFault → m Int

/-- Passes over an operand that does not count, unless its text is no sum. -/
def SumScope.pass {m : Type → Type} [Monad m] (scope : SumScope m) (a : Sum) (n : Int) : m Int :=
  match a.fault? with
  | some f => scope.fail f
  | none => pure n

/-- The value of a sum. -/
def Sum.value {m : Type → Type} [Monad m] (scope : SumScope m) : Sum → m Int
  | number n => pure n
  | named name => scope.get name
  | negate a => do pure (wrapNumber (-(← a.value scope)))
  | isZero a => do pure (truth ((← a.value scope) = 0))
  | complement a => do pure (-(← a.value scope) - 1)
  | binary op a b => do
    let x ← a.value scope
    let y ← b.value scope
    match op.apply x y with
    | .ok n => pure n
    | .error f => scope.fail f
  | both a b => do
    let x ← a.value scope
    if x = 0 then scope.pass b 0 else pure (truth ((← b.value scope) ≠ 0))
  | either a b => do
    let x ← a.value scope
    if x ≠ 0 then scope.pass b 1 else pure (truth ((← b.value scope) ≠ 0))
  | choice test a b => do
    let x ← test.value scope
    if x ≠ 0 then scope.pass b (← a.value scope)
    else do
      discard (scope.pass a 0)
      b.value scope
  | assign name op a => do
    let x ← a.value scope
    let n ← match op with
      | none => pure x
      | some op => do
        match op.apply (← scope.get name) x with
        | .ok n => pure n
        | .error f => scope.fail f
    scope.set name n
    pure n
  | broken f => scope.fail f
  | failing a f => do
    discard (a.value scope)
    scope.fail f

end KernelLink.Shell
