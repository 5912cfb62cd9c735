import KernelLink.Shell.Condition
import KernelLink.Tool.Basic
import KernelLink.Tool.Copy
import KernelLink.Tool.Regex

/-!
# Conditions that programs decide

How many words there are decides first how a condition is meant, as in a shell. Terms are read to
their end even where they make no difference any more, so whatever is missing is complained about,
and a connective always wants a term behind it.
-/

namespace KernelLink.Condition

open KernelLink.Shell (FileView)

/-- Why a condition has no answer. -/
inductive Fault where
  | missingAfter (word : ByteText)
  | noUnary (word : ByteText)
  | noBinary (word : ByteText)
  | unknownBinary (word : ByteText)
  | noInteger (word : ByteText)
  /-- A closing parenthesis is missing; perhaps there is another word where it should be. -/
  | noClosing (found : Option ByteText)
  | extra (word : ByteText)
  | noBracket

def Fault.reason : Fault → List ByteText
  | missingAfter word => [byteText "missing argument after ", wordQuoted word]
  | noUnary word => [wordQuoted word, byteText ": unary operator expected"]
  | noBinary word => [wordQuoted word, byteText ": binary operator expected"]
  | unknownBinary word => [wordQuoted word, byteText ": unknown binary operator"]
  | noInteger word => [byteText "invalid integer ", wordQuoted word]
  | noClosing none => [byteText "\x27)\x27 expected"]
  | noClosing (some word) => [byteText "\x27)\x27 expected, found ", wordQuoted word]
  | extra word => [byteText "extra argument ", wordQuoted word]
  | noBracket => [byteText "missing \x27]\x27"]

/-- Reads a condition; the state is what has not been read. -/
abbrev ReadM := StateT (List ByteText) (Except Fault)

def unaryLetters : List Char := "bcdefgGhkLnNOpSrstuwxz".toList

def binaryOperators : List String :=
  ["=", "==", "!=", "-eq", "-ne", "-lt", "-le", "-gt", "-ge", "-nt", "-ot", "-ef"]

def isBinary (word : ByteText) : Bool := binaryOperators.contains (String.ofList word)

/-- A whole number, perhaps with a sign, between blanks. -/
def integer (word : ByteText) : ReadM Int :=
  let isBlank (c : Char) : Bool := Shell.isSpace c
  let body := word.dropWhile isBlank
  let (isNegative, digits) : Bool × ByteText := match body with
    | '-' :: ds => (true, ds)
    | '+' :: ds => (false, ds)
    | ds => (false, ds)
  let front := digits.takeWhile (·.isDigit)
  let n : Int := (Shell.digitsOf 10 front).1
  if front.isEmpty ∨ !((digits.drop front.length).all fun c => c = ' ' || c = '\t') then
    throw (.noInteger word)
  else pure (if isNegative then -n else n)

/-- What a condition is about: files, and the word that comes last. -/
structure Subject where
  view : FileView
  last : ByteText

namespace Subject

variable (s : Subject)

/-- Complains that there are not enough words. -/
def beyond {α : Type} : ReadM α := throw (.missingAfter s.last)

/-- Goes on to the next word, which has to be there. -/
def advance : ReadM Unit := do
  modify (·.drop 1)
  if (← get).isEmpty then s.beyond

/-- An operator with its operand. -/
def unary : ReadM Bool := do
  match ← get with
  | ['-', c] :: rest =>
    if !unaryLetters.contains c then throw (.noUnary ['-', c])
    match rest with
    | [] => s.beyond
    | operand :: rest => do
      set rest
      if c = 't' then discard (integer operand)
      pure (s.view.unary c operand)
  | word :: _ => throw (.noUnary word)
  | [] => s.beyond

/-- An operator between two operands; the length of an operand may be meant. -/
def binary (isLength : Bool) : ReadM Bool := do
  let words ← get
  match if isLength then words.drop 1 else words with
  | a :: op :: rest =>
    let (isLength', rest) : Bool × List ByteText := match rest with
      | ['-', 'l'] :: b :: more => (true, b :: more)
      | rest => (false, rest)
    let b := rest.headD []
    set (rest.drop 1)
    let value (isLength : Bool) (word : ByteText) : ReadM Int :=
      if isLength then pure word.length else integer word
    let compared (f : Int → Int → Bool) : ReadM Bool := do
      let x ← value isLength a
      let y ← value isLength' b
      pure (f x y)
    match String.ofList op with
    | "=" | "==" => pure (a = b)
    | "!=" => pure (a ≠ b)
    | "-eq" => compared fun x y => x = y
    | "-ne" => compared fun x y => x ≠ y
    | "-lt" => compared fun x y => x < y
    | "-le" => compared fun x y => x ≤ y
    | "-gt" => compared fun x y => y < x
    | "-ge" => compared fun x y => y ≤ x
    | "-nt" => pure (s.view.isThere a && !s.view.isThere b)
    | "-ot" => pure (!s.view.isThere a && s.view.isThere b)
    | "-ef" => pure (s.view.isSame a b)
    | _ => throw (.unknownBinary op)
  | _ => s.beyond

/-- A word on its own, which holds unless it is empty. -/
def one : ReadM Bool := do
  match ← get with
  | word :: rest => do
    set rest
    pure (!word.isEmpty)
  | [] => s.beyond

def two : ReadM Bool := do
  match ← get with
  | ['!'] :: rest => do
    set rest
    pure (!(← s.one))
  | ['-', _] :: _ => s.unary
  | _ => s.beyond

mutual

/-- A condition without connectives. -/
def term : (most : Nat) → ReadM Bool
  | 0 => pure false
  | most + 1 => do
    match ← get with
    | [] => s.beyond
    | ['!'] :: _ => do
      s.advance
      pure (!(← term most))
    | ['('] :: _ => do
      s.advance
      let words ← get
      let inside := (words.drop 1).takeWhile (· ≠ [')'])
      let count := if inside.length < 4 then inside.length + 1 else words.length
      let result ← counted most count
      match ← get with
      | [')'] :: rest => do
        set rest
        pure result
      | found => throw (.noClosing found.head?)
    | words =>
      let isLength : Bool := words.head? = some ['-', 'l'] && words.length ≥ 4 &&
        (words[2]?).any isBinary
      if isLength then s.binary true
      else if words.length ≥ 3 && (words[1]?).any isBinary then s.binary false
      else match words with
        | ['-', _] :: _ => s.unary
        | _ => s.one

/-- Conditions of which all have to hold. -/
def conjunction : (most : Nat) → ReadM Bool
  | 0 => pure false
  | most + 1 => do
    let first ← term most
    match ← get with
    | ['-', 'a'] :: rest => do
      set rest
      let others ← conjunction most
      pure (first && others)
    | _ => pure first

/-- Conditions of which one has to hold. -/
def alternatives : (most : Nat) → ReadM Bool
  | 0 => pure false
  | most + 1 => do
    let first ← conjunction most
    match ← get with
    | ['-', 'o'] :: rest => do
      set rest
      let others ← alternatives most
      pure (first || others)
    | _ => pure first

/-- Three words. -/
def three : (most : Nat) → ReadM Bool
  | 0 => pure false
  | most + 1 => do
    match ← get with
    | a :: op :: b :: _ =>
      if isBinary op then s.binary false
      else if a = ['!'] then do
        s.advance
        pure (!(← s.two))
      else if a = ['('] ∧ b = [')'] then do
        s.advance
        let result ← s.one
        modify (·.drop 1)
        pure result
      else if op = ['-', 'a'] ∨ op = ['-', 'o'] then alternatives most
      else throw (.noBinary op)
    | _ => s.beyond

/-- So many words. -/
def counted : (most count : Nat) → ReadM Bool
  | 0, _ => pure false
  | _ + 1, 1 => s.one
  | _ + 1, 2 => s.two
  | most + 1, 3 => three most
  | most + 1, 4 => do
    match ← get with
    | ['!'] :: _ => do
      s.advance
      pure (!(← three most))
    | ['('] :: _ :: _ :: [')'] :: _ => do
      s.advance
      let result ← s.two
      modify (·.drop 1)
      pure result
    | _ => alternatives most
  | most + 1, _ => alternatives most

end

end Subject

/-- Whether a condition holds; brackets need their closing one. -/
def holds (view : FileView) (isBracket : Bool) (args : List ByteText) : Except Fault Bool := do
  if isBracket ∧ args.getLast? ≠ some [']'] then throw .noBracket
  let words := if isBracket then args.dropLast else args
  if words.isEmpty then pure false
  else
    let subject : Subject := ⟨view, words.getLastD []⟩
    let (result, rest) ← (subject.counted (8 * words.length + 8) words.length).run words
    match rest with
    | [] => pure result
    | word :: _ => throw (.extra word)

end KernelLink.Condition

namespace KernelLink

/-- Decides a condition. -/
def conditionTool (isBracket : Bool) : Tool := fun call t =>
  match Condition.holds ⟨t, call.base⟩ isBracket call.args with
  | .ok true => (.quiet, t)
  | .ok false => (.ended 1, t)
  | .error f => ({ call.complain f.reason with status := 2 }, t)

end KernelLink

/-!
## Expressions on the command line

Whole numbers and texts that are put together by operators, each operator and operand an argument of
its own. A value is a text; it is a number where it reads as one.
-/

namespace KernelLink.Expression

/-- Why an expression has no value. -/
inductive Fault where
  | missingAfter (word : ByteText)
  | unexpected (word : ByteText)
  | unexpectedClosing
  | noClosing (word : ByteText)
  | otherThanClosing (word : ByteText)
  | noNumber
  | divisionByZero
  | missingOperand
  | regex (f : RegexFault)

def Fault.reason : Fault → List ByteText
  | missingAfter word => [byteText "syntax error: missing argument after ", wordQuoted word]
  | unexpected word => [byteText "syntax error: unexpected argument ", wordQuoted word]
  | unexpectedClosing => [byteText "syntax error: unexpected \x27)\x27"]
  | otherThanClosing word =>
    [byteText "syntax error: expecting \x27)\x27 instead of ", wordQuoted word]
  | noClosing word => [byteText "syntax error: expecting \x27)\x27 after ", wordQuoted word]
  | noNumber => [byteText "non-integer argument"]
  | divisionByZero => [byteText "division by zero"]
  | missingOperand => [byteText "missing operand"]
  | regex f => [byteText f.reason]

abbrev EvalM := Except Fault

def integer? (s : ByteText) : Option Int :=
  match s with
  | '-' :: ds =>
    if !ds.isEmpty && ds.all (·.isDigit) then some (-((Shell.digitsOf 10 ds).1 : Int)) else none
  | ds => if !ds.isEmpty && ds.all (·.isDigit) then some (Shell.digitsOf 10 ds).1 else none

def integer (s : ByteText) : EvalM Int :=
  match integer? s with
  | some n => .ok n
  | none => .error .noNumber

/-- Whether a value counts as nothing: an empty text or zero. -/
def isNull (s : ByteText) : Bool := s.isEmpty || (integer? s) = some 0

def truth (b : Bool) : ByteText := if b then ['1'] else ['0']

/-- A match at the front of a text: its first group, or how long it is. -/
def matchFront (text pattern : ByteText) : EvalM ByteText :=
  match Regex.read ⟨false, false, false⟩ pattern with
  | .error f => .error (.regex f)
  | .ok r =>
    let hasGroup := hasGroups r
    match r.matchAt? ⟨text.toArray, false, false⟩ 0 with
    | none => .ok (if hasGroup then [] else ['0'])
    | some m =>
      if hasGroup then
        match m.groups.find? (·.1 = 1) with
        | some (_, first, last) => .ok ((text.drop first).take (last - first))
        | none => .ok []
      else .ok (decimalText m.last)
where
  /-- Whether an expression has groups. -/
  hasGroups : Regex → Bool
    | .group .. => true
    | .both a b | .either a b => hasGroups a || hasGroups b
    | .repeated r _ _ => hasGroups r
    | _ => false

/-- What operators of a level do. Where `counts` is false the value makes no difference, and nothing
is wrong with it either. -/
def operator? (level : Nat) (op : String) (counts : Bool) (a b : ByteText) :
    Option (EvalM ByteText) :=
  let arithmetic (f : Int → Int → EvalM Int) : Option (EvalM ByteText) :=
    some (if !counts then .ok a else do
      let x ← integer a
      let y ← integer b
      .ok (signedText (← f x y)))
  let comparison (f : Ordering → Bool) : Option (EvalM ByteText) :=
    match integer? a, integer? b with
    | some x, some y => some (.ok (truth (f (compare x y))))
    | _, _ => some (.ok (truth (f (compare a b))))
  match level, op with
  | 0, "|" => some (.ok (if isNull a then (if isNull b then ['0'] else b) else a))
  | 1, "&" => some (.ok (if isNull a || isNull b then ['0'] else a))
  | 2, "<" => comparison (· = .lt)
  | 2, "<=" => comparison (· ≠ .gt)
  | 2, "=" | 2, "==" => comparison (· = .eq)
  | 2, "!=" => comparison (· ≠ .eq)
  | 2, ">=" => comparison (· ≠ .lt)
  | 2, ">" => comparison (· = .gt)
  | 3, "+" => arithmetic fun x y => .ok (x + y)
  | 3, "-" => arithmetic fun x y => .ok (x - y)
  | 4, "*" => arithmetic fun x y => .ok (x * y)
  | 4, "/" => arithmetic fun x y => if y = 0 then .error .divisionByZero else .ok (x.tdiv y)
  | 4, "%" => arithmetic fun x y => if y = 0 then .error .divisionByZero else .ok (x.tmod y)
  | 5, ":" => some (if counts then matchFront a b else .ok a)
  | _, _ => none

/-- Whether a second operand makes a difference, behind a first one. -/
def needsSecond (op : String) (a : ByteText) : Bool :=
  match op with
  | "|" => isNull a
  | "&" => !isNull a
  | _ => true

/-- Words to come, and the last one that was taken. -/
structure Words where
  rest : List ByteText
  last : ByteText

mutual

/-- A value that no operator joins to others. -/
def primary (counts : Bool) : (most : Nat) → Words → EvalM (ByteText × Words)
  | 0, w => .error (.missingAfter w.last)
  | most + 1, w =>
    let one (rest : List ByteText) (last : ByteText) : EvalM (ByteText × Words) :=
      level 6 counts most ⟨rest, last⟩
    match w.rest with
    | [] => .error (.missingAfter w.last)
    | word :: rest =>
      match String.ofList word with
      | "(" => do
        let (value, after) ← level 0 counts most ⟨rest, word⟩
        match after.rest with
        | [')'] :: rest => .ok (value, ⟨rest, [')']⟩)
        | [] => .error (.noClosing after.last)
        | other :: _ => .error (.otherThanClosing other)
      | ")" => .error .unexpectedClosing
      | "+" =>
        match rest with
        | quoted :: rest => .ok (quoted, ⟨rest, quoted⟩)
        | [] => .error (.missingAfter word)
      | "length" => do
        let (s, w) ← one rest word
        .ok (decimalText s.length, w)
      | "match" => do
        let (s, w) ← one rest word
        let (p, w) ← one w.rest w.last
        .ok (← if counts then matchFront s p else .ok s, w)
      | "index" => do
        let (s, w) ← one rest word
        let (cs, w) ← one w.rest w.last
        .ok (decimalText (((s.findIdx? cs.contains).map (· + 1)).getD 0), w)
      | "substr" => do
        let (s, w) ← one rest word
        let (start, w) ← one w.rest w.last
        let (length, w) ← one w.rest w.last
        match integer? start, integer? length with
        | some a, some n =>
          .ok (if a ≤ 0 ∨ n ≤ 0 then [] else (s.drop (a.toNat - 1)).take n.toNat, w)
        | _, _ => .ok ([], w)
      | _ => .ok (word, ⟨rest, word⟩)

/-- Values that operators of a level or a tighter one join. -/
def level (n : Nat) (counts : Bool) : (most : Nat) → Words → EvalM (ByteText × Words)
  | 0, w => .error (.missingAfter w.last)
  | most + 1, w => do
    let (a, w) ← if n < 6 then level (n + 1) counts most w else primary counts most w
    joined n counts most a w

/-- What operators of a level add to a first value. -/
def joined (n : Nat) (counts : Bool) : (most : Nat) → ByteText → Words →
    EvalM (ByteText × Words)
  | 0, a, w => .ok (a, w)
  | most + 1, a, w =>
    match w.rest with
    | op :: rest =>
      if (operator? n (String.ofList op) false [] []).isSome then do
        let counted := counts && needsSecond (String.ofList op) a
        let (b, w) ← if n < 6 then level (n + 1) counted most ⟨rest, op⟩
          else primary counted most ⟨rest, op⟩
        match operator? n (String.ofList op) counts a b with
        | some value => joined n counts most (← value) w
        | none => .ok (a, w)
      else .ok (a, w)
    | [] => .ok (a, w)

end

/-- The value of an expression. -/
def value (words : List ByteText) : EvalM ByteText := do
  if words.isEmpty then .error .missingOperand
  let (a, w) ← level 0 true (20 * words.length + 20) ⟨words, []⟩
  match w.rest with
  | [] => .ok a
  | word :: _ => .error (.unexpected word)

end KernelLink.Expression

namespace KernelLink

/-- Writes the value of an expression; the status says whether it counts as nothing. -/
def expressionTool : Tool := fun call t =>
  let words := if call.args.head? = some ['-', '-'] then call.args.drop 1 else call.args
  match Expression.value words with
  | .ok s => ({ Reply.said (s ++ ['\n']) with status := if Expression.isNull s then 1 else 0 }, t)
  | .error .missingOperand =>
    ({ call.usage [byteText "missing operand"] with status := 2 }, t)
  | .error f => ({ call.complain f.reason with status := 2 }, t)

end KernelLink
