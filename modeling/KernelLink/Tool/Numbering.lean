import KernelLink.Tool.Lines
import KernelLink.Tool.Search

/-!
# Numbering lines

A text is a sequence of pages, each with a header, a body and a footer. Which lines of each of them
are numbered is a matter of its style, and numbers begin anew with each part unless they are to run
on.
-/

namespace KernelLink

/-- Which lines are numbered. -/
inductive NumberStyle where
  | all
  | nonempty
  | none
  | fitting (r : Regex)

/-- How numbers stand in their column. -/
inductive NumberPlace where
  | left
  | right
  | rightWithZeros
deriving DecidableEq, Repr

structure NumberManner where
  header : NumberStyle
  body : NumberStyle
  footer : NumberStyle
  start : Int
  step : Int
  /-- How many empty lines after each other count as one. -/
  joined : Nat
  /-- Whether numbers begin anew with each part. -/
  restarts : Bool
  /-- What a line consists of that begins a part, once for a footer and three times for a header. -/
  mark : ByteText
  separator : ByteText
  width : Nat
  place : NumberPlace

namespace NumberManner

/-- The style of the part that a line begins. -/
def part? (m : NumberManner) (line : ByteText) : Option NumberStyle :=
  if m.mark.length < 2 then Option.none
  else if line = m.mark ++ m.mark ++ m.mark then some m.header
  else if line = m.mark ++ m.mark then some m.body
  else if line = m.mark then some m.footer
  else Option.none

/-- A number in its column. -/
def numberText (m : NumberManner) (n : Int) : ByteText :=
  let sign : ByteText := if n < 0 then ['-'] else []
  padText m.width (m.place = .left) (m.place = .rightWithZeros) sign (decimalText n.natAbs)

end NumberManner

/-- What is known between two lines. -/
structure NumberState where
  style : NumberStyle
  number : Int
  /-- How many empty lines have been passed over. -/
  blanks : Nat

/-- The largest number that a line may have. -/
def lastLineNumber : Int := 9223372036854775807

/-- Whether a line is numbered, and how many empty lines have then been passed over. -/
def NumberState.numbers (m : NumberManner) (s : NumberState) (line : ByteText) : Bool × Nat :=
  match s.style with
  | .all =>
    if m.joined ≤ 1 then (true, s.blanks)
    else if !line.isEmpty ∨ s.blanks + 1 = m.joined then (true, 0)
    else (false, s.blanks + 1)
  | .nonempty => (!line.isEmpty, s.blanks)
  | .none => (false, s.blanks)
  | .fitting r => ((r.find? ⟨line.toArray, false, false⟩ 0).isSome, s.blanks)

/-- Numbers lines; the result says too whether the numbers went on to the end. -/
def NumberManner.lines (m : NumberManner) (s : NumberState) : List ByteText → ByteText × Bool
  | [] => ([], true)
  | line :: rest =>
    match m.part? line with
    | some style =>
      let (text, ended) := m.lines
        { s with style, number := if m.restarts then m.start else s.number } rest
      ('\n' :: text, ended)
    | none =>
      match s.numbers m line with
      | (true, blanks) =>
        if lastLineNumber < s.number then ([], false)
        else
          let (text, ended) := m.lines { s with number := s.number + m.step, blanks } rest
          (m.numberText s.number ++ m.separator ++ line ++ '\n' :: text, ended)
      | (false, blanks) =>
        let (text, ended) := m.lines { s with blanks } rest
        (List.replicate (m.width + m.separator.length) ' ' ++ line ++ '\n' :: text, ended)

/-! ## Options -/

def numberTable : OptionTable where
  flags := [('p', "no-renumber")]
  valued :=
    [('b', "body-numbering"), ('h', "header-numbering"), ('f', "footer-numbering"),
     ('s', "number-separator"), ('w', "number-width"), ('v', "starting-line-number"),
     ('i', "line-increment"), ('n', "number-format"), ('l', "join-blank-lines"),
     ('d', "section-delimiter")]

/-- Why the value of an option says nothing. -/
inductive NumberingFault where
  /-- Nothing more is looked at. -/
  | final (words : List ByteText)
  | other (words : List ByteText)

/-- A number in a range. -/
def boundedNumber (what : String) (least most : Int) (s : ByteText) : Except NumberingFault Int :=
  let front := s.dropWhile Shell.isSpace
  let (isNegative, digits) : Bool × ByteText := match front with
    | '-' :: ds => (true, ds)
    | '+' :: ds => (false, ds)
    | ds => (false, ds)
  let size : Int := (Shell.digitsOf 10 digits).1
  let n := if isNegative then -size else size
  let fault (reason : String) : NumberingFault :=
    .final [byteText ("invalid " ++ what ++ ": "), wordQuoted s, byteText reason]
  if digits.isEmpty ∨ !digits.all (·.isDigit) then .error (fault "")
  else if n < -9223372036854775808 ∨ 9223372036854775807 < n then
    .error (fault ": Value too large for defined data type")
  else if n < least then .error (fault ": Numerical result out of range")
  else if most < n then .error (fault ": Value too large for defined data type")
  else .ok n

/-- The style that a text names. -/
def readNumberStyle (what : String) (s : ByteText) : Except NumberingFault NumberStyle :=
  match s with
  | 'a' :: _ => .ok .all
  | 't' :: _ => .ok .nonempty
  | 'n' :: _ => .ok .none
  | 'p' :: expression =>
    match Regex.read basicSearch expression with
    | .ok r => .ok (.fitting r)
    | .error f => .error (.final [byteText f.reason])
  | _ =>
    .error (.other [byteText ("invalid " ++ what ++ " numbering style: "), wordQuoted s])

/-- The manner after one more option. -/
def NumberManner.withOption (m : NumberManner) (o : GivenOption) :
    Except NumberingFault NumberManner := do
  let least : Int := -9223372036854775808
  let most : Int := 9223372036854775807
  match o.letter with
  | 'b' => return { m with body := ← readNumberStyle "body" o.value }
  | 'h' => return { m with header := ← readNumberStyle "header" o.value }
  | 'f' => return { m with footer := ← readNumberStyle "footer" o.value }
  | 'v' => return { m with start := ← boundedNumber "starting line number" least most o.value }
  | 'i' => return { m with step := ← boundedNumber "line number increment" least most o.value }
  | 'p' => return { m with restarts := false }
  | 'l' =>
    let n ← boundedNumber "line number of blank lines" 1 most o.value
    return { m with joined := n.toNat }
  | 's' => return { m with separator := o.value }
  | 'w' =>
    let n ← boundedNumber "line number field width" 1 2147483647 o.value
    return { m with width := n.toNat }
  | 'n' =>
    match String.ofList o.value with
    | "ln" => return { m with place := .left }
    | "rn" => return { m with place := .right }
    | "rz" => return { m with place := .rightWithZeros }
    | _ => throw (.other [byteText "invalid line numbering format: ", wordQuoted o.value])
  | 'd' => return { m with mark := if o.value.length = 1 then o.value ++ [':'] else o.value }
  | _ => return m

/-- The manner that options ask for, and what is to be complained about. -/
def NumberManner.withOptions (m : NumberManner) :
    List GivenOption → Except (List ByteText) NumberManner × List (List ByteText)
  | [] => (.ok m, [])
  | o :: rest =>
    match m.withOption o with
    | .ok m => m.withOptions rest
    | .error (.final words) => (.error words, [])
    | .error (.other words) =>
      let (result, complaints) := m.withOptions rest
      (result, words :: complaints)

/-! ## The tool -/

def ordinaryNumbering : NumberManner where
  header := .none
  body := .nonempty
  footer := .none
  start := 1
  step := 1
  joined := 1
  restarts := true
  mark := ['\\', ':']
  separator := ['\t']
  width := 6
  place := .right

/-- Writes lines with numbers. -/
def numberTool : Tool := fun call t =>
  withArguments numberTable 1 call t fun a =>
    let (manner, complaints) := ordinaryNumbering.withOptions a.options
    let said := (complaints.map call.complain).foldl Reply.followedBy .quiet
    match manner, complaints with
    | .error words, _ => (said.followedBy (call.complain words), t)
    | .ok _, _ :: _ => (said.followedBy (.failed 1 (helpHint call.name)), t)
    | .ok m, [] =>
      let (text, reply) := joinOperands call t (inputsOf a.operands)
      let (lines, ended) := m.lines ⟨m.body, m.start, 0⟩ (linesEndedBy '\n' text)
      let reply := reply.followedBy (.said lines)
      (if ended then reply
        else reply.followedBy (call.complain [byteText "line number overflow"]), t)

end KernelLink
