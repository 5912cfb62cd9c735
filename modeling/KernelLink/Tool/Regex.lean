import KernelLink.Shell.Arithmetic
import KernelLink.Shell.Pattern

/-!
# Regular expressions

An expression is read into a tree and matched by following all ways at once: the ends that can be
reached from a place, each with the groups of the first way that leads there. Of the matches that
begin earliest the longest counts.
-/

namespace KernelLink

inductive Regex where
  | empty
  | char (c : Char)
  | any
  | set (negated : Bool) (items : List Shell.SetItem)
  | lineStart
  | lineEnd
  /-- The very start and end of the text, even where lines inside it count. -/
  | textStart
  | textEnd
  | wordStart
  | wordEnd
  /-- Between a word and what is none, or not there. -/
  | wordEdge (isThere : Bool)
  /-- Where no word is in front, or none behind. -/
  | noWord (inFront : Bool)
  | group (number : Nat) (r : Regex)
  | sameAs (number : Nat)
  | both (a b : Regex)
  | either (a b : Regex)
  | repeated (r : Regex) (least : Nat) (most : Option Nat)
deriving Repr

/-- How expressions are written, and what is made of those that are not quite right. -/
structure RegexStyle where
  /-- Whether operators stand without backslashes. -/
  isExtended : Bool
  /-- Whether an operator with nothing to work on, a parenthesis without a partner and a brace
  without counts are faults where operators need no backslashes, and a star behind a star where
  they do. -/
  isStrict : Bool
  /-- Whether a set that looks like a class without its outer brackets is a fault. -/
  checksClasses : Bool
deriving DecidableEq, Repr

/-- Why an expression cannot be read. -/
inductive RegexFault where
  | openBracket
  /-- An opening bracket at the end. -/
  | bareBracket
  | badRange
  | bareClass
  | tooMany
  | openGroup
  | closedGroup
  | openBrace
  | badBrace
  | nothingRepeated
  | trailingBackslash
  | badReference
  | unknownName
  | unknownElement
deriving DecidableEq, Repr

def RegexFault.reason : RegexFault → String
  | openBracket => "Unmatched [, [^, [:, [., or [="
  | bareBracket => "Invalid regular expression"
  | badRange => "Invalid range end"
  | bareClass => "character class syntax is [[:space:]], not [:space:]"
  | tooMany => "Regular expression too big"
  | openGroup => "Unmatched ( or \\("
  | closedGroup => "Unmatched ) or \\)"
  | openBrace => "Unmatched \\\x7b"
  | badBrace => "Invalid content of \\\x7b\\\x7d"
  | nothingRepeated => "Invalid preceding regular expression"
  | trailingBackslash => "Trailing backslash"
  | badReference => "Invalid back reference"
  | unknownName => "Invalid character class name"
  | unknownElement => "Invalid collation character"

namespace Regex

/-! ## Reading -/

/-- What the front of an expression is. -/
inductive Piece where
  | finish
  | plain (r : Regex)
  | star
  | plus
  | question
  | brace
  | bar
  | opening
  | closing
  | caret
  | dollar

def wordChar (c : Char) : Bool := c.isAlphanum || c = '_'

def wordItems : List Shell.SetItem := [.named "alnum".toList, .range '_' '_']

def spaceItems : List Shell.SetItem := [.named "space".toList]

/-- The piece that a backslash and a character make. -/
def escapedPiece (style : RegexStyle) (c : Char) : Piece :=
  match c with
  | 'w' => .plain (.set false wordItems)
  | 'W' => .plain (.set true wordItems)
  | 's' => .plain (.set false spaceItems)
  | 'S' => .plain (.set true spaceItems)
  | '<' => .plain .wordStart
  | '>' => .plain .wordEnd
  | 'b' => .plain (.wordEdge true)
  | 'B' => .plain (.wordEdge false)
  | '\x60' => .plain .textStart
  | '\x27' => .plain .textEnd
  | c =>
    if '1' ≤ c ∧ c ≤ '9' then .plain (.sameAs (c.toNat - '0'.toNat))
    else if style.isExtended then .plain (.char c)
    else if c = '(' then .opening
    else if c = ')' then .closing
    else if c = '|' then .bar
    else if c = '+' then .plus
    else if c = '?' then .question
    else if c = '\x7b' then .brace
    else .plain (.char c)

/-- The name between a sign and the same sign before a closing bracket, and what follows. -/
def bracketName? (sign : Char) : ByteText → Option (ByteText × ByteText)
  | [] => none
  | c :: s =>
    if c = sign ∧ s.head? = some ']' then some ([], s.drop 1)
    else (bracketName? sign s).map fun (name, rest) => (c :: name, rest)

/-- A member of a set at the front of a text, whether a range may begin or end with it, and what
follows. -/
def setElement (s : ByteText) : Except RegexFault (Shell.SetItem × Bool × ByteText) :=
  let named (sign : Char) (s : ByteText) : Except RegexFault (ByteText × ByteText) :=
    match bracketName? sign s with
    | some found => .ok found
    | none => .error .openBracket
  match s with
  | '[' :: ':' :: rest => do
    let (name, rest) ← named ':' rest
    if (Shell.namedClass? name).isNone then .error .unknownName
    else .ok (.named name, false, rest)
  | '[' :: '=' :: rest => do
    match ← named '=' rest with
    | ([c], rest) => .ok (.range c c, false, rest)
    | _ => .error .unknownElement
  | '[' :: '.' :: rest => do
    match ← named '.' rest with
    | ([c], rest) => .ok (.range c c, true, rest)
    | _ => .error .unknownElement
  | c :: rest => .ok (.range c c, true, rest)
  | [] => .error .openBracket

/-- The range between two members of a set. -/
def rangeOf : Shell.SetItem → Shell.SetItem → Except RegexFault Shell.SetItem
  | .range low _, .range high _ => if high < low then .error .badRange else .ok (.range low high)
  | _, _ => .error .badRange

/-- The members of a set up to its closing bracket, and what follows. -/
def setMembers (first : Bool) : (most : Nat) → ByteText →
    Except RegexFault (List Shell.SetItem × ByteText)
  | 0, _ => .error .openBracket
  | most + 1, s =>
    match s with
    | [] => .error .openBracket
    | c :: after =>
      if c = ']' ∧ !first then .ok ([], after)
      else do
        let (item, canBegin, rest) ← setElement s
        let (item, rest) : Shell.SetItem × ByteText ← match rest with
          | '-' :: ']' :: _ => pure (item, rest)
          | '-' :: later => do
            let (last, canEnd, rest) ← setElement later
            if canBegin && canEnd then pure (← rangeOf item last, rest) else .error .badRange
          | rest => pure (item, rest)
        let (items, rest) ← setMembers false most rest
        .ok (item :: items, rest)

/-- Whether a set begins and ends with a colon, as a class does inside a set. -/
def looksLikeClass (s : ByteText) : Bool :=
  match s.dropWhile (· = '^') with
  | ':' :: rest => ((rest.takeWhile (· ≠ ']')).getLast? = some ':') && rest.contains ']'
  | _ => false

/-- The piece at the front, and what follows it. -/
def nextPiece (style : RegexStyle) : ByteText → Except RegexFault (Piece × ByteText)
  | [] => .ok (.finish, [])
  | '\\' :: c :: s => .ok (escapedPiece style c, s)
  | ['\\'] => .error .trailingBackslash
  | '[' :: s => do
    let (negated, s) : Bool × ByteText := match s with
      | '^' :: s => (true, s)
      | s => (false, s)
    if s.isEmpty then .error .bareBracket
    if style.checksClasses && looksLikeClass s then .error .bareClass
    let (items, rest) ← setMembers true (s.length + 1) s
    .ok (.plain (.set negated items), rest)
  | '.' :: s => .ok (.plain .any, s)
  | '*' :: s => .ok (.star, s)
  | '^' :: s => .ok (.caret, s)
  | '$' :: s => .ok (.dollar, s)
  | c :: s =>
    if !style.isExtended then .ok (.plain (.char c), s)
    else .ok (match c with
      | '(' => (.opening, s)
      | ')' => (.closing, s)
      | '|' => (.bar, s)
      | '+' => (.plus, s)
      | '?' => (.question, s)
      | '\x7b' => (.brace, s)
      | c => (.plain (.char c), s))

/-- Whether a count is ended by a comma or a closing brace, whatever is in front of that. -/
def stopsCount (style : RegexStyle) : ByteText → Bool
  | [] => false
  | '\\' :: c :: s => (!style.isExtended && c = '\x7d') || stopsCount style s
  | c :: s => c = ',' || (style.isExtended && c = '\x7d') || stopsCount style s

/-- The counts behind an opening brace, and what follows the closing one. -/
def braceCounts (style : RegexStyle) (s : ByteText) :
    Except RegexFault (Nat × Option Nat × ByteText) :=
  let (least, rest) := Shell.digitsOf 10 s
  let hasLeast := s.head?.any (·.isDigit)
  let (most, rest, hasMost) : Option Nat × ByteText × Bool := match rest with
    | ',' :: rest =>
      if rest.head?.any (·.isDigit) then
        let (n, rest) := Shell.digitsOf 10 rest
        (some n, rest, true)
      else (none, rest, true)
    | rest => (some least, rest, false)
  let rest? : Option ByteText := match style.isExtended, rest with
    | true, '\x7d' :: rest => some rest
    | false, '\\' :: '\x7d' :: rest => some rest
    | _, _ => none
  match rest? with
  | none => .error (if stopsCount style rest then .badBrace else .openBrace)
  | some rest =>
    if !hasLeast ∧ !hasMost then .error .badBrace
    else if most.any (· < least) then .error .badBrace
    else if 0x7fff < max least (most.getD 0) then .error .tooMany
    else .ok (least, most, rest)

/-- What has been read: alternatives are joined at once, and `sofar` is the current one. -/
structure Draft where
  sofar : Regex
  last : Option Regex
  /-- Whether the last part has been repeated by an operator that may not be repeated itself. -/
  isRepeated : Bool
  /-- Whether nothing but places has been asked for. -/
  isBare : Bool
  alternatives : Option Regex
  /-- The groups that may be referred to here, in front of all alternatives, and behind those that
  have been read. -/
  closed : List Nat
  closedBefore : List Nat
  closedInOthers : List Nat

def Draft.flush (d : Draft) : Regex :=
  match d.last with
  | some r => .both d.sofar r
  | none => d.sofar

/-- Whether an expression asks for a place and takes no characters. -/
def isPlace : Regex → Bool
  | lineStart | lineEnd | textStart | textEnd | wordStart | wordEnd | wordEdge _ => true
  | _ => false

def Draft.push (d : Draft) (r : Regex) : Draft :=
  { d with sofar := d.flush, last := some r, isRepeated := false, isBare := d.isBare && isPlace r }

/-- A draft of nothing, where some groups may be referred to. -/
def Draft.fresh (closed : List Nat) : Draft := ⟨.empty, none, false, true, none, closed, closed, []⟩

/-- Whether there is nothing that an operator could repeat. Where operators need no backslashes, or
rules are strict, a place cannot be repeated, and else only a place behind something can. -/
def Draft.lacksPart (d : Draft) (style : RegexStyle) : Bool :=
  if style.isExtended || style.isStrict then d.last.elim true isPlace else d.isBare

def Draft.whole (d : Draft) : Regex :=
  match d.alternatives with
  | some a => .either a d.flush
  | none => d.flush

/-- The groups that may be referred to behind all alternatives. -/
def Draft.closedIn (d : Draft) : List Nat := d.closed ++ d.closedInOthers

/-- The draft of the next alternative. -/
def Draft.next (d : Draft) : Draft :=
  { Draft.fresh d.closedBefore with alternatives := some d.whole, closedInOthers := d.closedIn }

/-- Whether an alternative or a group ends in front of a text. -/
def endsHere (style : RegexStyle) (s : ByteText) : Bool :=
  match s with
  | [] | '\\' :: ')' :: _ | '\\' :: '|' :: _ => true
  | _ => style.isExtended

/-- What has been read of a group, how many groups there are so far, those that may be referred to
behind it, and the rest of the text. -/
abbrev GroupResult := Except RegexFault (Regex × Nat × List Nat × ByteText)

/-- Reads up to the end of a group or of the expression, with the number of groups so far. -/
def readGroup (style : RegexStyle) (inGroup : Bool) : (most : Nat) → (groups : Nat) → Draft →
    ByteText → GroupResult
  | 0, _, _, _ => .error .openGroup
  | most + 1, groups, d, s => do
    let atStart : Bool := d.last.isNone && (match d.sofar with
      | .empty => true
      | _ => false)
    let again (d : Draft) (s : ByteText) : GroupResult := readGroup style inGroup most groups d s
    let repeated (least : Nat) (many : Option Nat) : Draft :=
      match d.last with
      | some r => { d with last := some (.repeated r least many), isRepeated := true }
      | none => d
    let repeatLast (least : Nat) (many : Option Nat) (c : Char) (s : ByteText) : GroupResult :=
      let isDoubled :=
        style.isStrict && !style.isExtended && d.isRepeated && ['*', '\x7b'].contains c
      if d.lacksPart style then
        if !style.isExtended then again (d.push (.char c)) s
        else if style.isStrict then .error .nothingRepeated
        else match c, s with
          | '\x7b', _ => again (repeated least many) s
          | _, ')' :: rest => again ((repeated least many).push (.char ')')) rest
          | _, s => again (repeated least many) s
      else if isDoubled then .error .nothingRepeated
      else again (repeated least many) s
    match ← nextPiece style s with
    | (.finish, _) =>
      if inGroup then .error .openGroup else .ok (d.whole, groups, d.closedIn, [])
    | (.plain r, rest) =>
      match r with
      | .sameAs n => if d.closed.contains n then again (d.push r) rest else .error .badReference
      | r => again (d.push r) rest
    | (.star, rest) => repeatLast 0 none '*' rest
    | (.plus, rest) => repeatLast 1 none '+' rest
    | (.question, rest) => repeatLast 0 (some 1) '?' rest
    | (.brace, rest) =>
      if d.lacksPart style ∧ style.isStrict then .error .nothingRepeated
      else if d.lacksPart style ∧ !style.isExtended then again (d.push (.char '\x7b')) rest
      else match braceCounts style rest with
        | .ok (least, many, after) => repeatLast least many '\x7b' after
        | .error f =>
          let isLiteral := style.isExtended && !style.isStrict && !isCount rest
          if isLiteral then again (d.push (.char '\x7b')) rest else .error f
    | (.bar, rest) => again d.next rest
    | (.opening, rest) =>
      let number := groups + 1
      let (r, groups, closed, rest) ←
        readGroup style true most number (Draft.fresh d.closed) rest
      let d := { d.push (.group number r) with closed := number :: closed }
      readGroup style inGroup most groups d rest
    | (.closing, rest) =>
      if inGroup then .ok (d.whole, groups, d.closedIn, rest)
      else if style.isExtended ∧ !style.isStrict then again (d.push (.char ')')) rest
      else .error .closedGroup
    | (.caret, rest) =>
      if style.isExtended ∨ atStart then again (d.push .lineStart) rest
      else again (d.push (.char '^')) rest
    | (.dollar, rest) =>
      if endsHere style rest then again (d.push .lineEnd) rest else again (d.push (.char '$')) rest
where
  /-- Whether a text begins with complete counts, though they may be wrong. -/
  isCount (s : ByteText) : Bool :=
    let counts := s.takeWhile (· ≠ '\x7d')
    counts.length < s.length && counts.any (·.isDigit) && counts.all fun c => c.isDigit || c = ','

/-- Reads an expression. -/
def read (style : RegexStyle) (s : ByteText) : Except RegexFault Regex := do
  let (r, _, _, _) ← readGroup style false (2 * s.length + 2) 0 (Draft.fresh []) s
  .ok r

/-! ## Matching -/

/-- The groups that have matched, the last one first: number, beginning and end. -/
abbrev Groups := List (Nat × Nat × Nat)

/-- A place that has been reached, and the groups on the way there. -/
abbrev Reached := Nat × Groups

/-- Keeps the first way to each place. -/
def distinct (ways : List Reached) : List Reached :=
  (ways.foldl (fun kept way => if kept.any (·.1 = way.1) then kept else way :: kept) []).reverse

/-- The text that is searched. -/
structure Subject where
  chars : Array Char
  ignoresCase : Bool
  /-- Whether lines inside the text have a start and an end of their own. -/
  hasLines : Bool

def Subject.same (s : Subject) (a b : Char) : Bool :=
  a = b || (s.ignoresCase && a.toLower = b.toLower)

def Subject.inSet (s : Subject) (items : List Shell.SetItem) (c : Char) : Bool :=
  items.any (·.holds c) ||
    (s.ignoresCase && (items.any (·.holds c.toLower) || items.any (·.holds c.toUpper)))

def Subject.isWordAt (s : Subject) (n : Nat) : Bool := s.chars[n]?.any wordChar

/-- Whether a word is in front of a place. -/
def Subject.wordBefore (s : Subject) (n : Nat) : Bool := n ≠ 0 && s.isWordAt (n - 1)

/-- Whether a line ends at a place, if lines count. -/
def Subject.breaksAt (s : Subject) (n : Nat) : Bool := s.hasLines && s.chars[n]? = some '\n'

/-- The ways that repeat a step, those with more rounds first. -/
def rounds (step : Reached → List Reached) (least : Nat) (most : Option Nat) :
    (fuel : Nat) → (done : Nat) → List Reached → List Reached
  | 0, _, now => now
  | fuel + 1, done, now =>
    if now.isEmpty then []
    else
      let further : List Reached := match most with
        | some n => if n ≤ done then [] else distinct (now.flatMap (moving step))
        | none => distinct (now.flatMap (moving step))
      let later := rounds step least most fuel (done + 1) further
      distinct (later ++ if least ≤ done then now else [])
where
  /-- A round that stays where it is counts only while rounds are still missing. -/
  moving (step : Reached → List Reached) (from1 : Reached) : List Reached :=
    (step from1).filter fun r => r.1 ≠ from1.1 || least ≠ 0

/-- The ways through an expression from a place. -/
def ways (s : Subject) : Regex → Reached → List Reached
  | empty, at1 => [at1]
  | char c, (n, gs) =>
    match s.chars[n]? with
    | some d => if s.same c d then [(n + 1, gs)] else []
    | none => []
  | any, (n, gs) => if n < s.chars.size && !s.breaksAt n then [(n + 1, gs)] else []
  | set negated items, (n, gs) =>
    match s.chars[n]? with
    | some d =>
      if s.inSet items d != negated && !(negated && s.breaksAt n) then [(n + 1, gs)] else []
    | none => []
  | lineStart, (n, gs) => if n = 0 || s.breaksAt (n - 1) then [(n, gs)] else []
  | lineEnd, (n, gs) => if n = s.chars.size || s.breaksAt n then [(n, gs)] else []
  | textStart, (n, gs) => if n = 0 then [(n, gs)] else []
  | textEnd, (n, gs) => if n = s.chars.size then [(n, gs)] else []
  | wordStart, (n, gs) => if s.isWordAt n && !s.wordBefore n then [(n, gs)] else []
  | wordEnd, (n, gs) => if s.wordBefore n && !s.isWordAt n then [(n, gs)] else []
  | wordEdge isThere, (n, gs) =>
    if (s.wordBefore n != s.isWordAt n) = isThere then [(n, gs)] else []
  | noWord inFront, (n, gs) =>
    if if inFront then s.wordBefore n else s.isWordAt n then [] else [(n, gs)]
  | group number r, (n, gs) => (ways s r (n, gs)).map fun (m, gs) => (m, (number, n, m) :: gs)
  | sameAs number, (n, gs) =>
    match gs.find? (·.1 = number) with
    | some (_, first, last) =>
      let length := last - first
      let fits := (List.range length).all fun i =>
        match s.chars[first + i]?, s.chars[n + i]? with
        | some a, some b => s.same a b
        | _, _ => false
      if fits then [(n + length, gs)] else []
    | none => []
  | both a b, at1 => distinct ((ways s a at1).flatMap (ways s b))
  | either a b, at1 => distinct (ways s a at1 ++ ways s b at1)
  | repeated r least most, at1 =>
    rounds (ways s r) least most (s.chars.size + least + 2) 0 [at1]

/-- A match: where it begins and ends, and its groups. -/
structure Match where
  first : Nat
  last : Nat
  groups : Groups

/-- The longest match that begins at a place. -/
def matchAt? (r : Regex) (s : Subject) (n : Nat) : Option Match :=
  let best := (ways s r (n, [])).foldl (fun (best : Option Reached) way =>
    match best with
    | some b => if b.1 < way.1 then some way else some b
    | none => some way) none
  best.map fun (last, groups) => ⟨n, last, groups⟩

/-- The first match at a place or behind it. -/
def search? (r : Regex) (s : Subject) : (most : Nat) → (start : Nat) → Option Match
  | 0, _ => none
  | most + 1, start =>
    match r.matchAt? s start with
    | some m => some m
    | none => if start < s.chars.size then search? r s most (start + 1) else none

/-- The first match at a place or behind it. -/
def find? (r : Regex) (s : Subject) (start : Nat) : Option Match :=
  r.search? s (s.chars.size + 1) start

end Regex

end KernelLink
