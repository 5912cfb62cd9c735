import KernelLink.Shell.Word

/-!
# Reading commands

A script is read one complete line of commands at a time, because the shell runs each before it
looks at the next: a fault on a later line does not keep earlier lines from running. Keywords are
words like any other except where a command may begin, so each reader says whether they count.
-/

namespace KernelLink.Shell

/-! ## Tokens -/

def keywords : List String :=
  ["!", "case", "do", "done", "elif", "else", "esac", "fi", "for", "if", "in", "then", "until",
   "while", "\x7b", "\x7d"]

/-- A word as a keyword, if it is one. -/
def Token.asKeyword : Token → Token
  | .word w quoted =>
    match plainText? w with
    | some s => if keywords.contains (String.ofList s) then .keyword (String.ofList s)
      else .word w quoted
    | none => .word w quoted
  | t => t

/-- The number that stands right before a redirection: one digit, or nothing. -/
def streamNumber? : Word → Option (Option Nat)
  | [] => some none
  | [.text [c] false] => if c.isDigit then some (some (c.toNat - '0'.toNat)) else none
  | _ => none

/-- The text of a word with its quotes taken away, where parameters stand for themselves. -/
def literalText (w : Word) : ByteText :=
  w.flatMap fun
    | .text s _ => s
    | .parameter name .. => '$' :: name
    | .command script .. => '\x60' :: script ++ ['\x60']
    | .arithmetic .. => []

namespace ReadM

/-- The redirection behind its angle bracket. -/
def redirectionStart (stream : Option Nat) (c : Char) : ReadM RedirectionStart := do
  if c = '>' then
    let n := stream.getD 1
    if ← take '>' then pure (.file n .append)
    else if ← take '|' then pure (.file n .overwrite)
    else if ← take '&' then pure (.join n)
    else pure (.file n .write)
  else
    let n := stream.getD 0
    if ← take '<' then pure (.document n (← take '-'))
    else if ← take '&' then pure (.join n)
    else if ← take '>' then pure (.file n .readWrite)
    else pure (.file n .read)

/-- Passes over blanks and a comment. -/
def passBlanks : (most : Nat) → ReadM Unit
  | 0 => pure ()
  | most + 1 => do
    match ← peek with
    | some ' ' | some '\t' =>
      discard rawChar
      passBlanks most
    | some '#' =>
      modify fun s => { s with rest := s.rest.dropWhile (· ≠ '\n') }
    | _ => pure ()

/-- A word, or the redirection that its text turns out to begin. -/
def wordToken (inner : Inner) : ReadM Token := do
  let w ← parts inner .none
  match ← peek, streamNumber? w with
  | some c, some stream =>
    if c = '<' ∨ c = '>' then
      discard rawChar
      pure (.redirection (← redirectionStart stream c))
    else pure (.word w (w.any (·.hasQuotes)))
  | _, _ => pure (.word w (w.any (·.hasQuotes)))

/-- The next token from the script. -/
def freshToken (inner : Inner) : ReadM Token := do
  let before := (← get).rest.length
  passBlanks (← remaining)
  modify fun s =>
    let crossed (a : OpenAlias) : Bool :=
      a.endsBlank && a.behind < before && s.rest.length ≤ a.behind
    { s with eager := s.opened.any crossed }
  let start := (← get).rest.length
  let t ← match ← peek with
    | none => pure .finish
    | some '\n' => discard rawChar; pure .newline
    | some '&' => discard rawChar; pure (.operator (if ← take '&' then "&&" else "&"))
    | some '|' => discard rawChar; pure (.operator (if ← take '|' then "||" else "|"))
    | some ';' => discard rawChar; pure (.operator (if ← take ';' then ";;" else ";"))
    | some '(' => discard rawChar; pure (.operator "(")
    | some ')' => discard rawChar; pure (.operator ")")
    | some _ => wordToken inner
  modify fun s => { s with lastStart := start }
  pure t

/-- The next token, which may have been put back. -/
def anyToken (inner : Inner) : ReadM Token := do
  match (← get).held with
  | some t =>
    modify fun s => { s with held := none }
    pure t
  | none => freshToken inner

def putBack (t : Token) : ReadM Unit := modify fun s => { s with held := some t }

/-! ## Here-documents -/

/-- Takes a line off the script, with its newline. -/
def rawLine : ReadM ByteText := do
  let rest := (← get).rest
  let line := rest.takeWhile (· ≠ '\n')
  let line := if line.length < rest.length then line ++ ['\n'] else line
  modify fun s =>
    { s with
      rest := rest.drop line.length
      line := s.line + (if line.getLast? = some '\n' then 1 else 0) }
  pure line

/-- Whether a line ends in a backslash that joins it to the next. -/
def isJoined (line : ByteText) : Bool :=
  ((withoutNewline line).reverse.takeWhile (· = '\\')).length % 2 = 1

/-- The text of a here-document up to the line that finishes it. -/
def documentText (d : AwaitedDocument) (continued : Bool) : (most : Nat) → ReadM ByteText
  | 0 => pure []
  | most + 1 => do
    if (← get).rest.isEmpty then pure []
    else
      let line ← rawLine
      let line := if d.stripsTabs ∧ !continued then line.dropWhile (· = '\t') else line
      if withoutNewline line = d.finish ∧ !continued then pure []
      else pure (line ++ (← documentText d (!d.literal && isJoined line) most))

/-- Reads the documents that the line before announced. -/
def takeDocuments (inner : Inner) : ReadM Unit := do
  let awaited := (← get).awaited
  modify fun s => { s with awaited := [] }
  awaited.forM fun d => do
    let line := (← get).line
    let text ← documentText d false (← remaining)
    let word ← if d.literal then pure [Part.text text true]
      else do
        let before ← get
        set { before with rest := text, line, held := none, awaited := [], aliases := [] }
        let word ← parts inner .document
        modify fun s => { before with documents := s.documents, next := s.next }
        pure word
    modify fun s => { s with documents := (d.number, word) :: s.documents }

/-- The next token, behind newlines. -/
def tokenBehindLines (inner : Inner) : (most : Nat) → ReadM Token
  | 0 => pure .finish
  | most + 1 => do
    match ← anyToken inner with
    | .newline =>
      takeDocuments inner
      tokenBehindLines inner most
    | t => pure t

/-- The alias that a token is. A word from the text of an alias is not that alias again. -/
def aliasOf? (t : Token) : ReadM (Option (ByteText × ByteText)) := do
  let s ← get
  match t with
  | .word w false =>
    pure do
      let name ← plainText? w
      if s.opened.any fun a => a.name = name && a.behind ≤ s.rest.length then none
      else s.aliases.find? (·.1 = name)
  | _ => pure none

/-- Puts the text of an alias in front of the script. -/
def openAlias (name text : ByteText) : ReadM Unit :=
  modify fun s =>
    let behind := s.rest.length
    let endsBlank := text.getLast? = some ' ' || text.getLast? = some '\t'
    { s with
      rest := text ++ s.rest
      opened := ⟨name, behind, endsBlank⟩ :: s.opened.filter (·.behind ≤ behind) }

/-- The next token, with the texts of aliases in their place. -/
def tokenFrom (inner : Inner) (passLines keywords aliases : Bool) : (most : Nat) → ReadM Token
  | 0 => pure .finish
  | most + 1 => do
    let t ← if passLines then tokenBehindLines inner (← remaining) else anyToken inner
    let t := if keywords then t.asKeyword else t
    let found? ← if aliases || (← get).eager then aliasOf? t else pure none
    match found? with
    | some (name, text) =>
      openAlias name text
      tokenFrom inner passLines keywords aliases most
    | none => pure t

/-- A bound on how many tokens are read until one is no alias. -/
def aliasBound : ReadM Nat := do
  pure ((← remaining) * ((← get).aliases.length + 1) + 1)

/-- The next token. Where keywords count, aliases count too. -/
def token (inner : Inner) (passLines keywords : Bool) : ReadM Token := do
  tokenFrom inner passLines keywords keywords (← aliasBound)

/-- The next token of a simple command, which is an alias only before the first word. -/
def wordOfCommand (inner : Inner) (isFirst : Bool) : ReadM Token := do
  tokenFrom inner false false isFirst (← aliasBound)

/-- Refuses a token. -/
def unexpected {α : Type} (t : Token) (expected : Option Token) : ReadM α :=
  fail (.unexpected t.name (expected.map (·.name)))

/-- Takes a token of which nothing but its kind counts. -/
def expect (t : Token) (expected : Token) : ReadM Unit :=
  if t.name = expected.name then pure () else unexpected t (some expected)

/-! ## Redirections -/

/-- The target of a redirection. -/
def redirectionTarget (inner : Inner) (start : RedirectionStart) : ReadM Redirection := do
  match ← token inner false false with
  | .word w quoted =>
    match start with
    | .file stream mode => pure (.file stream mode w)
    | .join stream => pure (.join stream w)
    | .document stream stripsTabs =>
      let number := (← get).next
      let document : AwaitedDocument := ⟨number, literalText w, stripsTabs, quoted⟩
      modify fun s => { s with next := number + 1, awaited := s.awaited ++ [document] }
      pure (.document stream number)
  | t => unexpected t none

/-- The redirections that follow a compound command. -/
def redirections (inner : Inner) : (most : Nat) → ReadM (List Redirection)
  | 0 => pure []
  | most + 1 => do
    match ← token inner false true with
    | .redirection start =>
      let r ← redirectionTarget inner start
      pure (r :: (← redirections inner most))
    | t =>
      putBack t
      pure []

end ReadM

/-! ## Commands -/

/-- Where a list of commands may end. -/
inductive ListEnd where
  /-- At the end of a line. -/
  | line
  /-- At a token that ends lists, with at least one command before it. -/
  | full
  /-- At a token that ends lists. -/
  | closing
deriving DecidableEq, Repr

/-- The readers that call each other. -/
structure Grammar where
  list : ListEnd → ReadM (Option Command)
  command : ReadM Command

namespace Grammar

open ReadM

/-- How a command substitution is read. -/
def inner (g : Grammar) : Inner where
  upToParenthesis := do
    discard (g.list .closing)
    let close : Token := .operator ")"
    expect (← anyToken ⟨pure (), pure ()⟩) close
  whileList := discard (g.list .closing)

/-- A list that has at least one command, unless the script ends here; whoever reads on then finds
the end in place of what closes the list. -/
def body (g : Grammar) : ReadM Command := do
  pure ((← g.list .full).getD default)

def keyword (g : Grammar) (text : String) : ReadM Unit := do
  expect (← token g.inner false true) (.keyword text)

/-! ### Simple commands -/

/-- What has been read of a simple command. -/
structure Draft where
  assignments : List Word
  words : List Word
  redirections : List Redirection

/-- The names that a function cannot have. -/
def specialNames : List String :=
  [".", ":", "break", "continue", "eval", "exec", "exit", "export", "readonly", "return", "set",
   "shift", "times", "trap", "unset"]

/-- A function behind its name and the opening parenthesis. -/
def definition (g : Grammar) (name : Word) : ReadM Command := do
  expect (← token g.inner false false) (.operator ")")
  let fits (s : ByteText) : Bool := isName s && !specialNames.contains (String.ofList s)
  match plainText? name with
  | some s =>
    if fits s then
      putBack (← token g.inner true true)
      pure (.define s (← g.command))
    else fail .badFunctionName
  | none => fail .badFunctionName

/-- The rest of a simple command. -/
def simpleRest (g : Grammar) (line : Nat) : (most : Nat) → Draft → ReadM Command
  | 0, d => pure (.simple line d.assignments d.words d.redirections)
  | most + 1, d => do
    match ← wordOfCommand g.inner d.words.isEmpty with
    | .word w _ =>
      if d.words.isEmpty ∧ (assignment? w).isSome then
        g.simpleRest line most { d with assignments := d.assignments ++ [w] }
      else g.simpleRest line most { d with words := d.words ++ [w] }
    | .redirection start =>
      let r ← redirectionTarget g.inner start
      g.simpleRest line most { d with redirections := d.redirections ++ [r] }
    | t =>
      match d, t.isOperator "(" with
      | ⟨[], [name], []⟩, true => g.definition name
      | _, _ =>
        putBack t
        pure (.simple line d.assignments d.words d.redirections)

/-! ### Compound commands -/

/-- What follows the condition of an `if`. -/
def choiceRest (g : Grammar) : (most : Nat) → ReadM Command
  | 0 => fail (.unexpected Token.finish.name none)
  | most + 1 => do
    let test ← g.body
    g.keyword "then"
    let body ← g.body
    let t ← token g.inner false true
    if t.isKeyword "elif" then pure (.choice test body (some (← g.choiceRest most)))
    else if t.isKeyword "else" then pure (.choice test body (some (← g.body)))
    else
      putBack t
      pure (.choice test body none)

/-- The words of a `for` and the token behind them. -/
def wordsUpTo (g : Grammar) : (most : Nat) → ReadM (List Word × Token)
  | 0 => pure ([], .finish)
  | most + 1 => do
    match ← token g.inner false false with
    | .word w _ =>
      let (ws, t) ← g.wordsUpTo most
      pure (w :: ws, t)
    | t => pure ([], t)

def eachRest (g : Grammar) (line : Nat) : ReadM Command := do
  let name ← match ← token g.inner false false with
    | .word w _ =>
      match plainText? w with
      | some s => if isName s then pure s else fail .badLoopVariable
      | none => fail .badLoopVariable
    | _ => fail .badLoopVariable
  let t ← token g.inner true true
  let words ← if t.isKeyword "in" then do
      let (words, t) ← g.wordsUpTo (← remaining)
      if t.isOperator ";" || t.name = Token.newline.name then
        if t.name = Token.newline.name then takeDocuments g.inner
        pure words
      else unexpected t none
    else do
      if !t.isOperator ";" then putBack t
      pure [[Part.parameter ['@'] .value [] true]]
  expect (← token g.inner true true) (.keyword "do")
  pure (.each line name words (← g.body))

/-- The patterns of a case, the first of which has been read. What is no word is noticed only by
what follows it. -/
def patternsFrom (g : Grammar) : (most : Nat) → Token → ReadM (List Word)
  | 0, _ => pure []
  | most + 1, t => do
    let w := match t with
      | .word w _ => w
      | _ => []
    let next ← token g.inner false false
    if next.isOperator "|" then
      pure (w :: (← g.patternsFrom most (← token g.inner false false)))
    else
      expect next (.operator ")")
      pure [w]

/-- A token as the word that its text is. -/
def asWord : Token → Token
  | .keyword text => .word [.text text.toList false] false
  | t => t

/-- The cases up to the end of a `case`. -/
def casesRest (g : Grammar) : (most : Nat) → ReadM (List (List Word × Option Command))
  | 0 => pure []
  | most + 1 => do
    let t ← token g.inner true true
    if t.isKeyword "esac" then pure []
    else
      let t ← if t.isOperator "(" then token g.inner false false else pure t
      let patterns ← g.patternsFrom (← remaining) (asWord t)
      let body ← g.list .closing
      let t ← token g.inner true true
      if t.isKeyword "esac" then pure [(patterns, body)]
      else
        expect t (.operator ";;")
        pure ((patterns, body) :: (← g.casesRest most))

def selectRest (g : Grammar) (line : Nat) : ReadM Command := do
  match ← token g.inner false false with
  | .word subject _ =>
    expect (← token g.inner true true) (.keyword "in")
    pure (.select line subject (← g.casesRest (← remaining)))
  | t => unexpected t (some (.word [] false))

/-- A compound command behind its first token, without redirections. -/
def compound? (g : Grammar) (line : Nat) (t : Token) : Option (ReadM Command) :=
  match t with
  | .operator "(" => some do
    let body ← g.body
    expect (← token g.inner false false) (.operator ")")
    pure (.subshell line body [])
  | .keyword "\x7b" => some do
    let body ← g.body
    g.keyword "\x7d"
    pure body
  | .keyword "if" => some do
    let c ← g.choiceRest (← remaining)
    g.keyword "fi"
    pure c
  | .keyword "while" | .keyword "until" => some do
    let test ← g.body
    g.keyword "do"
    let body ← g.body
    g.keyword "done"
    pure (.loop (t.isKeyword "until") test body)
  | .keyword "for" => some do
    let c ← g.eachRest line
    g.keyword "done"
    pure c
  | .keyword "case" => some (g.selectRest line)
  | _ => none

/-- Puts redirections behind a compound command. -/
def redirect (line : Nat) (c : Command) (rs : List Redirection) : Command :=
  match c with
  | .subshell line body [] => .subshell line body rs
  | c => if rs.isEmpty then c else .redirected line c rs

def readCommand (g : Grammar) : ReadM Command := do
  let t ← token g.inner false true
  let line := (← get).line
  match g.compound? line t with
  | some m =>
    let c ← m
    pure (redirect line c (← redirections g.inner (← remaining)))
  | none =>
    match t with
    | .word .. | .redirection _ =>
      putBack t
      g.simpleRest line (← remaining) ⟨[], [], []⟩
    | t => unexpected t none

/-! ### Lists -/

/-- The commands behind a pipe. -/
def pipedRest (g : Grammar) : (most : Nat) → ReadM (List Command)
  | 0 => pure []
  | most + 1 => do
    let t ← token g.inner false false
    if t.isOperator "|" then
      putBack (← token g.inner true true)
      let c ← g.command
      pure (c :: (← g.pipedRest most))
    else
      putBack t
      pure []

def readPipeline (g : Grammar) : ReadM Command := do
  let t ← token g.inner false true
  let isNegated := t.isKeyword "!"
  putBack (← if isNegated then token g.inner false true else pure t)
  let c ← g.command
  let piped ← g.pipedRest (← remaining)
  let c := if piped.isEmpty then c else .pipeline (c :: piped)
  pure (if isNegated then .negated c else c)

/-- What follows a pipeline that succeeds or fails. -/
def joinedRest (g : Grammar) : (most : Nat) → Command → ReadM Command
  | 0, c => pure c
  | most + 1, c => do
    let t ← token g.inner false false
    if t.isOperator "&&" then
      putBack (← token g.inner true true)
      g.joinedRest most (.both c (← g.readPipeline))
    else if t.isOperator "||" then
      putBack (← token g.inner true true)
      g.joinedRest most (.either c (← g.readPipeline))
    else
      putBack t
      pure c

/-- A command that others follow. -/
def sequence : Option Command → Command → Command
  | none, c => c
  | some before, c => .sequence before c

/-- The rest of a list. -/
def listRest (g : Grammar) (finish : ListEnd) :
    (most : Nat) → Option Command → ReadM (Option Command)
  | 0, sofar => pure sofar
  | most + 1, sofar => do
    let t ← token g.inner (finish ≠ .line) true
    match t with
    | .newline =>
      takeDocuments g.inner
      pure sofar
    | .finish =>
      takeDocuments g.inner
      putBack t
      pure sofar
    | t =>
      putBack t
      if (finish = .closing ∨ sofar.isSome) ∧ finish ≠ .line ∧ t.endsList then return sofar
      let line := (← get).line
      let c ← g.joinedRest (← remaining) (← g.readPipeline)
      let t ← token g.inner false false
      let c := if t.isOperator "&" then .background line c else c
      let sofar := some (sequence sofar c)
      match t with
      | .finish =>
        takeDocuments g.inner
        putBack t
        pure sofar
      | .newline =>
        putBack t
        g.listRest finish most sofar
      | t =>
        if t.isOperator "&" || t.isOperator ";" then g.listRest finish most sofar
        else if finish = .line then unexpected t none
        else
          putBack t
          pure sofar

def readList (g : Grammar) (finish : ListEnd) : ReadM (Option Command) := do
  g.listRest finish (← remaining) none

/-- The readers for commands that are nested no deeper than a number. -/
def nested : (depth : Nat) → Grammar
  | 0 => ⟨fun _ => fail (.unexpected Token.finish.name none),
      fail (.unexpected Token.finish.name none)⟩
  | depth + 1 =>
    { list := fun finish s => (readList (nested depth) finish).run s
      command := fun s => (readCommand (nested depth)).run s }

end Grammar

/-! ## Scripts -/

/-- What is left of a script, and the documents that its commands have so far. -/
structure Script where
  rest : ByteText
  line : Nat
  documents : List (Nat × Word)
  next : Nat

/-- What comes next in a script. -/
inductive NextLine where
  | finish
  | blank
  | command (c : Command)
  | fault (f : SyntaxFault)

/-- Reads one complete line of commands. -/
def Script.nextLine (s : Script) (aliases : List (ByteText × ByteText)) : NextLine × Script :=
  let aliasText := aliases.foldl (fun n (_, text) => n + text.length) 0
  let reader : ReadM (Option Command × Bool) := do
    let c ← (Grammar.nested (s.rest.length + aliasText + 2)).list .line
    pure (c, (← get).rest.isEmpty && c.isNone)
  let (result, after) :=
    reader.run ⟨s.rest, s.line, aliases, [], false, none, [], s.documents, s.next, 0⟩
  let script : Script := ⟨after.rest, after.line, after.documents, after.next⟩
  match result with
  | .ok (some c, _) => (.command c, script)
  | .ok (none, true) => (.finish, script)
  | .ok (none, false) => (.blank, script)
  | .error f => (.fault f, script)

end KernelLink.Shell
