import KernelLink.Shell.Pattern
import KernelLink.Tool.Find
import KernelLink.Tool.Lines
import KernelLink.Tool.Sort
import KernelLink.Tool.Status

/-!
# Listing directories

Names are put in an order and laid out: one to a line, side by side in columns, or with all that is
known about each file. Files that are named come first, all together, and then each directory by
itself.
-/

namespace KernelLink

/-! ## Names -/

/-- How names are written. -/
inductive QuotingStyle where
  | literal
  | shell (always escapes : Bool)
  | c (always : Bool)
  | escape
  | locale
deriving DecidableEq, Repr

/-- A character as it is written behind a backslash, if it has to be; `special` has to be too. -/
def escapedChar (special : List Char) (c : Char) : ByteText :=
  if c = '\\' ∨ special.contains c then ['\\', c]
  else if isPlainChar c then [c]
  else shellEscape c

/-- A name between single quotes of a shell, without escapes. -/
def plainShellQuoted (s : ByteText) : ByteText :=
  if s.contains '\x27' then
    '\x27' :: s.flatMap (fun c => if c = '\x27' then ['\x27', '\\', '\x27', '\x27'] else [c]) ++
      ['\x27']
  else '\x27' :: s ++ ['\x27']

/-- A name in a style. -/
def QuotingStyle.quote (q : QuotingStyle) (s : ByteText) : ByteText :=
  let isDoubled : Bool := s.contains '\x27' &&
    s.all fun c => isPlainChar c && !(['"', '$', '\x60', '\\', '!'].contains c)
  match q with
  | literal => s
  | shell always true => if always then shellQuoted s else shellWord s
  | shell always false =>
    if !always ∧ shellWord s = s then s
    else if isDoubled then '"' :: s ++ ['"'] else plainShellQuoted s
  | c always =>
    let inner := s.flatMap (escapedChar ['"'])
    if !always ∧ inner = s then s else '"' :: inner ++ ['"']
  | escape => s.flatMap (escapedChar [' '])
  | locale => '\x27' :: s.flatMap (escapedChar ['\x27']) ++ ['\x27']

/-! ## Entries -/

/-- Something to be listed: its name, where it is, and what it is. -/
structure ListEntry where
  name : ByteText
  place : Location
  node : FileNode

/-- What decides the order of entries. -/
inductive ListOrder where
  | name
  | none
  | size
  | extension
  | version
  | width
deriving DecidableEq, Repr

/-- How entries are laid out. -/
inductive ListLayout where
  | lines
  | long
  | columns
  | rows
  | commas
deriving DecidableEq, Repr

/-- What a name is marked with. -/
inductive ListMark where
  | none
  | directories
  | all
deriving DecidableEq, Repr

structure ListManner where
  showsDots : Bool
  showsHidden : Bool
  ignored : List Shell.Pattern
  /-- What is not listed either, unless names with a point in front are. -/
  hidden : List Shell.Pattern
  order : ListOrder
  reversed : Bool
  directoriesFirst : Bool
  layout : ListLayout
  mark : ListMark
  quoting : QuotingStyle
  masksControls : Bool
  blocks : Bool
  /-- Whether sizes are written with letters for thousands, and how many a thousand is. -/
  human : Option Nat
  /-- What blocks are counted in, and what sizes are. -/
  blockUnit : Nat
  sizeUnit : Nat
  /-- What is written behind numbers of units. -/
  unitMark : ByteText
  owner : Bool
  group : Bool
  author : Bool
  numeric : Bool
  /-- Whether a security context is shown, which no file has. -/
  context : Bool
  date : ByteText
  width : Nat
  tab : Nat
  recursive : Bool
  finish : Char

/-- The part of a name behind its last point, with the point. -/
def extensionOf (name : ByteText) : ByteText :=
  if name.contains '.' then '.' :: (name.reverse.takeWhile (· ≠ '.')).reverse else []

/-- Whether one entry comes before another. -/
def ListManner.precedes (m : ListManner) (a b : ListEntry) : Bool :=
  let byName := compare a.name b.name
  let o := match m.order with
    | .name => byName
    | .none => .eq
    | .size => (compare (FileTree.nodeSize b.node) (FileTree.nodeSize a.node)).then byName
    | .extension => (compare (extensionOf a.name) (extensionOf b.name)).then byName
    | .version => (Version.order a.name b.name).then byName
    | .width => (compare a.name.length b.name.length).then byName
  let o := if m.reversed then o.swap else o
  let kind (e : ListEntry) : Nat := if e.node.isDirectory then 0 else 1
  (if m.directoriesFirst then (compare (kind a) (kind b)).then o else o) ≠ .gt

/-- Entries in the order in which they are listed. -/
def ListManner.sorted (m : ListManner) (entries : List ListEntry) : List ListEntry :=
  entries.mergeSort m.precedes

/-- What is listed of a directory. -/
def ListManner.entries (m : ListManner) (t : FileTree) (place : Location) : List ListEntry :=
  let inner := (t.below place).filterMap fun (way, node) => match way with
    | [name] => some (ListEntry.mk (byteText name) (place ++ way) node)
    | _ => none
  let dots := if m.showsDots then
      [ListEntry.mk ['.'] place .directory, ⟨['.', '.'], place.dropLast, .directory⟩]
    else []
  let isShown (e : ListEntry) : Bool :=
    let isOpen : Bool := m.showsDots || m.showsHidden
    (isOpen || (e.name.head? ≠ some '.' && !m.hidden.any (·.fits e.name))) &&
      !m.ignored.any (·.fits e.name)
  let byName := inner.mergeSort fun a b => inOrder a.name b.name
  m.sorted (dots ++ byName.filter isShown)

/-! ## Columns of one entry -/

/-- A size with a letter, rounded up. -/
def humanSize (thousand n : Nat) : ByteText :=
  let letters := if thousand = 1000 then "kMGTPE".toList else "KMGTPE".toList
  let rec scale (unit : Nat) : List Char → ByteText
    | [] => decimalText n
    | letter :: rest =>
      let tenths := (n * 10 + unit - 1) / unit
      if tenths < 100 then
        joinText [decimalText (tenths / 10), ['.'], decimalText (tenths % 10), [letter]]
      else
        let whole := (n + unit - 1) / unit
        if whole < thousand ∨ rest.isEmpty then decimalText whole ++ [letter]
        else scale (unit * thousand) rest
  if n < thousand then decimalText n else scale thousand letters

/-- A number of bytes as a number of units, rounded up. -/
def ListManner.inUnits (m : ListManner) (unit n : Nat) : ByteText :=
  match m.human with
  | some thousand => humanSize thousand n
  | none => decimalText ((n + unit - 1) / unit) ++ m.unitMark

def ListManner.sizeText (m : ListManner) (n : Nat) : ByteText := m.inUnits m.sizeUnit n

/-- How many blocks something takes, in the unit that is asked for. -/
def ListManner.blocksText (m : ListManner) (blocks : Nat) : ByteText :=
  m.inUnits m.blockUnit (blocks * 512)

/-- A name with its mark. -/
def ListManner.nameText (m : ListManner) (t : FileTree) (e : ListEntry) : ByteText :=
  let mark : ByteText := match m.mark, e.node.isDirectory with
    | .none, _ => []
    | _, true => ['/']
    | .all, false => if t.mayRun e.place then ['*'] else []
    | .directories, false => []
  let shown := m.quoting.quote e.name
  (if m.masksControls then shown.map fun c => if isPlainChar c then c else '?' else shown) ++ mark

/-- The date of a file, which is always the earliest. -/
def listedDate : ByteText := byteText "Jan  1  1970"

/-- The most characters that a column takes for any of some entries. -/
def widestOf (entries : List ListEntry) (column : ListEntry → ByteText) : Nat :=
  entries.foldl (fun n e => max n (column e).length) 0

def ListManner.entryBlocks (m : ListManner) (e : ListEntry) : ByteText :=
  m.blocksText (FileTree.nodeBlocks e.node)

/-- All that is known about some entries, one to a line; `all` decides how wide columns are. -/
def ListManner.longLines (m : ListManner) (t : FileTree) (all entries : List ListEntry) :
    List ByteText :=
  let names (e : ListEntry) : ByteText := decimalText (t.nameCount e.place e.node)
  let size (e : ListEntry) : ByteText := m.sizeText (FileTree.nodeSize e.node)
  let padded (f : ListEntry → ByteText) (e : ListEntry) : ByteText :=
    padText (widestOf all f) false false [] (f e)
  let person : ByteText := if m.numeric then ['0'] else ownerName
  entries.map fun e =>
    let cells := (if m.blocks then [padded m.entryBlocks e] else []) ++
      [t.modeMarks e.place e.node, padded names e] ++ (if m.owner then [person] else []) ++
      (if m.group then [person] else []) ++ (if m.author then [person] else []) ++
      (if m.context then [['?']] else []) ++ [padded size e, m.date, m.nameText t e]
    [' '].intercalate cells

/-- Entries with what stands in front of their names, where they are not alone on their lines. -/
def ListManner.cells (m : ListManner) (t : FileTree) (all entries : List ListEntry) :
    List ByteText :=
  let width := if m.layout = .commas then 0 else widestOf all m.entryBlocks
  entries.map fun e =>
    (if m.blocks then padText width false false [] (m.entryBlocks e) ++ [' '] else []) ++
      (if m.context then ['?', ' '] else []) ++ m.nameText t e

/-! ## Laying out -/

/-- Blanks from one place of a line to another, with tabs where they reach far enough. -/
def indentation (tab : Nat) : (most : Nat) → (start finish : Nat) → ByteText
  | 0, _, _ => []
  | most + 1, start, finish =>
    if finish ≤ start then []
    else if tab ≠ 0 ∧ (start + 1) / tab < finish / tab then
      '\t' :: indentation tab most (start + tab - start % tab) finish
    else ' ' :: indentation tab most (start + 1) finish

/-- The column of an entry where there are so many columns. -/
def columnOf (byColumns : Bool) (count columns n : Nat) : Nat :=
  if byColumns then n / ((count + columns - 1) / columns) else n % columns

/-- How wide columns have to be, each but the last with two blanks behind it. -/
def columnWidths (byColumns : Bool) (cells : List ByteText) (columns : Nat) : List Nat :=
  (List.range columns).map fun column =>
    cells.zipIdx.foldl (fun width (cell, n) =>
      if columnOf byColumns cells.length columns n = column then
        max width (cell.length + if column + 1 = columns then 0 else 2)
      else width) 3

/-- As many columns as fit on a line. -/
def fittingColumns (byColumns : Bool) (width : Nat) (cells : List ByteText) : (most : Nat) → Nat
  | 0 | 1 => 1
  | most + 2 =>
    if (columnWidths byColumns cells (most + 2)).foldl (· + ·) 0 < width then most + 2
    else fittingColumns byColumns width cells (most + 1)

/-- Cells of a line side by side. -/
def alignedCells (tab position : Nat) : List (ByteText × Nat) → ByteText
  | [] => []
  | [(cell, _)] => cell
  | (cell, width) :: rest =>
    let next := position + width
    cell ++ indentation tab width (position + cell.length) next ++ alignedCells tab next rest

/-- Cells in columns. -/
def ListManner.columned (m : ListManner) (byColumns : Bool) (cells : List ByteText) : ByteText :=
  let columns := fittingColumns byColumns m.width cells (min cells.length ((m.width + 2) / 3))
  let widths := columnWidths byColumns cells columns
  let rows := (cells.length + columns - 1) / columns
  (List.range rows).flatMap fun row =>
    let line := (List.range columns).filterMap fun column =>
      let n := if byColumns then column * rows + row else row * columns + column
      cells[n]?.map fun cell => (cell, widths.getD column 0)
    alignedCells m.tab 0 line ++ [m.finish]

/-- Cells behind each other with a mark between them, as many on a line as fit. -/
def ListManner.separated (m : ListManner) (mark : Char) (position : Nat) : List ByteText → ByteText
  | [] => [m.finish]
  | cell :: rest =>
    let after := position + cell.length
    match rest with
    | [] => cell ++ [m.finish]
    | next :: _ =>
      let fits : Bool := m.width = 0 || after + next.length + 2 < m.width
      cell ++ [mark, if fits then ' ' else m.finish] ++
        m.separated mark (if fits then after + 2 else 0) rest

/-- Entries as they are laid out; `all` decides how wide columns of facts are. -/
def ListManner.laidOut (m : ListManner) (t : FileTree) (all entries : List ListEntry) : ByteText :=
  let cells := m.cells t all entries
  if entries.isEmpty then []
  else match m.layout with
    | .lines => cells.flatMap fun cell => cell ++ [m.finish]
    | .long => (m.longLines t all entries).flatMap fun line => line ++ [m.finish]
    | .columns => if m.width = 0 then m.separated ' ' 0 cells else m.columned true cells
    | .rows => if m.width = 0 then m.separated ' ' 0 cells else m.columned false cells
    | .commas => m.separated ',' 0 cells

/-! ## Directories -/

/-- Directories, and those inside them where that is asked for, each with what is in it. -/
def ListManner.directories (m : ListManner) (t : FileTree) :
    (levels : Nat) → List (ByteText × Location) → List (ByteText × List ListEntry)
  | 0, _ => []
  | _, [] => []
  | levels + 1, (path, place) :: rest =>
    let entries := m.entries t place
    let inner := if m.recursive then
        (entries.filter fun e => e.node.isDirectory && e.name ≠ ['.'] && e.name ≠ ['.', '.']).map
          fun e => (nameInside path e.name, e.place)
      else []
    (path, entries) :: m.directories t levels inner ++ m.directories t (levels + 1) rest

/-- A directory as it is listed. -/
def ListManner.block (m : ListManner) (t : FileTree) (titled : Bool)
    (d : ByteText × List ListEntry) : ByteText :=
  let (path, entries) := d
  let title := if titled then m.quoting.quote path ++ [':', '\n'] else []
  let total := entries.foldl (fun n e => n + FileTree.nodeBlocks e.node) 0
  let sum := if m.layout = .long ∨ m.blocks then
    joinText [byteText "total ", m.blocksText total, [m.finish]] else []
  title ++ sum ++ m.laidOut t entries entries

/-! ## The tool -/

def listTable : OptionTable where
  flags :=
    [('a', "all"), ('A', "almost-all"), ('b', "escape"), ('B', "ignore-backups"), ('c', ""),
     ('C', ""), ('d', "directory"), ('D', "dired"), ('f', ""), ('F', ""), ('g', ""),
     ('G', "no-group"), ('h', "human-readable"), ('H', "dereference-command-line"), ('i', "inode"),
     ('k', "kibibytes"), ('l', ""), ('L', "dereference"), ('m', ""), ('n', "numeric-uid-gid"),
     ('N', "literal"), ('o', ""), ('p', ""), ('q', "hide-control-chars"), ('Q', "quote-name"),
     ('r', "reverse"), ('R', "recursive"), ('s', "size"), ('S', ""), ('t', ""), ('u', ""),
     ('U', ""), ('v', ""), ('x', ""), ('X', ""), ('Z', "context"), ('1', ""),
     ('\x01', "group-directories-first"), ('\x02', "file-type"), ('\x03', "author"),
     ('\x04', "zero"), ('\x05', "si"), ('\x06', "show-control-chars"), ('\x07', "full-time"),
     ('\x08', "dereference-command-line-symlink-to-dir")]
  valued :=
    [('I', "ignore"), ('w', "width"), ('T', "tabsize"), ('\x10', "sort"), ('\x11', "format"),
     ('\x12', "indicator-style"), ('\x13', "quoting-style"), ('\x14', "hide"),
     ('\x15', "block-size"), ('\x16', "time"), ('\x17', "time-style")]
  optional := [('\x1a', "classify"), ('\x18', "color"), ('\x19', "hyperlink")]

/-- When something is done. -/
def whenChoices : List (List String) :=
  [["always", "yes", "force"], ["never", "no", "none"], ["auto", "tty", "if-tty"]]

/-- The words that options of a letter may be given. -/
def listChoices? : Char → Option (String × List (List String))
  | '\x10' => some ("--sort", [["none"], ["time"], ["size"], ["extension"], ["version"], ["width"]])
  | '\x11' => some ("--format", [["verbose", "long"], ["commas"], ["horizontal", "across"],
      ["vertical"], ["single-column"]])
  | '\x12' => some ("--indicator-style", [["none"], ["slash"], ["file-type"], ["classify"]])
  | '\x13' => some ("--quoting-style", [["literal"], ["shell"], ["shell-always"], ["shell-escape"],
      ["shell-escape-always"], ["c"], ["c-maybe"], ["escape"], ["locale"], ["clocale"]])
  | '\x16' => some ("--time", [["atime", "access", "use"], ["ctime", "status"],
      ["mtime", "modification"], ["birth", "creation"]])
  | '\x18' => some ("--color", whenChoices)
  | '\x1a' => some ("--classify", whenChoices)
  | _ => none

/-- How sizes are counted. -/
structure SizeManner where
  human : Option Nat
  unit : Nat
  mark : ByteText

/-- Why a text is no unit of sizes. -/
inductive SizeMannerFault where
  | invalid
  | suffix

/-- The unit that a text writes: a number, a letter for a power of a thousand, or both. A letter
alone is also written behind what is counted. -/
def SizeManner.read (s : ByteText) : Except SizeMannerFault SizeManner :=
  let s := if s.head? = some '\x27' then s.drop 1 else s
  let ds := s.takeWhile (·.isDigit)
  let letters := s.drop ds.length
  let count := (Shell.digitsOf 10 ds).1
  let power? (c : Char) : Option Nat :=
    ['K', 'M', 'G', 'T', 'P', 'E'].idxOf? c.toUpper |>.map (· + 1)
  let scaled (c : Char) (thousand : Nat) (mark : ByteText) : Except SizeMannerFault SizeManner :=
    match power? c with
    | some n =>
      if ds.isEmpty then .ok ⟨none, Nat.pow thousand n, mark⟩
      else if count = 0 then .error .invalid
      else .ok ⟨none, count * Nat.pow thousand n, []⟩
    | none => .error (if ds.isEmpty then .invalid else .suffix)
  if byteText "human-readable" = s ∨ ['h', 'u'] <+: s ∧ s <+: byteText "human-readable" then
    .ok ⟨some 1024, 1, []⟩
  else if s = ['s', 'i'] then .ok ⟨some 1000, 1, []⟩
  else match letters with
    | [] => if count = 0 then .error .invalid else .ok ⟨none, count, []⟩
    | [c] => scaled c 1024 [c.toUpper]
    | [c, 'B'] => scaled c 1000 [if c.toUpper = 'K' then 'k' else c.toUpper, 'B']
    | [c, 'i', 'B'] => scaled c 1024 [c.toUpper, 'i', 'B']
    | c :: _ => .error (if ds.isEmpty ∧ (power? c).isNone then .invalid else .suffix)

/-- What is wrong with the value of an option. -/
def listOptionFault? (call : ToolCall) (o : GivenOption) : Option Reply :=
  let isNumber : Bool := !o.value.isEmpty && o.value.all (·.isDigit)
  let complaint (front : String) : Reply :=
    { call.complain [byteText front, wordQuoted o.value] with status := 2 }
  let badSize (what : String) : Reply :=
    { call.complain [byteText (what ++ " --block-size argument \x27"), o.value, ['\x27']] with
      status := 2 }
  match listChoices? o.letter, o.letter with
  | some (option, groups), letter =>
    match choice groups o.value with
    | .error f =>
      if (letter = '\x18' || letter = '\x1a') ∧ !o.hasValue then none
      else some (call.badChoice option groups o.value f)
    | .ok _ => none
  | none, 'w' => if isNumber then none else some (complaint "invalid line width: ")
  | none, 'T' => if isNumber then none else some (complaint "invalid tab size: ")
  | none, '\x15' =>
    match SizeManner.read o.value with
    | .error .invalid => some (badSize "invalid")
    | .error .suffix => some (badSize "invalid suffix in")
    | .ok _ => none
  | none, _ => none

namespace ListManner

/-- One entry to a line, in order of names. -/
def ordinary : ListManner where
  showsDots := false
  showsHidden := false
  ignored := []
  hidden := []
  order := .name
  reversed := false
  directoriesFirst := false
  layout := .lines
  mark := .none
  quoting := .literal
  masksControls := false
  blocks := false
  human := none
  blockUnit := 1024
  sizeUnit := 1
  unitMark := []
  owner := true
  group := true
  author := false
  numeric := false
  context := false
  date := listedDate
  width := 80
  tab := 8
  recursive := false
  finish := '\n'

/-- The manner after one more option. -/
def withOption (m : ListManner) (o : GivenOption) : ListManner :=
  let chosen : Nat := match listChoices? o.letter with
    | some (_, groups) => (choice groups o.value).toOption.getD 0
    | none => 0
  match o.letter with
  | 'a' => { m with showsDots := true }
  | 'A' => { m with showsHidden := true, showsDots := false }
  | 'b' => { m with quoting := .escape }
  | 'B' => { m with ignored := Shell.Pattern.ofText ['*', '~'] :: m.ignored }
  | 'I' => { m with ignored := Shell.Pattern.ofText o.value :: m.ignored }
  | 'C' => { m with layout := .columns }
  | 'x' => { m with layout := .rows }
  | 'm' => { m with layout := .commas }
  | 'l' | '\x07' => { m with layout := .long }
  | 'g' => { m with layout := .long, owner := false }
  | 'o' => { m with layout := .long, group := false }
  | 'n' => { m with layout := .long, numeric := true }
  | '1' => if m.layout = .long then m else { m with layout := .lines }
  | 'f' => { m with showsDots := true, order := .none }
  | 'F' => { m with mark := .all }
  | 'G' => { m with group := false }
  | 'h' => { m with human := some 1024 }
  | '\x05' => { m with human := some 1000 }
  | 'k' => m
  | 'N' => { m with quoting := .literal }
  | 'p' | '\x02' => { m with mark := .directories }
  | 'q' => { m with masksControls := true }
  | '\x06' => { m with masksControls := false }
  | 'Q' => { m with quoting := .c true }
  | 'r' => { m with reversed := true }
  | 'R' => { m with recursive := true }
  | 's' => { m with blocks := true }
  | 'S' => { m with order := .size }
  | 't' => { m with order := .name }
  | 'U' => { m with order := .none }
  | 'v' => { m with order := .version }
  | 'X' => { m with order := .extension }
  | 'w' => { m with width := (Shell.digitsOf 10 o.value).1 }
  | 'T' => { m with tab := (Shell.digitsOf 10 o.value).1 }
  | '\x01' => { m with directoriesFirst := true }
  | '\x03' => { m with author := true }
  | '\x04' => { m with
      finish := '\x00', quoting := .literal
      layout := if m.layout = .long then .long else .lines }
  | '\x10' =>
    { m with order := [.none, .name, .size, .extension, .version, .width].getD chosen .name }
  | '\x11' => { m with layout := [.long, .commas, .rows, .columns, .lines].getD chosen .lines }
  | '\x12' => { m with mark := [.none, .directories, .directories, .all].getD chosen .none }
  | '\x13' => { m with
      quoting := [.literal, .shell false false, .shell true false, .shell false true,
        .shell true true, .c true, .c false, .escape, .locale, .c true].getD chosen .literal }
  | '\x14' => { m with hidden := Shell.Pattern.ofText o.value :: m.hidden }
  | '\x15' =>
    match SizeManner.read o.value with
    | .ok u =>
      { m with human := u.human, blockUnit := u.unit, sizeUnit := u.unit, unitMark := u.mark }
    | .error _ => m
  | '\x17' =>
    match o.value with
    | '+' :: date => { m with date }
    | _ => m
  | '\x1a' => if chosen = 0 then { m with mark := .all } else m
  | 'Z' => { m with context := true }
  | _ => m

end ListManner

/-- Lists files and directories. -/
def listTool : Tool := fun call t =>
  withArguments listTable 2 call t fun a =>
    match a.options.findSome? (listOptionFault? call) with
    | some reply => (reply, t)
    | none =>
      let m := a.options.foldl ListManner.withOption .ordinary
      let operands := if a.operands.isEmpty then [['.']] else a.operands
      let listed? (path : ByteText) : Except Reply ListEntry :=
        match call.stat t path, call.place? t path with
        | .ok node, place => .ok ⟨path, place.getD [], node⟩
        | .error f, _ => .error { call.about "cannot access" path f with status := 2 }
      let complaints := operands.filterMap fun path => match listed? path with
        | .error reply => some reply
        | .ok _ => none
      let found := m.sorted (operands.filterMap fun path => (listed? path).toOption)
      let isListed (e : ListEntry) : Bool := e.node.isDirectory && !a.has 'd'
      let files := found.filter fun e => !isListed e
      let levels := 2 + t.nodes.foldl (fun n node => max n node.1.length) 0
      let directories := m.directories t levels
        ((found.filter isListed).map fun e => (e.name, e.place))
      let titled : Bool := operands.length > 1 || m.recursive
      let blocks := directories.map (m.block t titled)
      let blocks := if files.isEmpty then blocks else m.laidOut t found files :: blocks
      let start := complaints.foldl Reply.followedBy .quiet
      (start.followedBy (.said (['\n'].intercalate blocks)), t)

end KernelLink
