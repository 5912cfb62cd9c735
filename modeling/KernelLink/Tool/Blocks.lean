import KernelLink.Tool.Lines
import KernelLink.Tool.Operands
import KernelLink.Tool.Status

/-!
# Copying in blocks

A file is read in blocks of one size and written in blocks of another. In between its bytes may be
converted; records of fixed length become lines and the other way round. The tool counts whole
blocks and blocks that were cut short.
-/

namespace KernelLink

/-! ## Conversions -/

/-- What is done with the bytes of a file. -/
structure BlockManner where
  readSize : Nat
  writeSize : Nat
  /-- The length of records. -/
  recordSize : Nat
  /-- Whether blocks are written as they were read. -/
  isDirect : Bool
  /-- Whether blocks that are cut short are filled up. -/
  fills : Bool
  toUpper : Bool
  toLower : Bool
  swaps : Bool
  /-- Whether lines become records. -/
  toRecords : Bool
  /-- Whether records become lines. -/
  toLines : Bool

/-- Bytes with the places of neighbours exchanged; the last one may have none. -/
def swapPairs : ByteText → ByteText
  | a :: b :: rest => b :: a :: swapPairs rest
  | s => s

/-- A line as a record: cut off or filled up with blanks. -/
def recordOf (size : Nat) (line : ByteText) : ByteText :=
  line.take size ++ List.replicate (size - line.length) ' '

/-- A record as a line, without the blanks at its end. -/
def lineOfRecord (record : ByteText) : ByteText :=
  (record.reverse.dropWhile (· = ' ')).reverse ++ ['\n']

/-- A text in pieces of one size, the last of which may be shorter. -/
def piecesOf (size : Nat) : (most : Nat) → ByteText → List ByteText
  | 0, _ | _, [] => []
  | most + 1, s => s.take (max size 1) :: piecesOf size most (s.drop (max size 1))

/-- What comes of a copy: what is written, and how many blocks were whole or cut short on both
sides. -/
structure BlockResult where
  text : ByteText
  wholeIn : Nat
  partIn : Nat
  wholeOut : Nat
  partOut : Nat
  /-- How many lines were longer than a record. -/
  truncated : Nat

namespace BlockManner

/-- How many whole pieces a text has, and whether another one is cut short. -/
def pieces (size length : Nat) : Nat × Nat :=
  (length / max size 1, if length % max size 1 = 0 then 0 else 1)

/-- The bytes after all conversions, and how many lines were too long. -/
def convert (m : BlockManner) (s : ByteText) : ByteText × Nat :=
  let s := if m.toUpper then s.map Char.toUpper else if m.toLower then s.map Char.toLower else s
  let s := if m.swaps then swapPairs s else s
  if m.toRecords then
    let lines := linesEndedBy '\n' s
    (lines.flatMap (recordOf m.recordSize), (lines.filter fun l => m.recordSize < l.length).length)
  else if m.toLines then
    ((piecesOf m.recordSize s.length s).flatMap lineOfRecord, 0)
  else (s, 0)

/-- Copies a text. -/
def copy (m : BlockManner) (s : ByteText) : BlockResult :=
  let (wholeIn, partIn) := pieces m.readSize s.length
  let blank := if m.toRecords || m.toLines then ' ' else '\x00'
  let missing := if m.fills ∧ partIn = 1 then m.readSize - s.length % m.readSize else 0
  let filled := s ++ List.replicate missing blank
  let (text, truncated) := m.convert filled
  let (wholeOut, partOut) :=
    if m.isDirect then pieces m.readSize filled.length else pieces m.writeSize text.length
  ⟨text, wholeIn, partIn, wholeOut, partOut, truncated⟩

end BlockManner

namespace BlockResult

/-- The counts of blocks in words. -/
def counts (r : BlockResult) : ByteText :=
  let records (whole part : Nat) : ByteText :=
    joinText [decimalText whole, ['+'], decimalText part]
  let truncated : ByteText := match r.truncated with
    | 0 => []
    | 1 => byteText "1 truncated record\n"
    | n => decimalText n ++ byteText " truncated records\n"
  joinText [records r.wholeIn r.partIn, byteText " records in\n", records r.wholeOut r.partOut,
    byteText " records out\n", truncated]

/-- The number of bytes in words. -/
def bytes (r : BlockResult) : ByteText :=
  decimalText r.text.length ++ byteText (if r.text.length = 1 then " byte" else " bytes") ++
    byteText " copied\n"

end BlockResult

/-! ## Operands -/

/-- Why operands say nothing. -/
inductive BlockFault where
  | unrecognized (operand : ByteText)
  | conversion (name : ByteText)
  | inputFlag (name : ByteText)
  | outputFlag (name : ByteText)
  | status (name : ByteText)
  | number (s : ByteText) (f : SizeFault)
  | together (names : String)

/-- The number that a text writes: factors with an x between them, each of which may count bytes. -/
def blockNumber (s : ByteText) : Except SizeFault Nat :=
  (splitAtEach 'x' s).foldlM (fun n factor => do
    let isBytes : Bool := factor.getLast? = some 'B' && factor.length > 1 &&
      !(factor.dropLast.getLast? = some 'B')
    let letters := "bcEGkKMPQRTwYZ"
    let value ← match readSize letters factor, isBytes with
      | .error .invalid, true => readSize letters factor.dropLast
      | value, _ => value
    if largestSize / 2 < n * value then .error .tooLarge else .ok (n * value)) 1

def conversionNames : List String :=
  ["ascii", "ebcdic", "ibm", "block", "unblock", "lcase", "ucase", "sparse", "swab", "sync", "excl",
   "nocreat", "notrunc", "noerror", "fdatasync", "fsync"]

def flagNames : List String :=
  ["append", "cio", "direct", "directory", "dsync", "noatime", "nocache", "noctty", "nofollow",
   "nolinks", "nonblock", "sync", "text", "binary"]

/-- The operands that were given, by name. -/
abbrev BlockOperands := List (String × ByteText)

namespace BlockOperands

def value? (o : BlockOperands) (name : String) : Option ByteText :=
  (o.reverse.find? (·.1 = name)).map (·.2)

/-- All words of the lists that were given under a name. -/
def words (o : BlockOperands) (name : String) : List String :=
  (o.filter (·.1 = name)).flatMap fun (_, list) => (splitAtEach ',' list).map String.ofList

/-- What is wrong with one operand. -/
def fault? (operand : String × ByteText) : Option BlockFault :=
  let (name, value) := operand
  let unknown (names : List String) : Option ByteText :=
    (splitAtEach ',' value).find? fun word => !names.contains (String.ofList word)
  match name with
  | "if" | "of" => none
  | "bs" | "ibs" | "obs" | "cbs" =>
    match blockNumber value with
    | .ok 0 => some (.number value .invalid)
    | .ok _ => none
    | .error f => some (.number value f)
  | "skip" | "iseek" | "seek" | "oseek" | "count" =>
    match blockNumber value with
    | .ok _ => none
    | .error f => some (.number value f)
  | "conv" => (unknown conversionNames).map .conversion
  | "iflag" => (unknown ("fullblock" :: "count_bytes" :: "skip_bytes" :: flagNames)).map .inputFlag
  | "oflag" => (unknown ("seek_bytes" :: flagNames)).map .outputFlag
  | "status" =>
    if ["none", "noxfer", "progress"].contains (String.ofList value) then none
    else some (.status value)
  | name => some (.unrecognized (byteText name ++ '=' :: value))

/-- Reads operands, each a name and a value. -/
def read (args : List ByteText) : Except BlockFault BlockOperands :=
  args.mapM fun arg =>
    let name := arg.takeWhile (· ≠ '=')
    let operand := (stringOf name, arg.drop (name.length + 1))
    if !arg.contains '=' then .error (.unrecognized arg)
    else match fault? operand with
      | some f => .error f
      | none => .ok operand

/-- Conversions that exclude each other. -/
def clash? (o : BlockOperands) : Option BlockFault :=
  let given := o.words "conv"
  let several (names : List String) : Bool := (names.filter given.contains).length > 1
  if several ["ascii", "ebcdic", "ibm"] then
    some (.together "any two of \x7bascii,ebcdic,ibm\x7d")
  else if several ["block", "unblock"] ∧ (o.value? "cbs").isSome then
    some (.together "block and unblock")
  else if several ["lcase", "ucase"] then some (.together "lcase and ucase")
  else if several ["excl", "nocreat"] then some (.together "excl and nocreat")
  else none

def number? (o : BlockOperands) (name : String) : Option Nat :=
  (o.value? name).bind fun s => (blockNumber s).toOption

/-- How many bytes a count stands for, which is one of blocks unless it says that it is not. -/
def byteCount? (o : BlockOperands) (names : List String) (flag : String) (size : Nat) :
    Option Nat :=
  match names.findSome? o.value? with
  | none => none
  | some s =>
    let flags := o.words "iflag" ++ o.words "oflag"
    let n := (blockNumber s).toOption.getD 0
    some (if flags.contains flag || s.contains 'B' then n else n * size)

/-- How many bytes are left out and copied of a file that does not end. -/
def reach (o : BlockOperands) (size : Nat) : Nat :=
  (o.byteCount? ["skip", "iseek"] "skip_bytes" size).getD 0 +
    (o.byteCount? ["count"] "count_bytes" size).getD manyZeros.length

/-- The manner that operands ask for. -/
def manner (o : BlockOperands) : BlockManner :=
  let given := o.words "conv"
  let has (name : String) : Bool := given.contains name
  let record := (o.number? "cbs").getD 0
  { readSize := (o.number? "bs" <|> o.number? "ibs").getD 512
    writeSize := (o.number? "bs" <|> o.number? "obs").getD 512
    recordSize := record
    isDirect := (o.number? "bs").isSome &&
      !(["lcase", "ucase", "swab", "block", "unblock", "ascii", "ebcdic", "ibm"].any has)
    fills := has "sync"
    toUpper := has "ucase"
    toLower := has "lcase"
    swaps := has "swab"
    toRecords := has "block" && record ≠ 0
    toLines := has "unblock" && record ≠ 0 }

end BlockOperands

def BlockFault.reply (call : ToolCall) : BlockFault → Reply
  | .unrecognized s => call.usage [byteText "unrecognized operand ", shellQuoted s]
  | .conversion s => call.usage [byteText "invalid conversion: ", wordQuoted s]
  | .inputFlag s => call.usage [byteText "invalid input flag: ", wordQuoted s]
  | .outputFlag s => call.usage [byteText "invalid output flag: ", wordQuoted s]
  | .status s => call.usage [byteText "invalid status level: ", wordQuoted s]
  | .number s f => call.complain [byteText "invalid number: ", shellQuoted s, byteText f.reason]
  | .together names => call.complain [byteText ("cannot combine " ++ names)]

/-! ## The tool -/

/-- What an output file holds after a copy. Without a place to begin at it is written anew, unless
its old content is to be kept. -/
def BlockOperands.written (o : BlockOperands) (size : Nat) (old new : ByteText) : ByteText :=
  let keeps : Bool := (o.words "conv").contains "notrunc"
  let start := (o.byteCount? ["seek", "oseek"] "seek_bytes" size).getD 0
  let isAppended : Bool := (o.words "oflag").contains "append"
  let kept := if keeps then old
    else if start < size then []
    else old.take start ++ List.replicate (start - old.length) '\x00'
  if isAppended then kept ++ new
  else if new.isEmpty then kept
  else
    kept.take start ++ List.replicate (start - kept.length) '\x00' ++ new ++
      kept.drop (start + new.length)

/-- Copies bytes from one file to another in blocks. -/
def blockTool : Tool := fun call t =>
  match ({ flags := [], valued := [] } : OptionTable).read false false call.args with
  | .error f => (f.reply call.name 1, t)
  | .ok a =>
    match BlockOperands.read a.operands with
    | .error f => (f.reply call, t)
    | .ok o =>
      match o.clash? with
      | some f => (f.reply call, t)
      | none =>
        let m := o.manner
        let source := o.value? "if"
        let status := o.value? "status"
        let isQuiet : Bool := status = some (byteText "none")
        let summary (r : BlockResult) : List (Bool × ByteText) :=
          if isQuiet then []
          else if status = some (byteText "noxfer") then [(true, r.counts)]
          else [(true, r.counts ++ r.bytes)]
        let refuse (path : ByteText) (f : FileFault) : Reply × FileTree :=
          (call.about "failed to open" path f, t)
        let conversions := o.words "conv"
        let target := (o.value? "of").filter fun path => !isNowhere path && !isZeros path
        let old? := target.map (call.content t)
        let input : Except FileFault ByteText := match source with
          | some path =>
            if isZeros path then .ok (List.replicate (o.reach m.readSize) '\x00')
            else call.content t path
          | none => .ok call.input
        match input, target, old? with
        | .error .isADirectory, _, _ =>
          let nothing : BlockResult := ⟨[], 0, 0, 0, 0, 0⟩
          let reply := call.about "error reading" (source.getD []) .isADirectory
          ({ reply with writes := reply.writes ++ summary nothing }, t)
        | .error f, _, _ => refuse (source.getD []) f
        | .ok text, target, old? =>
          let isSelf : Bool := match source, target with
            | some source, some target => (call.place? t source).isSome &&
                call.place? t source = call.place? t target
            | _, _ => false
          let text := if isSelf then o.written m.writeSize text [] else text
          let skipped := (o.byteCount? ["skip", "iseek"] "skip_bytes" m.readSize).getD 0
          let rest := text.drop skipped
          let part := (o.byteCount? ["count"] "count_bytes" m.readSize).elim rest rest.take
          let r := m.copy part
          let short : List (Bool × ByteText) :=
            if skipped ≤ text.length ∨ isQuiet then []
            else
              let name := source.elim (byteText "\x27standard input\x27") quotedIfNeeded
              [(true, joinText [call.name, [':', ' '], name,
                byteText ": cannot skip to specified offset\n"])]
          let taken := if source.isSome then 0
            else if call.source.isSome ∨ (o.value? "count").isSome then
              min text.length (skipped + part.length)
            else text.length
          match target, old? with
          | some path, some (.error .notFound) =>
            if conversions.contains "nocreat" then refuse path .notFound
            else match t.write call.base (pathOf path)
                  (bytesOf (o.written m.writeSize [] r.text)) with
              | .ok t => (⟨0, short ++ summary r, taken⟩, t)
              | .error f => refuse path f
          | some path, some (.error f) => refuse path f
          | some path, some (.ok old) =>
            if conversions.contains "excl" then refuse path .alreadyExists
            else match t.write call.base (pathOf path)
                  (bytesOf (o.written m.writeSize old r.text)) with
              | .ok t => (⟨0, short ++ summary r, taken⟩, t)
              | .error f => refuse path f
          | _, _ =>
            let said := if (o.value? "of").isSome then [] else [(false, r.text)]
            (⟨0, short ++ said ++ summary r, taken⟩, t)

/-!
## Making files longer or shorter

The size that a file is to have is given as it is, or as a change of the size that it has.
-/

/-- How a size follows from an older one. -/
inductive SizeChange where
  | exactly
  | more
  | less
  | atMost
  | atLeast
  | roundedDown
  | roundedUp
deriving DecidableEq, Repr

namespace SizeChange

/-- The change that a mark in front of a number stands for. -/
def ofMark? : Char → Option SizeChange
  | '+' => some more
  | '-' => some less
  | '<' => some atMost
  | '>' => some atLeast
  | '/' => some roundedDown
  | '%' => some roundedUp
  | _ => none

/-- The size after a change by a number; nothing where it would have to be divided by zero. -/
def apply (change : SizeChange) (old n : Nat) : Option Nat :=
  match change with
  | exactly => some n
  | more => some (old + n)
  | less => some (old - n)
  | atMost => some (min old n)
  | atLeast => some (max old n)
  | roundedDown => if n = 0 then none else some (old / n * n)
  | roundedUp => if n = 0 then none else some ((old + n - 1) / n * n)

end SizeChange

def resizeTable : OptionTable where
  flags := [('c', "no-create"), ('o', "io-blocks")]
  valued := [('r', "reference"), ('s', "size")]

/-- The change that a text writes. -/
def readSizeChange (s : ByteText) : Except SizeFault (SizeChange × Nat) := do
  let s := s.dropWhile Shell.isSpace
  match s.head?.bind SizeChange.ofMark? with
  | some change => pure (change, ← readSize "EgGkKmMPQRtTYZ" (s.drop 1))
  | none => pure (.exactly, ← readSize "EgGkKmMPQRtTYZ" s)

/-- Changes the size of one file, which is created if need be. -/
def resizeOne (creates : Bool) (size : Nat → Nat) (call : ToolCall) (path : ByteText)
    (t : FileTree) : Reply × FileTree :=
  let old? := (call.content t path).toOption
  if old?.isNone ∧ !(t.isThere call.base (pathOf path)) ∧ !creates then (.quiet, t)
  else
    let old := old?.getD []
    let length := size old.length
    let text := old.take length ++ List.replicate (length - old.length) '\x00'
    match t.write call.base (pathOf path) (bytesOf text) with
    | .ok t => (.quiet, t)
    | .error f => (call.complain [byteText "cannot open ", shellQuoted path,
        byteText " for writing: ", f.text], t)

/-- Makes files longer or shorter. -/
def resizeTool : Tool := fun call t =>
  withArguments resizeTable 1 call t fun a =>
    let given? := a.value? 's'
    match given?.map readSizeChange with
    | some (.error f) =>
      (call.complain [byteText "Invalid number: ", wordQuoted (given?.getD []),
        byteText f.reason], t)
    | some (.ok (.roundedDown, 0)) | some (.ok (.roundedUp, 0)) =>
      (call.complain [byteText "division by zero"], t)
    | change? =>
      let change? := change?.bind (·.toOption)
      let unit := if a.has 'o' then FileTree.blockSize else 1
      match change?, (a.value? 'r'), a.operands with
      | none, none, _ =>
        (call.usage [byteText "you must specify either \x27--size\x27 or \x27--reference\x27"], t)
      | some (.exactly, _), some _, _ =>
        (call.usage [byteText
          "you must specify a relative \x27--size\x27 with \x27--reference\x27"], t)
      | none, some _, [] | some _, _, [] => (call.usage [byteText "missing file operand"], t)
      | change?, reference?, operands =>
        match reference?.map fun p => (p, call.content t p) with
        | some (p, .error f) => (call.about "cannot stat" p f, t)
        | reference? =>
          let start? := (reference?.bind fun (_, text) => text.toOption).map (·.length)
          let size (old : Nat) : Nat :=
            let start := start?.getD old
            (change?.bind fun (change, n) => change.apply start (n * unit)).getD start
          eachOperand (resizeOne (!a.has 'c') size call) operands t

end KernelLink
