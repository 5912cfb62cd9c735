/-!
# Text from bytes

Bytes that are meant to be text are read as UTF-8. Where they are not, the longest piece that could
have begun a character counts as one replacement character, so reading never fails and never skips
a byte that belongs to a character.
-/

namespace KernelLink

def replacementChar : Char := '\ufffd'

/-- For the first byte of a character of several bytes: how many bytes follow, and the range of the
first that does. The range leaves out overlong forms and surrogates. -/
def leadByte? (b : UInt8) : Option (Nat × UInt8 × UInt8) :=
  if 0xc2 ≤ b ∧ b ≤ 0xdf then some (1, 0x80, 0xbf)
  else if b = 0xe0 then some (2, 0xa0, 0xbf)
  else if b = 0xed then some (2, 0x80, 0x9f)
  else if 0xe1 ≤ b ∧ b ≤ 0xef then some (2, 0x80, 0xbf)
  else if b = 0xf0 then some (3, 0x90, 0xbf)
  else if 0xf1 ≤ b ∧ b ≤ 0xf3 then some (3, 0x80, 0xbf)
  else if b = 0xf4 then some (3, 0x80, 0x8f)
  else none

/-- The bits that a first byte contributes. -/
def leadBits (following : Nat) (b : UInt8) : Nat := b.toNat % Nat.pow 2 (6 - following)

/-- The state of a reader: between characters, or inside one with bytes missing. The next byte has
to be in the given range. -/
inductive Utf8State where
  | between
  | inside (value missing : Nat) (low high : UInt8)

/-- The characters of bytes, with replacements for what is no character. -/
def decodeLossy (state : Utf8State) : List UInt8 → List Char
  | [] =>
    match state with
    | .between => []
    | .inside .. => [replacementChar]
  | b :: bytes =>
    let start (broken : List Char) : List Char :=
      if b < 0x80 then broken ++ Char.ofNat b.toNat :: decodeLossy .between bytes
      else match leadByte? b with
        | some (following, low, high) =>
          broken ++ decodeLossy (.inside (leadBits following b) following low high) bytes
        | none => broken ++ replacementChar :: decodeLossy .between bytes
    match state with
    | .between => start []
    | .inside value missing low high =>
      if low ≤ b ∧ b ≤ high then
        let value := value * 64 + b.toNat % 64
        if missing ≤ 1 then Char.ofNat value :: decodeLossy .between bytes
        else decodeLossy (.inside value (missing - 1) 0x80 0xbf) bytes
      else start [replacementChar]

/-- The text of bytes. -/
def textOfBytes (bytes : ByteArray) : String :=
  match String.fromUTF8? bytes with
  | some text => text
  | none => String.ofList (decodeLossy .between bytes.data.toList)

/-- The first line, without a carriage return at its end; empty text has no lines. -/
def firstLine? (s : List Char) : Option (List Char) :=
  if s.isEmpty then none
  else
    let line := s.takeWhile (· ≠ '\n')
    some (if line.length < s.length ∧ line.getLast? = some '\r' then line.dropLast else line)

/-!
## Text byte by byte

Shells and the commands around them count, cut and compare bytes. Their text is kept as characters
below 256, each standing for the byte of its number, so that it reads like text where it is ASCII
and loses nothing where it is not.
-/

abbrev ByteText := List Char

/-- Whether a text does not come behind another in the order of their bytes. -/
def inOrder (a b : ByteText) : Bool := !(b < a)

def charOfByte (b : UInt8) : Char := Char.ofNat b.toNat

def byteOfChar (c : Char) : UInt8 := c.toNat.toUInt8

/-- The bytes of a file as text. -/
def byteTextOf (content : ByteArray) : ByteText := content.data.toList.map charOfByte

/-- The bytes that text stands for. -/
def bytesOf (t : ByteText) : ByteArray := ⟨(t.map byteOfChar).toArray⟩

/-- The bytes of a string. -/
def byteText (s : String) : ByteText := byteTextOf s.toUTF8

/-- The string that bytes mean. -/
def stringOf (t : ByteText) : String := textOfBytes (bytesOf t)

/-- A number in decimal digits. -/
def decimalText (n : Nat) : ByteText := Nat.toDigits 10 n

/-- A number in decimal digits, behind a minus sign if it is negative. -/
def signedText (n : Int) : ByteText :=
  if n < 0 then '-' :: decimalText n.natAbs else decimalText n.natAbs

/-- The lines of a text, each with its newline if it has one. -/
def byteLines : ByteText → List ByteText
  | [] => []
  | c :: s =>
    if c = '\n' then [c] :: byteLines s
    else match byteLines s with
      | line :: rest => (c :: line) :: rest
      | [] => [[c]]

/-- A line without its newline. -/
def withoutNewline (line : ByteText) : ByteText :=
  if line.getLast? = some '\n' then line.dropLast else line

end KernelLink
