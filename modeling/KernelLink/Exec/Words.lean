import KernelLink.Number.Single

/-!
# Words and bytes

Buffers travel as bytes, four per word and the lowest first. Bytes at the end that do not fill a
word are dropped when words are read.
-/

namespace KernelLink

def Single.toBytes (x : Single) : List UInt8 :=
  let n := x.bits.toNat
  [n.toUInt8, (n / 0x100).toUInt8, (n / 0x10000).toUInt8, (n / 0x1000000).toUInt8]

def Single.ofBytes (a b c d : UInt8) : Single :=
  ⟨(a.toNat + b.toNat * 0x100 + c.toNat * 0x10000 + d.toNat * 0x1000000).toUInt32⟩

def bytesOfWords (words : List Single) : List UInt8 := words.flatMap (·.toBytes)

def wordsOfBytes : List UInt8 → List Single
  | a :: b :: c :: d :: rest => .ofBytes a b c d :: wordsOfBytes rest
  | _ => []

/-- Whether every word is a zero of either sign. -/
def allZero (words : List Single) : Bool := words.all (·.isZero)

end KernelLink
