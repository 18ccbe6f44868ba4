import SourceChunks.Text.Utf8

/-! Texts from bytes in UTF-16. A surrogate without its partner becomes a replacement character, and
so does what is left at the end. -/

namespace SourceChunks.Utf16

inductive ByteOrder where
  | little | big
  deriving DecidableEq, Repr

def ByteOrder.unit : ByteOrder → UInt8 → UInt8 → Nat
  | little, a, b => a.toNat + 256 * b.toNat
  | big, a, b => 256 * a.toNat + b.toNat

def isHigh (u : Nat) : Bool := 0xd800 ≤ u && u < 0xdc00

def isLow (u : Nat) : Bool := 0xdc00 ≤ u && u < 0xe000

def pair (high low : Nat) : Char := Char.ofNat (0x10000 + 1024 * (high - 0xd800) + (low - 0xdc00))

/-- The character of a unit that is no part of a pair. -/
def single (u : Nat) : Char := if isHigh u || isLow u then replacementChar else Char.ofNat u

def decode (o : ByteOrder) : List UInt8 → Text
  | a :: b :: c :: d :: rest =>
    if isHigh (o.unit a b) && isLow (o.unit c d) then pair (o.unit a b) (o.unit c d) :: decode o rest
    else single (o.unit a b) :: decode o (c :: d :: rest)
  | [a, b, _] => if isHigh (o.unit a b) then [replacementChar] else [single (o.unit a b), replacementChar]
  | [a, b] => [single (o.unit a b)]
  | [_] => [replacementChar]
  | [] => []

/-- The text of bytes whose order a mark in front tells; nothing when there is none. -/
def decodeMarked? : List UInt8 → Option Text
  | 0xff :: 0xfe :: bs => some (decode .little bs)
  | 0xfe :: 0xff :: bs => some (decode .big bs)
  | _ :: _ :: _ => none
  | bs => some (decode .little bs)

end SourceChunks.Utf16
