import SourceChunks.Text.Utf16

/-! Texts from bytes in UTF-32. What is no character becomes a replacement character, and so does what
is left at the end. -/

namespace SourceChunks.Utf32

open Utf16 (ByteOrder)

def single (n : Nat) : Char := if n.isValidChar then Char.ofNat n else replacementChar

def number (o : ByteOrder) (a b c d : UInt8) : Nat :=
  match o with
  | .little => o.unit a b + 65536 * o.unit c d
  | .big => 65536 * o.unit a b + o.unit c d

def decode (o : ByteOrder) : List UInt8 → Text
  | a :: b :: c :: d :: rest => single (number o a b c d) :: decode o rest
  | [] => []
  | _ => [replacementChar]

def decodeMarked? : List UInt8 → Option Text
  | 0xff :: 0xfe :: 0 :: 0 :: bs => some (decode .little bs)
  | 0 :: 0 :: 0xfe :: 0xff :: bs => some (decode .big bs)
  | _ :: _ :: _ :: _ :: _ => none
  | bs => some (decode .little bs)

end SourceChunks.Utf32
