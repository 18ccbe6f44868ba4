import SourceChunks.Text.Utf16

/-! Texts from bytes in UTF-7, where a plus opens a section of UTF-16 in base 64 and a minus closes it.
What cannot be read becomes a replacement character. -/

namespace SourceChunks.Utf7

def digit? (b : UInt8) : Option Nat :=
  let c := Char.ofNat b.toNat
  if c.isUpper then some (c.toNat - 'A'.toNat)
  else if c.isLower then some (26 + (c.toNat - 'a'.toNat))
  else if c.isDigit then some (52 + (c.toNat - '0'.toNat))
  else if c = '+' then some 62
  else if c = '/' then some 63
  else none

/-- An open section: the bits that make no unit yet, their number, and a high surrogate that waits for
its partner. -/
structure Section where
  bits : Nat
  count : Nat
  high : Option Nat

namespace Section

def fresh : Section := ⟨0, 0, none⟩

def lone (s : Section) : Text := if s.high.isSome then [replacementChar] else []

/-- The section after a unit, and the text that it completes. -/
def takeUnit (s : Section) (u : Nat) : Section × Text :=
  match s.high with
  | some h =>
    if Utf16.isLow u then ({ s with high := none }, [Utf16.pair h u])
    else if Utf16.isHigh u then ({ s with high := some u }, [replacementChar])
    else ({ s with high := none }, [replacementChar, Utf16.single u])
  | none => if Utf16.isHigh u then ({ s with high := some u }, []) else (s, [Utf16.single u])

def take (s : Section) (digit : Nat) : Section × Text :=
  let bits := 64 * s.bits + digit
  let count := s.count + 6
  if count < 16 then ({ s with bits := bits, count := count }, [])
  else
    let scale := 1 <<< (count - 16)
    takeUnit { s with bits := bits % scale, count := count - 16 } (bits / scale)

/-- The bits that are left are no padding. -/
def isCut (s : Section) : Bool := 6 ≤ s.count || s.bits != 0

end Section

/-- The text of bytes, in an open section or outside of one. -/
def decodeFrom : Option Section → List UInt8 → Text
  | none, [] => []
  | some s, [] => if s.high.isSome || s.isCut then [replacementChar] else []
  | none, 0x2b :: 0x2d :: rest => '+' :: decodeFrom none rest
  | none, 0x2b :: b :: rest =>
    match digit? b with
    | some d =>
      let (s, t) := Section.fresh.take d
      t ++ decodeFrom (some s) rest
    | none => replacementChar :: decodeFrom none rest
  | none, b :: rest =>
    if b = 0x2b then decodeFrom (some .fresh) rest
    else (if b < 128 then Char.ofNat b.toNat else replacementChar) :: decodeFrom none rest
  | some s, b :: rest =>
    match digit? b with
    | some d =>
      let (s, t) := s.take d
      t ++ decodeFrom (some s) rest
    | none =>
      if s.isCut then replacementChar :: decodeFrom none rest
      else if b = 0x2d then s.lone ++ decodeFrom none rest
      else if b < 128 then s.lone ++ Char.ofNat b.toNat :: decodeFrom none rest
      else replacementChar :: decodeFrom none rest

def decode (bs : List UInt8) : Text := decodeFrom none bs

end SourceChunks.Utf7
