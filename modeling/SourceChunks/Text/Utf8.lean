import SourceChunks.Text.Basic

/-! Texts from bytes in UTF-8. The longest part of a sequence that cannot be finished becomes one
replacement character. -/

namespace SourceChunks

/-- U+FFFD, which stands for what cannot be decoded. -/
def replacementChar : Char := Char.ofNat 0xfffd

namespace Utf8

/-- What a first byte of a longer sequence promises: how many bytes follow, which of them may come
next, and the bits it gives. -/
structure Lead where
  count : Nat
  low : Nat
  high : Nat
  bits : Nat

/-- The promise of a byte, if it can begin a longer sequence. The bounds of the second byte rule out
overlong forms, surrogates and numbers beyond the last code point. -/
def lead? (b : Nat) : Option Lead :=
  if 0xc2 ≤ b && b ≤ 0xdf then some ⟨1, 0x80, 0xbf, b - 0xc0⟩
  else if b = 0xe0 then some ⟨2, 0xa0, 0xbf, 0⟩
  else if b = 0xed then some ⟨2, 0x80, 0x9f, 13⟩
  else if 0xe1 ≤ b && b ≤ 0xef then some ⟨2, 0x80, 0xbf, b - 0xe0⟩
  else if b = 0xf0 then some ⟨3, 0x90, 0xbf, 0⟩
  else if 0xf1 ≤ b && b ≤ 0xf3 then some ⟨3, 0x80, 0xbf, b - 0xf0⟩
  else if b = 0xf4 then some ⟨3, 0x80, 0x8f, 4⟩
  else none

inductive Progress where
  | none
  /-- `count` bytes are to come, the next of them between `low` and `high`. -/
  | inside (count low high bits : Nat)

def begin (b : Nat) : Text × Progress :=
  if b < 0x80 then ([Char.ofNat b], .none)
  else match lead? b with
    | some l => ([], .inside l.count l.low l.high l.bits)
    | none => ([replacementChar], .none)

/-- One byte. A byte that does not continue a sequence ends it with a replacement and begins anew. -/
def step (p : Progress) (b : Nat) : Text × Progress :=
  match p with
  | .none => begin b
  | .inside count low high bits =>
    if low ≤ b && b ≤ high then
      let more := bits * 64 + (b - 0x80)
      if count ≤ 1 then ([Char.ofNat more], .none) else ([], .inside (count - 1) 0x80 0xbf more)
    else
      let (out, next) := begin b
      (replacementChar :: out, next)

/-- The text of bytes after some progress; an unfinished sequence at the end becomes a replacement. -/
def decodeFrom : Progress → List UInt8 → Text
  | .none, [] => []
  | .inside _ _ _ _, [] => [replacementChar]
  | p, b :: bs =>
    let (out, next) := step p b.toNat
    out ++ decodeFrom next bs

def decode (bs : List UInt8) : Text := decodeFrom .none bs

def mark : List UInt8 := [0xef, 0xbb, 0xbf]

/-- The text of bytes without the mark in front, or without the part of it that is there. -/
def decodeMarked (bs : List UInt8) : Text :=
  if bs.isPrefixOf mark then [] else decode (if mark.isPrefixOf bs then bs.drop mark.length else bs)

end Utf8

end SourceChunks
