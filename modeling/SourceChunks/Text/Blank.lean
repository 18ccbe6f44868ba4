/-! Blank characters: what trimming removes and what separates words. -/

namespace SourceChunks

/-- A blank: the ASCII blanks with the four information separators, and the blanks of Unicode. -/
def isBlank (c : Char) : Bool :=
  let n := c.toNat
  n == 0x20 || (0x09 ≤ n && n ≤ 0x0d) || (0x1c ≤ n && n ≤ 0x1f) ||
    (n ≥ 0x80 &&
      (n == 0x85 || n == 0xa0 || n == 0x1680 || (0x2000 ≤ n && n ≤ 0x200a) ||
        n == 0x2028 || n == 0x2029 || n == 0x202f || n == 0x205f || n == 0x3000))

end SourceChunks
