/-! Windows over a range of lines: all of one size, neighbours sharing some lines, the last one
ending where the range ends. -/

namespace SourceChunks.Cutting

/-- A range of lines, both ends included. -/
structure Range where
  first : Int
  last : Int
  deriving DecidableEq, Repr

/-- Windows of `size` lines, each `step` lines after the one before it. -/
def windowsFrom (size step last : Int) : (fuel : Nat) → (start : Int) → List Range
  | 0, _ => []
  | fuel + 1, start =>
    if start ≤ last then
      let stop := min (start + size - 1) last
      ⟨start, stop⟩ :: if stop = last then [] else windowsFrom size step last fuel (start + step)
    else []

/-- The windows over the lines from `first` through `last`. A window has at least one line, and at
least one line of it is new. -/
def windows (size overlap first last : Int) : List Range :=
  let size := max 1 size
  let overlap := max 0 (min overlap (size - 1))
  windowsFrom size (size - overlap) last (last - first + 1).toNat first

end SourceChunks.Cutting
