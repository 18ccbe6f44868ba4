/-! Sets of code points given by ascending, disjoint ranges, looked up by bisection. -/

namespace SourceChunks

/-- Ascending, disjoint, inclusive ranges of code points. -/
abbrev RangeTable := Array (Nat × Nat)

namespace RangeTable

/-- The range holding `n` among the entries from `lo` up to `hi`. -/
def findFrom (t : RangeTable) (n : Nat) : (fuel lo hi : Nat) → Option (Nat × Nat)
  | 0, _, _ => none
  | fuel + 1, lo, hi =>
    if lo < hi then
      let mid := (lo + hi) / 2
      let r := t.getD mid (0, 0)
      if n < r.1 then findFrom t n fuel lo mid
      else if r.2 < n then findFrom t n fuel (mid + 1) hi
      else some r
    else none

/-- The range holding `n`. Every step narrows the interval, so its width is fuel enough. -/
def find? (t : RangeTable) (n : Nat) : Option (Nat × Nat) := findFrom t n (t.size + 1) 0 t.size

def has (t : RangeTable) (n : Nat) : Bool := (t.find? n).isSome

end RangeTable

end SourceChunks
