import SourceChunks.Text.CharacterSet.Big5
import SourceChunks.Text.CharacterSet.Gb2312
import SourceChunks.Text.CharacterSet.JisX0208
import SourceChunks.Text.CharacterSet.JisX0212
import SourceChunks.Text.CharacterSet.KsX1001

/-! Sets of characters laid out in rows of equal length, where a blank marks a hole. -/

namespace SourceChunks

structure CharacterSet where
  columns : Nat
  cells : Array Char

namespace CharacterSet

def ofRows (columns : Nat) (rows : List String) : CharacterSet :=
  ⟨columns, (rows.flatMap String.toList).toArray⟩

/-- The character of a cell; rows and columns count from 0. -/
def char? (s : CharacterSet) (row column : Nat) : Option Char :=
  if column < s.columns then (s.cells[row * s.columns + column]?).filter (· != ' ') else none

/-- The character of two numbers, each of which counts from a first one. -/
def pair? (s : CharacterSet) (first a b : Nat) : Option Char :=
  if first ≤ a && first ≤ b then s.char? (a - first) (b - first) else none

def gb2312 : CharacterSet := ofRows 94 gb2312Rows

def ksX1001 : CharacterSet := ofRows 94 ksX1001Rows

def jisX0208 : CharacterSet := ofRows 94 jisX0208Rows

def jisX0212 : CharacterSet := ofRows 94 jisX0212Rows

def big5 : CharacterSet := ofRows 157 big5Rows

/-- The code numbers from one up to another that no character of the cells has, in order. -/
def missing (cells : Array Char) (first last : Nat) : Array Nat :=
  let used := cells.foldl
    (fun used c => if first ≤ c.toNat then used.setIfInBounds (c.toNat - first) true else used)
    (Array.replicate (last + 1 - first) false)
  ((List.range (last + 1 - first)).filter fun i => !used.getD i false).toArray.map (first + ·)

end CharacterSet

end SourceChunks
