import SourceChunks.Decimal.Binary64
import SourceChunks.Value.Basic

/-! Order and arithmetic of numbers. An integer and a double are compared by their exact values,
and added in the doubles. -/

namespace SourceChunks.Number

def compareDyadic (n : Int) (d : Dyadic) : Ordering :=
  let (num, den) := d.ratio
  compare (n * den) (if d.negative then -(num : Int) else num)

/-- The order of two numbers; `none` when one of them is not a number. -/
def compare? : Number → Number → Option Ordering
  | .int a, .int b => some (compare a b)
  | .int a, .real y =>
    match Dyadic.ofFloat? y with
    | some d => some (compareDyadic a d)
    | none => if y.isNaN then none else some (if y < 0 then .gt else .lt)
  | .real x, .int b =>
    match Dyadic.ofFloat? x with
    | some d => some (compareDyadic b d).swap
    | none => if x.isNaN then none else some (if x < 0 then .lt else .gt)
  | .real x, .real y =>
    if x < y then some .lt else if x == y then some .eq else if y < x then some .gt else none

def le (a b : Number) : Bool := (compare? a b).any (· != .gt)

def lt (a b : Number) : Bool := compare? a b == some .lt

def eq (a b : Number) : Bool := compare? a b == some .eq

def add : Number → Number → Number
  | .int a, .int b => .int (a + b)
  | a, b => .real (a.toFloat + b.toFloat)

def sub : Number → Number → Number
  | .int a, .int b => .int (a - b)
  | a, b => .real (a.toFloat - b.toFloat)

/-- Between `low` and `high`, both included. -/
def within (low high : Int) (a : Number) : Bool := le (.int low) a && le a (.int high)

end SourceChunks.Number
