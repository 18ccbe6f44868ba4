import SourceChunks.Line.Basic

/-! Counts of lines by kind. A line with code and a comment counts as both and as mixed, so the
total is always code and comments and blank lines less the mixed ones; counts of a list of lines
add up over its parts. -/

namespace SourceChunks

structure LineCounts where
  total : Nat := 0
  code : Nat := 0
  comments : Nat := 0
  blank : Nat := 0
  mixed : Nat := 0
  deriving DecidableEq, Repr

namespace LineCounts

def add (a b : LineCounts) : LineCounts :=
  ⟨a.total + b.total, a.code + b.code, a.comments + b.comments, a.blank + b.blank, a.mixed + b.mixed⟩

instance : Add LineCounts := ⟨add⟩

def ofLine (line : Text) : LineCounts :=
  if Text.allBlank line then ⟨1, 0, 0, 1, 0⟩
  else if isCommentLine line then ⟨1, 0, 1, 0, 0⟩
  else if Text.has line "//" || Text.has line "#" then ⟨1, 1, 1, 0, 1⟩
  else ⟨1, 1, 0, 0, 0⟩

def ofLines (ls : List Text) : LineCounts := (ls.map ofLine).foldr add {}

def ofText (t : Text) : LineCounts := ofLines (Text.lines t)

/-- The total is what its kinds say. -/
def Consistent (c : LineCounts) : Prop := c.total + c.mixed = c.code + c.comments + c.blank

theorem ofLine_consistent (line : Text) : (ofLine line).Consistent := by
  simp only [ofLine, Consistent]
  split <;> (try split) <;> (try split) <;> rfl

theorem add_consistent {a b : LineCounts} (ha : a.Consistent) (hb : b.Consistent) :
    (a.add b).Consistent := by
  simp only [Consistent, add] at *
  omega

theorem ofLines_consistent (ls : List Text) : (ofLines ls).Consistent := by
  induction ls with
  | nil => rfl
  | cons l ls ih => exact add_consistent (ofLine_consistent l) ih

theorem ofLines_append (as bs : List Text) : ofLines (as ++ bs) = (ofLines as).add (ofLines bs) := by
  induction as with
  | nil => simp [ofLines, add]
  | cons a as ih =>
    simp only [ofLines, List.map_append, List.cons_append, List.map_cons, List.foldr_cons] at *
    rw [ih]
    simp [add, Nat.add_assoc]

end LineCounts

end SourceChunks
