import SourceChunks.Failure

/-! Facts about single lines and about windows of lines. -/

namespace SourceChunks

def commentMarks : List Text := ["//", "#", "/*", "*"]

def isCommentLine (line : Text) : Bool := Text.startsWithAny (Text.trimLeft line) commentMarks

/-- Neither blank nor a comment. -/
def isCodeLine (line : Text) : Bool := !Text.allBlank line && !isCommentLine line

/-- The line with an index; negative indices count from the end. -/
def lineAt? (ls : List Text) (i : Int) : Option Text :=
  if 0 ≤ i then ls[i.toNat]? else if 0 ≤ i + ls.length then ls[(i + ls.length).toNat]? else none

/-- The last line from `start` through `stop` that is not blank, or else `start`. -/
def lastCodeLine (ls : List Text) (start : Nat) : (stop : Nat) → Nat
  | 0 => start
  | stop + 1 =>
    if start ≤ stop && Text.allBlank (ls.getD (stop + 1) []) then lastCodeLine ls start stop
    else max start (stop + 1)

/-- The same for any bounds; a look at a line that is not there fails. -/
def lastCodeLineFrom? (ls : List Text) (start : Int) : (fuel : Nat) → (stop : Int) → Except Failure Int
  | 0, stop => .ok (max start stop)
  | fuel + 1, stop =>
    if start < stop then
      match lineAt? ls stop with
      | none => .error .lineOutOfRange
      | some line =>
        if Text.allBlank line then lastCodeLineFrom? ls start fuel (stop - 1) else .ok (max start stop)
    else .ok (max start stop)

def lastCodeLine? (ls : List Text) (start stop : Int) : Except Failure Int :=
  lastCodeLineFrom? ls start (stop - start).toNat stop

/-- Up to `radius` lines before and after a range, kept within the file. -/
def surroundingLines (ls : List Text) (first last radius : Int) : List Text × List Text :=
  (slice ls (max 0 (first - radius)) first, slice ls (last + 1) (last + 1 + radius))

end SourceChunks
