import SourceChunks.Language.Basic
import SourceChunks.Line.Basic
import SourceChunks.Pattern.Building
import SourceChunks.Pattern.Scan

/-! Loops inside loops. -/

namespace SourceChunks.Quality

open Pattern

def bracedLoop : Pattern := lit "for" ++ blanks ++ lit "(" ++ manyOf (butNot ")") ++ lit ")"

/-- A loop in the braces of another. -/
def nestedBracedLoop : Pattern :=
  bracedLoop ++ blanks ++ lit "\x7b" ++ manyOf (butNot "\x7d") ++ bracedLoop

def isLoopLine (line : Text) : Bool :=
  ((blanks ++ opt (lit "async" ++ gap) ++ oneOf ["for", "while"] ++ wordEdge).matchStart? line).isSome

/-- Neither blank nor a comment of an indented language. -/
def isIndentedCode (line : Text) : Bool := !Text.allBlank line && (Text.trim line).head? != some '#'

/-- The loops of the lines that lie in another loop. The indents of the open loops are on a stack,
the innermost first; a line no deeper than a loop leaves it. -/
def nestedFrom : (loops : List Nat) → List Text → Nat
  | _, [] => 0
  | loops, line :: rest =>
    if isIndentedCode line then
      let inside := loops.dropWhile fun l => Text.indent line ≤ l
      if isLoopLine line then
        (if inside.isEmpty then 0 else 1) + nestedFrom (Text.indent line :: inside) rest
      else nestedFrom inside rest
    else nestedFrom loops rest

/-- How many loops lie in the body of another loop. -/
def nestedLoopCount (content : Text) (language : Language) : Nat :=
  if language = .python then nestedFrom [] (Text.lines content) else nestedBracedLoop.count content

end SourceChunks.Quality
