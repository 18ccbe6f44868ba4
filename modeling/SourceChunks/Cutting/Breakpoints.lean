import SourceChunks.Cutting.Windows
import SourceChunks.Language.Basic
import SourceChunks.Line.Basic
import SourceChunks.Pattern.Building
import SourceChunks.Pattern.Scan

/-! Sections of a source without declarations: they begin at lines of a certain form, at least two
lines apart, and neighbours are joined as long as they fit into one chunk. -/

namespace SourceChunks.Cutting

open Pattern

def oneBlank : Pattern := .one isBlank

def sectionStarts : Language → List Pattern
  | .python => [
      opt (lit "async" ++ gap) ++ lit "def" ++ oneBlank,
      lit "class" ++ oneBlank,
      lit "@",
      lit "if" ++ gap ++ lit "__name__"]
  | .javascript => [
      opt (lit "export" ++ gap) ++ opt (lit "async" ++ gap) ++ lit "function" ++ oneBlank,
      opt (lit "export" ++ gap) ++ lit "class" ++ oneBlank,
      opt (lit "export" ++ gap) ++ lit "const" ++ gap ++ wordRun ++ blanks ++ lit "=",
      lit "module.exports"]
  | .typescript => [
      opt (lit "export" ++ gap) ++ opt (lit "async" ++ gap) ++ lit "function" ++ oneBlank,
      opt (lit "export" ++ gap) ++ lit "class" ++ oneBlank,
      opt (lit "export" ++ gap) ++ oneOf ["interface", "type", "enum"] ++ oneBlank]
  | .java => [
      blanks ++ oneOf ["public", "private", "protected"] ++ oneBlank,
      blanks ++ lit "@" ++ wordRun]
  | .markdown => [.run (· == '#') 1 (some 6) .greedy ++ oneBlank]
  | .yaml => [.one (letterOr "_") ++ manyOf (wordOr "-") ++ lit ":" ++ blanks ++ textEnd]
  | .shell => [opt (lit "function" ++ gap) ++ wordRun ++ blanks ++ lit "()" ++ blanks ++ lit "\x7b"]
  | .ruby => [blanks ++ oneOf ["def", "class", "module"] ++ oneBlank]
  | _ => []

/-- The line opens a section; in indented languages only after a blank line. -/
def opensSection (language : Language) (afterBlank : Bool) (line : Text) : Bool :=
  !Text.allBlank line && ((sectionStarts language).any fun p => (p.matchStart? line).isSome) &&
    (afterBlank || language != .python)

/-- The breakpoints from line `i` on, after one at `previous`. -/
def breakpointsFrom (language : Language) : (previous i : Nat) → (afterBlank : Bool) → List Text → List Nat
  | _, _, _, [] => []
  | previous, i, afterBlank, line :: rest =>
    if opensSection language afterBlank line && previous + 2 ≤ i then
      i :: breakpointsFrom language i (i + 1) (Text.allBlank line) rest
    else breakpointsFrom language previous (i + 1) (Text.allBlank line) rest

/-- The lines at which sections begin, the first line among them. -/
def breakpoints (language : Language) : List Text → List Nat
  | [] => [0]
  | line :: rest => 0 :: breakpointsFrom language 0 1 (Text.allBlank line) rest

/-- One section, cut into windows when it is longer than a chunk. -/
def sectionRanges (size overlap : Nat) (first last : Int) : List Range :=
  if last - first + 1 > size then windows size overlap first last else [⟨first, last⟩]

/-- The sections that begin at `start` and end before the given points; a section grows as long as
the next one fits with it into a chunk. -/
def sectionsFrom (size overlap : Nat) : (start : Nat) → List Nat → List Range
  | _, [] => []
  | start, [point] => sectionRanges size overlap start ((point : Int) - 1)
  | start, point :: next :: points =>
    if (next : Int) - start ≤ size then sectionsFrom size overlap start (next :: points)
    else sectionRanges size overlap start ((point : Int) - 1) ++
      sectionsFrom size overlap point (next :: points)

/-- The ranges of a source cut by lines: sections if there are at least two, or else windows. -/
def lineRanges (language : Language) (size overlap : Nat) (ls : List Text) : List Range :=
  match breakpoints language ls with
  | start :: point :: points => sectionsFrom size overlap start (point :: points ++ [ls.length])
  | _ => windows size overlap 0 ((ls.length : Int) - 1)

end SourceChunks.Cutting
