import SourceChunks.Decimal.Rounding
import SourceChunks.Language.Basic
import SourceChunks.Line.Basic
import SourceChunks.Pattern.Building
import SourceChunks.Pattern.Scan

/-! Lexical measures of a text: decision points, depth of nesting, comments, and the scores made of
them. -/

namespace SourceChunks.Metrics

open Pattern

def braceDecisions : Pattern :=
  wholeWord ["if", "for", "while", "switch", "case", "catch"] <|> lit "&&" <|> lit "||"

def indentedDecisions : Pattern :=
  wholeWord ["if", "elif", "for", "while", "except", "and", "or", "try"]

/-- Decision points plus one, whatever the language. -/
def nodeComplexity (content : Text) : Nat := braceDecisions.count content + 1

/-- Decision points of the language plus one. -/
def cyclomaticComplexity (content : Text) (language : Language) : Nat :=
  if language = .python then indentedDecisions.count content + 1
  else if language.hasBraces then braceDecisions.count content + 1
  else 1

/-- Opening less closing brackets and braces. -/
def bracketBalance (line : Text) : Int :=
  line.foldl (fun n c => if c == '\x7b' || c == '(' then n + 1 else if c == '\x7d' || c == ')' then n - 1 else n) 0

/-- The largest running sum, at least 0. -/
def peakFrom : (depth peak : Int) → List Int → Int
  | _, peak, [] => peak
  | depth, peak, d :: ds => peakFrom (depth + d) (max peak (depth + d)) ds

/-- The deepest block: by indentation in steps of four, or by brackets. -/
def nestingDepth (content : Text) (language : Language) : Int :=
  let ls := Text.lines content
  if language = .python then
    ls.foldl (fun deepest l => if isCodeLine l then max deepest ((Text.indent l / 4 : Nat) : Int) else deepest) 0
  else peakFrom 0 0 (ls.map bracketBalance)

/-- Complexity with surcharges for nesting and for length, from 0 to 100. -/
def complexityScore (content : Text) (language : Language) : Float :=
  let score := (cyclomaticComplexity content language).toFloat
  let score := score + Float.ofInt (nestingDepth content language) * 0.5
  let count := (Text.lines content).length
  let score := if count > 50 then score + (count - 50).toFloat * 0.1 else score
  clampScore (roundTo 1 score)

/-- The share of lines that start with a comment mark other than the opening of a block comment. -/
def commentRatio (content : Text) : Float :=
  let ls := Text.lines content
  let comments := ls.countP fun l => Text.startsWithAny (Text.trimLeft l) ["//", "#", "*"]
  comments.toFloat / ls.length.toFloat

/-- 100 less a penalty for length, plus a reward for comments, from 0 to 100. -/
def maintainabilityIndex (content : Text) : Float :=
  let count := (Text.lines content).length
  let penalty := greater 0.0 (Float.ofInt ((count : Int) - 100) * 0.01)
  clampScore (roundWhole (100 - penalty + commentRatio content * 20))

/-- How many different lines longer than `minLength` occur more than twice, blanks at the ends
aside. -/
def duplicateLineCount (ls : List Text) (minLength : Int) : Nat :=
  let long := (ls.map Text.trim).filter fun l => minLength < l.length
  (distinct long).countP fun l => long.count l > 2

end SourceChunks.Metrics
