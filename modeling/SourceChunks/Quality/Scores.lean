import SourceChunks.Line.Counts
import SourceChunks.Quality.Loops
import SourceChunks.Quality.Rules
import SourceChunks.Text.Digit

/-! The single scores that make up the quality of a text, from 0 to 100. -/

namespace SourceChunks.Quality

open Pattern

def isSmall (c : Char) : Bool := c.isLower

def isSmallOrDigit (c : Char) : Bool := c.isLower || c.isDigit

def isSmallOrDigitOrLow (c : Char) : Bool := isSmallOrDigit c || c == '_'

/-! ### Readability -/

def descriptiveName : Pattern :=
  wordEdge ++
    ((.one isSmall ++ manyOf isSmallOrDigit ++ .one Char.isUpper ++ manyOf isWordChar) <|>
      (.one isSmall ++ manyOf isSmallOrDigit ++ lit "_" ++ someOf isSmallOrDigitOrLow)) ++
    wordEdge

/-- A number of at least two digits that is not a part of something else. -/
def magicNumber : Pattern := notAfter (wordOr ".") ++ .run isDecimalDigit 2 none .greedy ++ wordEdge

def longLineCount (ls : List Text) : Nat := ls.countP fun l => l.length > 120

/-- The deepest indentation of a line that is not blank. -/
def maxIndent (ls : List Text) : Nat :=
  ls.foldl (fun deepest l => if Text.allBlank l then deepest else max deepest (Text.indent l)) 0

/-- 100 less penalties for long lines, length, depth and numbers, plus a reward for names. -/
def readability (content : Text) : Float :=
  let ls := Text.lines content
  let score := 100.0 - (longLineCount ls * 5).toFloat
  let score := if ls.length > 50 then score - (ls.length - 50).toFloat * 0.5 else score
  let score := score + lesser 10.0 ((descriptiveName.count content).toFloat * 0.5)
  let deepest := maxIndent ls
  let score := if deepest > 16 then score - ((deepest - 16) * 2).toFloat else score
  roundWhole (clampScore (score - (magicNumber.count content * 2).toFloat))

/-! ### Complexity and maintainability -/

def logicalOperator : Pattern :=
  lit "&&" <|> lit "||" <|> (wordEdge ++ lit "and" ++ gap) <|> (wordEdge ++ lit "or" ++ gap)

/-- Keywords and operators with a surcharge for nesting, three points each; 10 for a language
without rules. -/
def complexity (content : Text) (language : Language) : Float :=
  match rules? language with
  | none => 10.0
  | some r =>
    let points : Int := 1 + (wholeWord r.complexityWords).count content + logicalOperator.count content +
      max 0 (Metrics.nestingDepth content language - 2) * 2
    Float.ofInt (min 100 (points * 3))

/-- 100 less complexity and length, plus comments and readability. -/
def maintainability (counts : LineCounts) (complexity readability : Float) : Float :=
  let score := 100 - complexity * 0.3
  let score := if counts.total > 100 then score - 10 else if counts.total > 50 then score - 5 else score
  let share := if counts.total = 0 then 0.0 else counts.comments.toFloat / counts.total.toFloat
  let score := score + share * 20
  roundTo 1 (clampScore (score + (readability - 50) * 0.2))

/-- The share of comments among comments and code. -/
def documentation (counts : LineCounts) : Float :=
  let documented := counts.comments + counts.code
  if documented = 0 then 0.0 else counts.comments.toFloat / documented.toFloat

/-! ### Duplication -/

/-- Lines of more than ten characters, blanks at the ends aside. -/
def substantialLines (content : Text) : List Text :=
  ((Text.lines content).map Text.trim).filter fun l => l.length > 10

/-- The share of substantial lines that recur in the rest of the file; without a rest, twice the
share that repeat an earlier one. -/
def duplication (content : Text) (rest : Option Text) : Float :=
  let ls := substantialLines content
  if ls.isEmpty then 0.0
  else match rest with
    | none =>
      let repeated := ls.length - (distinct ls).length
      roundTo 1 (lesser 100.0 (repeated.toFloat / ls.length.toFloat * 200))
    | some other =>
      let elsewhere := (Text.lines other).map Text.trim
      roundTo 1 (lesser 100.0 ((ls.countP elsewhere.contains).toFloat / ls.length.toFloat * 100))

/-! ### Risks -/

/-- A query within six lines of the head of a loop. -/
def queryInLoop : Pattern :=
  wholeWord ["for", "while"] ++ manyOf onLine ++ lit "\n" ++
    .many (manyOf onLine ++ lit "\n") 0 (some 5) .reluctant ++ manyOf onLine ++ lit "." ++
    oneOf ["query", "execute", "find", "findOne", "save", "fetchall"] ++ blanks ++ lit "("

def ruleMatches (rs : List Rule) (content : Text) : Nat := total (rs.map fun r => r.pattern.count content)

def performanceRisk (content : Text) (language : Language) : Float :=
  let byRules := ruleMatches (((rules? language).map (·.performance)).getD []) content * 10
  (min 100 (byRules + nestedLoopCount content language * 20 + queryInLoop.count content * 15)).toFloat

def securityRisk (content : Text) (language : Language) : Float :=
  let byRules := ruleMatches (((rules? language).map (·.security)).getD []) content * 15
  let general := generalSecurity.countP (fun p => p.occursIn content) * 10
  let credentials := if Metrics.credentials.occursIn content then 10 else 0
  let queries := if Metrics.hasQueryConcatenation content then 15 else 0
  (min 100 (byRules + general + credentials + queries)).toFloat

/-! ### Tests and style -/

def testIndicators : List Pattern :=
  [bareCall "$." "test", bareCall "$." "it", bareCall "$." "describe", bareCall "$." "expect",
    wordEdge ++ lit "assert", wholeWord ["should"]]

/-- A guess at the share of tested code; nothing when no name is declared. -/
def testCoverage (content path : Text) (symbols : List Text) : Option Float :=
  if symbols.isEmpty then none
  else if Metrics.isTestPath path then some 1.0
  else some (lesser 1.0 ((testIndicators.countP fun p => p.occursIn content).toFloat * 0.2))

def camelCase : Pattern :=
  wordEdge ++ someOf isSmall ++ .one Char.isUpper ++ manyOf Char.isAlphanum ++ wordEdge

def snakeCase : Pattern := wordEdge ++ someOf isSmall ++ lit "_" ++ someOf isSmallOrDigitOrLow ++ wordEdge

/-- A comparison or a connective without blanks around it. -/
def compactOperator : Pattern :=
  .one isWordChar ++ oneOf ["==", "!=", "<=", ">=", "&&", "||"] ++ .one isWordChar

/-- Tabs and spaces mixed, or spaces that do not make whole units. -/
def isBadlyIndented (unit : Nat) (line : Text) : Bool :=
  let front := line.take (Text.indent line)
  !Text.allBlank line &&
    if front.contains '\t' then front.contains ' ' else front.length % unit != 0

/-- 100 less penalties for indentation, mixed naming, long lines and spacing. -/
def style (content : Text) (language : Language) : Float :=
  let ls := Text.lines content
  let indentation := ls.countP (isBadlyIndented (if language = .python then 4 else 2))
  let naming := if camelCase.count content > 5 && snakeCase.count content > 5 then 1 else 0
  let trailing := ls.countP fun l => l.getLast?.any isBlank
  let spacing := trailing + compactOperator.count content
  (100 - (indentation * 2 + naming * 3 + longLineCount ls + spacing)).toFloat

end SourceChunks.Quality
