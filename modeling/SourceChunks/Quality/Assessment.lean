import SourceChunks.Chunk.Enriched
import SourceChunks.Quality.Debt

/-! The quality of a text: all scores together, and their weighted mean. -/

namespace SourceChunks.Quality

structure Weights where
  readability : Float := 0.25
  complexity : Float := 0.20
  maintainability : Float := 0.20
  documentation : Float := 0.15
  testCoverage : Float := 0.10
  security : Float := 0.10

structure Standard where
  weights : Weights := {}
  thresholds : Thresholds := {}

/-- The quality of a text, judged beside the rest of its file when that is known. -/
def assess (q : Standard) (content : Text) (language : Language) (path : Text) (symbols : List Text)
    (rest : Option Text) : QualityMetrics :=
  let counts := LineCounts.ofText content
  let readable := readability content
  let complex := complexity content language
  let documented := documentation counts
  let maintainable := maintainability counts complex readable
  let duplicated := duplication content rest
  let security := securityRisk content language
  let tested := testCoverage content path symbols
  let w := q.weights
  let overall := readable * w.readability + (100 - complex) * w.complexity + maintainable * w.maintainability +
    documented * 100 * w.documentation + tested.getD 0.0 * 100 * w.testCoverage + (100 - security) * w.security
  { overall := roundTo 1 (clampScore overall), readability := readable, documentation := roundTo 4 documented,
    duplication := duplicated, performance := performanceRisk content language, security := security,
    maintainability := maintainable,
    debt := debt q.thresholds content language ⟨complex, documented, duplicated, maintainable⟩,
    testCoverage := tested, style := some (style content language) }

def restOfFile (file : Text) (first last : Int) : Text :=
  let ls := Text.lines file
  Text.ofLines (slice ls 0 first ++ slice ls (last + 1) ls.length)

def assessChunk (q : Standard) (c : EnrichedChunk) (file : Option Text) : QualityMetrics :=
  assess q c.content c.language c.path c.symbols
    (file.map fun f => restOfFile f c.base.first c.base.last)

end SourceChunks.Quality
