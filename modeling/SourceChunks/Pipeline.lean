import SourceChunks.Cutting.Plain
import SourceChunks.Enrichment
import SourceChunks.Metrics.Classification
import SourceChunks.Strategy.Registry
import SourceChunks.Validation.Summary

/-! From a file to enriched chunks: the strategy that applies, or else windows of a fixed size; then
relations, quality and context; then, if asked for, a check of the result. -/

namespace SourceChunks

structure Pipeline where
  reader : SyntaxReader
  settings : Settings
  registry : Registry

namespace Pipeline

def ofSettings (reader : SyntaxReader) (s : Settings) : Pipeline := ⟨reader, s, .ofList (Strategy.usual s)⟩

/-! ### Windows of a fixed size -/

/-- A plain chunk with what its text alone tells. -/
def wrap (source : Source) (c : Chunk) : EnrichedChunk :=
  { base := c
    facets :=
      { language := c.language, semanticType := Metrics.inferRole c.content c.language c.path,
        symbols := c.symbols, complexityScore := Metrics.complexityScore c.content c.language,
        maintainabilityIndex := Metrics.maintainabilityIndex c.content, dependencies := c.imports,
        lineCounts := .ofText c.content }
    context := some
      { surrounding := [], layer := .unknown,
        file := { totalLines := source.lines.length, fileSize := source.content.length } } }

/-- Windows without overlap over the whole file. -/
def fallbackChunks (s : Settings) (source : Source) : List EnrichedChunk :=
  (Cutting.fixedChunks source s.fallbackSize 0 0 ((source.lines.length : Int) - 1)).map (wrap source)

/-! ### Strategies -/

/-- What a strategy gives; a failure or an empty result is noted and gives nothing. -/
def strategyChunks (reader : SyntaxReader) (s : Strategy) (path content snapshot : Text) :
    List EnrichedChunk × List LogEntry :=
  match s.chunks reader path content snapshot with
  | .error f =>
    ([], [.warning (s.name.tag ++ " strategy failed for " ++ path ++ ": " ++ f.message ++
      ", using fallback chunks")])
  | .ok [] =>
    ([], [.warning (s.name.tag ++ " strategy produced no chunks for " ++ path ++ ", using fallback chunks")])
  | .ok cs => (cs, [])

def rawChunks (p : Pipeline) (source : Source) (preferred : Option Text) : List EnrichedChunk × List LogEntry :=
  let (strategy, log₁) := p.registry.applicable source.language source.content preferred
  let (cs, log₂) := match strategy with
    | some s => strategyChunks p.reader s source.path source.content source.snapshot
    | none => ([], [])
  (if cs.isEmpty then fallbackChunks p.settings source else cs, log₁ ++ log₂)

/-! ### Validation -/

def summary (cs : List EnrichedChunk) : Validation.Summary Text :=
  Validation.summarise (cs.map fun c => Validation.validate c.unchecked)

def summaryNote (s : Validation.Summary Text) : LogEntry :=
  if s.invalid > 0 then
    .warning (Text.ofNat s.invalid ++ " of " ++ Text.ofNat s.total ++ " chunks failed validation: " ++
      (Value.texts s.commonErrors).display)
  else
    .info ("All " ++ Text.ofNat s.total ++ " chunks valid, average score " ++ fixedText 1 s.averageScore)

/-! ### Files -/

/-- The chunks of a file; none when it is empty. -/
def chunk (p : Pipeline) (path content snapshot : Text) (preferred : Option Text) :
    Except Failure (List EnrichedChunk × List LogEntry) := do
  if content.isEmpty then return ([], [])
  let source : Source := ⟨path, snapshot, Language.detect path content, content⟩
  let (raw, log₁) := p.rawChunks source preferred
  let (enriched, log₂) ← Enrichment.enrich p.settings.minConfidence raw content
  let log₃ := if p.settings.validate then [summaryNote (summary enriched)] else []
  return (enriched, log₁ ++ log₂ ++ log₃)

end Pipeline

end SourceChunks
