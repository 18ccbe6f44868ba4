import SourceChunks.Context.Analysis
import SourceChunks.Log
import SourceChunks.Metrics.Dependencies
import SourceChunks.Quality.Assessment
import SourceChunks.Relation.Analysis

/-! The chunks of a file with their relations, quality and context. -/

namespace SourceChunks.Enrichment

/-- A fresh context that keeps the lines around the chunk and the domain of an earlier one. -/
def keepContext (old : Option ContextInfo) (fresh : ContextInfo) : ContextInfo :=
  match old with
  | none => fresh
  | some c =>
    { fresh with
      surrounding := if c.surrounding.isEmpty then fresh.surrounding else c.surrounding
      business := (c.business.filter (!·.isEmpty)).or fresh.business }

/-- What a file depends on, for every language among its chunks. -/
def fileDependencies (file : Text) (cs : List EnrichedChunk) : List (Language × List Text) :=
  (distinct (cs.map (·.language))).map fun l => (l, Metrics.dependencies file l)

/-- One chunk, with what its file depends on, the relations found for it and the chunks that depend
on it. -/
def enrichChunk (file : Text) (ids : List Text) (c : EnrichedChunk) (dependencies : List Text)
    (found : List Relation) (dependents : List Text) : EnrichedChunk :=
  let language := c.language
  let quality := Quality.assessChunk {} c (some file)
  { base :=
      { c.base with
        symbols := c.symbols
        imports := dependencies
        commentRatio := some (roundTo 4 (Metrics.commentRatio c.content))
        complexity := some (Metrics.cyclomaticComplexity c.content language).toFloat }
    facets :=
      { c.facets with
        symbols := c.symbols
        maintainabilityIndex := quality.maintainability
        dependencies := distinct (c.facets.dependencies ++ dependencies)
        dependents := distinct (c.facets.dependents ++ dependents)
        designPatterns := distinct (c.facets.designPatterns ++ Metrics.designPatterns c.content)
        codeSmells := Quality.codeSmells c.content language
        securityConcerns := Quality.securityConcerns c.content language
        lineCounts := .ofText c.content }
    relations := Relation.distinctKeys (c.relations ++ found)
    quality := quality
    context := some (keepContext c.context (Context.analyse {} c file ids)) }

def batchNote (b : RelationAnalysis.Batch) : LogEntry :=
  .info ("Relationship analysis: " ++ Text.ofNat b.relations.length ++ " edges across " ++
    Text.ofNat b.chunks.length ++ " chunks")

def enrich (minConfidence : Float) (cs : List EnrichedChunk) (file : Text) :
    Except Failure (List EnrichedChunk × List LogEntry) := do
  if cs.isEmpty then return ([], [])
  let batch ← RelationAnalysis.batch { minConfidence := minConfidence } cs
  let ids := cs.map (·.id)
  let dependencies := fileDependencies file cs
  let enriched := List.zipWith (fun c found =>
    enrichChunk file ids c ((dependencies.lookup c.language).getD []) found.relations
      (batch.graph.predecessors.get c.id)) cs batch.chunks
  return (enriched, [batchNote batch])

end SourceChunks.Enrichment
