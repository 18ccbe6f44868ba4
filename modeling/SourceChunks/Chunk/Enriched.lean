import SourceChunks.Chunk.Basic
import SourceChunks.Context.Basic
import SourceChunks.Kind.Semantic
import SourceChunks.Line.Counts
import SourceChunks.Quality.Basic
import SourceChunks.Relation.Basic

/-! A chunk together with what has been found out about it. -/

namespace SourceChunks

structure Facets where
  language : Language
  semanticType : SemanticType := .module
  symbols : List Text := []
  complexityScore : Float := 1.0
  maintainabilityIndex : Float := 50.0
  dependencies : List Text := []
  dependents : List Text := []
  designPatterns : List Text := []
  codeSmells : List Text := []
  securityConcerns : List Text := []
  lineCounts : LineCounts := {}

structure EnrichedChunk where
  base : Chunk
  facets : Facets
  relations : List Relation := []
  quality : QualityMetrics := {}
  context : Option ContextInfo := none

namespace EnrichedChunk

abbrev id (c : EnrichedChunk) : Text := c.base.id

abbrev content (c : EnrichedChunk) : Text := c.base.content

abbrev path (c : EnrichedChunk) : Text := c.base.path

abbrev language (c : EnrichedChunk) : Language := c.base.language

/-- The declared names: those of the facets, or else those of the bare chunk. -/
def symbols (c : EnrichedChunk) : List Text :=
  if c.facets.symbols.isEmpty then c.base.symbols else c.facets.symbols

end EnrichedChunk

end SourceChunks
