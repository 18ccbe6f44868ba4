import SourceChunks.Chunk.Enriched
import SourceChunks.Metrics.Complexity
import SourceChunks.Metrics.Dependencies

/-! What a strategy knows about a range of lines, and the chunk made of it. -/

namespace SourceChunks

/-- The beginning of an enriched chunk. -/
structure Draft where
  first : Int
  last : Int
  /-- What is put behind the range in the identity. -/
  suffix : Text := []
  symbols : List Text
  semanticType : SemanticType
  complexity : Float
  /-- Read off the text when missing. -/
  dependencies : Option (List Text) := none
  dependents : List Text := []
  designPatterns : List Text := []
  relations : List Relation := []
  /-- The lines around the range when missing. -/
  surrounding : Option Text := none
  business : Option Text := none

namespace Draft

/-- Three lines before and three lines after, with dots between. -/
def linesAround (ls : List Text) (first last : Int) : Text :=
  let (before, after) := surroundingLines ls first last 3
  Text.ofLines before ++ "\n...\n" ++ Text.ofLines after

def chunk (source : Source) (ls : List Text) (id : Text) (d : Draft) : EnrichedChunk :=
  let base := source.chunk ls id d.first d.last d.symbols
  { base := base
    facets :=
      { language := source.language, semanticType := d.semanticType, symbols := d.symbols,
        complexityScore := d.complexity,
        maintainabilityIndex := Metrics.maintainabilityIndex base.content,
        dependencies := d.dependencies.getD (Metrics.dependencies base.content source.language),
        dependents := d.dependents, designPatterns := d.designPatterns,
        lineCounts := LineCounts.ofText base.content }
    relations := d.relations
    context := some
      { surrounding := d.surrounding.getD (linesAround ls d.first d.last), layer := .unknown,
        file := { totalLines := ls.length, fileSize := source.content.length },
        business := d.business } }

def wantedId (source : Source) (d : Draft) : Text := source.idFor d.first d.last d.suffix

/-- The chunks of drafts, each under an identity of its own. -/
def chunks (source : Source) (ls : List Text) (ds : List Draft) : List EnrichedChunk :=
  List.zipWith (chunk source ls) (ChunkId.allocate [] (ds.map (wantedId source))) ds

end Draft

def cappedComplexity (content : Text) : Float := (min 100 (Metrics.nodeComplexity content)).toFloat

end SourceChunks
