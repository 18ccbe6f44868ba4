import SourceChunks.Chunk.Basic
import SourceChunks.Cutting.Breakpoints
import SourceChunks.Cutting.Declarations
import SourceChunks.Language.Detection
import SourceChunks.Metrics.Complexity
import SourceChunks.Metrics.Dependencies

/-! Plain chunks of a file: along its declarations, or else by lines. -/

namespace SourceChunks.Cutting

/-- The chunk of a piece. Names that are not given are looked for line by line. -/
def plainChunk (source : Source) (ls imports : List Text) (id : Text) (p : Piece) : Chunk :=
  let symbols := p.symbols.getD
    ((Recogniser.forLines source.language).declaredNames (lineRange ls p.first p.last))
  let c := source.chunk ls id p.first p.last symbols
  { c with
    imports := imports
    commentRatio := some (roundTo 4 (Metrics.commentRatio c.content))
    complexity := some (Metrics.cyclomaticComplexity c.content source.language).toFloat }

def plainChunks (source : Source) (ls : List Text) (ps : List Piece) : List Chunk :=
  let imports := Metrics.dependencies source.content source.language
  let ids := ChunkId.allocate [] (ps.map fun p => source.idFor p.first p.last [])
  List.zipWith (plainChunk source ls imports) ids ps

def fixedChunks (source : Source) (size overlap first last : Int) : List Chunk :=
  plainChunks source source.lines
    ((windows size overlap first last).map fun r => { r with symbols := none })

/-- Chunks of a fixed number of lines of a list of lines. A size or an overlap that is not given is that of the
settings, and without a last line the list is cut to its end. -/
def sizedChunks (s : Settings) (path snapshot : Text) (language : Language) (ls : List Text)
    (size overlap : Option Int) (first : Int) (last : Option Int) : List Chunk :=
  plainChunks ⟨path, snapshot, language, Text.ofLines ls⟩ ls
    ((windows (size.getD s.chunkSize) (overlap.getD s.chunkOverlap) first (last.getD ((ls.length : Int) - 1))).map
      fun r => { r with symbols := none })

theorem fixedChunks_eq_sizedChunks (s : Settings) (source : Source) (size overlap first last : Int) :
    fixedChunks source size overlap first last =
      sizedChunks s source.path source.snapshot source.language source.lines (some size) (some overlap) first
        (some last) := by
  rw [sizedChunks, Source.lines, Text.ofLines_lines]
  rfl

def filePieces (reader : SyntaxReader) (s : Settings) (source : Source) : Except Failure (List Piece) := do
  let ls := source.lines
  let byLines := (lineRanges source.language s.chunkSize s.chunkOverlap ls).map
    fun r => ({ r with symbols := none } : Piece)
  let recogniser := Recogniser.forLanguage reader s.preferTrees source.language
  if recogniser.isBlocks then return byLines
  else
    let top := (← recogniser.nodes ls).filter fun n => n.parent.isNone
    if top.isEmpty then return byLines
    else return declarationPieces s recogniser.isBoundary ls top

/-- The chunks of a file; none when it is blank. -/
def chunkFile (reader : SyntaxReader) (s : Settings) (path content snapshot : Text) :
    Except Failure (List Chunk) := do
  let source : Source := ⟨path, snapshot, Language.detect path content, content⟩
  if Text.allBlank content then return []
  else return plainChunks source source.lines (← filePieces reader s source)

end SourceChunks.Cutting
