import SourceChunks.Chunk.Enriched
import SourceChunks.Metrics.Signals
import SourceChunks.Relation.Names

/-! The chunks of a batch with what every pass over them needs: the names they declare and mention,
their words, their files, and whether they hold tests. Chunks are known by their places. -/

namespace SourceChunks

open Pattern in
def testMark : Pattern :=
  (notAfter (wordOr "$.") ++ oneOf ["describe", "it", "test", "expect"] ++ blanks ++ lit "(") <|>
    (wordEdge ++ lit "def test_") <|> (lit "@Test" ++ wordEdge)

structure IndexEntry where
  chunk : EnrichedChunk
  identifiers : List Text
  words : List Text
  isTest : Bool

namespace IndexEntry

def ofChunk (c : EnrichedChunk) : IndexEntry :=
  { chunk := c, identifiers := Names.identifiers c.content, words := Names.words c.content,
    isTest := Metrics.isTestPath c.path || testMark.occursIn c.content }

abbrev symbols (e : IndexEntry) : List Text := e.chunk.symbols

/-- The text of the chunk mentions a name that the other one declares. -/
def mentions (e other : IndexEntry) : Bool := other.symbols.any e.identifiers.contains

/-- The line of the file at an offset of the content. -/
def lineOf (e : IndexEntry) (offset : Nat) : Int := e.chunk.base.first + (e.chunk.content.take offset).count '\n'

end IndexEntry

/-- The chunks of one file, given by their places. -/
structure FileGroup where
  path : Text
  places : List Nat

structure ChunkIndex where
  entries : List IndexEntry
  declared : List Text
  /-- The files in the order of their first chunks. -/
  files : List FileGroup

namespace ChunkIndex

/-- The order of the chunks of a file: by first line and then by last line. -/
def rangeOrder (a b : EnrichedChunk × Nat) : Bool :=
  a.1.base.first < b.1.base.first || (a.1.base.first == b.1.base.first && a.1.base.last ≤ b.1.base.last)

def fileGroup (cs : List EnrichedChunk) (path : Text) : FileGroup :=
  ⟨path, ((cs.zipIdx.filter fun c => c.1.path == path).mergeSort rangeOrder).map (·.2)⟩

def ofChunks (cs : List EnrichedChunk) : ChunkIndex :=
  { entries := cs.map .ofChunk
    declared := distinct (cs.flatMap (·.symbols))
    files := (distinct (cs.map (·.path))).map (fileGroup cs) }

/-- The names of other chunks that a chunk mentions, sorted. -/
def referenced (index : ChunkIndex) (e : IndexEntry) : List Text :=
  (index.declared.filter fun s => e.identifiers.contains s && !e.symbols.contains s).mergeSort Text.le

def others (index : ChunkIndex) (place : Nat) : List (IndexEntry × Nat) :=
  index.entries.zipIdx.filter fun q => q.2 != place

def declarers (index : ChunkIndex) (place : Nat) (symbol : Text) : List (IndexEntry × Nat) :=
  (index.others place).filter fun q => q.1.symbols.contains symbol

end ChunkIndex

end SourceChunks
