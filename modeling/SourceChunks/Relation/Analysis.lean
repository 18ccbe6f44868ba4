import SourceChunks.Relation.Graph
import SourceChunks.Relation.Passes

/-! The relations of the chunks of a batch: all passes, less what is too uncertain and what was
found before; and the batch as a whole. -/

namespace SourceChunks

structure RelationSettings where
  /-- Relations below this confidence are dropped. -/
  minConfidence : Float := 0.3
  /-- Chunks are similar above this score. -/
  similarityLimit : Float := 0.7
  enabled : RelationPass → Bool := fun _ => true

namespace RelationAnalysis

def found (s : RelationSettings) (index : ChunkIndex) (place : Nat) (e : IndexEntry) :
    RelationPass → Except Failure (List Relation)
  | .imports => Relation.imports index e
  | .calls => .ok (Relation.calls index place e)
  | .inheritance => .ok (Relation.inheritance index place e)
  | .usage => .ok (Relation.uses index place e)
  | .tests => .ok (Relation.tests index place e)
  | .similarity => .ok (Relation.similar s.similarityLimit index place e)

def passes (s : RelationSettings) : List RelationPass := RelationPass.all.filter s.enabled

def relationsAt (s : RelationSettings) (index : ChunkIndex) (place : Nat) (e : IndexEntry) :
    Except Failure (List Relation) := do
  let all ← (passes s).mapM (found s index place e)
  return Relation.distinctKeys (all.flatten.filter fun r => !(r.evidence.confidence.toFloat < s.minConfidence))

def analyse (s : RelationSettings) (cs : List EnrichedChunk) : Except Failure (List (List Relation)) :=
  let index := ChunkIndex.ofChunks cs
  index.entries.zipIdx.mapM fun e => relationsAt s index e.2 e.1

/-- The relations of one chunk, which is known by its identity and added when it is absent. -/
def analyseOne (s : RelationSettings) (c : EnrichedChunk) (cs : List EnrichedChunk) :
    Except Failure (List Relation) :=
  let all := if cs.any fun d => d.id == c.id then cs else cs ++ [c]
  let index := ChunkIndex.ofChunks all
  match index.entries.zipIdx.find? fun e => e.1.chunk.id == c.id with
  | some (e, place) => relationsAt s index place e
  | none => .ok []

/-! ### Batches -/

structure ChunkRelations where
  id : Text
  relations : List Relation
  confidence : Float
  warnings : List Text

structure Batch where
  chunks : List ChunkRelations
  graph : RelationGraph

/-- The mean confidence to four places, 0 for no relations. -/
def meanConfidence (rs : List Relation) : Float :=
  if rs.isEmpty then 0.0 else roundTo 4 (mean (rs.map fun r => r.evidence.confidence.toFloat))

def warnings (c : EnrichedChunk) : List Text :=
  if c.symbols.isEmpty then ["No declared symbols; other chunks cannot reference this chunk by name"] else []

def chunkRelations (c : EnrichedChunk) (rs : List Relation) : ChunkRelations :=
  ⟨c.id, rs, meanConfidence rs, warnings c⟩

def batch (s : RelationSettings) (cs : List EnrichedChunk) : Except Failure Batch := do
  let found ← analyse s cs
  return ⟨List.zipWith chunkRelations cs found, .build ((cs.map (·.id)).zip found)⟩

namespace Batch

def relations (b : Batch) : List Relation := b.chunks.flatMap (·.relations)

/-- How often each kind of relation occurs, in the order of first occurrence. -/
def kindCounts (b : Batch) : List (RelationKind × Nat) :=
  let kinds := b.relations.map (·.kind)
  (distinct kinds).map fun k => (k, kinds.count k)

end Batch

end RelationAnalysis

end SourceChunks
