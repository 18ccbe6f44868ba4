import SourceChunks.Chunk.Report
import SourceChunks.Relation.Analysis

/-! Graphs and analyses of a batch as records. -/

namespace SourceChunks

def Adjacency.toValue (a : Adjacency) : Value := .record (a.map fun e => (e.1, .texts e.2))

namespace RelationGraph

def statistics (g : RelationGraph) : Value :=
  .record (field "node_count" (.int g.nodes.length) ++ field "edge_count" (.int g.edges.length) ++
    field "average_degree" (.real g.averageDegree) ++ field "max_degree" (.int g.maxDegree))

def toValue (g : RelationGraph) : Value :=
  .record (field "nodes" (.texts g.nodes) ++
    field "edges" (.list (g.edges.map fun e =>
      .texts [e.source, e.target, e.relation.kind.tag, e.relation.direction.tag])) ++
    field "adjacency" g.successors.toValue ++ field "reverse_adjacency" g.predecessors.toValue ++
    field "statistics" g.statistics)

end RelationGraph

namespace RelationAnalysis

def ChunkRelations.toValue (s : RelationSettings) (c : ChunkRelations) : Value :=
  .record (field "chunk_id" (.text c.id) ++ field "relationships" (.list (c.relations.map (·.toValue))) ++
    field "confidence_score" (.real c.confidence) ++
    field "analysis_types" (.texts ((passes s).map (·.tag))) ++ field "warnings" (.texts c.warnings))

def Batch.summary (b : Batch) : Value :=
  .record (field "total_chunks" (.int b.chunks.length) ++
    field "total_relationships" (.int b.relations.length) ++
    field "average_confidence" (.real (meanConfidence b.relations)) ++
    field "relationship_types" (.record (b.kindCounts.map fun k => (k.1.tag, .int k.2))))

def Batch.toValue (s : RelationSettings) (b : Batch) : Value :=
  .record (field "results" (.list (b.chunks.map (·.toValue s))) ++ field "graph" b.graph.toValue ++
    field "summary" b.summary)

end RelationAnalysis

end SourceChunks
