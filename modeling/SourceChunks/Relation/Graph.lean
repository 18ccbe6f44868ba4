import SourceChunks.Chunk.Enriched

/-! The directed graph of a batch over the identities of its chunks. A relation that a chunk holds
as incoming runs from its target to the chunk, any other one from the chunk to its target. -/

namespace SourceChunks

structure GraphEdge where
  source : Text
  target : Text
  relation : Relation

abbrev Adjacency := List (Text × List Text)

namespace Adjacency

def get (a : Adjacency) (node : Text) : List Text := ((a.find? (·.1 == node)).map (·.2)).getD []

def has (a : Adjacency) (node : Text) : Bool := a.any (·.1 == node)

/-- A neighbour added to a node, unless it is there already. -/
def link (a : Adjacency) (node neighbour : Text) : Adjacency :=
  a.map fun entry => if entry.1 == node then (entry.1, addNew entry.2 neighbour) else entry

end Adjacency

structure RelationGraph where
  nodes : List Text := []
  edges : List GraphEdge := []
  successors : Adjacency := []
  predecessors : Adjacency := []

namespace RelationGraph

def addNode (g : RelationGraph) (id : Text) : RelationGraph :=
  if g.successors.has id then g
  else
    { g with nodes := g.nodes ++ [id], successors := g.successors ++ [(id, [])],
             predecessors := g.predecessors ++ [(id, [])] }

/-- The graph with an edge, if both ends are known. -/
def addEdge (g : RelationGraph) (source target : Text) (relation : Relation) : RelationGraph :=
  if g.successors.has source && g.successors.has target then
    { g with edges := g.edges ++ [⟨source, target, relation⟩],
             successors := g.successors.link source target,
             predecessors := g.predecessors.link target source }
  else g

def addRelation (id : Text) (g : RelationGraph) (r : Relation) : RelationGraph :=
  if r.direction = .incoming then g.addEdge r.target id r else g.addEdge id r.target r

/-- The graph of chunks, given by their identities, and their relations. -/
def build (held : List (Text × List Relation)) : RelationGraph :=
  let bare := held.foldl (fun g h => g.addNode h.1) {}
  held.foldl (fun g h => h.2.foldl (addRelation h.1) g) bare

/-! ### Statistics -/

def degree (g : RelationGraph) (node : Text) : Nat :=
  (g.successors.get node).length + (g.predecessors.get node).length

def degrees (g : RelationGraph) : List Nat := g.nodes.map g.degree

def averageDegree (g : RelationGraph) : Float :=
  if g.nodes.isEmpty then 0.0 else mean (g.degrees.map (·.toFloat))

def maxDegree (g : RelationGraph) : Nat := g.degrees.foldl max 0

end RelationGraph

end SourceChunks
