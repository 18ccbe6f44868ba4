import SourceChunks.Enrichment
import SourceChunks.Proofs.Relabelling

/-! Renaming the identities of chunks by a one-to-one function. Identities are only ever compared with
each other, so that the relations, the graph and the context of renamed chunks are the renamed
relations, graph and context. -/

namespace SourceChunks

/-! ### Renamed chunks -/

/-- The context with the other chunks of the file renamed. -/
def ContextInfo.rename (g : Text → Text) (x : ContextInfo) : ContextInfo :=
  { x with file := { x.file with siblings := x.file.siblings.map g } }

/-- The chunk with all identities renamed and from another snapshot; nothing else is touched. -/
def EnrichedChunk.rename (g : Text → Text) (snapshot : Text) (c : EnrichedChunk) : EnrichedChunk :=
  { c with
    base := { c.base with id := g c.id, snapshot := snapshot }
    facets := { c.facets with dependents := c.facets.dependents.map g }
    relations := c.relations.map (·.rename g)
    context := c.context.map (·.rename g) }

variable {g : Text → Text} {snapshot : Text}

namespace EnrichedChunk

@[simp] theorem id_rename (c : EnrichedChunk) : (c.rename g snapshot).id = g c.id := rfl

@[simp] theorem language_rename (c : EnrichedChunk) : (c.rename g snapshot).language = c.language := rfl

@[simp] theorem dependents_rename (c : EnrichedChunk) :
    (c.rename g snapshot).facets.dependents = c.facets.dependents.map g := rfl

@[simp] theorem relations_rename (c : EnrichedChunk) :
    (c.rename g snapshot).relations = c.relations.map (·.rename g) := rfl

@[simp] theorem context_rename (c : EnrichedChunk) :
    (c.rename g snapshot).context = c.context.map (·.rename g) := rfl

theorem map_id_rename (cs : List EnrichedChunk) :
    (cs.map (·.rename g snapshot)).map (·.id) = (cs.map (·.id)).map g := by
  rw [List.map_map, List.map_map]
  rfl

end EnrichedChunk

theorem EnrichedChunk.rename_rename (f g : Text → Text) (a b : Text) (c : EnrichedChunk) :
    (c.rename g a).rename f b = c.rename (f ∘ g) b := by
  have hcontext (x : ContextInfo) : (x.rename g).rename f = x.rename (f ∘ g) := by
    simp [ContextInfo.rename]
  simp [rename, Relation.rename_rename, hcontext, Function.comp_def]

theorem relabels_rename : Relabels g (·.rename g snapshot) :=
  ⟨fun _ => rfl, fun _ => rfl, fun _ => rfl, fun _ => rfl, fun _ => rfl, fun _ => rfl, fun _ => rfl, fun _ => rfl⟩

/-! ### The graph -/

/-- The neighbours of every node, all renamed. -/
def Adjacency.rename (g : Text → Text) (a : Adjacency) : Adjacency := a.map fun e => (g e.1, e.2.map g)

namespace Adjacency

theorem has_rename (hg : Function.Injective g) (a : Adjacency) (node : Text) :
    (a.rename g).has (g node) = a.has node := by
  rw [has, rename, List.any_map, has]
  congr 1
  funext e
  exact hg.beq_eq

theorem link_rename (hg : Function.Injective g) (a : Adjacency) (node neighbour : Text) :
    (a.rename g).link (g node) (g neighbour) = (a.link node neighbour).rename g := by
  rw [link, rename, List.map_map, link, rename, List.map_map]
  congr 1
  funext e
  simp only [Function.comp_apply, hg.beq_eq, addNew_map hg]
  split <;> rfl

theorem get_rename (hg : Function.Injective g) (a : Adjacency) (node : Text) :
    (a.rename g).get (g node) = (a.get node).map g := by
  have hfind : (a.rename g).find? (·.1 == g node) =
      (a.find? (·.1 == node)).map fun e => (g e.1, e.2.map g) := by
    rw [rename, List.find?_map]
    congr 2
    funext e
    exact hg.beq_eq
  rw [get, hfind, get]
  cases a.find? (·.1 == node) with
  | none => rfl
  | some e => rfl

end Adjacency

namespace RelationGraph

/-- The graph with all nodes renamed. -/
def rename (g : Text → Text) (x : RelationGraph) : RelationGraph where
  nodes := x.nodes.map g
  edges := x.edges.map fun e => ⟨g e.source, g e.target, e.relation.rename g⟩
  successors := x.successors.rename g
  predecessors := x.predecessors.rename g

theorem addNode_rename (hg : Function.Injective g) (x : RelationGraph) (id : Text) :
    (x.rename g).addNode (g id) = (x.addNode id).rename g := by
  rw [addNode, show (x.rename g).successors = x.successors.rename g from rfl, Adjacency.has_rename hg, addNode]
  split
  · rfl
  · simp [rename, Adjacency.rename]

theorem addEdge_rename (hg : Function.Injective g) (x : RelationGraph) (source target : Text) (r : Relation) :
    (x.rename g).addEdge (g source) (g target) (r.rename g) = (x.addEdge source target r).rename g := by
  rw [addEdge, show (x.rename g).successors = x.successors.rename g from rfl,
    show (x.rename g).predecessors = x.predecessors.rename g from rfl, Adjacency.has_rename hg,
    Adjacency.has_rename hg, Adjacency.link_rename hg, Adjacency.link_rename hg, addEdge]
  split
  · simp [rename]
  · rfl

theorem addRelation_rename (hg : Function.Injective g) (id : Text) (x : RelationGraph) (r : Relation) :
    addRelation (g id) (x.rename g) (r.rename g) = (addRelation id x r).rename g := by
  rw [addRelation, show (r.rename g).direction = r.direction from rfl, addRelation]
  split
  · exact addEdge_rename hg x r.target id r
  · exact addEdge_rename hg x id r.target r

theorem addRelations_rename (hg : Function.Injective g) (id : Text) (rs : List Relation) (x : RelationGraph) :
    (rs.map (·.rename g)).foldl (addRelation (g id)) (x.rename g) = (rs.foldl (addRelation id) x).rename g := by
  rw [List.foldl_map]
  exact List.foldl_hom (rename g) (addRelation_rename hg id)

/-- The graph of renamed chunks is the renamed graph. -/
theorem build_rename (hg : Function.Injective g) (held : List (Text × List Relation)) :
    build (held.map fun x => (g x.1, x.2.map (·.rename g))) = (build held).rename g := by
  have hnodes : held.foldl (fun (z : RelationGraph) x => z.addNode (g x.1)) (rename g {}) =
      (held.foldl (fun (z : RelationGraph) x => z.addNode x.1) {}).rename g :=
    List.foldl_hom (rename g) fun z x => addNode_rename hg z x.1
  dsimp only [build]
  rw [List.foldl_map, List.foldl_map, show ({} : RelationGraph) = rename g {} from rfl, hnodes]
  exact List.foldl_hom (rename g) fun z x => addRelations_rename hg x.1 x.2 z

end RelationGraph

end SourceChunks
