import SourceChunks.Proofs.Distinct
import SourceChunks.Relation.Graph

/-! Graphs that stay consistent. A table of neighbours shows a list of pairs of nodes. Adding a node or an
edge keeps the nodes distinct, and it keeps both tables of the graph such that one shows the edges and the
other one shows them reversed. The graph of a batch has all identities of the batch as nodes, in order, and
every edge whose ends are nodes. -/

namespace SourceChunks

/-! ### Tables of neighbours -/

namespace Adjacency

variable {a : Adjacency}

theorem get_cons (entry : Text × List Text) (node : Text) :
    get (entry :: a) node = if entry.1 = node then entry.2 else a.get node := by
  unfold get
  rw [List.find?_cons]
  by_cases h : entry.1 = node
  · rw [if_pos h, beq_iff_eq.mpr h]
    rfl
  · rw [if_neg h, beq_eq_false_iff_ne.mpr h]

/-- A new node has no neighbours, and those of the others stay. -/
theorem get_append_new (id node : Text) : get (a ++ [(id, [])]) node = a.get node := by
  induction a with
  | nil =>
    rw [List.nil_append, get_cons]
    exact ite_self _
  | cons entry a ih => rw [List.cons_append, get_cons, get_cons, ih]

theorem map_fst_link (node neighbour : Text) : (a.link node neighbour).map (·.1) = a.map (·.1) := by
  rw [link, List.map_map]
  refine List.map_congr_left fun entry _ => ?_
  rw [Function.comp_apply]
  split <;> rfl

theorem link_cons (entry : Text × List Text) (node neighbour : Text) :
    link (entry :: a) node neighbour =
      (if entry.1 = node then (entry.1, addNew entry.2 neighbour) else entry) :: a.link node neighbour := by
  rw [link, List.map_cons, link]
  congr 1
  exact if_congr beq_iff_eq rfl rfl

theorem get_link_of_ne {node other : Text} (h : other ≠ node) (neighbour : Text) :
    (a.link node neighbour).get other = a.get other := by
  induction a with
  | nil => rfl
  | cons entry a ih =>
    rw [link_cons, get_cons, get_cons, ih]
    split
    case isTrue heq => rw [if_neg (heq ▸ h.symm), if_neg (heq ▸ h.symm)]
    case isFalse => rfl

theorem get_link_self {node : Text} (h : node ∈ a.map (·.1)) (neighbour : Text) :
    (a.link node neighbour).get node = addNew (a.get node) neighbour := by
  induction a with
  | nil => cases h
  | cons entry a ih =>
    rw [link_cons, get_cons, get_cons]
    split
    case isTrue => rfl
    case isFalse hne => exact ih ((List.mem_cons.mp h).resolve_left (Ne.symm hne))

/-- The table has an entry for every node, and it lists the neighbours that the pairs give, each once. -/
structure Shows (a : Adjacency) (nodes : List Text) (pairs : List (Text × Text)) : Prop where
  keys : a.map (·.1) = nodes
  nodup : ∀ u, (a.get u).Nodup
  mem_get : ∀ u v, v ∈ a.get u ↔ (u, v) ∈ pairs

namespace Shows

variable {nodes : List Text} {pairs : List (Text × Text)}

theorem has_eq (h : a.Shows nodes pairs) (id : Text) : a.has id = nodes.contains id := by
  rw [Bool.eq_iff_iff, List.contains_iff_mem, ← h.keys]
  simp [has]

theorem append_new (h : a.Shows nodes pairs) (id : Text) : Shows (a ++ [(id, [])]) (nodes ++ [id]) pairs where
  keys := by rw [List.map_append, h.keys, List.map_singleton]
  nodup u := by
    rw [get_append_new]
    exact h.nodup u
  mem_get u v := by
    rw [get_append_new]
    exact h.mem_get u v

theorem link (h : a.Shows nodes pairs) {u : Text} (hu : u ∈ nodes) (v : Text) :
    (a.link u v).Shows nodes (pairs ++ [(u, v)]) := by
  have hkey : u ∈ a.map (·.1) := h.keys ▸ hu
  refine ⟨by rw [map_fst_link, h.keys], ?_, ?_⟩
  · intro w
    by_cases hw : w = u
    · rw [hw, get_link_self hkey]
      exact nodup_addNew (h.nodup u) v
    · rw [get_link_of_ne hw]
      exact h.nodup w
  · intro w x
    rw [List.mem_append, List.mem_singleton, Prod.mk.injEq, ← h.mem_get]
    by_cases hw : w = u
    · rw [hw, get_link_self hkey, mem_addNew]
      simp
    · rw [get_link_of_ne hw]
      simp [hw]

end Shows

end Adjacency

/-! ### Consistency -/

namespace RelationGraph

/-- Every node is there once, one table shows the edges, and the other one shows them reversed. -/
structure Consistent (g : RelationGraph) : Prop where
  nodes : g.nodes.Nodup
  successors : g.successors.Shows g.nodes (g.edges.map fun e => (e.source, e.target))
  predecessors : g.predecessors.Shows g.nodes (g.edges.map fun e => (e.target, e.source))

theorem consistent_empty : Consistent {} := by
  have hempty : Adjacency.Shows [] [] [] := ⟨rfl, fun _ => List.nodup_nil, by simp [Adjacency.get]⟩
  exact ⟨List.nodup_nil, hempty, hempty⟩

namespace Consistent

variable {g : RelationGraph} (h : g.Consistent)

include h

/-- A node is added unless it is there. -/
theorem nodes_addNode (id : Text) : (g.addNode id).nodes = addNew g.nodes id := by
  rw [RelationGraph.addNode, h.successors.has_eq, addNew]
  split <;> rfl

protected theorem addNode (id : Text) : (g.addNode id).Consistent := by
  have hnodup := nodup_addNew h.nodes id
  rw [← h.nodes_addNode id, RelationGraph.addNode] at hnodup
  rw [RelationGraph.addNode]
  split at hnodup
  case isTrue hknown =>
    rw [if_pos hknown]
    exact h
  case isFalse hknown =>
    rw [if_neg hknown]
    exact ⟨hnodup, h.successors.append_new id, h.predecessors.append_new id⟩

/-- An edge between nodes is added. -/
theorem addEdge_of_mem {source target : Text} (hends : source ∈ g.nodes ∧ target ∈ g.nodes) (r : Relation) :
    g.addEdge source target r =
      { g with edges := g.edges ++ [⟨source, target, r⟩], successors := g.successors.link source target,
               predecessors := g.predecessors.link target source } := by
  rw [RelationGraph.addEdge, if_pos]
  rwa [h.successors.has_eq, h.successors.has_eq, Bool.and_eq_true, List.contains_iff_mem, List.contains_iff_mem]

/-- An edge with an end that is no node changes nothing. -/
theorem addEdge_of_not_mem {source target : Text} (hends : ¬ (source ∈ g.nodes ∧ target ∈ g.nodes)) (r : Relation) :
    g.addEdge source target r = g := by
  rw [RelationGraph.addEdge, if_neg]
  rwa [h.successors.has_eq, h.successors.has_eq, Bool.and_eq_true, List.contains_iff_mem, List.contains_iff_mem]

protected theorem addEdge (source target : Text) (r : Relation) : (g.addEdge source target r).Consistent := by
  by_cases hends : source ∈ g.nodes ∧ target ∈ g.nodes
  · rw [h.addEdge_of_mem hends]
    refine ⟨h.nodes, ?_, ?_⟩
    · rw [List.map_append]
      exact h.successors.link hends.1 target
    · rw [List.map_append]
      exact h.predecessors.link hends.2 source
  · rwa [h.addEdge_of_not_mem hends]

end Consistent

/-! ### The graph of a batch -/

/-- The edge of a relation that a chunk holds. -/
def edgeOf (id : Text) (r : Relation) : GraphEdge :=
  if r.direction = .incoming then ⟨r.target, id, r⟩ else ⟨id, r.target, r⟩

theorem edgeOf_of_eq {r : Relation} (h : r.direction = .incoming) (id : Text) : edgeOf id r = ⟨r.target, id, r⟩ :=
  if_pos h

theorem edgeOf_of_ne {r : Relation} (h : r.direction ≠ .incoming) (id : Text) : edgeOf id r = ⟨id, r.target, r⟩ :=
  if_neg h

@[simp] theorem relation_edgeOf (id : Text) (r : Relation) : (edgeOf id r).relation = r := by
  unfold edgeOf
  split <;> rfl

/-- The edges of the relations that chunks hold. -/
def edgesOf (held : List (Text × List Relation)) : List GraphEdge := held.flatMap fun x => x.2.map (edgeOf x.1)

/-- The graph with an edge. -/
def insertEdge (g : RelationGraph) (e : GraphEdge) : RelationGraph := g.addEdge e.source e.target e.relation

/-- Both ends of the edge are nodes. -/
def connects (g : RelationGraph) (e : GraphEdge) : Bool := g.nodes.contains e.source && g.nodes.contains e.target

theorem connects_iff {g : RelationGraph} {e : GraphEdge} :
    g.connects e = true ↔ e.source ∈ g.nodes ∧ e.target ∈ g.nodes := by
  simp [connects]

theorem addRelation_eq (id : Text) (g : RelationGraph) (r : Relation) :
    addRelation id g r = g.insertEdge (edgeOf id r) := by
  unfold addRelation insertEdge edgeOf
  split <;> rfl

theorem build_eq (held : List (Text × List Relation)) :
    build held = (edgesOf held).foldl insertEdge ((held.map (·.1)).foldl addNode {}) := by
  have hadd (g : RelationGraph) (x : Text × List Relation) :
      x.2.foldl (addRelation x.1) g = (x.2.map (edgeOf x.1)).foldl insertEdge g := by
    rw [List.foldl_map, funext fun g => funext (addRelation_eq x.1 g)]
  rw [build, edgesOf, List.foldl_flatMap, List.foldl_map, ← funext fun g => funext (hadd g)]

namespace Consistent

variable {g : RelationGraph}

/-- A run of nodes adds those that are not there, and no edge. -/
theorem addNodes (h : g.Consistent) (ids : List Text) :
    (ids.foldl RelationGraph.addNode g).Consistent ∧
      (ids.foldl RelationGraph.addNode g).nodes = ids.foldl addNew g.nodes ∧
      (ids.foldl RelationGraph.addNode g).edges = g.edges := by
  induction ids generalizing g with
  | nil => exact ⟨h, rfl, rfl⟩
  | cons id ids ih =>
    obtain ⟨hconsistent, hnodes, hedges⟩ := ih (h.addNode id)
    refine ⟨hconsistent, ?_, ?_⟩
    · rw [List.foldl_cons, hnodes, h.nodes_addNode, List.foldl_cons]
    · rw [List.foldl_cons, hedges, RelationGraph.addNode]
      split <;> rfl

/-- A run of edges keeps the nodes and leaves out the edges whose ends are no nodes. -/
theorem insertEdges (h : g.Consistent) (es : List GraphEdge) :
    (es.foldl insertEdge g).Consistent ∧ (es.foldl insertEdge g).nodes = g.nodes ∧
      (es.foldl insertEdge g).edges = g.edges ++ es.filter g.connects := by
  induction es generalizing g with
  | nil => exact ⟨h, rfl, (List.append_nil _).symm⟩
  | cons e es ih =>
    obtain ⟨hconsistent, hnodes, hedges⟩ := ih (h.addEdge e.source e.target e.relation)
    rw [List.foldl_cons, insertEdge]
    by_cases hends : e.source ∈ g.nodes ∧ e.target ∈ g.nodes
    · rw [h.addEdge_of_mem hends] at hconsistent hnodes hedges ⊢
      refine ⟨hconsistent, hnodes, ?_⟩
      rw [hedges, List.filter_cons, if_pos (connects_iff.mpr hends), List.append_assoc]
      rfl
    · rw [h.addEdge_of_not_mem hends] at hconsistent hnodes hedges ⊢
      rw [List.filter_cons, if_neg (mt connects_iff.mp hends)]
      exact ⟨hconsistent, hnodes, hedges⟩

end Consistent

theorem consistent_build (held : List (Text × List Relation)) : (build held).Consistent := by
  rw [build_eq]
  exact ((consistent_empty.addNodes _).1.insertEdges _).1

theorem nodes_build (held : List (Text × List Relation)) : (build held).nodes = distinct (held.map (·.1)) := by
  obtain ⟨hconsistent, hnodes, _⟩ := consistent_empty.addNodes (held.map (·.1))
  rw [build_eq, (hconsistent.insertEdges _).2.1, hnodes, distinct]

theorem edges_build (held : List (Text × List Relation)) :
    (build held).edges = (edgesOf held).filter (build held).connects := by
  obtain ⟨hconsistent, _, hbare⟩ := consistent_empty.addNodes (held.map (·.1))
  obtain ⟨_, hnodes, hedges⟩ := hconsistent.insertEdges (edgesOf held)
  rw [← build_eq] at hnodes hedges
  rw [hedges, hbare, List.nil_append]
  refine List.filter_congr fun e _ => ?_
  rw [connects, connects, hnodes]

/-- What comes before a node is a node. -/
theorem mem_of_mem_predecessors {held : List (Text × List Relation)} {u v : Text}
    (hu : u ∈ (build held).predecessors.get v) : u ∈ held.map (·.1) := by
  rw [(consistent_build held).predecessors.mem_get] at hu
  obtain ⟨e, he, heq⟩ := List.mem_map.mp hu
  obtain ⟨_, rfl⟩ := Prod.mk.inj heq
  rw [edges_build] at he
  have hsource := (connects_iff.mp (List.mem_filter.mp he).2).1
  rwa [nodes_build, mem_distinct] at hsource

end RelationGraph

end SourceChunks
