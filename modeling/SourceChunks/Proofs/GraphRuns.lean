import Mathlib.Algebra.BigOperators.Group.List.Lemmas
import Mathlib.Algebra.Ring.Nat
import Mathlib.Data.Prod.Basic
import SourceChunks.Proofs.Graphs

/-! Graphs that are made call by call. A call adds a node or an edge, in any order. One call keeps a graph
consistent, and so does a run of calls from the empty graph: its nodes are those of the calls, and its edges are
those of the calls that came when both ends were there. A table of neighbours holds each pair that it shows
once, so that the degrees count every pair of neighbours twice. -/

namespace SourceChunks

/-! ### Counting neighbours -/

namespace Adjacency

variable {a : Adjacency}

theorem get_of_not_mem {node : Text} (h : node ∉ a.map (·.1)) : a.get node = [] := by
  induction a with
  | nil => rfl
  | cons entry a ih =>
    rw [List.map_cons, List.mem_cons, not_or] at h
    rw [get_cons, if_neg (Ne.symm h.1), ih h.2]

/-- The pairs of nodes and their neighbours. -/
def pairsOf (a : Adjacency) (nodes : List Text) : List (Text × Text) :=
  nodes.flatMap fun u => (a.get u).map fun v => (u, v)

theorem mem_pairsOf {nodes : List Text} {u v : Text} : (u, v) ∈ a.pairsOf nodes ↔ u ∈ nodes ∧ v ∈ a.get u := by
  simp only [pairsOf, List.mem_flatMap, List.mem_map, Prod.mk.injEq]
  constructor
  · rintro ⟨_, hu, _, hv, rfl, rfl⟩
    exact ⟨hu, hv⟩
  · rintro ⟨hu, hv⟩
    exact ⟨u, hu, v, hv, rfl, rfl⟩

namespace Shows

variable {nodes : List Text} {pairs : List (Text × Text)} (h : a.Shows nodes pairs)

include h

theorem mem_of_mem_get {u v : Text} (hv : v ∈ a.get u) : u ∈ nodes := by
  by_contra hu
  rw [← h.keys] at hu
  rw [get_of_not_mem hu] at hv
  cases hv

theorem nodup_pairsOf (hnodes : nodes.Nodup) : (a.pairsOf nodes).Nodup := by
  rw [pairsOf, List.nodup_flatMap]
  constructor
  · intro u _
    exact (h.nodup u).map fun _ _ heq => (Prod.mk.inj heq).2
  · refine hnodes.imp ?_
    rintro u w hne ⟨x, y⟩ hu hw
    obtain ⟨_, _, hx⟩ := List.mem_map.mp hu
    obtain ⟨_, _, hx'⟩ := List.mem_map.mp hw
    exact hne ((Prod.mk.inj hx).1.trans (Prod.mk.inj hx').1.symm)

/-- A table lists as many neighbours as there are different pairs. -/
theorem sum_lengths (hnodes : nodes.Nodup) :
    (nodes.map fun u => (a.get u).length).sum = (distinct pairs).length := by
  have hperm : (a.pairsOf nodes).Perm (distinct pairs) := by
    rw [List.perm_ext_iff_of_nodup (h.nodup_pairsOf hnodes) (nodup_distinct pairs)]
    rintro ⟨u, v⟩
    rw [mem_pairsOf, mem_distinct, ← h.mem_get]
    exact ⟨fun huv => huv.2, fun hv => ⟨h.mem_of_mem_get hv, hv⟩⟩
  rw [← hperm.length_eq, pairsOf, List.length_flatMap]
  simp only [List.length_map]

end Shows

end Adjacency

namespace RelationGraph

/-- The ends of the edges, with repetitions. -/
def ends (g : RelationGraph) : List (Text × Text) := g.edges.map fun e => (e.source, e.target)

theorem mem_ends {g : RelationGraph} {u v : Text} : (u, v) ∈ g.ends ↔ ∃ e ∈ g.edges, e.source = u ∧ e.target = v := by
  simp [ends]

namespace Consistent

variable {g : RelationGraph} (h : g.Consistent)

include h

theorem mem_predecessors {u v : Text} : u ∈ g.predecessors.get v ↔ (u, v) ∈ g.ends := by
  rw [h.predecessors.mem_get, mem_ends]
  simp [and_comm]

/-- Every pair of neighbours counts at both of its ends. -/
theorem sum_degrees : g.degrees.sum = 2 * (distinct g.ends).length := by
  have hswap : (g.edges.map fun e => (e.target, e.source)) = g.ends.map Prod.swap := by
    rw [ends, List.map_map]
    rfl
  have hbehind := h.predecessors.sum_lengths h.nodes
  rw [hswap, distinct_map Prod.swap_injective, List.length_map] at hbehind
  calc g.degrees.sum
      = (g.nodes.map fun u => (g.successors.get u).length + (g.predecessors.get u).length).sum := rfl
    _ = (g.nodes.map fun u => (g.successors.get u).length).sum +
          (g.nodes.map fun u => (g.predecessors.get u).length).sum := List.sum_map_add
    _ = (distinct g.ends).length + (distinct g.ends).length := by
      rw [hbehind, h.successors.sum_lengths h.nodes]
      rfl
    _ = 2 * (distinct g.ends).length := (Nat.two_mul _).symm

end Consistent

/-! ### Calls -/

/-- A call to a graph. -/
inductive Call where
  | node (id : Text)
  | edge (e : GraphEdge)

namespace Call

/-- The node that a call adds. -/
def node? : Call → Option Text
  | node id => some id
  | edge _ => none

/-- The edges of calls to a graph with known nodes: an edge counts if both ends are known when it comes. -/
def edgesFrom (known : List Text) : List Call → List GraphEdge
  | [] => []
  | node id :: calls => edgesFrom (addNew known id) calls
  | edge e :: calls =>
    if e.source ∈ known ∧ e.target ∈ known then e :: edgesFrom known calls else edgesFrom known calls

end Call

/-- The graph after a call. -/
def after (g : RelationGraph) : Call → RelationGraph
  | .node id => g.addNode id
  | .edge e => g.addEdge e.source e.target e.relation

/-- The graph that calls make of the empty one. -/
def ofCalls (calls : List Call) : RelationGraph := calls.foldl after {}

theorem edges_addNode (g : RelationGraph) (id : Text) : (g.addNode id).edges = g.edges := by
  rw [addNode]
  split <;> rfl

theorem nodes_addEdge (g : RelationGraph) (source target : Text) (r : Relation) :
    (g.addEdge source target r).nodes = g.nodes := by
  rw [addEdge]
  split <;> rfl

namespace Consistent

variable {g : RelationGraph}

/-- One call keeps a graph consistent. -/
protected theorem after (h : g.Consistent) (call : Call) : (g.after call).Consistent := by
  cases call with
  | node id => exact h.addNode id
  | edge e => exact h.addEdge e.source e.target e.relation

/-- What a run of calls makes of a graph: it adds the nodes that are not there, and the edges between nodes that are
there by then. -/
theorem run (h : g.Consistent) (calls : List Call) :
    (calls.foldl RelationGraph.after g).Consistent ∧
      (calls.foldl RelationGraph.after g).nodes = (calls.filterMap Call.node?).foldl addNew g.nodes ∧
      (calls.foldl RelationGraph.after g).edges = g.edges ++ Call.edgesFrom g.nodes calls := by
  induction calls generalizing g with
  | nil => exact ⟨h, rfl, (List.append_nil _).symm⟩
  | cons call calls ih =>
    obtain ⟨hconsistent, hnodes, hedges⟩ := ih (h.after call)
    refine ⟨hconsistent, ?_, ?_⟩
    · rw [List.foldl_cons, hnodes]
      cases call with
      | node id => rw [RelationGraph.after, h.nodes_addNode, List.filterMap_cons_some (f := Call.node?) rfl, List.foldl_cons]
      | edge e => rw [RelationGraph.after, nodes_addEdge, List.filterMap_cons_none rfl]
    · rw [List.foldl_cons, hedges]
      cases call with
      | node id => rw [RelationGraph.after, edges_addNode, h.nodes_addNode, Call.edgesFrom]
      | edge e =>
        rw [RelationGraph.after, nodes_addEdge, Call.edgesFrom]
        split
        case isTrue hends => rw [h.addEdge_of_mem hends, List.append_assoc, List.singleton_append]
        case isFalse hends => rw [h.addEdge_of_not_mem hends]

end Consistent

/-! ### Runs -/

/-- What calls make of the empty graph. The three records of the edges agree: `v` is listed behind `u` exactly if `u`
is listed before `v`, and exactly if there is an edge from `u` to `v`. -/
structure MadeBy (calls : List Call) (g : RelationGraph) : Prop where
  nodes_eq : g.nodes = distinct (calls.filterMap Call.node?)
  edges_eq : g.edges = Call.edgesFrom [] calls
  nodup : g.nodes.Nodup
  keys : g.successors.map (·.1) = g.nodes ∧ g.predecessors.map (·.1) = g.nodes
  nodup_neighbours : ∀ u, (g.successors.get u).Nodup ∧ (g.predecessors.get u).Nodup
  mirrors : ∀ u v, v ∈ g.successors.get u ↔ u ∈ g.predecessors.get v
  shows : ∀ u v, u ∈ g.predecessors.get v ↔ ∃ e ∈ g.edges, e.source = u ∧ e.target = v
  unknown : ∀ e : GraphEdge, e.source ∉ g.nodes ∨ e.target ∉ g.nodes → g.after (.edge e) = g
  degrees : g.degrees.sum = 2 * (distinct g.ends).length

/-- Whatever the calls and their order, the graph is made of them and its records agree. -/
theorem ofCalls_madeBy (calls : List Call) : MadeBy calls (ofCalls calls) := by
  obtain ⟨hconsistent, hnodes, hedges⟩ := consistent_empty.run calls
  rw [← ofCalls] at hconsistent hnodes hedges
  constructor
  case nodes_eq => exact hnodes
  case edges_eq => exact hedges
  case nodup => exact hconsistent.nodes
  case keys => exact ⟨hconsistent.successors.keys, hconsistent.predecessors.keys⟩
  case nodup_neighbours => exact fun u => ⟨hconsistent.successors.nodup u, hconsistent.predecessors.nodup u⟩
  case mirrors =>
    intro u v
    rw [hconsistent.mem_predecessors]
    exact hconsistent.successors.mem_get u v
  case shows =>
    intro u v
    rw [hconsistent.mem_predecessors, mem_ends]
  case unknown =>
    intro e hunknown
    exact hconsistent.addEdge_of_not_mem (not_and_or.mpr hunknown) e.relation
  case degrees => exact hconsistent.sum_degrees

end RelationGraph

end SourceChunks
