import Mathlib.Algebra.BigOperators.Group.List.Lemmas
import Mathlib.Algebra.Ring.Nat
import SourceChunks.Proofs.BatchOrder
import SourceChunks.Proofs.Graphs
import SourceChunks.Relation.Report

/-! Batches and their graphs. Every relation that is found leads to a chunk at another place, an import to
a chunk of another file. So no edge of a batch is without an end, and the graph, which drops edges
without an end, drops none: it counts as many edges as there are relations. -/

namespace SourceChunks

namespace RelationAnalysis

/-! ### Targets -/

/-- What an import means is a chunk of another file. -/
theorem exists_importOf_of_mem {cs : List EnrichedChunk} {e : IndexEntry} {importPath : Text} {rs : List Relation}
    (h : Relation.importsOf (.ofChunks cs) e importPath = .ok rs) {r : Relation} (hr : r ∈ rs) :
    ∃ d ∈ cs, d.path ≠ e.chunk.path ∧ r = Relation.importOf e importPath (.ofChunk d) := by
  by_cases hsegments : (Imports.segments importPath).isEmpty = true
  · rw [Relation.importsOf_of_isEmpty _ e hsegments] at h
    obtain rfl := Except.ok.inj h
    cases hr
  · rw [Relation.importsOf_ofChunks cs e hsegments] at h
    obtain ⟨paths, hpaths, heq⟩ := exists_of_bind_eq_ok h
    obtain rfl := Except.ok.inj heq
    obtain ⟨q, hq, rfl⟩ := List.mem_map.mp hr
    obtain ⟨path, hpath, hq⟩ := List.mem_flatMap.mp hq
    obtain ⟨d, hd, hdpath, rfl⟩ := ChunkIndex.mem_fileEntries ((Relation.meant_sublist e _).subset hq)
    refine ⟨d, hd, ?_, rfl⟩
    rintro hsame
    rw [← (filterM_eq_ok_iff.mp hpaths).2] at hpath
    have haccepts := (List.mem_filter.mp hpath).2
    rw [accepts, Relation.meansFile, if_pos (beq_iff_eq.mpr (hdpath.symm.trans hsame))] at haccepts
    cases haccepts

theorem made_of_mem_importsOf {cs : List EnrichedChunk} {e : IndexEntry} {importPath : Text} {rs : List Relation}
    (h : Relation.importsOf (.ofChunks cs) e importPath = .ok rs) {r : Relation} (hr : r ∈ rs) :
    ∃ d ∈ cs, d.path ≠ e.chunk.path ∧ Relation.Made .imports (.ofChunk d) r := by
  obtain ⟨d, hd, hpath, rfl⟩ := exists_importOf_of_mem h hr
  exact ⟨d, hd, hpath, rfl, List.mem_cons_self⟩

section

variable {s : RelationSettings} {cs : List EnrichedChunk} {found : List (List Relation)} {place : Nat}

theorem made_of_mem_groups {c : EnrichedChunk} (hc : cs[place]? = some c) {pass : RelationPass}
    {gs : List (List Relation)} (h : groups s (.ofChunks cs) place (.ofChunk c) pass = .ok gs) {r : Relation}
    (hr : r ∈ gs.flatten) :
    ∃ j d, j ≠ place ∧ cs[j]? = some d ∧ Relation.Made pass (.ofChunk d) r := by
  by_cases hpass : pass = .imports
  · subst hpass
    obtain ⟨rs, hrs, hr⟩ := List.mem_flatten.mp hr
    obtain ⟨importPath, _, hrs⟩ := exists_of_mem_right (mapM_eq_ok_iff.mp h) hrs
    obtain ⟨d, hd, hpath, hmade⟩ := made_of_mem_importsOf hrs hr
    obtain ⟨j, hj⟩ := List.mem_iff_getElem?.mp hd
    refine ⟨j, d, ?_, hj, hmade⟩
    rintro rfl
    exact hpath (congrArg EnrichedChunk.path (Option.some.inj (hj.symm.trans hc)))
  · rw [groups_of_ne _ _ _ _ hpass] at h
    obtain rfl := Except.ok.inj h
    obtain ⟨q, hq, hmade⟩ := Relation.made_of_mem_ruleGroups hr
    obtain ⟨j, hne, hget⟩ := List.mem_eraseIdx_iff_getElem?.mp hq
    rw [ChunkIndex.ofChunks, List.getElem?_map] at hget
    obtain ⟨d, hd, rfl⟩ := Option.map_eq_some_iff.mp hget
    exact ⟨j, d, hne, hd, hmade⟩

theorem length_of_analyse (h : analyse s cs = .ok found) : found.length = cs.length := by
  have hlength := (mapM_eq_ok_iff.mp h).length_eq
  rw [List.length_zipIdx, ChunkIndex.ofChunks, List.length_map] at hlength
  exact hlength.symm

/-- The relations of a chunk are what is kept of the groups of the passes. -/
theorem exists_groups_of_analyse (h : analyse s cs = .ok found) {rs : List Relation} (hrs : found[place]? = some rs) :
    ∃ c gs, cs[place]? = some c ∧ rs = kept s gs ∧
      List.Forall₂ (fun pass g => groups s (.ofChunks cs) place (.ofChunk c) pass = .ok g) (passes s) gs := by
  obtain ⟨hlt, _⟩ := List.getElem?_eq_some_iff.mp hrs
  rw [length_of_analyse h] at hlt
  have hc := List.getElem?_eq_getElem hlt
  obtain ⟨rs', hrs', hat⟩ := relationsAt_of_analyse h hc
  obtain rfl := Option.some.inj (hrs.symm.trans hrs')
  rw [relationsAt_eq_kept] at hat
  obtain ⟨gs, hgs, heq⟩ := exists_of_bind_eq_ok hat
  exact ⟨_, gs, hc, (Except.ok.inj heq).symm, mapM_eq_ok_iff.mp hgs⟩

theorem mem_kept {gs : List (List (List Relation))} {r : Relation} (hr : r ∈ kept s gs) :
    (∃ g ∈ gs, r ∈ g.flatten) ∧ ¬ r.evidence.confidence.toFloat < s.minConfidence := by
  have hmem := Relation.mem_of_mem_distinctKeys hr
  rw [← List.filter_flatten, List.mem_filter] at hmem
  obtain ⟨hmem, hconfident⟩ := hmem
  obtain ⟨group, hgroup, hr⟩ := List.mem_flatten.mp hmem
  obtain ⟨g, hg, hgroup⟩ := List.mem_flatten.mp hgroup
  exact ⟨⟨g, hg, List.mem_flatten.mpr ⟨group, hgroup, hr⟩⟩, by simpa using hconfident⟩

theorem nodup_keys_kept (gs : List (List (List Relation))) : ((kept s gs).map Relation.key).Nodup := by
  rw [kept, Relation.distinctKeys_eq_foldl]
  exact nodup_keys_foldl_addByKey List.nodup_nil

/-- Every relation found for a chunk bears the marks of a pass and leads to a chunk at another place. -/
theorem made_of_analyse (h : analyse s cs = .ok found) {rs : List Relation} (hrs : found[place]? = some rs)
    {r : Relation} (hr : r ∈ rs) :
    ∃ j d pass, j ≠ place ∧ cs[j]? = some d ∧ Relation.Made pass (.ofChunk d) r := by
  obtain ⟨c, gs, hc, rfl, hgroups⟩ := exists_groups_of_analyse h hrs
  obtain ⟨⟨g, hg, hr⟩, _⟩ := mem_kept hr
  obtain ⟨pass, _, hpass⟩ := exists_of_mem_right hgroups hg
  obtain ⟨j, d, hne, hd, hmade⟩ := made_of_mem_groups hc hpass hr
  exact ⟨j, d, pass, hne, hd, hmade⟩

theorem listed_of_analyse (h : analyse s cs = .ok found) {rs : List Relation} (hrs : rs ∈ found) {r : Relation}
    (hr : r ∈ rs) : r.kind ∈ RelationKind.listed ∧ r.direction ∈ Direction.listed := by
  obtain ⟨place, hrs⟩ := List.mem_iff_getElem?.mp hrs
  obtain ⟨_, _, pass, _, _, hmade⟩ := made_of_analyse h hrs hr
  obtain ⟨hkind, hdirection, _⟩ := Relation.marks_listed pass _ hmade.marked
  exact ⟨hkind, hdirection⟩

theorem confident_of_analyse (h : analyse s cs = .ok found) {rs : List Relation} (hrs : rs ∈ found) {r : Relation}
    (hr : r ∈ rs) : ¬ r.evidence.confidence.toFloat < s.minConfidence := by
  obtain ⟨place, hrs⟩ := List.mem_iff_getElem?.mp hrs
  obtain ⟨_, gs, _, rfl, _⟩ := exists_groups_of_analyse h hrs
  exact (mem_kept hr).2

theorem nodup_keys_of_analyse (h : analyse s cs = .ok found) {rs : List Relation} (hrs : rs ∈ found) :
    (rs.map Relation.key).Nodup := by
  obtain ⟨place, hrs⟩ := List.mem_iff_getElem?.mp hrs
  obtain ⟨_, gs, _, rfl, _⟩ := exists_groups_of_analyse h hrs
  exact nodup_keys_kept gs

/-! ### Graphs -/

/-- The batch with given findings. -/
def batchOf (cs : List EnrichedChunk) (found : List (List Relation)) : Batch :=
  ⟨List.zipWith chunkRelations cs found, .build ((cs.map (·.id)).zip found)⟩

theorem batch_eq_ok_iff {b : Batch} :
    batch s cs = .ok b ↔ ∃ found, analyse s cs = .ok found ∧ b = batchOf cs found := by
  constructor
  · intro h
    obtain ⟨found, hfound, heq⟩ := exists_of_bind_eq_ok h
    exact ⟨found, hfound, (Except.ok.inj heq).symm⟩
  · rintro ⟨found, hfound, rfl⟩
    rw [batch, hfound]
    rfl

theorem length_batchOf (h : analyse s cs = .ok found) : cs.length = (batchOf cs found).chunks.length := by
  rw [batchOf, List.length_zipWith, length_of_analyse h, Nat.min_self]

theorem relations_batchOf (h : analyse s cs = .ok found) : (batchOf cs found).chunks.map (·.relations) = found := by
  rw [batchOf, ← List.map_uncurry_zip_eq_zipWith, List.map_map]
  exact List.map_snd_zip (length_of_analyse h).le

theorem getElem?_batchOf {x : ChunkRelations} (hx : (batchOf cs found).chunks[place]? = some x) :
    ∃ c, cs[place]? = some c ∧ x.id = c.id ∧ found[place]? = some x.relations := by
  obtain ⟨c, rs, hc, hrs, rfl⟩ := List.getElem?_zipWith_eq_some.mp hx
  exact ⟨c, hc, rfl, hrs⟩

theorem map_fst_held (h : analyse s cs = .ok found) : ((cs.map (·.id)).zip found).map (·.1) = cs.map (·.id) := by
  refine List.map_fst_zip ?_
  rw [List.length_map, length_of_analyse h]

/-- The identities of the chunks are the nodes of the graph. -/
theorem nodes_batchOf (h : analyse s cs = .ok found) (hids : (cs.map (·.id)).Nodup) :
    (batchOf cs found).graph.nodes = cs.map (·.id) := by
  rw [batchOf, RelationGraph.nodes_build, map_fst_held h, distinct_of_nodup hids]

theorem edgesOf_held (cs : List EnrichedChunk) (found : List (List Relation)) :
    RelationGraph.edgesOf ((cs.map (·.id)).zip found) =
      (batchOf cs found).chunks.flatMap fun x => x.relations.map (RelationGraph.edgeOf x.id) := by
  rw [batchOf, ← List.map_uncurry_zip_eq_zipWith, List.flatMap_map, RelationGraph.edgesOf, List.zip_map_left,
    List.flatMap_map]
  rfl

/-- The graph drops no edge. -/
theorem edges_batchOf (h : analyse s cs = .ok found) : (batchOf cs found).graph.edges =
    (batchOf cs found).chunks.flatMap fun x => x.relations.map (RelationGraph.edgeOf x.id) := by
  rw [← edgesOf_held, batchOf, RelationGraph.edges_build, List.filter_eq_self, edgesOf_held]
  intro e he
  rw [RelationGraph.connects_iff, RelationGraph.nodes_build, map_fst_held h, mem_distinct, mem_distinct]
  obtain ⟨x, hx, he⟩ := List.mem_flatMap.mp he
  obtain ⟨r, hr, rfl⟩ := List.mem_map.mp he
  obtain ⟨i, hx⟩ := List.mem_iff_getElem?.mp hx
  obtain ⟨c, hc, hid, hrs⟩ := getElem?_batchOf hx
  obtain ⟨j, d, _, _, hd, hmade⟩ := made_of_analyse h hrs hr
  have hsource : x.id ∈ cs.map (·.id) := hid ▸ List.mem_map_of_mem (List.mem_of_getElem? hc)
  have htarget : r.target ∈ cs.map (·.id) := hmade.target ▸ List.mem_map_of_mem (List.mem_of_getElem? hd)
  unfold RelationGraph.edgeOf
  split
  · exact ⟨htarget, hsource⟩
  · exact ⟨hsource, htarget⟩

end

/-! ### Counts -/

theorem sum_count_distinct {α : Type} [DecidableEq α] (xs : List α) :
    ((distinct xs).map fun x => xs.count x).sum = xs.length := by
  rw [((distinct_perm_dedup xs).map _).sum_eq, List.sum_map_count_dedup_eq_length]

/-- The listed kinds have different tags. -/
theorem tag_injOn_listed {k l : RelationKind} (hk : k ∈ RelationKind.listed) (hl : l ∈ RelationKind.listed)
    (h : k.tag = l.tag) : k = l := by
  have hall : ∀ k ∈ RelationKind.listed, ∀ l ∈ RelationKind.listed, k.tag = l.tag → k = l := by decide
  exact hall k hk l hl h

/-- What a batch says about itself: the edges of the graph, the relations and the relations of each kind are
counted to the same number. -/
structure Batch.Counts (b : Batch) (n : Nat) : Prop where
  edges : b.graph.statistics.field? "edge_count" = some (.int n)
  relations : b.summary.field? "total_relationships" = some (.int n)
  kinds : ∃ counts : List (Text × Nat),
    b.summary.field? "relationship_types" = some (.record (counts.map fun k => (k.1, .int k.2))) ∧
      (counts.map (·.1)).Nodup ∧ (counts.map (·.2)).sum = n

theorem Batch.counts_of_edges {b : Batch} (hedges : b.graph.edges.map (·.relation) = b.relations)
    (hkinds : ∀ r ∈ b.relations, r.kind ∈ RelationKind.listed) : b.Counts b.relations.length := by
  have hlength : b.graph.edges.length = b.relations.length := by rw [← hedges, List.length_map]
  refine ⟨?_, rfl, b.kindCounts.map fun k => (k.1.tag, k.2), ?_, ?_, ?_⟩
  · rw [← hlength]
    rfl
  · rw [List.map_map]
    rfl
  · rw [List.map_map, Batch.kindCounts, List.map_map]
    refine List.Nodup.map_on ?_ (nodup_distinct _)
    have hlisted : ∀ k ∈ distinct (b.relations.map (·.kind)), k ∈ RelationKind.listed := by
      intro k hk
      obtain ⟨r, hr, rfl⟩ := List.mem_map.mp (mem_distinct.mp hk)
      exact hkinds r hr
    exact fun k hk l hl => tag_injOn_listed (hlisted k hk) (hlisted l hl)
  · rw [List.map_map, Batch.kindCounts, List.map_map, ← List.length_map (·.kind)]
    exact sum_count_distinct _

/-- The relations of a batch are complete, and the graph shows all of them. -/
structure Batch.Faithful (s : RelationSettings) (cs : List EnrichedChunk) (b : Batch) : Prop where
  found : analyse s cs = .ok (b.chunks.map (·.relations))
  targets : ∀ (place : Nat) (x : ChunkRelations), b.chunks[place]? = some x → ∀ r ∈ x.relations,
    r.target ≠ x.id ∧ ∃ (q : Nat) (d : EnrichedChunk), q ≠ place ∧ cs[q]? = some d ∧ r.target = d.id
  keys : ∀ x ∈ b.chunks, (x.relations.map Relation.key).Nodup
  confident : ∀ x ∈ b.chunks, ∀ r ∈ x.relations, ¬ r.evidence.confidence.toFloat < s.minConfidence
  nodes : b.graph.nodes = cs.map (·.id)
  edges : b.graph.edges = b.chunks.flatMap fun x => x.relations.map (RelationGraph.edgeOf x.id)
  counts : b.Counts (b.chunks.map (·.relations.length)).sum

theorem map_relation_edges (xs : List ChunkRelations) :
    (xs.flatMap fun x => x.relations.map (RelationGraph.edgeOf x.id)).map (·.relation) = xs.flatMap (·.relations) := by
  simp [List.map_flatMap, Function.comp_def]

/-- If the analysis of chunks with distinct identities succeeds, every relation leads to another chunk of the
batch, none is there twice or below the confidence that is asked for, and none is missing in the graph, whose
nodes are the chunks in order. -/
theorem batch_faithful (s : RelationSettings) {cs : List EnrichedChunk} (hids : (cs.map (·.id)).Nodup) {b : Batch}
    (h : batch s cs = .ok b) : b.Faithful s cs := by
  obtain ⟨found, hfound, rfl⟩ := batch_eq_ok_iff.mp h
  have hrelations := relations_batchOf hfound
  have hmem : ∀ x ∈ (batchOf cs found).chunks, x.relations ∈ found := by
    intro x hx
    rw [← hrelations]
    exact List.mem_map_of_mem hx
  have hedges := edges_batchOf hfound
  constructor
  case found => rw [hrelations, hfound]
  case targets =>
    intro place x hx r hr
    obtain ⟨c, hc, hid, hrs⟩ := getElem?_batchOf hx
    obtain ⟨q, d, _, hne, hd, hmade⟩ := made_of_analyse hfound hrs hr
    refine ⟨?_, q, d, hne, hd, hmade.target⟩
    intro hself
    have hsame : d.id = c.id := hmade.target.symm.trans (hself.trans hid)
    exact hne (place_eq_of_nodup_map hids hd hc hsame)
  case keys => exact fun x hx => nodup_keys_of_analyse hfound (hmem x hx)
  case confident => exact fun x hx r hr => confident_of_analyse hfound (hmem x hx) hr
  case nodes => exact nodes_batchOf hfound hids
  case edges => exact hedges
  case counts =>
    rw [← List.length_flatMap]
    refine Batch.counts_of_edges ?_ ?_
    · rw [hedges, map_relation_edges, Batch.relations]
    · intro r hr
      obtain ⟨x, hx, hr⟩ := List.mem_flatMap.mp hr
      exact (listed_of_analyse hfound (hmem x hx) hr).1

theorem batch_faithful_importers :
    (importers.map (·.id)).Nodup ∧ ∃ b, batch {} importers = .ok b ∧ b.Faithful {} importers := by
  have hids : (importers.map (·.id)).Nodup := by decide
  have hnamed : ∀ c ∈ importers, Named c.path := by
    simp only [importers, List.forall_mem_cons, List.not_mem_nil, false_implies, implies_true, and_true, Named]
    decide
  obtain ⟨found, hfound⟩ := exists_analyse_of_named {} hnamed
  have hbatch := batch_eq_ok_iff.mpr ⟨found, hfound, rfl⟩
  exact ⟨hids, _, hbatch, batch_faithful {} hids hbatch⟩

end RelationAnalysis

end SourceChunks
