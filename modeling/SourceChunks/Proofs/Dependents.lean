import SourceChunks.Proofs.EnrichedTwice

/-! Dependents as the inverse of relations. The dependents of an enriched chunk come from the graph of the
batch, its relations from the analysis. The graph shows the edges of all relations reversed, so that a
chunk depends on another one if and only if a relation that one of them holds says so. -/

namespace SourceChunks

namespace RelationGraph

/-- The identities and relations of chunks. -/
def holdings (cs : List EnrichedChunk) : List (Text × List Relation) := cs.map fun c => (c.id, c.relations)

variable {cs : List EnrichedChunk}

theorem mem_edgesOf_holdings {e : GraphEdge} :
    e ∈ edgesOf (holdings cs) ↔ ∃ c ∈ cs, ∃ r ∈ c.relations, edgeOf c.id r = e := by
  rw [edgesOf, holdings, List.flatMap_map, List.mem_flatMap]
  simp only [List.mem_map]

/-- What comes before a node is the source of an edge to it. -/
theorem mem_predecessors_build {held : List (Text × List Relation)}
    (hall : (build held).edges = edgesOf held) {u v : Text} :
    u ∈ (build held).predecessors.get v ↔ ∃ e ∈ edgesOf held, e.source = u ∧ e.target = v := by
  rw [(consistent_build held).predecessors.mem_get, hall, List.mem_map]
  simp only [Prod.mk.injEq, and_comm]

end RelationGraph

namespace Enrichment

open RelationGraph

/-- The dependents of a chunk are the chunks from which a relation leads to it. -/
structure Inverse (cs : List EnrichedChunk) : Prop where
  nodup : ∀ v ∈ cs, v.facets.dependents.Nodup
  known : ∀ v ∈ cs, ∀ t ∈ v.facets.dependents, ∃ u ∈ cs, t = u.id
  mem_iff : ∀ u ∈ cs, ∀ v ∈ cs, u.id ∈ v.facets.dependents ↔
    (∃ r ∈ u.relations, r.direction ∈ [Direction.outgoing, .bidirectional] ∧ r.target = v.id) ∨
      ∃ r ∈ v.relations, r.direction = .incoming ∧ r.target = u.id

theorem mem_outward_iff {d : Direction} (h : d ∈ Direction.listed) :
    d ∈ [Direction.outgoing, .bidirectional] ↔ d ≠ .incoming := by
  revert d
  decide

/-- The graph of chunks inverts the relations that they hold. -/
theorem inverse_of_graph {cs : List EnrichedChunk} (hids : (cs.map (·.id)).Nodup)
    (hlisted : ∀ c ∈ cs, ∀ r ∈ c.relations, r.direction ∈ Direction.listed)
    (hall : (build (holdings cs)).edges = edgesOf (holdings cs))
    (hdependents : ∀ v ∈ cs, v.facets.dependents = distinct ((build (holdings cs)).predecessors.get v.id)) :
    Inverse cs := by
  have hmem : ∀ v ∈ cs, ∀ t, t ∈ v.facets.dependents ↔
      ∃ e ∈ edgesOf (holdings cs), e.source = t ∧ e.target = v.id := by
    intro v hv t
    rw [hdependents v hv, mem_distinct, mem_predecessors_build hall]
  constructor
  case nodup =>
    intro v hv
    rw [hdependents v hv]
    exact nodup_distinct _
  case known =>
    intro v hv t ht
    rw [hdependents v hv, mem_distinct] at ht
    have hnode := mem_of_mem_predecessors ht
    rw [holdings, List.map_map] at hnode
    obtain ⟨u, hu, heq⟩ := List.mem_map.mp hnode
    exact ⟨u, hu, heq.symm⟩
  case mem_iff =>
    intro u hu v hv
    rw [hmem v hv]
    constructor
    · rintro ⟨e, he, hsource, htarget⟩
      obtain ⟨c, hc, r, hr, rfl⟩ := mem_edgesOf_holdings.mp he
      by_cases hincoming : r.direction = .incoming
      · rw [edgeOf_of_eq hincoming] at hsource htarget
        obtain rfl := List.inj_on_of_nodup_map hids hc hv htarget
        exact .inr ⟨r, hr, hincoming, hsource⟩
      · rw [edgeOf_of_ne hincoming] at hsource htarget
        obtain rfl := List.inj_on_of_nodup_map hids hc hu hsource
        exact .inl ⟨r, hr, (mem_outward_iff (hlisted c hc r hr)).mpr hincoming, htarget⟩
    · rintro (⟨r, hr, hdirection, htarget⟩ | ⟨r, hr, hincoming, htarget⟩)
      · have hne := (mem_outward_iff (hlisted u hu r hr)).mp hdirection
        refine ⟨edgeOf u.id r, mem_edgesOf_holdings.mpr ⟨u, hu, r, hr, rfl⟩, ?_⟩
        rw [edgeOf_of_ne hne]
        exact ⟨rfl, htarget⟩
      · refine ⟨edgeOf v.id r, mem_edgesOf_holdings.mpr ⟨v, hv, r, hr, rfl⟩, ?_⟩
        rw [edgeOf_of_eq hincoming]
        exact ⟨htarget, rfl⟩

/-! ### Enriched chunks -/

/-- The chunk has no relations and no dependents yet. -/
def Bare (c : EnrichedChunk) : Prop := c.relations = [] ∧ c.facets.dependents = []

section

open RelationAnalysis

variable {minConfidence : Float} {cs : List EnrichedChunk} {file : Text} {found : List (List Relation)}

theorem exists_of_enrich (hne : cs ≠ []) {out : List EnrichedChunk} {log : List LogEntry}
    (h : enrich minConfidence cs file = .ok (out, log)) :
    ∃ found, analyse { minConfidence := minConfidence } cs = .ok found ∧
      out = enrichWith file cs (batchOf cs found) := by
  have hnonempty : ¬ cs.isEmpty = true := by rwa [List.isEmpty_iff]
  unfold enrich at h
  rw [if_neg hnonempty] at h
  obtain ⟨b, hb, heq⟩ := exists_of_bind_eq_ok h
  obtain ⟨found, hfound, rfl⟩ := batch_eq_ok_iff.mp hb
  exact ⟨found, hfound, (congrArg Prod.fst (Except.ok.inj heq)).symm⟩

/-- A bare chunk gets the relations found for it and what comes before it in the graph. -/
theorem getElem?_enrichWith_bare (hbare : ∀ c ∈ cs, Bare c) (hkeys : ∀ rs ∈ found, (rs.map Relation.key).Nodup)
    {i : Nat} {v : EnrichedChunk} (hv : (enrichWith file cs (batchOf cs found))[i]? = some v) :
    found[i]? = some v.relations ∧
      v.facets.dependents = distinct ((batchOf cs found).graph.predecessors.get v.id) := by
  obtain ⟨c, x, hc, hx, rfl⟩ := List.getElem?_zipWith_eq_some.mp hv
  obtain ⟨_, rs, _, hrs, rfl⟩ := List.getElem?_zipWith_eq_some.mp hx
  obtain ⟨hrelations, hdependents⟩ := hbare c (List.mem_of_getElem? hc)
  constructor
  · show found[i]? = some (Relation.distinctKeys (c.relations ++ rs))
    rw [hrelations, List.nil_append, Relation.distinctKeys_of_nodup (hkeys rs (List.mem_of_getElem? hrs)), hrs]
  · show distinct (c.facets.dependents ++ (batchOf cs found).graph.predecessors.get c.id) = _
    rw [hdependents]
    rfl

/-- The relations of bare chunks are those that are found. -/
theorem relations_enrichWith_bare (file : Text) (hbare : ∀ c ∈ cs, Bare c)
    (hfound : analyse { minConfidence := minConfidence } cs = .ok found) :
    (enrichWith file cs (batchOf cs found)).map (·.relations) = found := by
  have hlength : (enrichWith file cs (batchOf cs found)).length = found.length := by
    rw [enrichWith, List.length_zipWith, ← length_batchOf hfound, Nat.min_self, length_of_analyse hfound]
  refine List.ext_getElem? fun i => ?_
  rw [List.getElem?_map]
  cases hv : (enrichWith file cs (batchOf cs found))[i]? with
  | none =>
    rw [List.getElem?_eq_none_iff, hlength] at hv
    rw [List.getElem?_eq_none hv]
    rfl
  | some v => exact (getElem?_enrichWith_bare hbare (fun _ => nodup_keys_of_analyse hfound) hv).1.symm

theorem enrichWith_inverse (hids : (cs.map (·.id)).Nodup) (hbare : ∀ c ∈ cs, Bare c)
    (hfound : analyse { minConfidence := minConfidence } cs = .ok found) :
    Inverse (enrichWith file cs (batchOf cs found)) := by
  have hsame : (enrichWith file cs (batchOf cs found)).map (·.id) = cs.map (·.id) :=
    map_enrichWith file (fun _ => rfl) (length_batchOf hfound)
  have hrelations := relations_enrichWith_bare file hbare hfound
  have hheld : holdings (enrichWith file cs (batchOf cs found)) = (cs.map (·.id)).zip found := by
    rw [holdings, ← List.zip_map', hsame, hrelations]
  refine inverse_of_graph (hsame ▸ hids) ?_ ?_ ?_
  · intro v hv r hr
    have hmem : v.relations ∈ found := by
      rw [← hrelations]
      exact List.mem_map_of_mem hv
    exact (listed_of_analyse hfound hmem hr).2
  · rw [hheld]
    exact (edges_batchOf hfound).trans (edgesOf_held cs found).symm
  · intro v hv
    obtain ⟨i, hv⟩ := List.mem_iff_getElem?.mp hv
    rw [hheld]
    exact (getElem?_enrichWith_bare hbare (fun _ => nodup_keys_of_analyse hfound) hv).2

end

/-- When chunks with distinct identities that hold no relations are enriched, the dependents of every chunk
are those from which a relation leads to it. Chunks of one file, or of files with names, can be enriched. -/
theorem enrich_dependents (minConfidence : Float) {cs : List EnrichedChunk} (hids : (cs.map (·.id)).Nodup)
    (hbare : ∀ c ∈ cs, Bare c) (file : Text) :
    (∀ out log, enrich minConfidence cs file = .ok (out, log) →
      out.map (·.id) = cs.map (·.id) ∧
        RelationAnalysis.analyse { minConfidence := minConfidence } cs = .ok (out.map (·.relations)) ∧ Inverse out) ∧
      ((∃ path, ∀ c ∈ cs, c.path = path) ∨ (∀ c ∈ cs, RelationAnalysis.Named c.path) →
        ∃ out log, enrich minConfidence cs file = .ok (out, log)) := by
  by_cases hne : cs = []
  · subst hne
    refine ⟨?_, fun _ => ⟨[], [], rfl⟩⟩
    intro out log h
    obtain ⟨rfl, _⟩ := Prod.mk.inj (Except.ok.inj h)
    exact ⟨rfl, rfl, by simp, by simp, by simp⟩
  · constructor
    · intro out log h
      obtain ⟨found, hfound, rfl⟩ := exists_of_enrich hne h
      have hlength := RelationAnalysis.length_batchOf hfound
      refine ⟨map_enrichWith file (fun _ => rfl) hlength, ?_, enrichWith_inverse hids hbare hfound⟩
      rw [relations_enrichWith_bare file hbare hfound, hfound]
    · intro hpaths
      have hanalyse : ∃ found, RelationAnalysis.analyse { minConfidence := minConfidence } cs = .ok found := by
        rcases hpaths with ⟨path, hpath⟩ | hnamed
        · exact ⟨_, RelationAnalysis.analyse_eq _ hpath⟩
        · exact RelationAnalysis.exists_analyse_of_named _ hnamed
      obtain ⟨found, hfound⟩ := hanalyse
      have hbatch := RelationAnalysis.batch_eq_ok_iff.mpr ⟨found, hfound, rfl⟩
      exact ⟨_, _, enrich_of_batch hne hbatch file⟩

/-- A function, another one that calls it, and a test of both. -/
def tested : List EnrichedChunk :=
  [{ base := ⟨"a", "def f(): pass", "m.py", 0, 0, "s", .python, ["f"], [], none, none⟩
     facets := { language := .python } },
   { base := ⟨"b", "def g(): f()", "m.py", 1, 1, "s", .python, ["g"], [], none, none⟩
     facets := { language := .python } },
   { base := ⟨"t", "def test_f(): f() + g()", "test_m.py", 0, 0, "s", .python, ["test_f"], [], none, none⟩
     facets := { language := .python } }]

theorem enrich_dependents_tested :
    (tested.map (·.id)).Nodup ∧ (∀ c ∈ tested, Bare c) ∧ (∀ c ∈ tested, RelationAnalysis.Named c.path) ∧
      ∃ out log, enrich 0.3 tested "def f(): pass\ndef g(): f()" = .ok (out, log) ∧
        out.map (·.id) = tested.map (·.id) ∧
        RelationAnalysis.analyse { minConfidence := 0.3 } tested = .ok (out.map (·.relations)) ∧ Inverse out := by
  have hids : (tested.map (·.id)).Nodup := by decide
  have hbare : ∀ c ∈ tested, Bare c := by simp [tested, Bare]
  have hnamed : ∀ c ∈ tested, RelationAnalysis.Named c.path := by
    simp only [tested, List.forall_mem_cons, List.not_mem_nil, false_implies, implies_true, and_true,
      RelationAnalysis.Named]
    decide
  obtain ⟨hout, hexists⟩ := enrich_dependents 0.3 hids hbare "def f(): pass\ndef g(): f()"
  obtain ⟨out, log, henrich⟩ := hexists (.inr hnamed)
  exact ⟨hids, hbare, hnamed, out, log, henrich, hout out log henrich⟩

end Enrichment

end SourceChunks
