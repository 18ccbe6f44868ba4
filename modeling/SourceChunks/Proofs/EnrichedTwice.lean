import SourceChunks.Enrichment
import SourceChunks.Proofs.BatchGraph
import SourceChunks.Proofs.Identities
import SourceChunks.Proofs.Relabelling

/-! Enriching chunks twice. Enrichment reads a part of every chunk that it leaves as it is, so that the
second time finds what the first time found. What was found is put at the end of a list that holds it
already, or into fields that are replaced. -/

namespace SourceChunks

/-! ### What is read of a chunk -/

/-- The chunk with nothing but what the analysis of relations reads. -/
def EnrichedChunk.core (c : EnrichedChunk) : EnrichedChunk :=
  { base := { c.base with symbols := c.symbols, imports := [], commentRatio := none, complexity := none }
    facets := { language := c.facets.language, semanticType := c.facets.semanticType, symbols := c.symbols } }

theorem EnrichedChunk.symbols_core (c : EnrichedChunk) : c.core.symbols = c.symbols := ite_self _

theorem relabels_core : Relabels id EnrichedChunk.core where
  id _ := rfl
  content _ := rfl
  path _ := rfl
  language _ := rfl
  first _ := rfl
  last _ := rfl
  symbols c := c.symbols_core
  semanticType _ := rfl

theorem relabels_id : Relabels id id :=
  ⟨fun _ => rfl, fun _ => rfl, fun _ => rfl, fun _ => rfl, fun _ => rfl, fun _ => rfl, fun _ => rfl, fun _ => rfl⟩

namespace RelationAnalysis

theorem analyse_core (s : RelationSettings) (cs : List EnrichedChunk) :
    analyse s (cs.map (·.core)) = analyse s cs := by
  have hcore := analyse_map relabels_core Function.injective_id s cs
  have hself := analyse_map relabels_id Function.injective_id s cs
  rw [List.map_id] at hself
  exact hcore.trans hself.symm

theorem batch_core (s : RelationSettings) (cs : List EnrichedChunk) :
    batch s (cs.map (·.core)) = batch s cs := by
  have hchunk : (fun (c : EnrichedChunk) rs => chunkRelations c.core rs) = chunkRelations := by
    funext c rs
    rw [chunkRelations, warnings, c.symbols_core]
    rfl
  have hids : (cs.map (·.core)).map (·.id) = cs.map (·.id) := by
    rw [List.map_map]
    rfl
  rw [batch, analyse_core, hids, batch]
  refine bind_congr fun found => ?_
  rw [List.zipWith_map_left, hchunk]

/-- Chunks that can be analysed form a batch, with findings for every chunk. -/
theorem exists_batch {s : RelationSettings} {cs : List EnrichedChunk} {found : List (List Relation)}
    (h : analyse s cs = .ok found) : ∃ b, batch s cs = .ok b ∧ cs.length = b.chunks.length :=
  ⟨batchOf cs found, batch_eq_ok_iff.mpr ⟨found, h, rfl⟩, length_batchOf h⟩

end RelationAnalysis

/-! ### One chunk -/

namespace Enrichment

section

variable (file : Text) (ids : List Text) (c : EnrichedChunk) (dependencies : List Text) (found : List Relation)
  (dependents : List Text)

theorem symbols_enrichChunk : (enrichChunk file ids c dependencies found dependents).symbols = c.symbols :=
  ite_self _

theorem core_enrichChunk : (enrichChunk file ids c dependencies found dependents).core = c.core := by
  rw [EnrichedChunk.core, symbols_enrichChunk]
  rfl

theorem assessChunk_enrichChunk (q : Quality.Standard) (rest : Option Text) :
    Quality.assessChunk q (enrichChunk file ids c dependencies found dependents) rest =
      Quality.assessChunk q c rest := by
  rw [Quality.assessChunk, symbols_enrichChunk]
  rfl

theorem filter_or_self (b : Option Text) : (b.filter (!·.isEmpty)).or b = b := by
  cases b with
  | none => rfl
  | some t =>
    cases t with
    | nil => rfl
    | cons x t => rfl

theorem keepContext_keepContext (old : Option ContextInfo) (fresh : ContextInfo) :
    keepContext (some (keepContext old fresh)) fresh = keepContext old fresh := by
  cases old with
  | none => simp [keepContext, filter_or_self]
  | some x => 
    have hbusiness : (((x.business.filter (!·.isEmpty)).or fresh.business).filter (!·.isEmpty)).or fresh.business =
        (x.business.filter (!·.isEmpty)).or fresh.business := by
      cases hb : x.business.filter (!·.isEmpty) with
      | none => exact filter_or_self _
      | some t =>
        have ht := (Option.filter_eq_some_iff.mp hb).2
        simp [Option.filter, ht]
    have hsurrounding : (if (if x.surrounding.isEmpty then fresh.surrounding else x.surrounding).isEmpty then
        fresh.surrounding else if x.surrounding.isEmpty then fresh.surrounding else x.surrounding) =
        if x.surrounding.isEmpty then fresh.surrounding else x.surrounding := by
      by_cases hx : x.surrounding.isEmpty <;> simp [hx]
    unfold keepContext
    dsimp only
    rw [hbusiness, hsurrounding]

/-- A chunk that was enriched is not changed when it is enriched with the same findings. -/
theorem enrichChunk_enrichChunk :
    enrichChunk file ids (enrichChunk file ids c dependencies found dependents) dependencies found dependents =
      enrichChunk file ids c dependencies found dependents := by
  have hcontext := keepContext_keepContext c.context (Context.analyse {} c file ids)
  have hdependencies := distinct_absorb c.facets.dependencies dependencies
  have hdependents := distinct_absorb c.facets.dependents dependents
  have hpatterns := distinct_absorb c.facets.designPatterns (Metrics.designPatterns c.content)
  have hrelations := Relation.distinctKeys_absorb c.relations found
  rw [enrichChunk, symbols_enrichChunk, assessChunk_enrichChunk]
  dsimp only [enrichChunk]
  rw [hdependencies, hdependents, hpatterns, hrelations]
  exact congrArg (fun x => { enrichChunk file ids c dependencies found dependents with context := some x }) hcontext

end

/-! ### Batches -/

/-- The chunks of a batch with what was found for them. -/
def enrichWith (file : Text) (cs : List EnrichedChunk) (b : RelationAnalysis.Batch) : List EnrichedChunk :=
  List.zipWith (fun c found => enrichChunk file (cs.map (·.id)) c
    (((fileDependencies file cs).lookup c.language).getD []) found.relations
    (b.graph.predecessors.get c.id)) cs b.chunks

theorem enrich_of_batch {minConfidence : Float} {cs : List EnrichedChunk} (hne : cs ≠ [])
    {b : RelationAnalysis.Batch} (hb : RelationAnalysis.batch { minConfidence := minConfidence } cs = .ok b)
    (file : Text) : enrich minConfidence cs file = .ok (enrichWith file cs b, [batchNote b]) := by
  have hnonempty : ¬ cs.isEmpty = true := by rwa [List.isEmpty_iff]
  unfold enrich
  rw [if_neg hnonempty, hb]
  rfl

theorem zipWith_zipWith_self {α β : Type} {f : α → β → α} (h : ∀ a b, f (f a b) b = f a b) (xs : List α)
    (ys : List β) : List.zipWith f (List.zipWith f xs ys) ys = List.zipWith f xs ys := by
  induction xs generalizing ys with
  | nil => rfl
  | cons x xs ih =>
    cases ys with
    | nil => rfl
    | cons y ys => rw [List.zipWith_cons_cons, List.zipWith_cons_cons, h, ih]

section

variable (file : Text) {cs : List EnrichedChunk} {b : RelationAnalysis.Batch}

theorem core_enrichWith (hl : cs.length = b.chunks.length) :
    (enrichWith file cs b).map (·.core) = cs.map (·.core) :=
  ChunkId.map_zipWith_left (fun c _ => core_enrichChunk file _ c _ _ _) hl

theorem map_enrichWith {β : Type} {read : EnrichedChunk → β} (hread : ∀ c, read c.core = read c)
    (hl : cs.length = b.chunks.length) : (enrichWith file cs b).map read = cs.map read := by
  have hcore := congrArg (List.map read) (core_enrichWith file hl)
  simpa only [List.map_map, Function.comp_def, hread] using hcore

/-- What was found for a batch is not added to it again. -/
theorem enrichWith_enrichWith (hl : cs.length = b.chunks.length) :
    enrichWith file (enrichWith file cs b) b = enrichWith file cs b := by
  have hids : (enrichWith file cs b).map (·.id) = cs.map (·.id) := map_enrichWith file (fun _ => rfl) hl
  have hdependencies : fileDependencies file (enrichWith file cs b) = fileDependencies file cs := by
    rw [fileDependencies, map_enrichWith file (fun _ => rfl) hl, fileDependencies]
  conv_lhs => rw [enrichWith, hids, hdependencies]
  refine zipWith_zipWith_self ?_ cs b.chunks
  intro c found
  exact enrichChunk_enrichChunk file _ c _ _ _

end

/-- Chunks that can be analysed can be enriched, and enriching them again changes nothing in them. -/
theorem enrich_twice (minConfidence : Float) (cs : List EnrichedChunk) (file : Text) {found : List (List Relation)}
    (h : RelationAnalysis.analyse { minConfidence := minConfidence } cs = .ok found) :
    ∃ out log, enrich minConfidence cs file = .ok (out, log) ∧ enrich minConfidence out file = .ok (out, log) := by
  by_cases hne : cs = []
  · subst hne
    exact ⟨[], [], rfl, rfl⟩
  · obtain ⟨b, hb, hl⟩ := RelationAnalysis.exists_batch h
    have hcore := core_enrichWith file hl
    -- Nothing that is read has changed, so the second batch is the first one again.
    have hagain : RelationAnalysis.batch { minConfidence := minConfidence } (enrichWith file cs b) = .ok b := by
      rw [← RelationAnalysis.batch_core, hcore, RelationAnalysis.batch_core, hb]
    have hout : enrichWith file cs b ≠ [] := by
      intro hnil
      rw [hnil] at hcore
      exact hne (List.map_eq_nil_iff.mp hcore.symm)
    have htwice := enrich_of_batch hout hagain file
    rw [enrichWith_enrichWith file hl] at htwice
    exact ⟨enrichWith file cs b, [batchNote b], enrich_of_batch hne hb file, htwice⟩

/-- Two functions that call each other. One has a relation, dependents and a context from before. -/
def callers : List EnrichedChunk :=
  [{ base := ⟨"a", "def f(): g()", "m.py", 0, 0, "s", .python, ["f"], [], none, none⟩
     facets := { language := .python, dependents := ["b", "b"] }
     relations := [.make .uses "b" 0.5 "Uses g" .outgoing 0.5 .heuristic none none]
     context := some ⟨"", .unknown, ⟨9, 9, ["b"]⟩, [], some "payments"⟩ },
   { base := ⟨"b", "def g(): f()", "m.py", 1, 1, "s", .python, [], [], none, none⟩
     facets := { language := .python, symbols := ["g"] } }]

theorem enrich_twice_callers :
    (∃ found, RelationAnalysis.analyse { minConfidence := 0.3 } callers = .ok found) ∧
      ∃ out log, enrich 0.3 callers "def f(): g()\ndef g(): f()" = .ok (out, log) ∧
        enrich 0.3 out "def f(): g()\ndef g(): f()" = .ok (out, log) := by
  have hpath : ∀ c ∈ callers, c.path = "m.py" := by simp [callers]
  have h := RelationAnalysis.analyse_eq { minConfidence := 0.3 } hpath
  exact ⟨⟨_, h⟩, enrich_twice 0.3 callers "def f(): g()\ndef g(): f()" h⟩

end Enrichment

end SourceChunks
