import SourceChunks.Proofs.Distinct
import SourceChunks.Proofs.Outcomes
import SourceChunks.Proofs.RelationRules

/-! Relations among the chunks of one file. No import leads from a file to itself, so that the analysis
cannot fail. Every relation leads to another chunk of the file. -/

namespace SourceChunks

/-! ### One file -/

/-- All chunks of the index are from the file with a path. -/
def ChunkIndex.OneFile (index : ChunkIndex) (path : Text) : Prop := ∀ file ∈ index.files, file.path = path

theorem ChunkIndex.oneFile_ofChunks {cs : List EnrichedChunk} {path : Text} (h : ∀ c ∈ cs, c.path = path) :
    (ofChunks cs).OneFile path := by
  intro file hfile
  obtain ⟨p, hp, rfl⟩ := List.mem_map.mp hfile
  obtain ⟨c, hc, rfl⟩ := List.mem_map.mp (mem_distinct.mp hp)
  exact h c hc

namespace Relation

theorem importsOf_eq {index : ChunkIndex} {e : IndexEntry} (h : index.OneFile e.chunk.path) (importPath : Text) :
    importsOf index e importPath = .ok [] := by
  unfold importsOf
  dsimp only
  split
  case isTrue => rfl
  case isFalse =>
    rw [filterM_eq_nil]
    · rfl
    · intro file hfile
      rw [h file hfile, if_pos (beq_self_eq_true _)]

/-- A file does not import itself. -/
theorem imports_eq {index : ChunkIndex} {e : IndexEntry} (h : index.OneFile e.chunk.path) :
    imports index e = .ok [] := by
  unfold imports
  rw [mapM_eq_ok fun p _ => importsOf_eq h p]
  simp [bind, Except.bind, pure, Except.pure]

end Relation

namespace RelationAnalysis

/-- What one pass finds inside a file. -/
def foundInFile (s : RelationSettings) (index : ChunkIndex) (place : Nat) (e : IndexEntry) :
    RelationPass → List Relation
  | .imports => []
  | .calls => Relation.calls index place e
  | .inheritance => Relation.inheritance index place e
  | .usage => Relation.uses index place e
  | .tests => Relation.tests index place e
  | .similarity => Relation.similar s.similarityLimit index place e

/-- The relations of a chunk inside its file. -/
def relationsInFile (s : RelationSettings) (index : ChunkIndex) (place : Nat) (e : IndexEntry) : List Relation :=
  Relation.distinctKeys (((passes s).flatMap (foundInFile s index place e)).filter
    fun r => !(r.evidence.confidence.toFloat < s.minConfidence))

/-- The relations of all chunks of a file, in order. -/
def fileRelations (s : RelationSettings) (cs : List EnrichedChunk) : List (List Relation) :=
  (ChunkIndex.ofChunks cs).entries.zipIdx.map fun e => relationsInFile s (.ofChunks cs) e.2 e.1

theorem relationsAt_eq (s : RelationSettings) {index : ChunkIndex} {e : IndexEntry}
    (h : index.OneFile e.chunk.path) (place : Nat) :
    relationsAt s index place e = .ok (relationsInFile s index place e) := by
  have hfound : ∀ pass ∈ passes s, found s index place e pass = .ok (foundInFile s index place e pass) := by
    intro pass _
    cases pass with
    | imports => exact Relation.imports_eq h
    | calls => rfl
    | inheritance => rfl
    | usage => rfl
    | tests => rfl
    | similarity => rfl
  rw [relationsAt, mapM_eq_ok hfound, relationsInFile, List.flatMap]
  rfl

/-- The analysis of the chunks of one file does not fail. -/
theorem analyse_eq (s : RelationSettings) {cs : List EnrichedChunk} {path : Text}
    (h : ∀ c ∈ cs, c.path = path) : analyse s cs = .ok (fileRelations s cs) := by
  refine mapM_eq_ok ?_
  intro e he
  refine relationsAt_eq s ?_ e.2
  obtain ⟨c, hc, heq⟩ := List.mem_map.mp (List.fst_mem_of_mem_zipIdx he)
  rw [← heq]
  exact (h c hc).symm ▸ ChunkIndex.oneFile_ofChunks h

theorem length_fileRelations (s : RelationSettings) (cs : List EnrichedChunk) :
    (fileRelations s cs).length = cs.length := by
  simp [fileRelations, ChunkIndex.ofChunks]

/-! ### Targets -/

theorem foundInFile_eq_rules (s : RelationSettings) (index : ChunkIndex) (place : Nat) (e : IndexEntry)
    (pass : RelationPass) :
    foundInFile s index place e pass = (Relation.ruleGroups s index place e pass).flatten := by
  by_cases h : pass = .imports
  · rw [h]
    rfl
  · refine Except.ok.inj (Eq.trans ?_ (Relation.found_eq_rules s index place e h))
    cases pass with
    | imports => exact absurd rfl h
    | calls => rfl
    | inheritance => rfl
    | usage => rfl
    | tests => rfl
    | similarity => rfl

/-- Every relation found for a chunk bears the marks of a pass and leads to a chunk at another place. -/
theorem made_of_mem_fileRelations {s : RelationSettings} {cs : List EnrichedChunk} {k : Nat}
    {rs : List Relation} (hk : (fileRelations s cs)[k]? = some rs) {r : Relation} (hr : r ∈ rs) :
    ∃ j d pass, j ≠ k ∧ cs[j]? = some d ∧ Relation.Made pass (.ofChunk d) r := by
  rw [fileRelations, List.getElem?_map, List.getElem?_zipIdx, Option.map_map] at hk
  obtain ⟨e, _, rfl⟩ := Option.map_eq_some_iff.mp hk
  have hmem := (List.mem_filter.mp (Relation.mem_of_mem_distinctKeys hr)).1
  obtain ⟨pass, _, hr⟩ := List.mem_flatMap.mp hmem
  rw [foundInFile_eq_rules] at hr
  obtain ⟨q, hq, hmade⟩ := Relation.made_of_mem_ruleGroups hr
  obtain ⟨j, hne, hget⟩ := List.mem_eraseIdx_iff_getElem?.mp hq
  rw [ChunkIndex.ofChunks, List.getElem?_map] at hget
  obtain ⟨d, hd, rfl⟩ := Option.map_eq_some_iff.mp hget
  exact ⟨j, d, pass, by simpa using hne, hd, hmade⟩

/-- Every relation found for a chunk leads to a chunk at another place. -/
theorem target_of_mem_fileRelations {s : RelationSettings} {cs : List EnrichedChunk} {k : Nat}
    {rs : List Relation} (hk : (fileRelations s cs)[k]? = some rs) {r : Relation} (hr : r ∈ rs) :
    ∃ j d, j ≠ k ∧ cs[j]? = some d ∧ r.target = d.id := by
  obtain ⟨j, d, _, hne, hd, hmade⟩ := made_of_mem_fileRelations hk hr
  exact ⟨j, d, hne, hd, hmade.target⟩

end RelationAnalysis

end SourceChunks
