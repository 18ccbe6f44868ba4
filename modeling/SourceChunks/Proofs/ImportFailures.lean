import SourceChunks.Proofs.BatchOrder

/-! Analyses that fail. The only step of an analysis that can fail takes the extension off the path of a file, and it
fails if the path has no final component. The pass of the imports comes to this step for every import path with
segments and every file other than that of the importing chunk; no other pass comes to it. So a batch fails exactly if
an import path and a file without a name meet in it. -/

namespace SourceChunks

/-! ### Paths without a name -/

namespace FilePath

theorem ne_nil_of_mem_parts {t p : Text} (h : p ∈ (ofText t).parts) : p ≠ [] := by
  have hsignificant := (List.mem_filter.mp h).2
  rintro rfl
  cases hsignificant

/-- A path has no final component exactly if it has no components. -/
theorem name_eq_nil_iff {t : Text} : (ofText t).name = [] ↔ (ofText t).parts = [] := by
  rw [name]
  cases hlast : (ofText t).parts.getLast? with
  | none => simpa using List.getLast?_eq_none_iff.mp hlast
  | some p =>
    have hmem := List.mem_of_getLast? hlast
    exact ⟨fun h => absurd h (ne_nil_of_mem_parts hmem), fun h => absurd hmem (h ▸ List.not_mem_nil)⟩

/-- All that is left of a path without a name is its root, or a dot. -/
theorem text_of_name_eq_nil {t : Text} (h : (ofText t).name = []) : (ofText t).text ∈ [['.'], ['/'], ['/', '/']] := by
  have hslashes : (ofText t).slashes = 0 ∨ (ofText t).slashes = 1 ∨ (ofText t).slashes = 2 := by
    simp only [ofText]
    split <;> omega
  rw [text, root, name_eq_nil_iff.mp h]
  rcases hslashes with hslashes | hslashes | hslashes <;> rw [hslashes] <;> decide

end FilePath

theorem Imports.failure?_matchesFile (segments : List Text) (file : Text) :
    failure? (matchesFile segments file) =
      if (FilePath.ofText (slashed file)).name = [] then some (.emptyName (FilePath.ofText (slashed file)).text)
      else none := by
  rw [matchesFile, FilePath.withoutExtension]
  by_cases hname : (FilePath.ofText (slashed file)).name = []
  · rw [if_pos (List.isEmpty_iff.mpr hname), if_pos hname]
    rfl
  · rw [if_neg (mt List.isEmpty_iff.mp hname), if_neg hname]
    rfl

/-! ### The pass of the imports -/

namespace RelationAnalysis

/-- A file path as a failure tells it. -/
def told (path : Text) : Text := (FilePath.ofText (Imports.slashed path)).text

/-- The failure at the path of a file, for an import from the file with the path `own`. -/
def refusal (own path : Text) : Option Failure :=
  if path ≠ own ∧ ¬ Named path then some (.emptyName (told path)) else none

theorem failure?_meansFile (e : IndexEntry) (importPath path : Text) :
    failure? (Relation.meansFile e importPath path) = refusal e.chunk.path path := by
  unfold Relation.meansFile refusal
  by_cases hown : path = e.chunk.path
  · rw [if_pos (beq_iff_eq.mpr hown), if_neg fun h => h.1 hown]
    rfl
  · rw [if_neg (mt beq_iff_eq.mp hown), Imports.failure?_matchesFile]
    refine if_congr ?_ rfl rfl
    rw [Named, not_not]
    exact ⟨fun hname => ⟨hown, hname⟩, fun h => h.2⟩

theorem failure?_importsOf (cs : List EnrichedChunk) (e : IndexEntry) (importPath : Text) :
    failure? (Relation.importsOf (.ofChunks cs) e importPath) =
      if Imports.segments importPath ≠ [] then cs.findSome? fun q => refusal e.chunk.path q.path else none := by
  by_cases hsegments : Imports.segments importPath = []
  · rw [if_neg (not_not.mpr hsegments), Relation.importsOf_of_isEmpty _ e (List.isEmpty_iff.mpr hsegments)]
    rfl
  · rw [if_pos hsegments, Relation.importsOf_ofChunks cs e (mt List.isEmpty_iff.mp hsegments), failure?_map,
      failure?_filterM, funext (failure?_meansFile e importPath), findSome?_distinct, List.findSome?_map]
    rfl

/-- The chunk has an import path with segments. -/
def ImportsAny (p : EnrichedChunk) : Prop :=
  ∃ d ∈ Metrics.dependencies p.content p.language, Imports.segments d ≠ []

instance (p : EnrichedChunk) : Decidable (ImportsAny p) := inferInstanceAs (Decidable (∃ d ∈ _, _))

theorem findSome?_ite {α β : Type} (p : α → Prop) [DecidablePred p] (o : Option β) (xs : List α) :
    (xs.findSome? fun x => if p x then o else none) = if ∃ x ∈ xs, p x then o else none := by
  induction xs with
  | nil => simp
  | cons x xs ih =>
    rw [List.findSome?_cons, ih]
    cases o with
    | none => simp
    | some b => by_cases hx : p x <;> simp [hx]

/-- The failure at the first file that the imports of a chunk cannot be held against. -/
def obstacle? (cs : List EnrichedChunk) (p : EnrichedChunk) : Option Failure :=
  if ImportsAny p then cs.findSome? fun q => refusal p.path q.path else none

/-- All import paths of a chunk fail alike. -/
theorem failure?_groups_imports (s : RelationSettings) (cs : List EnrichedChunk) (place : Nat) (p : EnrichedChunk) :
    failure? (groups s (.ofChunks cs) place (.ofChunk p) .imports) = obstacle? cs p := by
  rw [groups, failure?_mapM, funext (failure?_importsOf cs (.ofChunk p)), findSome?_ite]
  rfl

/-! ### Batches -/

theorem failure?_relationsAt (s : RelationSettings) (index : ChunkIndex) (place : Nat) (e : IndexEntry) :
    failure? (relationsAt s index place e) =
      if s.enabled .imports = true then failure? (groups s index place e .imports) else none := by
  have hothers : ([.calls, .inheritance, .usage, .tests, .similarity].filter s.enabled).findSome?
      (fun pass => failure? (groups s index place e pass)) = none := by
    rw [List.findSome?_eq_none_iff]
    intro pass hpass
    have hne : pass ≠ .imports := by
      rintro rfl
      simp at hpass
    rw [groups_of_ne _ _ _ _ hne]
    rfl
  rw [relationsAt_eq_kept, failure?_map, failure?_mapM, passes, RelationPass.all, List.filter_cons]
  split
  case isTrue =>
    rw [List.findSome?_cons, hothers]
    cases failure? (groups s index place e .imports) <;> rfl
  case isFalse => exact hothers

/-- A batch fails the way its first chunk does that meets an obstacle. -/
theorem failure?_analyse (s : RelationSettings) (cs : List EnrichedChunk) :
    failure? (analyse s cs) = if s.enabled .imports = true then cs.findSome? (obstacle? cs) else none := by
  have hentries : (ChunkIndex.ofChunks cs).entries.zipIdx = cs.zipIdx.map fun q => (IndexEntry.ofChunk q.1, q.2) :=
    List.zipIdx_map
  have hchunk (q : EnrichedChunk × Nat) : failure? (relationsAt s (.ofChunks cs) q.2 (.ofChunk q.1)) =
      if s.enabled .imports = true then obstacle? cs q.1 else none := by
    rw [failure?_relationsAt, failure?_groups_imports]
  calc failure? (analyse s cs)
      = cs.zipIdx.findSome? fun q => failure? (relationsAt s (.ofChunks cs) q.2 (.ofChunk q.1)) := by
        rw [analyse, failure?_mapM, hentries, List.findSome?_map]
        rfl
    _ = cs.zipIdx.findSome? ((fun p => if s.enabled .imports = true then obstacle? cs p else none) ∘ (·.1)) := by
        rw [funext hchunk]
        rfl
    _ = cs.findSome? fun p => if s.enabled .imports = true then obstacle? cs p else none := by
        rw [← List.findSome?_map, List.zipIdx_map_fst]
    _ = if s.enabled .imports = true then cs.findSome? (obstacle? cs) else none := by
        split
        case isTrue => rfl
        case isFalse => exact List.findSome?_eq_none_iff.mpr fun _ _ => rfl

/-- The import path `d` of the chunk `p` is held against the path of the chunk `q`, which is that of another file and has
no final component. -/
structure Meets (cs : List EnrichedChunk) (p : EnrichedChunk) (d : Text) (q : EnrichedChunk) : Prop where
  importer : p ∈ cs
  imported : d ∈ Metrics.dependencies p.content p.language
  segments : Imports.segments d ≠ []
  file : q ∈ cs
  other : q.path ≠ p.path
  nameless : ¬ Named q.path

theorem refusal_eq_some_iff {own path : Text} {e : Failure} :
    refusal own path = some e ↔ path ≠ own ∧ ¬ Named path ∧ e = .emptyName (told path) := by
  rw [refusal, Option.ite_none_right_eq_some, and_assoc, Option.some.injEq]
  exact and_congr_right fun _ => and_congr_right fun _ => eq_comm

/-- Where a failure comes from. -/
theorem exists_meets_of_error {s : RelationSettings} {cs : List EnrichedChunk} {e : Failure}
    (h : analyse s cs = .error e) :
    s.enabled .imports = true ∧ ∃ p d q, Meets cs p d q ∧ e = .emptyName (told q.path) := by
  rw [← failure?_eq_some_iff, failure?_analyse, Option.ite_none_right_eq_some] at h
  obtain ⟨henabled, h⟩ := h
  obtain ⟨p, hp, h⟩ := List.exists_of_findSome?_eq_some h
  obtain ⟨⟨d, hd, hsegments⟩, h⟩ := Option.ite_none_right_eq_some.mp h
  obtain ⟨q, hq, h⟩ := List.exists_of_findSome?_eq_some h
  obtain ⟨hother, hnameless, rfl⟩ := refusal_eq_some_iff.mp h
  exact ⟨henabled, p, d, q, ⟨hp, hd, hsegments, hq, hother, hnameless⟩, rfl⟩

theorem exists_error_of_meets {s : RelationSettings} (henabled : s.enabled .imports = true) {cs : List EnrichedChunk}
    {p q : EnrichedChunk} {d : Text} (h : Meets cs p d q) : ∃ e, analyse s cs = .error e := by
  have hrefusal : refusal p.path q.path = some (.emptyName (told q.path)) :=
    refusal_eq_some_iff.mpr ⟨h.other, h.nameless, rfl⟩
  have hobstacle : (obstacle? cs p).isSome = true := by
    rw [obstacle?, if_pos ⟨d, h.imported, h.segments⟩, List.findSome?_isSome_iff]
    exact ⟨q, h.file, by rw [hrefusal]; rfl⟩
  have hfails : (failure? (analyse s cs)).isSome = true := by
    rw [failure?_analyse, if_pos henabled, List.findSome?_isSome_iff]
    exact ⟨p, h.importer, hobstacle⟩
  obtain ⟨e, he⟩ := Option.isSome_iff_exists.mp hfails
  exact ⟨e, failure?_eq_some_iff.mp he⟩

/-- When the analysis of a batch fails, and how. -/
structure FailsByImports (s : RelationSettings) (cs : List EnrichedChunk) : Prop where
  fails_iff : (∃ e, analyse s cs = .error e) ↔ s.enabled .imports = true ∧ ∃ p d q, Meets cs p d q
  /-- The failure tells the path of the file, of which there is no more than a root or a dot. -/
  failure : ∀ e, analyse s cs = .error e → ∃ p d q, Meets cs p d q ∧ e = .emptyName (told q.path) ∧
    told q.path ∈ [['.'], ['/'], ['/', '/']] ∧
    e.message = "PurePosixPath('" ++ told q.path ++ "') has an empty name"
  one_file : ∀ path, (∀ c ∈ cs, c.path = path) → ∃ found, analyse s cs = .ok found

/-- The message puts the path in quotes as it is. -/
theorem message_emptyName {t : Text} (h : t ∈ [['.'], ['/'], ['/', '/']]) :
    (Failure.emptyName t).message = "PurePosixPath('" ++ t ++ "') has an empty name" := by
  simp only [List.mem_cons, List.not_mem_nil, or_false] at h
  rcases h with rfl | rfl | rfl <;> decide

/-- An analysis fails exactly if an import path is held against a file without a name. -/
theorem analyse_failsByImports (s : RelationSettings) (cs : List EnrichedChunk) : FailsByImports s cs := by
  have hiff : (∃ e, analyse s cs = .error e) ↔ s.enabled .imports = true ∧ ∃ p d q, Meets cs p d q := by
    constructor
    · rintro ⟨e, he⟩
      obtain ⟨henabled, p, d, q, hmeets, _⟩ := exists_meets_of_error he
      exact ⟨henabled, p, d, q, hmeets⟩
    · rintro ⟨henabled, p, d, q, hmeets⟩
      exact exists_error_of_meets henabled hmeets
  refine ⟨hiff, ?_, ?_⟩
  · intro e he
    obtain ⟨_, p, d, q, hmeets, rfl⟩ := exists_meets_of_error he
    have htold := FilePath.text_of_name_eq_nil (not_not.mp hmeets.nameless)
    exact ⟨p, d, q, hmeets, rfl, htold, message_emptyName htold⟩
  · intro path hpath
    cases h : analyse s cs with
    | ok found => exact ⟨found, rfl⟩
    | error e =>
      obtain ⟨_, p, d, q, hmeets⟩ := hiff.mp ⟨e, h⟩
      exact absurd ((hpath q hmeets.file).trans (hpath p hmeets.importer).symm) hmeets.other

end RelationAnalysis

end SourceChunks
