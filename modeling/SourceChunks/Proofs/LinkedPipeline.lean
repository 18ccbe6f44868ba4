import SourceChunks.Pipeline
import SourceChunks.Proofs.FileRelations
import SourceChunks.Proofs.Graphs
import SourceChunks.Proofs.Linked
import SourceChunks.Syntax.Reader

/-! From a file to linked chunks. Whatever strategy is chosen, and if none gives anything, the chunks of
a file name only each other; enriching them with relations, dependents and context keeps it so. -/

namespace SourceChunks

/-! ### Before enrichment -/

/-- Chunks made of drafts, under identities of their own. -/
def OfDrafts (source : Source) (cs : List EnrichedChunk) : Prop :=
  ∃ (ids : List Text) (ds : List Draft), ids.Nodup ∧ ids.length = ds.length ∧
    cs = List.zipWith (fun id d => d.chunk source source.lines id) ids ds

theorem ofDrafts_zipWith {α : Type} (draft : α → Draft) (source : Source) {ids : List Text} {xs : List α}
    (hids : ids.Nodup) (hl : ids.length = xs.length) :
    OfDrafts source (List.zipWith (fun id x => (draft x).chunk source source.lines id) ids xs) := by
  refine ⟨ids, xs.map draft, hids, ?_, ?_⟩
  · rw [List.length_map, hl]
  · rw [List.zipWith_map_right]

namespace Strategy

variable {reader : SyntaxReader}

theorem chunks_ofDrafts {s : Strategy} {path content snapshot : Text} {cs : List EnrichedChunk}
    (h : s.chunks reader path content snapshot = .ok cs) :
    OfDrafts ⟨path, snapshot, Language.detect path content, content⟩ cs := by
  cases s with
  | semantic p =>
    dsimp only [chunks, Semantic.chunks] at h
    obtain ⟨ns, _, h⟩ := exists_of_bind_eq_ok h
    obtain rfl := Except.ok.inj h
    rw [Draft.chunks_map]
    refine ofDrafts_zipWith _ _ (ChunkId.nodup_allocate _ _) ?_
    rw [ChunkId.length_allocate, List.length_map]
  | hierarchical =>
    obtain rfl := Except.ok.inj h
    rw [Hierarchical.chunks_eq]
    refine ofDrafts_zipWith _ _ (ChunkId.nodup_allocate _ _) ?_
    rw [ChunkId.length_allocate, List.length_map]
  | contextAware p =>
    dsimp only [chunks, ContextAware.chunks] at h
    obtain ⟨ns, _, h⟩ := exists_of_bind_eq_ok h
    obtain rfl := Except.ok.inj h
    rw [Draft.chunks_map]
    refine ofDrafts_zipWith _ _ (ChunkId.nodup_allocate _ _) ?_
    rw [ChunkId.length_allocate, List.length_map]

/-- The chunks of a strategy are all from the file. -/
theorem path_of_mem_chunks {s : Strategy} {path content snapshot : Text} {cs : List EnrichedChunk}
    (h : s.chunks reader path content snapshot = .ok cs) {c : EnrichedChunk} (hc : c ∈ cs) : c.path = path := by
  obtain ⟨ids, ds, _, _, rfl⟩ := chunks_ofDrafts h
  obtain ⟨_, _, _, _, rfl⟩ := ChunkId.exists_of_mem_zipWith hc
  rfl

theorem chunks_ids_nodup {s : Strategy} {path content snapshot : Text} {cs : List EnrichedChunk}
    (h : s.chunks reader path content snapshot = .ok cs) : (cs.map (·.id)).Nodup := by
  obtain ⟨ids, ds, hids, hl, rfl⟩ := chunks_ofDrafts h
  rw [ChunkId.map_zipWith_id (fun _ _ => rfl) hl]
  exact hids

end Strategy

namespace Pipeline

theorem strategyChunks_cases (reader : SyntaxReader) (s : Strategy) (path content snapshot : Text) :
    (strategyChunks reader s path content snapshot).1 = [] ∨
      s.chunks reader path content snapshot = .ok (strategyChunks reader s path content snapshot).1 := by
  unfold strategyChunks
  split
  case h_1 => exact .inl rfl
  case h_2 => exact .inl rfl
  case h_3 h => exact .inr h

/-- The chunks before enrichment are those of a registered strategy, or else windows. -/
theorem rawChunks_cases (p : Pipeline) (source : Source) (preferred : Option Text) :
    (∃ s ∈ p.registry, s.chunks p.reader source.path source.content source.snapshot =
        .ok (p.rawChunks source preferred).1 ∧ (p.rawChunks source preferred).1 ≠ []) ∨
      (p.rawChunks source preferred).1 = fallbackChunks p.settings source := by
  cases ha : (p.registry.applicable source.language source.content preferred).1 with
  | none =>
    simp only [rawChunks, ha]
    exact .inr rfl
  | some s =>
    have hs := Registry.mem_of_applicable ha
    simp only [rawChunks, ha]
    split
    case isTrue => exact .inr rfl
    case isFalse hne =>
      rw [List.isEmpty_iff] at hne
      rcases strategyChunks_cases p.reader s source.path source.content source.snapshot with hnil | hc
      · exact absurd hnil hne
      · exact .inl ⟨s, hs, hc, hne⟩

/-- The windows of a file. -/
theorem fallbackChunks_tiles (s : Settings) (source : Source) :
    Cutting.Tiles ((source.lines.length : Int) - 1) 0
      (Cutting.windows s.fallbackSize 0 0 ((source.lines.length : Int) - 1)) := by
  have hlen : 0 < source.lines.length := List.length_pos_iff.mpr (Text.lines_ne_nil source.content)
  exact Cutting.windows_tiles _ _ (by omega)

theorem fallbackChunks_linked (s : Settings) (source : Source) :
    Linked source.lines (fallbackChunks s source) := by
  have ht := fallbackChunks_tiles s source
  have hids : (fallbackChunks s source).map (·.id) = (Cutting.fixedChunks source s.fallbackSize 0 0
      ((source.lines.length : Int) - 1)).map (·.id) := List.map_map
  constructor
  · intro c hc
    obtain ⟨b, hb, rfl⟩ := List.mem_map.mp hc
    refine Cutting.plainChunks_quotes source ?_ hb
    intro p hp
    obtain ⟨r, hr, rfl⟩ := List.mem_map.mp hp
    obtain ⟨h1, h2, h3⟩ := ht.range r hr
    exact ⟨h1, h2, Int.lt_of_le_sub_one h3⟩
  · rw [hids]
    exact Cutting.plainChunks_ids_nodup _ _ _
  · intro c hc r hr
    obtain ⟨b, _, rfl⟩ := List.mem_map.mp hc
    cases hr
  · intro c hc t ht
    obtain ⟨b, _, rfl⟩ := List.mem_map.mp hc
    cases ht

theorem fallbackChunks_ne_nil (s : Settings) (source : Source) : fallbackChunks s source ≠ [] := by
  obtain ⟨r, hr⟩ := List.exists_mem_of_ne_nil _ (fallbackChunks_tiles s source).ne_nil
  have hp : ({ r with symbols := none } : Cutting.Piece) ∈
      (Cutting.windows s.fallbackSize 0 0 ((source.lines.length : Int) - 1)).map
        fun r => ({ r with symbols := none } : Cutting.Piece) := List.mem_map_of_mem hr
  obtain ⟨c, hc, _⟩ := Cutting.exists_plainChunk source source.lines hp
  exact List.ne_nil_of_mem (List.mem_map_of_mem hc)

theorem rawChunks_ne_nil (p : Pipeline) (source : Source) (preferred : Option Text) :
    (p.rawChunks source preferred).1 ≠ [] := by
  rcases p.rawChunks_cases source preferred with ⟨_, _, _, hne⟩ | heq
  · exact hne
  · rw [heq]
    exact fallbackChunks_ne_nil _ _

theorem path_of_mem_rawChunks {p : Pipeline} {source : Source} {preferred : Option Text} {c : EnrichedChunk}
    (hc : c ∈ (p.rawChunks source preferred).1) : c.path = source.path := by
  rcases p.rawChunks_cases source preferred with ⟨_, _, h, _⟩ | heq
  · exact Strategy.path_of_mem_chunks h hc
  · rw [heq] at hc
    obtain ⟨b, hb, rfl⟩ := List.mem_map.mp hc
    obtain ⟨_, _, _, _, rfl⟩ := ChunkId.exists_of_mem_zipWith hb
    rfl

theorem rawChunks_ids_nodup (p : Pipeline) (source : Source) (preferred : Option Text) :
    ((p.rawChunks source preferred).1.map (·.id)).Nodup := by
  rcases p.rawChunks_cases source preferred with ⟨_, _, h, _⟩ | heq
  · exact Strategy.chunks_ids_nodup h
  · rw [heq]
    exact (fallbackChunks_linked _ _).ids

/-- The chunks of a pipeline with the usual strategies are linked before they are enriched. -/
theorem rawChunks_linked (reader : SyntaxReader) {s : Settings} (hs : s.Valid) (ht : s.preferTrees = false)
    (source : Source) (preferred : Option Text) :
    Linked source.lines ((ofSettings reader s).rawChunks source preferred).1 := by
  rcases (ofSettings reader s).rawChunks_cases source preferred with ⟨strategy, hmem, h, _⟩ | heq
  · exact Strategy.chunks_linked hs ht hmem h
  · rw [heq]
    exact fallbackChunks_linked _ _

end Pipeline

/-! ### Enrichment -/

namespace Enrichment

open RelationAnalysis (fileRelations)

/-- The relations found in a batch whose chunks are from one file. -/
def inFile (minConfidence : Float) (cs : List EnrichedChunk) : List (List Relation) :=
  fileRelations { minConfidence := minConfidence } cs

/-- What comes before a chunk in the graph of a batch from one file. -/
def dependentsInFile (minConfidence : Float) (cs : List EnrichedChunk) (id : Text) : List Text :=
  (RelationGraph.build ((cs.map (·.id)).zip (inFile minConfidence cs))).predecessors.get id

/-- The chunks of one file, enriched. -/
def enrichFile (minConfidence : Float) (cs : List EnrichedChunk) (file : Text) : List EnrichedChunk :=
  List.zipWith (fun c found => enrichChunk file (cs.map (·.id)) c
    (((fileDependencies file cs).lookup c.language).getD []) found
    (dependentsInFile minConfidence cs c.id)) cs (inFile minConfidence cs)

theorem zipWith_chunkRelations {β : Type} (f : EnrichedChunk → List Relation → β) (cs : List EnrichedChunk)
    (found : List (List Relation)) :
    List.zipWith (fun c x => f c x.relations) cs (List.zipWith RelationAnalysis.chunkRelations cs found) =
      List.zipWith f cs found := by
  induction cs generalizing found with
  | nil => rfl
  | cons c cs ih =>
    cases found with
    | nil => rfl
    | cons rs found =>
      rw [List.zipWith_cons_cons, List.zipWith_cons_cons, ih, List.zipWith_cons_cons]
      rfl

/-- Chunks of one file can be enriched. -/
theorem enrich_eq (minConfidence : Float) {cs : List EnrichedChunk} (hne : cs ≠ []) {path : Text}
    (hpath : ∀ c ∈ cs, c.path = path) (file : Text) :
    ∃ log, enrich minConfidence cs file = .ok (enrichFile minConfidence cs file, log) := by
  have hanalyse := RelationAnalysis.analyse_eq { minConfidence := minConfidence } hpath
  have hnonempty : ¬ cs.isEmpty = true := by rwa [List.isEmpty_iff]
  unfold enrich
  rw [if_neg hnonempty, RelationAnalysis.batch, hanalyse]
  refine ⟨_, congrArg Except.ok (Prod.ext ?_ rfl)⟩
  exact zipWith_chunkRelations (fun c found => enrichChunk file (cs.map (·.id)) c
    (((fileDependencies file cs).lookup c.language).getD []) found (dependentsInFile minConfidence cs c.id)) cs _

/-- The enriched chunk at a place. -/
theorem getElem?_enrichFile {minConfidence : Float} {cs : List EnrichedChunk} {file : Text} {k : Nat}
    {e : EnrichedChunk} (h : (enrichFile minConfidence cs file)[k]? = some e) :
    ∃ c found, cs[k]? = some c ∧ (inFile minConfidence cs)[k]? = some found ∧
      e = enrichChunk file (cs.map (·.id)) c (((fileDependencies file cs).lookup c.language).getD []) found
        (dependentsInFile minConfidence cs c.id) := by
  obtain ⟨c, found, hc, hfound, heq⟩ := List.getElem?_zipWith_eq_some.mp h
  exact ⟨c, found, hc, hfound, heq.symm⟩

theorem length_inFile (minConfidence : Float) (cs : List EnrichedChunk) :
    (inFile minConfidence cs).length = cs.length := RelationAnalysis.length_fileRelations _ cs

theorem enrichFile_ids (minConfidence : Float) (cs : List EnrichedChunk) (file : Text) :
    (enrichFile minConfidence cs file).map (·.id) = cs.map (·.id) := by
  refine ChunkId.map_zipWith_left ?_ (length_inFile minConfidence cs).symm
  intro c found
  rfl

theorem enrichFile_ne_nil {minConfidence : Float} {cs : List EnrichedChunk} (hne : cs ≠ []) (file : Text) :
    enrichFile minConfidence cs file ≠ [] := by
  intro hnil
  have hids := enrichFile_ids minConfidence cs file
  rw [hnil] at hids
  exact hne (List.map_eq_nil_iff.mp hids.symm)

/-- Enriching keeps chunks linked. -/
theorem enrichFile_linked (minConfidence : Float) {cs : List EnrichedChunk} {ls : List Text} (h : Linked ls cs)
    (file : Text) : Linked ls (enrichFile minConfidence cs file) := by
  have hids := enrichFile_ids minConfidence cs file
  constructor
  · intro e he
    obtain ⟨k, hk⟩ := List.mem_iff_getElem?.mp he
    obtain ⟨c, _, hc, _, rfl⟩ := getElem?_enrichFile hk
    have hq := h.quotes c (List.mem_of_getElem? hc)
    exact ⟨hq.inFile, hq.content⟩
  · rw [hids]
    exact h.ids
  · intro e he r hr
    obtain ⟨k, hk⟩ := List.mem_iff_getElem?.mp he
    obtain ⟨c, found, hc, hfound, rfl⟩ := getElem?_enrichFile hk
    rw [hids]
    rcases List.mem_append.mp (Relation.mem_of_mem_distinctKeys hr) with hr | hr
    · exact h.relations c (List.mem_of_getElem? hc) r hr
    · obtain ⟨j, d, hjk, hd, htarget⟩ := RelationAnalysis.target_of_mem_fileRelations hfound hr
      rw [htarget]
      refine ⟨List.mem_map_of_mem (List.mem_of_getElem? hd), ?_⟩
      intro heq
      exact hjk (place_eq_of_nodup_map h.ids hd hc heq)
  · intro e he t ht
    obtain ⟨k, hk⟩ := List.mem_iff_getElem?.mp he
    obtain ⟨c, _, hc, _, rfl⟩ := getElem?_enrichFile hk
    rw [hids]
    rcases List.mem_append.mp (mem_distinct.mp ht) with ht | ht
    · exact h.dependents c (List.mem_of_getElem? hc) t ht
    · obtain ⟨x, hx, rfl⟩ := List.mem_map.mp (RelationGraph.mem_of_mem_predecessors ht)
      exact (List.of_mem_zip hx).1

theorem file_keepContext (old : Option ContextInfo) (fresh : ContextInfo) :
    (keepContext old fresh).file = fresh.file := by
  unfold keepContext
  split <;> rfl

/-- An enriched chunk knows the other chunks and the length of its file. -/
theorem enrichFile_context (minConfidence : Float) {cs : List EnrichedChunk} {file : Text}
    (hids : (cs.map (·.id)).Nodup) {k : Nat} {e : EnrichedChunk}
    (h : (enrichFile minConfidence cs file)[k]? = some e) :
    ∃ context, e.context = some context ∧ context.file.siblings = (cs.map (·.id)).eraseIdx k ∧
      context.file.totalLines = (Text.lines file).length := by
  obtain ⟨c, _, hc, _, rfl⟩ := getElem?_enrichFile h
  refine ⟨_, rfl, ?_, ?_⟩
  · obtain ⟨hlt, hget⟩ := List.getElem?_eq_some_iff.mp
      (show (cs.map (·.id))[k]? = some c.id by rw [List.getElem?_map, hc]; rfl)
    rw [file_keepContext, ← hids.erase_getElem k hlt, hget, hids.erase_eq_filter]
    rfl
  · rw [file_keepContext]
    rfl

end Enrichment

/-! ### Files -/

namespace Pipeline

/-- The chunks of a file that is not empty are enriched without a failure. -/
theorem chunk_eq (p : Pipeline) (path content snapshot : Text) (preferred : Option Text) (h : content ≠ []) :
    ∃ log, p.chunk path content snapshot preferred = .ok (Enrichment.enrichFile p.settings.minConfidence
      (p.rawChunks ⟨path, snapshot, Language.detect path content, content⟩ preferred).1 content, log) := by
  have hnonempty : ¬ content.isEmpty = true := by rwa [List.isEmpty_iff]
  obtain ⟨log, henrich⟩ := Enrichment.enrich_eq p.settings.minConfidence
    (p.rawChunks_ne_nil ⟨path, snapshot, Language.detect path content, content⟩ preferred)
    (fun c hc => path_of_mem_rawChunks hc) content
  unfold chunk
  rw [if_neg hnonempty]
  dsimp only
  rw [henrich]
  exact ⟨_, rfl⟩

/-- Whatever the settings and the preferred strategy, a file that is not empty becomes a list of chunks
that is not empty either. The chunks quote the file, name only each other, and know all the others and
the length of the file. -/
theorem chunk_linked (reader : SyntaxReader) (size overlap fallback : Int) (validate : Bool) (minConfidence : Float)
    (path content snapshot : Text) (preferred : Option Text) (h : content ≠ []) :
    ∃ cs log, (ofSettings reader (Settings.clamp size overlap fallback false validate minConfidence)).chunk path
        content snapshot preferred = .ok (cs, log) ∧
      cs ≠ [] ∧ Linked (Text.lines content) cs ∧
      ∀ (k : Nat) (c : EnrichedChunk), cs[k]? = some c → ∃ context : ContextInfo, c.context = some context ∧
        context.file.siblings = (cs.map (·.id)).eraseIdx k ∧
        context.file.totalLines = (Text.lines content).length := by
  have hs := Settings.clamp_valid size overlap fallback false validate minConfidence
  obtain ⟨log, hchunk⟩ :=
    (ofSettings reader (Settings.clamp size overlap fallback false validate minConfidence)).chunk_eq path content
      snapshot preferred h
  have hraw := rawChunks_linked reader hs rfl ⟨path, snapshot, Language.detect path content, content⟩ preferred
  have hne := rawChunks_ne_nil (ofSettings reader (Settings.clamp size overlap fallback false validate minConfidence))
    ⟨path, snapshot, Language.detect path content, content⟩ preferred
  refine ⟨_, log, hchunk, Enrichment.enrichFile_ne_nil hne content, Enrichment.enrichFile_linked _ hraw content, ?_⟩
  intro k c hc
  rw [Enrichment.enrichFile_ids]
  exact Enrichment.enrichFile_context _ hraw.ids hc

/-- Two methods that call each other, cut under sizes out of bounds. -/
theorem chunk_linked_methods :
    ("class A:\n def f(): g()\n\n def g(): f()\n" : Text) ≠ [] ∧
      ∃ cs log, (ofSettings Grammar.tree (Settings.clamp (-3) 900 0 false true 0.3)).chunk "a.py"
          "class A:\n def f(): g()\n\n def g(): f()\n" "snap/1" (some "Context-Aware") = .ok (cs, log) ∧
        cs ≠ [] ∧ Linked (Text.lines "class A:\n def f(): g()\n\n def g(): f()\n") cs ∧
        ∀ (k : Nat) (c : EnrichedChunk), cs[k]? = some c → ∃ context : ContextInfo,
          c.context = some context ∧ context.file.siblings = (cs.map (·.id)).eraseIdx k ∧
          context.file.totalLines = (Text.lines "class A:\n def f(): g()\n\n def g(): f()\n").length :=
  ⟨by decide, chunk_linked Grammar.tree (-3) 900 0 true 0.3 "a.py" "class A:\n def f(): g()\n\n def g(): f()\n"
    "snap/1" (some "Context-Aware") (by decide)⟩

end Pipeline

end SourceChunks
