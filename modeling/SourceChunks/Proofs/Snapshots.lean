import Mathlib.Data.Set.Function
import SourceChunks.Proofs.LinkedPipeline
import SourceChunks.Proofs.Renaming

/-! The snapshot of a file. It is stamped on the front of every identity and has no other influence: the
chunks of one file from two snapshots are the same up to the stamp. -/

namespace SourceChunks

/-! ### Stamped identities -/

namespace ChunkId

/-- The identity that a snapshot makes of one without a snapshot. -/
def stamp (snapshot id : Text) : Text := sanitise snapshot ++ id

/-- The identity with the stamp of one snapshot replaced by that of another. -/
def restamp (a b id : Text) : Text := stamp b (id.drop (sanitise a).length)

theorem stamp_injective (snapshot : Text) : Function.Injective (stamp snapshot) :=
  List.append_right_injective _

theorem restamp_comp_stamp (a b : Text) : restamp a b ∘ stamp a = stamp b := by
  funext id
  simp only [Function.comp_apply, restamp, stamp, List.drop_left]

theorem restamp_bijOn (a b : Text) (ids : List Text) :
    Set.BijOn (restamp a b) {t | t ∈ ids.map (stamp a)} {t | t ∈ ids.map (stamp b)} := by
  have hstamp (id : Text) : restamp a b (stamp a id) = stamp b id := congrFun (restamp_comp_stamp a b) id
  refine ⟨?_, ?_, ?_⟩
  · intro t ht
    obtain ⟨id, hid, rfl⟩ := List.mem_map.mp ht
    rw [hstamp]
    exact List.mem_map_of_mem hid
  · intro t ht u hu heq
    obtain ⟨i, _, rfl⟩ := List.mem_map.mp ht
    obtain ⟨j, _, rfl⟩ := List.mem_map.mp hu
    rw [hstamp, hstamp] at heq
    rw [stamp_injective b heq]
  · intro t ht
    obtain ⟨id, hid, rfl⟩ := List.mem_map.mp ht
    exact ⟨stamp a id, List.mem_map_of_mem hid, hstamp id⟩

/-- If all wanted identities are stamped, so are the allocated ones. -/
theorem allocate_stamp {α : Type} {snapshot : Text} {wanted bare : α → Text}
    (h : ∀ x, wanted x = stamp snapshot (bare x)) (xs : List α) :
    allocate [] (xs.map wanted) = (allocate [] (xs.map bare)).map (stamp snapshot) := by
  have hwanted : xs.map wanted = (xs.map bare).map (sanitise snapshot ++ ·) := by
    rw [List.map_map]
    exact List.map_congr_left fun x _ => h x
  rw [hwanted]
  exact allocate_map_append (sanitise snapshot) [] (xs.map bare)

end ChunkId

open ChunkId (stamp stamp_injective allocate_stamp)

/-- The file without its snapshot. -/
def Source.bare (source : Source) : Source := { source with snapshot := [] }

theorem Source.idFor_eq (source : Source) (first last : Int) (suffix : Text) :
    source.idFor first last suffix = stamp source.snapshot (source.bare.idFor first last suffix) :=
  ChunkId.make_eq _ _ _ _ _

/-! ### Drafts -/

/-- The draft with the identities in it renamed. -/
def Draft.rename (g : Text → Text) (d : Draft) : Draft :=
  { d with dependents := d.dependents.map g, relations := d.relations.map (·.rename g) }

theorem Draft.chunk_rename (g : Text → Text) (source : Source) (ls : List Text) (id : Text) (d : Draft) :
    (d.rename g).chunk source ls (g id) = (d.chunk source.bare ls id).rename g source.snapshot := rfl

theorem Draft.wantedId_eq (source : Source) (d : Draft) :
    d.wantedId source = stamp source.snapshot (d.wantedId source.bare) :=
  source.idFor_eq _ _ _

/-- Drafts that name stamped identities become stamped chunks. -/
theorem Draft.chunks_stamp {α : Type} (source : Source) {draft bare : α → Draft}
    (h : ∀ x, draft x = (bare x).rename (stamp source.snapshot)) (ls : List Text) (xs : List α) :
    Draft.chunks source ls (xs.map draft) =
      (Draft.chunks source.bare ls (xs.map bare)).map (·.rename (stamp source.snapshot) source.snapshot) := by
  have hwanted (x : α) : (draft x).wantedId source = stamp source.snapshot ((bare x).wantedId source.bare) := by
    rw [h]
    exact Draft.wantedId_eq source (bare x)
  rw [chunks_map, chunks_map, allocate_stamp hwanted, List.zipWith_map_left, List.map_zipWith]
  congr 1
  funext id x
  rw [h, chunk_rename]

/-! ### Strategies -/

namespace Semantic

theorem chunks_stamp (reader : SyntaxReader) (p : SemanticParams) (source : Source) :
    chunks reader p source =
      (chunks reader p source.bare).map (·.map (·.rename (stamp source.snapshot) source.snapshot)) := by
  dsimp only [chunks, Source.bare]
  rw [show Source.lines ⟨source.path, [], source.language, source.content⟩ = source.lines from rfl]
  cases (Recogniser.forLanguage reader p.preferTrees source.language).topNodes p.blockSize source.lines with
  | error f => rfl
  | ok ns =>
    have hdraft (n : Node) : draft source.lines n = (draft source.lines n).rename (stamp source.snapshot) := rfl
    exact congrArg Except.ok (Draft.chunks_stamp source hdraft source.lines _)

end Semantic

namespace ContextAware

theorem tieKind_ne_similarTo (a b : ContextNode) : tieKind a b ≠ .similarTo := by
  intro h
  have hmem := tieKind_mem a b
  rw [h] at hmem
  exact absurd hmem (by decide)

theorem kind_ne_similarTo {ns : List ContextNode} {t : Tie} (ht : t ∈ ties ns) : t.kind ≠ .similarTo := by
  obtain ⟨a, b, _, rfl⟩ := mem_ties ht
  exact tieKind_ne_similarTo a.1 b.1

variable {g : Text → Text}

theorem relation?_rename {t : Tie} (ht : t.kind ≠ .similarTo) (ns : List Node) (ids : List Text) :
    relation? ns (ids.map g) t = (relation? ns ids t).map (·.rename g) := by
  unfold relation?
  rw [List.getElem?_map]
  cases ids[t.target]? with
  | none => rfl
  | some id =>
    cases ns[t.target]? with
    | none => rfl
    | some n => exact congrArg some (Relation.rename_make ht _ _ _ _ _ _ _ _).symm

theorem dependents_rename (hg : Function.Injective g) (ids : List Text) (ts : List Tie) (i : Nat) :
    dependents (ids.map g) ts i = (dependents ids ts i).map g := by
  rw [dependents, dependents, ← distinct_map hg, List.map_filterMap]
  congr 2
  funext t
  rw [List.getElem?_map]
  split <;> rfl

theorem draft_rename (hg : Function.Injective g) (p : ContextParams) (source : Source) (ls : List Text)
    (ns : List Node) {ts : List Tie} (hts : ∀ t ∈ ts, t.kind ≠ .similarTo) (ids : List Text) (i : Nat)
    (n : ContextNode) :
    draft p source ls ns ts (ids.map g) i n = (draft p source.bare ls ns ts ids i n).rename g := by
  have hrelations : (ts.filter fun t => t.source = i).filterMap (relation? ns (ids.map g)) =
      ((ts.filter fun t => t.source = i).filterMap (relation? ns ids)).map (·.rename g) := by
    rw [List.map_filterMap]
    refine List.filterMap_congr ?_
    intro t ht
    exact relation?_rename (hts t (List.mem_filter.mp ht).1) ns ids
  unfold draft
  rw [hrelations, dependents_rename hg]
  rfl

theorem identities_stamp (p : ContextParams) (source : Source) (count : Nat) (ns : List Node) (ts : List Tie) :
    identities p source count ns ts = (identities p source.bare count ns ts).map (stamp source.snapshot) :=
  allocate_stamp (fun _ => source.idFor_eq _ _ []) _

theorem chunks_stamp (reader : SyntaxReader) (p : ContextParams) (source : Source) :
    chunks reader p source =
      (chunks reader p source.bare).map (·.map (·.rename (stamp source.snapshot) source.snapshot)) := by
  dsimp only [chunks, Source.bare]
  rw [show Source.lines ⟨source.path, [], source.language, source.content⟩ = source.lines from rfl]
  cases contextNodes reader p source.language 50 source.lines with
  | error f => rfl
  | ok ns =>
    refine congrArg Except.ok (Draft.chunks_stamp source ?_ source.lines _)
    intro n
    rw [identities_stamp]
    exact draft_rename (stamp_injective _) p source _ _ (fun t ht => kind_ne_similarTo ht) _ n.2 n.1

end ContextAware

namespace Hierarchical

variable {g : Text → Text}

theorem lookup_zip_map {α : Type} [BEq α] (g : Text → Text) (xs : List α) (ids : List Text) (x : α) :
    (xs.zip (ids.map g)).lookup x = ((xs.zip ids).lookup x).map g := by
  induction xs generalizing ids with
  | nil => rfl
  | cons y xs ih =>
    cases ids with
    | nil => rfl
    | cons id ids =>
      rw [List.map_cons, List.zip_cons_cons, List.lookup_cons, ih, List.zip_cons_cons, List.lookup_cons]
      split <;> rfl

theorem relations_rename (t : ScopeTree) {idOf? renamed? : Nat → Option Text}
    (h : ∀ k, renamed? k = (idOf? k).map g) (s : Scope) :
    relations t renamed? s = (relations t idOf? s).map (·.rename g) := by
  have hfound {f : Scope → Text → Relation} (hf : ∀ q id, f q (g id) = (f q id).rename g) (k : Nat) :
      (do let q ← t.get? k; let id ← renamed? k; return f q id) =
        (do let q ← t.get? k; let id ← idOf? k; return f q id : Option Relation).map (·.rename g) := by
    rw [h]
    cases t.get? k with
    | none => rfl
    | some q =>
      cases idOf? k with
      | none => rfl
      | some id => exact congrArg some (hf q id)
  dsimp only [relations]
  rw [List.map_append, List.map_filterMap, List.map_filterMap]
  congr 2
  · funext k
    exact hfound (fun _ _ => (Relation.rename_make (by decide) _ _ _ _ _ _ _ _).symm) k
  · funext k
    exact hfound (fun _ _ => (Relation.rename_make (by decide) _ _ _ _ _ _ _ _).symm) k

theorem wantedId_eq (source : Source) (s : Scope) :
    wantedId source s = stamp source.snapshot (wantedId source.bare s) :=
  source.idFor_eq _ _ _

theorem lookup_identities (source : Source) (t : ScopeTree) (h : Nat) :
    (identities source t).lookup h = ((identities source.bare t).lookup h).map (stamp source.snapshot) := by
  rw [identities, allocate_stamp fun hs : Nat × Scope => wantedId_eq source hs.2]
  exact lookup_zip_map _ _ _ h

theorem chunks_stamp (source : Source) :
    chunks source = (chunks source.bare).map (·.rename (stamp source.snapshot) source.snapshot) := by
  refine Draft.chunks_stamp source ?_ source.lines _
  intro hs
  unfold draft
  rw [relations_rename _ (lookup_identities source _)]
  rfl

end Hierarchical

theorem Strategy.chunks_stamp (reader : SyntaxReader) (s : Strategy) (path content snapshot : Text) :
    s.chunks reader path content snapshot =
      (s.chunks reader path content []).map (·.map (·.rename (stamp snapshot) snapshot)) := by
  cases s with
  | semantic p => exact Semantic.chunks_stamp reader p ⟨path, snapshot, Language.detect path content, content⟩
  | hierarchical =>
    exact congrArg Except.ok
      (Hierarchical.chunks_stamp ⟨path, snapshot, Language.detect path content, content⟩)
  | contextAware p =>
    exact ContextAware.chunks_stamp reader p ⟨path, snapshot, Language.detect path content, content⟩

/-! ### Before enrichment -/

namespace Pipeline

theorem fallbackChunks_stamp (s : Settings) (source : Source) :
    fallbackChunks s source =
      (fallbackChunks s source.bare).map (·.rename (stamp source.snapshot) source.snapshot) := by
  dsimp only [fallbackChunks, Cutting.fixedChunks, Cutting.plainChunks, Source.bare]
  rw [show Source.lines ⟨source.path, [], source.language, source.content⟩ = source.lines from rfl,
    allocate_stamp fun p : Cutting.Piece => source.idFor_eq p.first p.last [],
    List.zipWith_map_left, List.map_zipWith, List.map_zipWith, List.map_zipWith]
  rfl

theorem strategyChunks_stamp (reader : SyntaxReader) (s : Strategy) (path content snapshot : Text) :
    (strategyChunks reader s path content snapshot).1 =
      (strategyChunks reader s path content []).1.map (·.rename (stamp snapshot) snapshot) := by
  unfold strategyChunks
  rw [Strategy.chunks_stamp]
  cases s.chunks reader path content [] with
  | error f => rfl
  | ok cs =>
    cases cs with
    | nil => rfl
    | cons c cs => rfl

theorem rawChunks_stamp (p : Pipeline) (source : Source) (preferred : Option Text) :
    (p.rawChunks source preferred).1 =
      (p.rawChunks source.bare preferred).1.map (·.rename (stamp source.snapshot) source.snapshot) := by
  dsimp only [rawChunks, Source.bare]
  cases (p.registry.applicable source.language source.content preferred).1 with
  | none => exact fallbackChunks_stamp p.settings source
  | some s =>
    dsimp only
    rw [strategyChunks_stamp, List.isEmpty_map]
    split
    · exact fallbackChunks_stamp p.settings source
    · rfl

end Pipeline

/-! ### Enrichment -/

namespace Enrichment

variable {g : Text → Text}

theorem keepContext_rename (old : Option ContextInfo) (fresh : ContextInfo) :
    keepContext (old.map (·.rename g)) (fresh.rename g) = (keepContext old fresh).rename g := by
  cases old with
  | none => rfl
  | some x => rfl

theorem analyse_rename (hg : Function.Injective g) (snapshot : Text) (c : EnrichedChunk) (file : Text)
    (ids : List Text) :
    Context.analyse {} (c.rename g snapshot) file (ids.map g) = (Context.analyse {} c file ids).rename g := by
  have hsiblings : (ids.map g).filter (· != g c.id) = (ids.filter (· != c.id)).map g := by
    rw [List.filter_map]
    congr 2
    funext id
    exact congrArg Bool.not hg.beq_eq
  unfold Context.analyse
  rw [EnrichedChunk.id_rename, hsiblings]
  rfl

theorem enrichChunk_rename (hg : Function.Injective g) (snapshot file : Text) (ids : List Text)
    (c : EnrichedChunk) (dependencies : List Text) (found : List Relation) (dependents : List Text) :
    enrichChunk file (ids.map g) (c.rename g snapshot) dependencies (found.map (·.rename g))
        (dependents.map g) =
      (enrichChunk file ids c dependencies found dependents).rename g snapshot := by
  have hdependents : distinct (c.facets.dependents.map g ++ dependents.map g) =
      (distinct (c.facets.dependents ++ dependents)).map g := by
    rw [← distinct_map hg, List.map_append]
  have hrelations : Relation.distinctKeys (c.relations.map (·.rename g) ++ found.map (·.rename g)) =
      (Relation.distinctKeys (c.relations ++ found)).map (·.rename g) := by
    rw [← Relation.distinctKeys_map (Relation.key_rename hg), List.map_append]
  unfold enrichChunk
  rw [analyse_rename hg, EnrichedChunk.context_rename, keepContext_rename, EnrichedChunk.dependents_rename,
    hdependents, EnrichedChunk.relations_rename, hrelations]
  rfl

theorem dependentsInFile_rename (hg : Function.Injective g) (snapshot : Text) (minConfidence : Float)
    (cs : List EnrichedChunk) (id : Text) :
    dependentsInFile minConfidence (cs.map (·.rename g snapshot)) (g id) =
      (dependentsInFile minConfidence cs id).map g := by
  have hheld : ((cs.map (·.rename g snapshot)).map (·.id)).zip
        (inFile minConfidence (cs.map (·.rename g snapshot))) =
      ((cs.map (·.id)).zip (inFile minConfidence cs)).map fun x => (g x.1, x.2.map (·.rename g)) := by
    rw [inFile, RelationAnalysis.fileRelations_map relabels_rename hg, EnrichedChunk.map_id_rename, List.zip_map]
    rfl
  rw [dependentsInFile, hheld, RelationGraph.build_rename hg]
  exact Adjacency.get_rename hg _ id

/-- Renamed chunks are enriched to renamed chunks. -/
theorem enrichFile_rename (hg : Function.Injective g) (snapshot : Text) (minConfidence : Float)
    (cs : List EnrichedChunk) (file : Text) :
    enrichFile minConfidence (cs.map (·.rename g snapshot)) file =
      (enrichFile minConfidence cs file).map (·.rename g snapshot) := by
  have hdependencies : fileDependencies file (cs.map (·.rename g snapshot)) = fileDependencies file cs := by
    rw [fileDependencies, List.map_map]
    rfl
  have hfound : inFile minConfidence (cs.map (·.rename g snapshot)) =
      (inFile minConfidence cs).map (·.map (·.rename g)) := RelationAnalysis.fileRelations_map relabels_rename hg _ cs
  rw [enrichFile, EnrichedChunk.map_id_rename, hdependencies, hfound, List.zipWith_map, enrichFile,
    List.map_zipWith]
  congr 1
  funext c found
  rw [EnrichedChunk.id_rename, EnrichedChunk.language_rename, dependentsInFile_rename hg, enrichChunk_rename hg]

end Enrichment

/-! ### Files -/

namespace Pipeline

/-- Behind the chunks of a file from any snapshot there are the same chunks without a stamp. -/
theorem exists_unstamped (p : Pipeline) (path content : Text) (preferred : Option Text) :
    ∃ bare : List EnrichedChunk, (bare.map (·.id)).Nodup ∧ ∀ snapshot, ∃ log,
      p.chunk path content snapshot preferred = .ok (bare.map (·.rename (stamp snapshot) snapshot), log) := by
  by_cases hcontent : content = []
  · refine ⟨[], List.nodup_nil, fun snapshot => ⟨[], ?_⟩⟩
    rw [hcontent]
    rfl
  · refine ⟨Enrichment.enrichFile p.settings.minConfidence
      (p.rawChunks ⟨path, [], Language.detect path content, content⟩ preferred).1 content, ?_, ?_⟩
    · rw [Enrichment.enrichFile_ids]
      exact p.rawChunks_ids_nodup _ preferred
    · intro snapshot
      obtain ⟨log, hchunk⟩ := p.chunk_eq path content snapshot preferred hcontent
      refine ⟨log, ?_⟩
      rw [hchunk, rawChunks_stamp, Enrichment.enrichFile_rename (stamp_injective snapshot)]
      rfl

/-- Whatever reads the syntax trees, two snapshots of one file give the same chunks up to the names of the
chunks: one bijection between the identities of the first and those of the second carries everything over,
and apart from the identities and the snapshot itself nothing changes. -/
theorem chunk_snapshots (p : Pipeline) (path content : Text) (preferred : Option Text) (a b : Text) :
    ∃ cs ds log₁ log₂, ∃ f : Text → Text,
      p.chunk path content a preferred = .ok (cs, log₁) ∧ p.chunk path content b preferred = .ok (ds, log₂) ∧
      (cs.map (·.id)).Nodup ∧ (ds.map (·.id)).Nodup ∧
      Set.BijOn f {t | t ∈ cs.map (·.id)} {t | t ∈ ds.map (·.id)} ∧
      ds = cs.map (·.rename f b) := by
  obtain ⟨bare, hnodup, hchunk⟩ := p.exists_unstamped path content preferred
  obtain ⟨log₁, h₁⟩ := hchunk a
  obtain ⟨log₂, h₂⟩ := hchunk b
  refine ⟨_, _, log₁, log₂, ChunkId.restamp a b, h₁, h₂, ?_, ?_, ?_, ?_⟩
  · rw [EnrichedChunk.map_id_rename]
    exact hnodup.map (stamp_injective a)
  · rw [EnrichedChunk.map_id_rename]
    exact hnodup.map (stamp_injective b)
  · rw [EnrichedChunk.map_id_rename, EnrichedChunk.map_id_rename]
    exact ChunkId.restamp_bijOn a b _
  · rw [List.map_map]
    refine List.map_congr_left ?_
    intro c _
    rw [Function.comp_apply, EnrichedChunk.rename_rename, ChunkId.restamp_comp_stamp]

end Pipeline

end SourceChunks
