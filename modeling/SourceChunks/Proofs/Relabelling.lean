import Mathlib.Data.List.InsertIdx
import SourceChunks.Proofs.FileRelations

/-! Chunks under other identities. The analysis compares identities with each other only, and of a chunk
it reads its identity, range, path, language, text, names and kind. When the identities change by a
one-to-one function and these other parts stay, the relations change in their targets only. -/

namespace SourceChunks

/-! ### Renamed relations -/

/-- The relation with its target renamed. A relation of similarity tells its target in the
description. -/
def Relation.rename (g : Text → Text) (r : Relation) : Relation :=
  { r with
    target := g r.target
    description := if r.kind = .similarTo then "Similar to " ++ g r.target else r.description }

variable {g : Text → Text}

theorem Relation.rename_make {kind : RelationKind} (h : kind ≠ .similarTo) (target : Text) (strength : Float)
    (description : Text) (direction : Direction) (confidence : Float) (origin : Origin) (line : Option Int)
    (context : Option Text) :
    (make kind target strength description direction confidence origin line context).rename g =
      make kind (g target) strength description direction confidence origin line context := by
  have hdescription : (if kind = .similarTo then "Similar to " ++ g target else description) = description :=
    if_neg h
  unfold rename make
  rw [hdescription]

theorem Relation.key_rename (hg : Function.Injective g) (r q : Relation) :
    (r.rename g).key = (q.rename g).key ↔ r.key = q.key := by
  unfold key rename
  rw [Prod.mk.injEq, Prod.mk.injEq, Prod.mk.injEq, Prod.mk.injEq, hg.eq_iff]

theorem Relation.rename_rename (f g : Text → Text) (r : Relation) :
    (r.rename g).rename f = r.rename (f ∘ g) := by
  unfold rename
  split <;> rfl

/-! ### The index -/

/-- Under `f` every chunk gets the identity that `g` gives, and what else is read of it stays. -/
structure Relabels (g : Text → Text) (f : EnrichedChunk → EnrichedChunk) : Prop where
  id : ∀ c, (f c).id = g c.id
  content : ∀ c, (f c).content = c.content
  path : ∀ c, (f c).path = c.path
  language : ∀ c, (f c).language = c.language
  first : ∀ c, (f c).base.first = c.base.first
  last : ∀ c, (f c).base.last = c.base.last
  symbols : ∀ c, (f c).symbols = c.symbols
  semanticType : ∀ c, (f c).facets.semanticType = c.facets.semanticType

def IndexEntry.map (f : EnrichedChunk → EnrichedChunk) (e : IndexEntry) : IndexEntry :=
  { e with chunk := f e.chunk }

def ChunkIndex.map (f : EnrichedChunk → EnrichedChunk) (index : ChunkIndex) : ChunkIndex :=
  { index with entries := index.entries.map (·.map f) }

variable {f : EnrichedChunk → EnrichedChunk} (h : Relabels g f)

namespace IndexEntry

@[simp] theorem isTest_map (e : IndexEntry) : (e.map f).isTest = e.isTest := rfl

include h in
theorem id_map (e : IndexEntry) : (e.map f).chunk.id = g e.chunk.id := h.id e.chunk

include h in
theorem symbols_map (e : IndexEntry) : (e.map f).symbols = e.symbols := h.symbols e.chunk

include h in
theorem mentions_map (e q : IndexEntry) : (e.map f).mentions (q.map f) = e.mentions q := by
  rw [mentions, symbols_map h, mentions]
  rfl

include h in
theorem lineOf_map (e : IndexEntry) : (e.map f).lineOf = e.lineOf := by
  funext offset
  rw [lineOf, map, h.first, h.content, lineOf]

include h in
theorem ofChunk_map (c : EnrichedChunk) : ofChunk (f c) = (ofChunk c).map f := by
  rw [ofChunk, h.content, h.path, ofChunk, map]

end IndexEntry

namespace ChunkIndex

include h in
theorem fileGroup_map (cs : List EnrichedChunk) (path : Text) :
    fileGroup (cs.map f) path = fileGroup cs path := by
  have hfilter : ((cs.map f).zipIdx.filter fun c => c.1.path == path) =
      (cs.zipIdx.filter fun c => c.1.path == path).map (Prod.map f id) := by
    rw [List.zipIdx_map, List.filter_map]
    congr 2
    funext c
    exact congrArg (· == path) (h.path c.1)
  have hsort (xs : List (EnrichedChunk × Nat)) :
      (xs.mergeSort rangeOrder).map (Prod.map f id) = (xs.map (Prod.map f id)).mergeSort rangeOrder := by
    refine List.map_mergeSort ?_
    intro a _ b _
    simp only [rangeOrder, Prod.map, h.first, h.last]
  rw [fileGroup, hfilter, ← hsort, List.map_map]
  rfl

include h in
theorem ofChunks_map (cs : List EnrichedChunk) : ofChunks (cs.map f) = (ofChunks cs).map f := by
  have hpaths : (cs.map f).map (·.path) = cs.map (·.path) := by
    rw [List.map_map]
    exact List.map_congr_left fun c _ => h.path c
  have hsymbols : (cs.map f).flatMap (·.symbols) = cs.flatMap (·.symbols) := by
    rw [List.flatMap_map]
    simp only [h.symbols]
  have hentries : (cs.map f).map IndexEntry.ofChunk = (cs.map IndexEntry.ofChunk).map (·.map f) := by
    rw [List.map_map, List.map_map]
    exact List.map_congr_left fun c _ => IndexEntry.ofChunk_map h c
  have hfiles : fileGroup (cs.map f) = fileGroup cs := funext (fileGroup_map h cs)
  rw [ofChunks, hpaths, hsymbols, hentries, hfiles]
  rfl

theorem peers_map (index : ChunkIndex) (place : Nat) :
    (index.map f).peers place = (index.peers place).map (·.map f) :=
  List.eraseIdx_map _ _ _

include h in
theorem referenced_map (index : ChunkIndex) (e : IndexEntry) :
    (index.map f).referenced (e.map f) = index.referenced e := by
  rw [referenced, IndexEntry.symbols_map h, referenced]
  rfl

end ChunkIndex

/-! ### Passes -/

namespace Relation

include h in
theorem mentionRule_map {form : Text → Pattern} {relation relation' : IndexEntry → List Mention → Relation}
    (hrelation : ∀ q ms, relation' (q.map f) ms = (relation q ms).rename g) (names : List Text)
    (e q : IndexEntry) :
    mentionRule form relation' names (e.map f) (q.map f) =
      (mentionRule form relation names e q).map (·.rename g) := by
  have hamong : mentionsAmong names (e.map f) form = mentionsAmong names e form := by
    rw [mentionsAmong, IndexEntry.map, h.content, mentionsAmong]
  have hof : mentionsOf (mentionsAmong names e form) (q.map f) = mentionsOf (mentionsAmong names e form) q := by
    rw [mentionsOf, IndexEntry.symbols_map h, mentionsOf]
  rw [mentionRule, hamong, hof, mentionRule]
  split
  · rfl
  · rw [hrelation]
    rfl

include h in
theorem callTo_map (e q : IndexEntry) (ms : List Mention) :
    callTo (e.map f) (q.map f) ms = (callTo e q ms).rename g := by
  rw [callTo, IndexEntry.lineOf_map h, callTo, rename_make (by decide), IndexEntry.id_map h, IndexEntry.map,
    h.path]

include h in
theorem useOf_map (e q : IndexEntry) (ms : List Mention) :
    useOf (e.map f) (q.map f) ms = (useOf e q ms).rename g := by
  rw [useOf, IndexEntry.lineOf_map h, useOf, rename_make (by decide), IndexEntry.id_map h]

include h in
theorem toBase_map (e : IndexEntry) (b : Names.Base) (q : IndexEntry) :
    toBase (e.map f) b (q.map f) = (toBase e b q).rename g := by
  have hkind : (q.map f).chunk.facets.semanticType = q.chunk.facets.semanticType := h.semanticType q.chunk
  rw [toBase, IndexEntry.lineOf_map h, hkind, IndexEntry.id_map h, toBase]
  split
  · rw [rename_make (by decide)]
  · rw [rename_make (by decide)]

include h in
theorem baseRule_map (e : IndexEntry) (b : Names.Base) (q : IndexEntry) :
    baseRule (e.map f) b (q.map f) = (baseRule e b q).map (·.rename g) := by
  rw [baseRule, IndexEntry.symbols_map h, toBase_map h, baseRule, Option.map_if]

include h in
theorem testTargetRule_map (names : List Text) (q : IndexEntry) :
    testTargetRule names (q.map f) = (testTargetRule names q).map (·.rename g) := by
  have htest : testOf (q.map f) = (testOf q).rename g := by
    rw [testOf, IndexEntry.symbols_map h, testOf, rename_make (by decide), IndexEntry.id_map h]
  rw [testTargetRule, IndexEntry.isTest_map, IndexEntry.symbols_map h, htest, testTargetRule, Option.map_if]

include h in
theorem testSourceRule_map (e q : IndexEntry) :
    testSourceRule (e.map f) (q.map f) = (testSourceRule e q).map (·.rename g) := by
  have htest : testedBy (q.map f) = (testedBy q).rename g := by
    rw [testedBy, testedBy, rename_make (by decide), IndexEntry.id_map h, IndexEntry.map, h.path]
  rw [testSourceRule, IndexEntry.isTest_map, IndexEntry.mentions_map h, htest, testSourceRule, Option.map_if]

include h in
theorem similarRule_map (limit : Float) (e q : IndexEntry) :
    similarRule limit (e.map f) (q.map f) = (similarRule limit e q).map (·.rename g) := by
  have hscore : similarity (e.map f) (q.map f) = similarity e q := by
    rw [similarity, IndexEntry.symbols_map h, IndexEntry.symbols_map h, similarity]
    simp only [IndexEntry.map, h.semanticType, h.language]
  rw [similarRule, hscore, IndexEntry.id_map h, similarRule, Option.map_if]
  rfl

include h in
/-- The rules for a relabelled chunk, tried on relabelled chunks. -/
theorem rules_map (s : RelationSettings) (names : List Text) (e : IndexEntry) (pass : RelationPass) :
    ((rules s names (e.map f) pass).map fun rule q => rule (q.map f)) =
      (rules s names e pass).map fun rule q => (rule q).map (·.rename g) := by
  cases pass with
  | imports => rfl
  | calls => exact congrArg (fun r => [r]) (funext (mentionRule_map h (callTo_map h e) names e))
  | inheritance =>
    have hcontent : (e.map f).chunk.content = e.chunk.content := h.content e.chunk
    rw [rules, IndexEntry.symbols_map h, hcontent, rules, List.map_map, List.map_map]
    exact List.map_congr_left fun b _ => funext (baseRule_map h e b)
  | usage => exact congrArg (fun r => [r]) (funext (mentionRule_map h (useOf_map h e) names e))
  | tests =>
    refine congrArg (fun r => [r]) (funext fun q => ?_)
    rw [IndexEntry.isTest_map]
    split
    · exact testTargetRule_map h names q
    · exact testSourceRule_map h e q
  | similarity => exact congrArg (fun r => [r]) (funext (similarRule_map h _ e))

include h in
theorem ruleGroups_map (s : RelationSettings) (index : ChunkIndex) (place : Nat) (e : IndexEntry)
    (pass : RelationPass) :
    ruleGroups s (index.map f) place (e.map f) pass =
      (ruleGroups s index place e pass).map (·.map (·.rename g)) := by
  -- The rules agree as functions of an entry, and so they do on the peers.
  have hrules := congrArg (List.map fun rule => (index.peers place).filterMap rule)
    (rules_map h s (index.referenced e) e pass)
  rw [List.map_map, List.map_map] at hrules
  rw [ruleGroups, ChunkIndex.referenced_map h, ChunkIndex.peers_map, ruleGroups, List.map_map]
  simpa only [Function.comp_def, List.filterMap_map, List.map_filterMap] using hrules

include h in
theorem importTargets_map (index : ChunkIndex) (e : IndexEntry) (file : FileGroup) :
    importTargets (index.map f) (e.map f) file = (importTargets index e file).map (·.map f) := by
  have hentries : (file.places.filterMap fun p => (index.map f).entries[p]?) =
      (file.places.filterMap fun p => index.entries[p]?).map (·.map f) := by
    rw [List.map_filterMap]
    simp only [ChunkIndex.map, List.getElem?_map]
  have hfilter (es : List IndexEntry) :
      (es.map (·.map f)).filter (e.map f).mentions = (es.filter e.mentions).map (·.map f) := by
    rw [List.filter_map]
    congr 2
    funext q
    exact IndexEntry.mentions_map h e q
  rw [importTargets, hentries, hfilter, List.isEmpty_map, ← List.map_take, importTargets]
  split
  · rfl
  · rfl

include h in
theorem importsOf_map (index : ChunkIndex) (e : IndexEntry) (importPath : Text) :
    importsOf (index.map f) (e.map f) importPath = (·.map (·.rename g)) <$> importsOf index e importPath := by
  have hpath : (e.map f).chunk.path = e.chunk.path := h.path e.chunk
  have hcontent : (e.map f).chunk.content = e.chunk.content := h.content e.chunk
  have htargets (files : List FileGroup) : files.flatMap (importTargets (index.map f) (e.map f)) =
      (files.flatMap (importTargets index e)).map (·.map f) := by
    rw [List.map_flatMap, ← funext (importTargets_map h index e)]
  unfold importsOf
  dsimp only
  rw [hpath, hcontent, IndexEntry.lineOf_map h]
  split
  · rfl
  · rw [map_bind]
    refine bind_congr fun files => ?_
    rw [htargets, List.map_map, map_pure, List.map_map]
    refine congrArg pure (List.map_congr_left fun q _ => ?_)
    rw [Function.comp_apply, Function.comp_apply, rename_make (by decide), IndexEntry.id_map h]

include h in
theorem imports_map (index : ChunkIndex) (e : IndexEntry) :
    imports (index.map f) (e.map f) = (·.map (·.rename g)) <$> imports index e := by
  have hcontent : (e.map f).chunk.content = e.chunk.content := h.content e.chunk
  have hlanguage : (e.map f).chunk.language = e.chunk.language := h.language e.chunk
  unfold imports
  rw [hcontent, hlanguage, funext (importsOf_map h index e), mapM_map_ok, map_bind, bind_map_left]
  refine bind_congr fun found => ?_
  rw [map_pure, List.map_flatten]

end Relation

namespace RelationAnalysis

include h in
theorem found_map (s : RelationSettings) (index : ChunkIndex) (place : Nat) (e : IndexEntry)
    (pass : RelationPass) :
    found s (index.map f) place (e.map f) pass = (·.map (·.rename g)) <$> found s index place e pass := by
  by_cases hpass : pass = .imports
  · rw [hpass]
    exact Relation.imports_map h index e
  · rw [Relation.found_eq_rules s _ place _ hpass, Relation.found_eq_rules s index place e hpass,
      Relation.ruleGroups_map h, ← List.map_flatten]
    rfl

include h in
theorem relationsAt_map (hg : Function.Injective g) (s : RelationSettings) (index : ChunkIndex) (place : Nat)
    (e : IndexEntry) :
    relationsAt s (index.map f) place (e.map f) = (·.map (·.rename g)) <$> relationsAt s index place e := by
  unfold relationsAt
  rw [funext (found_map h s index place e), mapM_map_ok, map_bind, bind_map_left]
  refine bind_congr fun all => ?_
  rw [map_pure, ← List.map_flatten, List.filter_map, Relation.distinctKeys_map (Relation.key_rename hg)]
  rfl

include h in
/-- The analysis of relabelled chunks. -/
theorem analyse_map (hg : Function.Injective g) (s : RelationSettings) (cs : List EnrichedChunk) :
    analyse s (cs.map f) = (·.map (·.map (·.rename g))) <$> analyse s cs := by
  unfold analyse
  dsimp only
  rw [ChunkIndex.ofChunks_map h, ChunkIndex.map, List.zipIdx_map, List.mapM_map, ← mapM_map_ok]
  congr 1
  funext e
  exact relationsAt_map h hg s _ e.2 e.1

include h in
/-- Relabelled chunks of one file. -/
theorem fileRelations_map (hg : Function.Injective g) (s : RelationSettings) (cs : List EnrichedChunk) :
    fileRelations s (cs.map f) = (fileRelations s cs).map (·.map (·.rename g)) := by
  have hat (index : ChunkIndex) (place : Nat) (e : IndexEntry) :
      relationsInFile s (index.map f) place (e.map f) = (relationsInFile s index place e).map (·.rename g) := by
    have hfound : (passes s).flatMap (foundInFile s (index.map f) place (e.map f)) =
        ((passes s).flatMap (foundInFile s index place e)).map (·.rename g) := by
      rw [List.map_flatMap]
      congr 1
      funext pass
      rw [foundInFile_eq_rules, foundInFile_eq_rules, Relation.ruleGroups_map h, List.map_flatten]
    rw [relationsInFile, hfound, List.filter_map, Relation.distinctKeys_map (Relation.key_rename hg)]
    rfl
  rw [fileRelations, ChunkIndex.ofChunks_map h, fileRelations, List.map_map, ChunkIndex.map,
    List.zipIdx_map, List.map_map]
  exact List.map_congr_left fun e _ => hat _ e.2 e.1

end RelationAnalysis

end SourceChunks
