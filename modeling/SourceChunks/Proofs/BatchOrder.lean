import Mathlib.Data.Char
import Mathlib.Data.List.InsertIdx
import Mathlib.Data.List.Nodup
import Mathlib.Data.List.Perm.Basic
import SourceChunks.Proofs.Distinct
import SourceChunks.Proofs.Outcomes
import SourceChunks.Proofs.RelationRules

/-! The order of a batch. Every pass gives its relations in groups, one for each rule or import path.
When the chunks come in another order, the groups stay where they are and only the relations inside
them move; and no two relations of a group have the same key. So the relations kept for a chunk are
the same up to their order. -/

namespace SourceChunks

/-! ### Sorting -/

namespace Text

theorem le_total (a b : Text) : (le a b || le b a) = true := by
  induction a generalizing b with
  | nil => rfl
  | cons x xs ih =>
    cases b with
    | nil => rfl
    | cons y ys =>
      by_cases h : x = y
      · simpa [le, h] using ih ys
      · simp only [le, if_neg h, if_neg (Ne.symm h), Bool.or_eq_true, decide_eq_true_eq]
        exact lt_or_gt_of_ne h

theorem le_antisymm {a b : Text} (hab : le a b = true) (hba : le b a = true) : a = b := by
  induction a generalizing b with
  | nil =>
    cases b with
    | nil => rfl
    | cons y ys => cases hba
  | cons x xs ih =>
    cases b with
    | nil => cases hab
    | cons y ys =>
      by_cases h : x = y
      · subst h
        simp only [le, if_pos] at hab hba
        rw [ih hab hba]
      · have hxy : x < y := by simpa [le, h] using hab
        have hyx : y < x := by simpa [le, Ne.symm h] using hba
        exact absurd hyx (lt_asymm hxy)

theorem le_trans {a b c : Text} (hab : le a b = true) (hbc : le b c = true) : le a c = true := by
  induction a generalizing b c with
  | nil => rfl
  | cons x xs ih =>
    cases b with
    | nil => cases hab
    | cons y ys =>
      cases c with
      | nil => cases hbc
      | cons z zs =>
        by_cases hxy : x = y
        · subst hxy
          by_cases hxz : x = z
          · subst hxz
            simp only [le, if_pos] at hab hbc ⊢
            exact ih hab hbc
          · simpa [le, hxz] using hbc
        · have hlt : x < y := by simpa [le, hxy] using hab
          by_cases hyz : y = z
          · subst hyz
            simpa [le, hxy] using hlt
          · have hlt' : y < z := by simpa [le, hyz] using hbc
            have hxz : x < z := lt_trans hlt hlt'
            simpa [le, ne_of_lt hxz] using hxz

end Text

/-- Sorting forgets the order when no two members are tied. -/
theorem mergeSort_eq_of_perm {α : Type} (le : α → α → Bool)
    (htrans : ∀ a b c, le a b = true → le b c = true → le a c = true)
    (htotal : ∀ a b, (le a b || le b a) = true) {xs ys : List α} (h : xs.Perm ys)
    (hantisymm : ∀ a ∈ xs, ∀ b ∈ xs, le a b = true → le b a = true → a = b) :
    xs.mergeSort le = ys.mergeSort le := by
  have hxs := List.mergeSort_perm xs le
  have hys := List.mergeSort_perm ys le
  refine List.Perm.eq_of_pairwise ?_ (List.pairwise_mergeSort htrans htotal xs)
    (List.pairwise_mergeSort htrans htotal ys) (hxs.trans (h.trans hys.symm))
  intro a b ha hb
  exact hantisymm a (hxs.mem_iff.mp ha) b (h.mem_iff.mpr (hys.mem_iff.mp hb))

/-! ### The index -/

/-- No two chunks have the same identity, and no two chunks of a file have the same range. -/
structure Distinguished (cs : List EnrichedChunk) : Prop where
  ids : (cs.map (·.id)).Nodup
  ranges : (cs.map fun c => (c.path, c.base.first, c.base.last)).Nodup

namespace ChunkIndex

variable {cs ds : List EnrichedChunk}

theorem referenced_perm (h : cs.Perm ds) (e : IndexEntry) :
    (ofChunks cs).referenced e = (ofChunks ds).referenced e := by
  have hdeclared : ((ofChunks cs).declared).Perm (ofChunks ds).declared := distinct_perm (h.flatMap_right _)
  exact mergeSort_eq_of_perm Text.le (fun _ _ _ => Text.le_trans) Text.le_total (hdeclared.filter _)
    fun _ _ _ _ hab hba => Text.le_antisymm hab hba

theorem peers_perm (h : cs.Perm ds) {i j : Nat} {c : EnrichedChunk} (hi : cs[i]? = some c)
    (hj : ds[j]? = some c) : ((ofChunks cs).peers i).Perm ((ofChunks ds).peers j) := by
  have hrest := (List.perm_eraseIdx_of_getElem?_eq (hi.trans hj.symm)).mpr h
  rw [peers, peers, ofChunks, ofChunks, List.eraseIdx_map, List.eraseIdx_map]
  exact hrest.map _

/-- The order of chunks by their ranges. -/
def byRange (a b : EnrichedChunk) : Bool := rangeOrder (a, 0) (b, 0)

/-- The entries of a file, by their ranges. -/
def fileEntries (cs : List EnrichedChunk) (path : Text) : List IndexEntry :=
  ((cs.filter fun c => c.path == path).mergeSort byRange).map .ofChunk

/-- The places of a file lead to its entries. -/
theorem entries_fileGroup (cs : List EnrichedChunk) (path : Text) :
    ((fileGroup cs path).places.filterMap fun p => (ofChunks cs).entries[p]?) = fileEntries cs path := by
  have hentry : ∀ q ∈ (cs.zipIdx.filter fun c => c.1.path == path).mergeSort rangeOrder,
      (ofChunks cs).entries[q.2]? = some (.ofChunk q.1) := by
    intro q hq
    have hmem := (List.mem_filter.mp (List.mem_mergeSort.mp hq)).1
    rw [ofChunks, List.getElem?_map, List.mem_zipIdx_iff_getElem?.mp hmem]
    rfl
  have hsort (qs : List (EnrichedChunk × Nat)) :
      (qs.mergeSort rangeOrder).map (·.1) = (qs.map (·.1)).mergeSort byRange :=
    List.map_mergeSort fun _ _ _ _ => rfl
  have hfilter : ((cs.zipIdx.filter fun c => c.1.path == path).map (·.1)) =
      cs.filter fun c => c.path == path := by
    conv_rhs => rw [← List.zipIdx_map_fst 0 cs, List.filter_map]
    rfl
  rw [fileGroup, List.filterMap_map, fileEntries, ← hfilter, ← hsort, List.map_map, ← List.filterMap_eq_map]
  exact List.filterMap_congr hentry

theorem byRange_iff (a b : EnrichedChunk) : byRange a b = true ↔
    a.base.first < b.base.first ∨ a.base.first = b.base.first ∧ a.base.last ≤ b.base.last := by
  simp [byRange, rangeOrder]

/-- The entries of a file do not depend on the order of the batch. -/
theorem fileEntries_perm (h : cs.Perm ds) (hcs : Distinguished cs) (path : Text) :
    fileEntries cs path = fileEntries ds path := by
  have htrans : ∀ a b c, byRange a b = true → byRange b c = true → byRange a c = true := by
    intro a b c
    simp only [byRange_iff]
    omega
  have htotal : ∀ a b, (byRange a b || byRange b a) = true := by
    intro a b
    simp only [Bool.or_eq_true, byRange_iff]
    omega
  -- Two tied chunks of the file would have the same range.
  have hantisymm : ∀ a ∈ cs.filter (fun c => c.path == path), ∀ b ∈ cs.filter (fun c => c.path == path),
      byRange a b = true → byRange b a = true → a = b := by
    intro a ha b hb hab hba
    rw [byRange_iff] at hab hba
    obtain ⟨ha, hpa⟩ := List.mem_filter.mp ha
    obtain ⟨hb, hpb⟩ := List.mem_filter.mp hb
    have hpath : a.path = b.path := (eq_of_beq hpa).trans (eq_of_beq hpb).symm
    have hfirst : a.base.first = b.base.first := by omega
    have hlast : a.base.last = b.base.last := by omega
    refine List.inj_on_of_nodup_map hcs.ranges ha hb ?_
    rw [hpath, hfirst, hlast]
  rw [fileEntries, mergeSort_eq_of_perm byRange htrans htotal (h.filter _) hantisymm, fileEntries]

theorem mem_fileEntries {path : Text} {e : IndexEntry} (he : e ∈ fileEntries cs path) :
    ∃ c ∈ cs, c.path = path ∧ e = .ofChunk c := by
  obtain ⟨c, hc, rfl⟩ := List.mem_map.mp he
  obtain ⟨hc, hpath⟩ := List.mem_filter.mp (List.mem_mergeSort.mp hc)
  exact ⟨c, hc, eq_of_beq hpath, rfl⟩

theorem nodup_fileEntries (hcs : Distinguished cs) (path : Text) :
    ((fileEntries cs path).map (·.chunk.id)).Nodup := by
  have hperm := (List.mergeSort_perm (cs.filter fun c => c.path == path) byRange).map (·.id)
  rw [fileEntries, List.map_map]
  exact hperm.nodup_iff.mpr (hcs.ids.sublist (List.filter_sublist.map _))

end ChunkIndex

theorem filterMap_sublist_map {α β : Type} {f : α → Option β} {g : α → β} {xs : List α}
    (h : ∀ x ∈ xs, ∀ y, f x = some y → y = g x) : (xs.filterMap f).Sublist (xs.map g) := by
  induction xs with
  | nil => exact .slnil
  | cons x xs ih =>
    have hrest := ih fun x' hx' => h x' (List.mem_cons_of_mem _ hx')
    rw [List.map_cons]
    cases hx : f x with
    | none =>
      rw [List.filterMap_cons_none hx]
      exact hrest.cons _
    | some y =>
      rw [List.filterMap_cons_some hx, h x List.mem_cons_self y hx]
      exact hrest.cons_cons _

/-! ### Groups of relations -/

namespace Relation

/-- The relation to a chunk that an import means. -/
def importOf (e : IndexEntry) (importPath : Text) (target : IndexEntry) : Relation :=
  .make .imports target.chunk.id 0.8 ("Imports " ++ importPath) .outgoing 0.8 .staticAnalysis
    (some (e.lineOf ((Text.find? e.chunk.content importPath).getD 0))) none

/-- An import path may mean another file. -/
def meansFile (e : IndexEntry) (importPath path : Text) : Except Failure Bool :=
  if path == e.chunk.path then .ok false else Imports.matchesFile (Imports.segments importPath) path

/-- Of the entries of a file those that an import means. -/
def meant (e : IndexEntry) (entries : List IndexEntry) : List IndexEntry :=
  if (entries.filter e.mentions).isEmpty then entries.take 1 else entries.filter e.mentions

theorem meant_sublist (e : IndexEntry) (entries : List IndexEntry) : (meant e entries).Sublist entries := by
  unfold meant
  split
  · exact List.take_sublist 1 entries
  · exact List.filter_sublist

theorem importsOf_of_isEmpty (index : ChunkIndex) (e : IndexEntry) {importPath : Text}
    (hsegments : (Imports.segments importPath).isEmpty = true) : importsOf index e importPath = .ok [] := by
  unfold importsOf
  dsimp only
  rw [if_pos hsegments]
  rfl

/-- The relations of an import path, by the paths of the files. -/
theorem importsOf_ofChunks (cs : List EnrichedChunk) (e : IndexEntry) {importPath : Text}
    (hsegments : ¬ (Imports.segments importPath).isEmpty = true) :
    importsOf (.ofChunks cs) e importPath =
      (fun paths => (paths.flatMap fun path => meant e (ChunkIndex.fileEntries cs path)).map
        (importOf e importPath)) <$> (distinct (cs.map (·.path))).filterM (meansFile e importPath) := by
  have htargets (path : Text) : importTargets (.ofChunks cs) e (ChunkIndex.fileGroup cs path) =
      meant e (ChunkIndex.fileEntries cs path) := by
    rw [importTargets, ChunkIndex.entries_fileGroup, meant]
  have hfiles : (ChunkIndex.ofChunks cs).files = (distinct (cs.map (·.path))).map (ChunkIndex.fileGroup cs) := rfl
  unfold importsOf
  dsimp only
  rw [if_neg hsegments, hfiles, filterM_map, bind_map_left, ← bind_pure_comp]
  refine bind_congr fun paths => ?_
  rw [List.flatMap_map, ← funext htargets]
  rfl

/-- The same relations, perhaps in another order, and no two of them with the same key. -/
def Alike (rs qs : List Relation) : Prop := (rs.map key).Nodup ∧ rs.Perm qs

theorem Alike.filter {rs qs : List Relation} (h : Alike rs qs) (p : Relation → Bool) :
    Alike (rs.filter p) (qs.filter p) :=
  ⟨h.1.sublist (List.filter_sublist.map _), h.2.filter p⟩

/-- Relations with different targets have different keys. -/
theorem nodup_keys {rs : List Relation} (h : (rs.map (·.target)).Nodup) : (rs.map key).Nodup := by
  refine List.Nodup.of_map (·.2.1) ?_
  rw [List.map_map]
  exact h

variable {cs ds : List EnrichedChunk} (h : cs.Perm ds) (hcs : Distinguished cs)

include hcs in
/-- An import means no chunk twice. -/
theorem nodup_meant (e : IndexEntry) {paths : List Text} (hpaths : paths.Nodup) :
    ((paths.flatMap fun path => meant e (ChunkIndex.fileEntries cs path)).map (·.chunk.id)).Nodup := by
  rw [List.map_flatMap, List.nodup_flatMap]
  constructor
  · intro path _
    exact (ChunkIndex.nodup_fileEntries hcs path).sublist ((meant_sublist e _).map _)
  · -- A chunk that two files share would have the paths of both.
    refine hpaths.imp ?_
    intro p q hne id hp hq
    obtain ⟨a, ha, rfl⟩ := List.mem_map.mp hp
    obtain ⟨b, hb, heq⟩ := List.mem_map.mp hq
    obtain ⟨c, hc, hcp, rfl⟩ := ChunkIndex.mem_fileEntries ((meant_sublist e _).subset ha)
    obtain ⟨d, hd, hdq, rfl⟩ := ChunkIndex.mem_fileEntries ((meant_sublist e _).subset hb)
    have hsame : d = c := List.inj_on_of_nodup_map hcs.ids hd hc heq
    rw [← hcp, ← hdq, hsame] at hne
    exact hne rfl

include h hcs in
theorem importsOf_perm (e : IndexEntry) (importPath : Text) :
    Agree Alike (importsOf (.ofChunks cs) e importPath) (importsOf (.ofChunks ds) e importPath) := by
  by_cases hsegments : (Imports.segments importPath).isEmpty = true
  · rw [importsOf_of_isEmpty _ e hsegments, importsOf_of_isEmpty _ e hsegments]
    exact .ok ⟨List.nodup_nil, .refl _⟩
  · rw [importsOf_ofChunks cs e hsegments, importsOf_ofChunks ds e hsegments]
    refine (Agree.filterM (distinct_perm (h.map _))).map ?_
    rintro paths paths' ⟨hsub, hperm⟩
    refine ⟨nodup_keys ?_, ?_⟩
    · rw [List.map_map]
      exact nodup_meant hcs e (hsub.nodup (nodup_distinct _))
    · rw [funext (ChunkIndex.fileEntries_perm h hcs)]
      exact (hperm.flatMap_right _).map _

include h hcs in
theorem ruleGroups_perm (s : RelationSettings) {i j : Nat} {c : EnrichedChunk} (hi : cs[i]? = some c)
    (hj : ds[j]? = some c) (e : IndexEntry) (pass : RelationPass) :
    List.Forall₂ Alike (ruleGroups s (.ofChunks cs) i e pass) (ruleGroups s (.ofChunks ds) j e pass) := by
  rw [ruleGroups, ruleGroups, ChunkIndex.referenced_perm h, List.forall₂_map_left_iff, List.forall₂_map_right_iff,
    List.forall₂_same]
  intro rule hrule
  have hpeers := ChunkIndex.peers_perm h hi hj
  refine ⟨nodup_keys ?_, hpeers.filterMap rule⟩
  have hids : (((ChunkIndex.ofChunks cs).peers i).map (·.chunk.id)).Nodup := by
    refine (hcs.ids).sublist ?_
    rw [ChunkIndex.peers, ← List.eraseIdx_map, ChunkIndex.ofChunks, List.map_map]
    exact List.eraseIdx_sublist _ _
  refine hids.sublist ?_
  rw [List.map_filterMap]
  refine filterMap_sublist_map ?_
  intro q _ t ht
  obtain ⟨r, hr, rfl⟩ := Option.map_eq_some_iff.mp ht
  exact (made_of_rule hrule hr).target

end Relation

/-! ### Passes and batches -/

namespace RelationAnalysis

/-- What one pass finds, in groups. -/
def groups (s : RelationSettings) (index : ChunkIndex) (place : Nat) (e : IndexEntry) :
    RelationPass → Except Failure (List (List Relation))
  | .imports => (Metrics.dependencies e.chunk.content e.chunk.language).mapM (Relation.importsOf index e)
  | pass => .ok (Relation.ruleGroups s index place e pass)

theorem groups_of_ne (s : RelationSettings) (index : ChunkIndex) (place : Nat) (e : IndexEntry)
    {pass : RelationPass} (hpass : pass ≠ .imports) :
    groups s index place e pass = .ok (Relation.ruleGroups s index place e pass) := by
  cases pass with
  | imports => exact absurd rfl hpass
  | _ => rfl

theorem found_eq_groups (s : RelationSettings) (index : ChunkIndex) (place : Nat) (e : IndexEntry)
    (pass : RelationPass) : found s index place e pass = List.flatten <$> groups s index place e pass := by
  by_cases hpass : pass = .imports
  · rw [hpass]
    exact bind_pure_comp _ _
  · rw [Relation.found_eq_rules s index place e hpass, groups_of_ne s index place e hpass]
    rfl

/-- What is kept of the groups of all passes. -/
def kept (s : RelationSettings) (gs : List (List (List Relation))) : List Relation :=
  Relation.distinctKeys
    (gs.flatten.map (List.filter fun r => !(r.evidence.confidence.toFloat < s.minConfidence))).flatten

theorem relationsAt_eq_kept (s : RelationSettings) (index : ChunkIndex) (place : Nat) (e : IndexEntry) :
    relationsAt s index place e = kept s <$> (passes s).mapM (groups s index place e) := by
  rw [relationsAt, funext (found_eq_groups s index place e), mapM_map_ok, bind_map_left, ← bind_pure_comp]
  refine bind_congr fun gs => ?_
  rw [kept, ← List.filter_flatten, List.flatten_flatten]

theorem kept_perm (s : RelationSettings) {gs hs : List (List (List Relation))}
    (h : List.Forall₂ (List.Forall₂ Relation.Alike) gs hs) : (kept s gs).Perm (kept s hs) := by
  have hflat : List.Forall₂ Relation.Alike gs.flatten hs.flatten := List.rel_flatten h
  have hfilter (p : Relation → Bool) :
      List.Forall₂ Relation.Alike (gs.flatten.map (List.filter p)) (hs.flatten.map (List.filter p)) := by
    rw [List.forall₂_map_left_iff, List.forall₂_map_right_iff]
    exact hflat.imp fun _ _ halike => halike.filter p
  obtain ⟨hnodup, hperm⟩ := (List.forall₂_and_left _ _).mp (hfilter _)
  exact Relation.distinctKeys_perm hperm hnodup

section

variable {cs ds : List EnrichedChunk} (h : cs.Perm ds) (hcs : Distinguished cs)

include h hcs in
/-- A chunk has the same relations in both batches. -/
theorem relationsAt_perm (s : RelationSettings) {i j : Nat} {c : EnrichedChunk} (hi : cs[i]? = some c)
    (hj : ds[j]? = some c) (e : IndexEntry) :
    Agree List.Perm (relationsAt s (.ofChunks cs) i e) (relationsAt s (.ofChunks ds) j e) := by
  have hgroups : ∀ pass ∈ passes s,
      Agree (List.Forall₂ Relation.Alike) (groups s (.ofChunks cs) i e pass) (groups s (.ofChunks ds) j e pass) := by
    intro pass _
    by_cases hpass : pass = .imports
    · rw [hpass]
      exact Agree.mapM fun importPath _ => Relation.importsOf_perm h hcs e importPath
    · rw [groups_of_ne _ _ _ _ hpass, groups_of_ne _ _ _ _ hpass]
      exact .ok (Relation.ruleGroups_perm h hcs s hi hj e pass)
  rw [relationsAt_eq_kept, relationsAt_eq_kept]
  exact (Agree.mapM hgroups).map fun _ _ => kept_perm s

end

theorem getElem?_entries (cs : List EnrichedChunk) (i : Nat) :
    (ChunkIndex.ofChunks cs).entries.zipIdx[i]? = cs[i]?.map fun c => (.ofChunk c, i) := by
  rw [List.getElem?_zipIdx, ChunkIndex.ofChunks, List.getElem?_map, Option.map_map, Nat.zero_add]
  rfl

theorem relationsAt_of_analyse {s : RelationSettings} {cs : List EnrichedChunk} {found : List (List Relation)}
    (h : analyse s cs = .ok found) {i : Nat} {c : EnrichedChunk} (hi : cs[i]? = some c) :
    ∃ rs, found[i]? = some rs ∧ relationsAt s (.ofChunks cs) i (.ofChunk c) = .ok rs := by
  have hentry : (ChunkIndex.ofChunks cs).entries.zipIdx[i]? = some (.ofChunk c, i) := by
    rw [getElem?_entries, hi]
    rfl
  rw [analyse] at h
  obtain ⟨rs, hget, hrs⟩ := getElem?_of_mapM_eq_ok h hentry
  exact ⟨rs, hget, hrs⟩

/-- A batch can be analysed if every chunk can. -/
theorem exists_analyse {s : RelationSettings} {cs : List EnrichedChunk}
    (h : ∀ i c, cs[i]? = some c → ∃ rs, relationsAt s (.ofChunks cs) i (.ofChunk c) = .ok rs) :
    ∃ found, analyse s cs = .ok found := by
  refine exists_mapM_eq_ok ?_
  intro e he
  obtain ⟨i, hi⟩ := List.mem_iff_getElem?.mp he
  rw [getElem?_entries] at hi
  obtain ⟨c, hc, rfl⟩ := Option.map_eq_some_iff.mp hi
  exact h i c hc

/-! ### Files with names -/

/-- The path ends with the name of a file. -/
def Named (path : Text) : Prop := (FilePath.ofText (Imports.slashed path)).name ≠ []

instance (path : Text) : Decidable (Named path) := inferInstanceAs (Decidable (_ ≠ _))

theorem exists_meansFile {path : Text} (h : Named path) (e : IndexEntry) (importPath : Text) :
    ∃ b, Relation.meansFile e importPath path = .ok b := by
  have hname : ¬ (FilePath.ofText (Imports.slashed path)).name.isEmpty = true := by rwa [List.isEmpty_iff]
  unfold Relation.meansFile
  split
  · exact ⟨false, rfl⟩
  · rw [Imports.matchesFile, FilePath.withoutExtension, if_neg hname]
    exact ⟨_, rfl⟩

theorem exists_importsOf {cs : List EnrichedChunk} (h : ∀ c ∈ cs, Named c.path) (e : IndexEntry)
    (importPath : Text) : ∃ rs, Relation.importsOf (.ofChunks cs) e importPath = .ok rs := by
  by_cases hsegments : (Imports.segments importPath).isEmpty = true
  · exact ⟨[], Relation.importsOf_of_isEmpty _ e hsegments⟩
  · have htest : ∀ path ∈ distinct (cs.map (·.path)), ∃ b, Relation.meansFile e importPath path = .ok b := by
      intro path hpath
      obtain ⟨c, hc, rfl⟩ := List.mem_map.mp (mem_distinct.mp hpath)
      exact exists_meansFile (h c hc) e importPath
    rw [Relation.importsOf_ofChunks cs e hsegments, filterM_eq_ok_iff.mpr ⟨htest, rfl⟩]
    exact ⟨_, rfl⟩

/-- Chunks of files with names can be analysed. -/
theorem exists_analyse_of_named (s : RelationSettings) {cs : List EnrichedChunk} (h : ∀ c ∈ cs, Named c.path) :
    ∃ found, analyse s cs = .ok found := by
  refine exists_analyse fun i c _ => ?_
  have hgroups : ∀ pass ∈ passes s, ∃ gs, groups s (.ofChunks cs) i (.ofChunk c) pass = .ok gs := by
    intro pass _
    by_cases hpass : pass = .imports
    · rw [hpass]
      exact exists_mapM_eq_ok fun importPath _ => exists_importsOf h _ importPath
    · exact ⟨_, groups_of_ne _ _ _ _ hpass⟩
  obtain ⟨gs, hgs⟩ := exists_mapM_eq_ok hgroups
  rw [relationsAt_eq_kept, hgs]
  exact ⟨_, rfl⟩

/-! ### Another order -/

/-- Every chunk has the same relations in two batches, perhaps in another order. -/
def SameRelations (cs ds : List EnrichedChunk) (found found' : List (List Relation)) : Prop :=
  ∀ (i j : Nat) (c : EnrichedChunk), cs[i]? = some c → ds[j]? = some c →
    ∃ rs rs', found[i]? = some rs ∧ found'[j]? = some rs' ∧ rs.Perm rs'

/-- When the chunks of a batch come in another order, both batches fail or every chunk has the same
relations in both. No batch fails whose files have names. -/
theorem analyse_perm (s : RelationSettings) {cs ds : List EnrichedChunk} (h : cs.Perm ds)
    (hcs : Distinguished cs) :
    Agree (SameRelations cs ds) (analyse s cs) (analyse s ds) ∧
      ((∀ c ∈ cs, Named c.path) → ∃ found, analyse s cs = .ok found) := by
  refine ⟨Agree.of_ok_iff ⟨?_, ?_⟩ ?_, exists_analyse_of_named s⟩
  · rintro ⟨found, hfound⟩
    refine exists_analyse fun j c hj => ?_
    obtain ⟨i, hi⟩ := List.mem_iff_getElem?.mp (h.mem_iff.mpr (List.mem_of_getElem? hj))
    obtain ⟨rs, _, hrs⟩ := relationsAt_of_analyse hfound hi
    obtain ⟨rs', hrs', _⟩ := (relationsAt_perm h hcs s hi hj _).exists_ok hrs
    exact ⟨rs', hrs'⟩
  · rintro ⟨found, hfound⟩
    have hds : Distinguished ds := ⟨(h.map _).nodup_iff.mp hcs.ids, (h.map _).nodup_iff.mp hcs.ranges⟩
    refine exists_analyse fun i c hi => ?_
    obtain ⟨j, hj⟩ := List.mem_iff_getElem?.mp (h.mem_iff.mp (List.mem_of_getElem? hi))
    obtain ⟨rs, _, hrs⟩ := relationsAt_of_analyse hfound hj
    obtain ⟨rs', hrs', _⟩ := (relationsAt_perm h.symm hds s hj hi _).exists_ok hrs
    exact ⟨rs', hrs'⟩
  · intro found found' hfound hfound' i j c hi hj
    obtain ⟨rs, hget, hrs⟩ := relationsAt_of_analyse hfound hi
    obtain ⟨rs', hget', hrs'⟩ := relationsAt_of_analyse hfound' hj
    obtain ⟨qs, hqs, hperm⟩ := (relationsAt_perm h hcs s hi hj _).exists_ok hrs
    obtain rfl := Except.ok.inj (hrs'.symm.trans hqs)
    exact ⟨rs, rs', hget, hget', hperm⟩

/-- A file that imports another one, of which there are two chunks. -/
def importers : List EnrichedChunk :=
  [{ base := ⟨"a", "def f(): g()", "lib/util.py", 0, 0, "s", .python, ["f"], [], none, none⟩
     facets := { language := .python } },
   { base := ⟨"b", "def g(): f()", "lib/util.py", 1, 1, "s", .python, ["g"], [], none, none⟩
     facets := { language := .python } },
   { base := ⟨"c", "import lib.util\nclass C(B): x = g()", "main.py", 0, 1, "s", .python, ["C"], [], none, none⟩
     facets := { language := .python } }]

theorem analyse_perm_importers :
    importers.Perm importers.reverse ∧ Distinguished importers ∧ (∀ c ∈ importers, Named c.path) ∧
      (∃ found, analyse {} importers = .ok found) ∧
      Agree (SameRelations importers importers.reverse) (analyse {} importers) (analyse {} importers.reverse) := by
  have hperm : importers.Perm importers.reverse := (List.reverse_perm _).symm
  have hdistinguished : Distinguished importers := ⟨by decide, by decide⟩
  have hnamed : ∀ c ∈ importers, Named c.path := by
    simp only [importers, List.forall_mem_cons, List.not_mem_nil, false_implies, implies_true, and_true, Named]
    decide
  obtain ⟨hagree, hfound⟩ := analyse_perm {} hperm hdistinguished
  exact ⟨hperm, hdistinguished, hnamed, hfound hnamed, hagree⟩

end RelationAnalysis

end SourceChunks
