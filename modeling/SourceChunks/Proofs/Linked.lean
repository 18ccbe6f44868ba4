import SourceChunks.Proofs.PlainChunks
import SourceChunks.Proofs.ScopeForest
import SourceChunks.Strategy.Registry

/-! The chunks that a strategy makes of a file refer to each other by identities of their own list, and
a relation never leads from a chunk to itself. -/

namespace SourceChunks

/-- Chunks of one source that quote its lines, have identities of their own and name only each other. -/
structure Linked (ls : List Text) (cs : List EnrichedChunk) : Prop where
  quotes : ∀ c ∈ cs, c.base.Quotes ls
  ids : (cs.map (·.id)).Nodup
  relations : ∀ c ∈ cs, ∀ r ∈ c.relations, r.target ∈ cs.map (·.id) ∧ r.target ≠ c.id
  dependents : ∀ c ∈ cs, ∀ t ∈ c.facets.dependents, t ∈ cs.map (·.id)

/-- Chunks made of drafts under distinct identities are linked if the drafts lie inside the source and
name identities at other places. -/
theorem linked_of_drafts {α : Type} {source : Source} {ls : List Text} {ids : List Text} {xs : List α}
    {draft : α → Draft} (hl : ids.length = xs.length) (hids : ids.Nodup)
    (hin : ∀ x ∈ xs, InFile ls.length (draft x).first (draft x).last)
    (hrel : ∀ {k : Nat} {x}, xs[k]? = some x → ∀ r ∈ (draft x).relations,
      ∃ j, j ≠ k ∧ ids[j]? = some r.target)
    (hdep : ∀ x ∈ xs, ∀ t ∈ (draft x).dependents, t ∈ ids) :
    Linked ls (List.zipWith (fun id x => (draft x).chunk source ls id) ids xs) := by
  have hmap : (List.zipWith (fun id x => (draft x).chunk source ls id) ids xs).map (·.id) = ids :=
    ChunkId.map_zipWith_id (fun _ _ => rfl) hl
  constructor
  · intro c hc
    obtain ⟨id, _, x, hx, rfl⟩ := ChunkId.exists_of_mem_zipWith hc
    exact source.chunk_quotes id _ (hin x hx)
  · rw [hmap]
    exact hids
  · intro c hc r hr
    obtain ⟨k, hk⟩ := List.mem_iff_getElem?.mp hc
    obtain ⟨id, x, hid, hx, rfl⟩ := List.getElem?_zipWith_eq_some.mp hk
    obtain ⟨j, hj, htarget⟩ := hrel hx r hr
    rw [hmap]
    refine ⟨List.mem_of_getElem? htarget, ?_⟩
    intro heq
    have hlt := (List.getElem?_eq_some_iff.mp htarget).1
    exact hj ((List.getElem?_inj hlt hids).mp (htarget.trans (heq ▸ hid.symm)))
  · intro c hc t ht
    obtain ⟨id, _, x, hx, rfl⟩ := ChunkId.exists_of_mem_zipWith hc
    rw [hmap]
    exact hdep x hx t ht

/-- The drafts of a list become chunks under the identities that they want. -/
theorem Draft.chunks_map {α : Type} (source : Source) (ls : List Text) (draft : α → Draft) (xs : List α) :
    Draft.chunks source ls (xs.map draft) =
      List.zipWith (fun id x => (draft x).chunk source ls id)
        (ChunkId.allocate [] (xs.map fun x => (draft x).wantedId source)) xs := by
  rw [Draft.chunks, List.map_map, List.zipWith_map_right]
  rfl

/-! ### Declarations -/

/-- Without syntax trees the declarations of a source are found in order, or else blocks are. -/
theorem Source.topNodes_arranged (reader : SyntaxReader) (source : Source) {preferTrees : Bool}
    (ht : preferTrees = false) {size : Int} (hs : 0 < size) :
    ∃ ns, (Recogniser.forLanguage reader preferTrees source.language).topNodes size source.lines = .ok ns ∧
      Outline.Arranged source.lines.length ns := by
  have hne : source.lines ≠ [] := Text.lines_ne_nil source.content
  obtain ⟨ns, hns, ha, _⟩ := Recogniser.topNodes_arranged source.language hs hne
  rw [ht]
  exact ⟨ns, hns, ha⟩

namespace Semantic

theorem chunks_linked {reader : SyntaxReader} {p : SemanticParams} (hsize : 1 ≤ p.maxSize) (hblock : 0 < p.blockSize)
    (ht : p.preferTrees = false) {source : Source} {cs : List EnrichedChunk}
    (h : chunks reader p source = .ok cs) : Linked source.lines cs := by
  obtain ⟨ns, hns, ha⟩ := source.topNodes_arranged reader ht hblock
  rw [chunks, hns] at h
  obtain rfl := Except.ok.inj h
  rw [Draft.chunks_map]
  refine linked_of_drafts ?_ (ChunkId.nodup_allocate _ _) ?_ ?_ ?_
  · rw [ChunkId.length_allocate, List.length_map]
  · intro m hm
    obtain ⟨n, hn, hm⟩ := List.mem_flatMap.mp hm
    obtain ⟨h1, h2, h3⟩ := ha.inFile n hn
    have hr := mem_optimiseNode hsize ⟨h1, h2, h3⟩ hm
    exact ⟨by dsimp only [draft]; omega, hr.2.1, by dsimp only [draft]; omega⟩
  · intro _ _ _ r hr
    cases hr
  · intro _ _ t ht
    cases ht

end Semantic

/-! ### Declarations in context -/

namespace ContextAware

/-- A tie joins two places, in a way that the declarations there tell. -/
theorem mem_ties {ns : List ContextNode} {t : Tie} (ht : t ∈ ties ns) :
    ∃ a b : ContextNode × Nat, a.2 ≠ b.2 ∧ t = ⟨a.2, b.2, strength a.1 b.1, tieKind a.1 b.1⟩ := by
  obtain ⟨a, _, ht⟩ := List.mem_flatMap.mp ht
  obtain ⟨b, _, hab⟩ := List.mem_filterMap.mp ht
  unfold tie? at hab
  split at hab
  case isTrue => cases hab
  case isFalse hne =>
    dsimp only at hab
    split at hab
    case isFalse => cases hab
    case isTrue =>
      refine ⟨a, b, ?_, (Option.some.inj hab).symm⟩
      intro he
      exact hne (by simp [he])

theorem tieKind_mem (a b : ContextNode) : tieKind a b ∈ [RelationKind.calls, .imports, .extends_, .uses] := by
  unfold tieKind
  dsimp only
  split
  · decide
  · split
    · decide
    · split <;> decide

/-- No declaration is tied to itself. -/
theorem source_ne_target {ns : List ContextNode} {t : Tie} (ht : t ∈ ties ns) : t.source ≠ t.target := by
  obtain ⟨a, b, hne, rfl⟩ := mem_ties ht
  exact hne

theorem largest_le_iff {ns : List Int} {m : Int} : largest ns ≤ m ↔ 0 ≤ m ∧ ∀ n ∈ ns, n ≤ m := by
  have hfold : ∀ k : Int, ns.foldl max k ≤ m ↔ k ≤ m ∧ ∀ n ∈ ns, n ≤ m := by
    induction ns with
    | nil => simp
    | cons n ns ih =>
      intro k
      rw [List.foldl_cons, ih, Int.max_le, List.forall_mem_cons, and_assoc]
  exact hfold 0

theorem largest_nonneg (ns : List Int) : 0 ≤ largest ns := (largest_le_iff.mp (Int.le_refl _)).1

theorem le_largest {ns : List Int} {n : Int} (h : n ∈ ns) : n ≤ largest ns :=
  (largest_le_iff.mp (Int.le_refl _)).2 n h

theorem wholeLines_largest_nonneg (ns : List Int) : 0 ≤ wholeLines (largest ns) := by
  have := largest_nonneg ns
  unfold wholeLines
  omega

/-- A declaration only grows, and it stays inside the source. -/
theorem bounds_inFile (p : ContextParams) {count : Nat} (ns : List Node) (ts : List Tie) (i : Nat) {n : Node}
    (hn : InFile count n.first n.last) :
    InFile count (bounds p count ns ts i n).1 (bounds p count ns ts i n).2 := by
  obtain ⟨h0, h1, h2⟩ := hn
  have hbefore : 0 ≤ (overlap p ns ts i n).1 := wholeLines_largest_nonneg _
  have hafter : 0 ≤ (overlap p ns ts i n).2 := wholeLines_largest_nonneg _
  constructor <;> dsimp only [bounds] <;> omega

theorem relation?_target {ns : List Node} {ids : List Text} {t : Tie} {r : Relation}
    (h : relation? ns ids t = some r) : ids[t.target]? = some r.target := by
  unfold relation? at h
  obtain ⟨id, hid, h⟩ := Option.bind_eq_some_iff.mp h
  obtain ⟨n, _, h⟩ := Option.bind_eq_some_iff.mp h
  obtain rfl := Option.some.inj h
  exact hid

theorem mem_dependents {ids : List Text} {ts : List Tie} {i : Nat} {t : Text} (h : t ∈ dependents ids ts i) :
    t ∈ ids := by
  obtain ⟨tie, _, htie⟩ := List.mem_filterMap.mp (mem_distinct.mp h)
  split at htie
  case isTrue => exact List.mem_of_getElem? htie
  case isFalse => cases htie

/-- The identities under which the chunks are made are those that were given out before. -/
theorem draftChunks_eq (p : ContextParams) (source : Source) (ls : List Text) (found : List ContextNode)
    (ts : List Tie) :
    Draft.chunks source ls (found.zipIdx.map fun n =>
        draft p source ls (found.map (·.node)) ts (identities p source ls.length (found.map (·.node)) ts) n.2 n.1) =
      List.zipWith (fun id n => (draft p source ls (found.map (·.node)) ts
          (identities p source ls.length (found.map (·.node)) ts) n.2 n.1).chunk source ls id)
        (identities p source ls.length (found.map (·.node)) ts) found.zipIdx := by
  have hwanted (ids : List Text) :
      ChunkId.allocate [] (found.zipIdx.map fun n =>
        (draft p source ls (found.map (·.node)) ts ids n.2 n.1).wantedId source) =
        identities p source ls.length (found.map (·.node)) ts := by
    rw [identities, List.zipIdx_map, List.map_map]
    rfl
  rw [Draft.chunks_map, hwanted]

/-- Whatever the ties are, the chunk of a declaration has its widened range. -/
theorem ranges_drafts (p : ContextParams) (source : Source) (ls : List Text) (found : List ContextNode)
    (ts : List Tie) (ids : List Text) :
    (Draft.chunks source ls (found.zipIdx.map fun n =>
        draft p source ls (found.map (·.node)) ts ids n.2 n.1)).map (fun c => (c.base.first, c.base.last)) =
      found.zipIdx.map fun n => bounds p ls.length (found.map (·.node)) ts n.2 n.1.node := by
  rw [Draft.chunks_map, List.map_zipWith]
  refine List.ext_getElem (by simp [ChunkId.length_allocate]) ?_
  intro k _ _
  simp only [List.getElem_zipWith, List.getElem_map]
  rfl

theorem chunks_linked {reader : SyntaxReader} {p : ContextParams} (ht : p.preferTrees = false) {source : Source}
    {cs : List EnrichedChunk} (h : chunks reader p source = .ok cs) : Linked source.lines cs := by
  have hblock : (0 : Int) < 50 := by decide
  obtain ⟨ns, hns, ha⟩ := source.topNodes_arranged reader ht hblock
  rw [chunks, contextNodes, hns] at h
  obtain rfl := Except.ok.inj h
  rw [draftChunks_eq]
  refine linked_of_drafts ?_ (ChunkId.nodup_allocate _ _) ?_ ?_ ?_
  · simp [identities, ChunkId.length_allocate]
  · rintro ⟨n, i⟩ hx
    obtain ⟨m, hm, rfl⟩ := List.mem_map.mp (List.fst_mem_of_mem_zipIdx hx)
    exact bounds_inFile p _ _ i (ha.inFile m hm)
  · rintro k ⟨n, i⟩ hx r hr
    obtain ⟨t, ht, hr⟩ := List.mem_filterMap.mp hr
    obtain ⟨ht, hsource⟩ := List.mem_filter.mp ht
    have hk : i = k := by
      rw [List.getElem?_zipIdx] at hx
      obtain ⟨_, _, he⟩ := Option.map_eq_some_iff.mp hx
      simpa using (congrArg Prod.snd he).symm
    refine ⟨t.target, ?_, relation?_target hr⟩
    intro he
    exact source_ne_target ht (by rw [he, ← hk]; exact of_decide_eq_true hsource)
  · rintro ⟨n, i⟩ _ t ht
    exact mem_dependents ht

end ContextAware

/-! ### Nested scopes -/

namespace Hierarchical

/-- All places of a list, looked up in turn. -/
theorem filterMap_range_getElem? {α : Type} (xs : List α) :
    (List.range xs.length).filterMap (fun k => xs[k]?.map fun x => (k, x)) = xs.zipIdx.map Prod.swap := by
  induction xs using List.reverseRecOn with
  | nil => rfl
  | append_singleton xs x ih =>
    have hfront : (List.range xs.length).filterMap (fun k => (xs ++ [x])[k]?.map fun y => (k, y)) =
        (List.range xs.length).filterMap fun k => xs[k]?.map fun y => (k, y) := by
      refine List.filterMap_congr ?_
      intro k hk
      rw [List.getElem?_append_left (List.mem_range.mp hk)]
    rw [List.length_append, List.length_singleton, List.range_succ, List.filterMap_append, hfront, ih,
      List.zipIdx_append, List.map_append]
    simp

/-- The scopes come in the order of their numbers. -/
theorem order_eq (language : Language) (ls : List Text) :
    ordered (ScopeTree.ofLines language ls) = (ScopeTree.ofLines language ls).scopes.zipIdx.map Prod.swap := by
  rw [ordered, (ScopeTree.Progress.ofLines language ls).laminarForest.flatten_eq]
  exact filterMap_range_getElem? _

theorem getElem?_of_lookup {n h : Nat} {ids : List Text} {id : Text}
    (hl : ((List.range n).zip ids).lookup h = some id) : ids[h]? = some id := by
  obtain ⟨l₁, l₂, heq, _⟩ := List.lookup_eq_some_iff.mp hl
  have hmem : (h, id) ∈ (List.range n).zip ids := heq ▸ List.mem_append_right _ List.mem_cons_self
  obtain ⟨k, hk⟩ := List.mem_iff_getElem?.mp hmem
  obtain ⟨hrange, hid⟩ := List.getElem?_zip_eq_some.mp hk
  obtain ⟨_, hkh⟩ := List.getElem?_eq_some_iff.mp hrange
  rw [List.getElem_range] at hkh
  subst hkh
  exact hid

/-- The relations of a scope lead to scopes with other numbers. -/
theorem relations_target {language : Language} {ls : List Text} {idOf? : Nat → Option Text} {k : Nat}
    {s : Scope} (hs : (ScopeTree.ofLines language ls).get? k = some s) {r : Relation}
    (hr : r ∈ relations (ScopeTree.ofLines language ls) idOf? s) : ∃ j, j ≠ k ∧ idOf? j = some r.target := by
  have hp := ScopeTree.Progress.ofLines language ls
  rcases List.mem_append.mp hr with hr | hr
  · obtain ⟨p, hparent, hr⟩ := List.mem_filterMap.mp hr
    obtain ⟨q, _, hr⟩ := Option.bind_eq_some_iff.mp hr
    obtain ⟨id, hid, hr⟩ := Option.bind_eq_some_iff.mp hr
    obtain rfl := Option.some.inj hr
    have hlt := hp.parent_lt ⟨s, hs, Option.mem_toList.mp hparent⟩
    exact ⟨p, Nat.ne_of_lt hlt, hid⟩
  · obtain ⟨c, hc, hr⟩ := List.mem_filterMap.mp hr
    obtain ⟨q, _, hr⟩ := Option.bind_eq_some_iff.mp hr
    obtain ⟨id, hid, hr⟩ := Option.bind_eq_some_iff.mp hr
    obtain rfl := Option.some.inj hr
    have hlt := hp.parent_lt ((hp.mem_children hs).mp hc).2
    exact ⟨c, Nat.ne_of_gt hlt, hid⟩

/-- The identities under which the chunks are made are those that were given out before. -/
theorem chunks_eq (source : Source) :
    chunks source =
      List.zipWith (fun id hs => (draft (scopes source) source.lines
          (fun h => (identities source (scopes source)).lookup h) hs.2).chunk source source.lines id)
        (ChunkId.allocate [] ((ordered (scopes source)).map fun hs => wantedId source hs.2))
        (ordered (scopes source)) :=
  Draft.chunks_map source source.lines _ _

theorem chunks_linked (source : Source) : Linked source.lines (chunks source) := by
  have hforest := (ScopeTree.Progress.ofLines source.language source.lines).laminarForest
  rw [chunks_eq, identities, scopes, order_eq]
  have hget : ∀ {k : Nat} {x : Nat × Scope},
      ((ScopeTree.ofLines source.language source.lines).scopes.zipIdx.map Prod.swap)[k]? = some x →
      x.1 = k ∧ (ScopeTree.ofLines source.language source.lines).get? k = some x.2 := by
    intro k x hx
    rw [List.getElem?_map, List.getElem?_zipIdx, Option.map_map] at hx
    obtain ⟨s, hs, rfl⟩ := Option.map_eq_some_iff.mp hx
    exact ⟨Nat.zero_add k, hs⟩
  refine linked_of_drafts ?_ (ChunkId.nodup_allocate _ _) ?_ ?_ ?_
  · rw [ChunkId.length_allocate, List.length_map]
  · intro x hx
    obtain ⟨k, hk⟩ := List.mem_iff_getElem?.mp hx
    obtain ⟨h1, h2⟩ := hforest.range (hget hk).2
    exact ⟨Int.natCast_nonneg _, Int.ofNat_le.mpr h1, Int.ofNat_lt.mpr h2⟩
  · intro k x hx r hr
    obtain ⟨j, hj, hlookup⟩ := relations_target (hget hx).2 hr
    rw [List.map_map, show Prod.fst ∘ Prod.swap = (Prod.snd : Scope × Nat → Nat) from rfl,
      List.zipIdx_map_snd, ← List.range_eq_range'] at hlookup
    exact ⟨j, hj, getElem?_of_lookup hlookup⟩
  · intro _ _ t ht
    cases ht

end Hierarchical

/-! ### The usual strategies -/

/-- Whatever one of the usual strategies makes of a file is linked. -/
theorem Strategy.chunks_linked {reader : SyntaxReader} {s : Settings} (hs : s.Valid) (ht : s.preferTrees = false)
    {strategy : Strategy} (hmem : strategy ∈ Strategy.usual s) {path content snapshot : Text} {cs : List EnrichedChunk}
    (h : strategy.chunks reader path content snapshot = .ok cs) : Linked (Text.lines content) cs := by
  have hsize := hs.size
  simp only [usual, List.mem_cons, List.not_mem_nil, or_false] at hmem
  rcases hmem with rfl | rfl | rfl
  · exact Semantic.chunks_linked (by dsimp only; omega) (by dsimp only; decide) ht h
  · obtain rfl := Except.ok.inj h
    exact Hierarchical.chunks_linked ⟨path, snapshot, Language.detect path content, content⟩
  · exact ContextAware.chunks_linked ht h

namespace Registry

/-- The chosen strategy is a registered one. -/
theorem mem_of_applicable {r : Registry} {language : Language} {content : Text} {preferred : Option Text}
    {s : Strategy} (h : (r.applicable language content preferred).1 = some s) : s ∈ r := by
  have hfirst : r.firstApplicable language content = some s → s ∈ r := List.mem_of_find?_eq_some
  unfold applicable at h
  split at h
  case h_1 => exact hfirst h
  case h_2 t =>
    split at h
    case h_1 q hq =>
      dsimp only at h
      split at h
      case isTrue =>
        obtain rfl := Option.some.inj h
        obtain ⟨name, _, hname⟩ := Option.bind_eq_some_iff.mp hq
        exact List.mem_of_find?_eq_some hname
      case isFalse => exact hfirst h
    case h_2 => exact hfirst h

end Registry

end SourceChunks
