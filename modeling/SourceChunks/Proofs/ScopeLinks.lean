import SourceChunks.Proofs.Linked
import SourceChunks.Proofs.Outcomes

/-! The chunks of nested scopes as a tree. Identities are given out twice, once for the relations and once for
the chunks, and both times the scopes want the same identities in the same order. So a relation to a
parent or to a child leads to the chunk of that scope, a chunk leads to its children exactly as they lead
to it, and it lies around them. -/

namespace SourceChunks.Hierarchical

/-! ### Relations of a scope -/

theorem map_filterMap_eq {α β γ : Type} {f : α → Option β} {g : β → γ} {k : α → γ} {xs : List α}
    (h : ∀ x ∈ xs, ∃ y, f x = some y ∧ g y = k x) : (xs.filterMap f).map g = xs.map k := by
  rw [List.map_filterMap, ← List.filterMap_eq_map]
  refine List.filterMap_congr fun x hx => ?_
  obtain ⟨y, hy, hk⟩ := h x hx
  rw [hy, Option.map_some, hk, Function.comp_apply]

/-- Kind and target of a relation. -/
def ends (r : Relation) : RelationKind × Option Text := (r.kind, some r.target)

/-- The kinds and targets that the relations of a scope should have: to the parent, and to every child in
order. -/
def wantedEnds (idOf? : Nat → Option Text) (s : Scope) : List (RelationKind × Option Text) :=
  (s.parent.toList.map fun p => (.extends_, idOf? p)) ++ s.children.map fun c => (.uses, idOf? c)

/-- A scope whose relatives have identities is related to all of them. -/
theorem map_ends_relations {t : ScopeTree} {idOf? : Nat → Option Text} {s : Scope}
    (hknown : ∀ h, s.parent = some h ∨ h ∈ s.children → (∃ q, t.get? h = some q) ∧ ∃ id, idOf? h = some id) :
    (relations t idOf? s).map ends = wantedEnds idOf? s := by
  rw [relations, List.map_append, wantedEnds]
  congr 1
  · refine map_filterMap_eq fun p hp => ?_
    obtain ⟨⟨q, hq⟩, id, hid⟩ := hknown p (.inl (Option.mem_toList.mp hp))
    rw [hq, hid]
    exact ⟨_, rfl, rfl⟩
  · refine map_filterMap_eq fun c hc => ?_
    obtain ⟨⟨q, hq⟩, id, hid⟩ := hknown c (.inr hc)
    rw [hq, hid]
    exact ⟨_, rfl, rfl⟩

/-- The chunk of a scope: it has the range of the scope and the identity given out for it, and it is related
to the parent and to the children under the identities given out for them. -/
structure Renders (t : ScopeTree) (ids : List (Nat × Text)) (h : Nat) (s : Scope) (c : EnrichedChunk) : Prop where
  scope : t.get? h = some s
  first : c.base.first = s.first
  last : c.base.last = s.last
  id : ids.lookup h = some c.id
  relations : c.relations.map ends = wantedEnds (fun h => ids.lookup h) s

namespace Renders

variable {t : ScopeTree} {ids : List (Nat × Text)} {h : Nat} {s : Scope} {c : EnrichedChunk}

theorem mem_wantedEnds (hr : Renders t ids h s c) {kind : RelationKind} {target : Text} :
    (∃ r ∈ c.relations, r.kind = kind ∧ r.target = target) ↔
      (kind, some target) ∈ wantedEnds (fun h => ids.lookup h) s := by
  rw [← hr.relations, List.mem_map]
  simp [ends]

/-- Every relation leads to an identity that was given out. -/
theorem exists_lookup (hr : Renders t ids h s c) {r : Relation} (hmem : r ∈ c.relations) :
    ∃ k, ids.lookup k = some r.target := by
  have hends := hr.mem_wantedEnds.mp ⟨r, hmem, rfl, rfl⟩
  rcases List.mem_append.mp hends with hends | hends
  · obtain ⟨p, _, heq⟩ := List.mem_map.mp hends
    exact ⟨p, (Prod.mk.inj heq).2⟩
  · obtain ⟨k, _, heq⟩ := List.mem_map.mp hends
    exact ⟨k, (Prod.mk.inj heq).2⟩

/-- The chunk extends that of the parent. -/
theorem extends_iff (hr : Renders t ids h s c) {target : Text} :
    (∃ r ∈ c.relations, r.kind = .extends_ ∧ r.target = target) ↔
      ∃ p, s.parent = some p ∧ ids.lookup p = some target := by
  rw [hr.mem_wantedEnds]
  simp [wantedEnds]

/-- The chunk uses those of the children. -/
theorem uses_iff (hr : Renders t ids h s c) {target : Text} :
    (∃ r ∈ c.relations, r.kind = .uses ∧ r.target = target) ↔ ∃ k ∈ s.children, ids.lookup k = some target := by
  rw [hr.mem_wantedEnds]
  simp [wantedEnds]

/-- A scope has at most one parent. -/
theorem length_extends_le (hr : Renders t ids h s c) :
    (c.relations.filter fun r => r.kind = .extends_).length ≤ 1 := by
  have hends : ((c.relations.filter fun r => r.kind = .extends_).map ends) =
      s.parent.toList.map fun p => (.extends_, ids.lookup p) := by
    have hfilter : ((c.relations.filter fun r => r.kind = .extends_).map ends) =
        (c.relations.map ends).filter fun e => e.1 = .extends_ := by
      rw [List.filter_map]
      rfl
    rw [hfilter, hr.relations, wantedEnds, List.filter_append, List.filter_map, List.filter_map]
    simp [Function.comp_def]
  rw [← List.length_map ends, hends, List.length_map]
  cases s.parent <;> simp

end Renders

/-! ### The chunks of a file -/

/-- In a table that is numbered in order the look-up goes by place. -/
theorem lookup_range_zip {n : Nat} {xs : List Text} (hlength : xs.length = n) (k : Nat) :
    ((List.range n).zip xs).lookup k = xs[k]? := by
  have hfrom : ∀ (start j : Nat) (x : Text), xs[j]? = some x →
      ((List.range' start n).zip xs).lookup (start + j) = some x := by
    subst hlength
    induction xs with
    | nil =>
      intro _ _ _ hx
      cases hx
    | cons y ys ih =>
      intro start j x hx
      rw [List.length_cons, List.range'_succ, List.zip_cons_cons, List.lookup_cons]
      cases j with
      | zero => simpa using hx
      | succ j =>
        have hne : (start + (j + 1) == start) = false := by simp
        rw [hne, Nat.add_comm j 1, ← Nat.add_assoc]
        exact ih (start + 1) j x hx
  refine Option.ext fun x => ⟨getElem?_of_lookup, fun hx => ?_⟩
  have hplace := hfrom 0 k x hx
  rwa [Nat.zero_add, ← List.range_eq_range'] at hplace

section

variable (source : Source)

theorem laminarForest_scopes : (scopes source).LaminarForest source.lines.length :=
  (ScopeTree.Progress.ofLines source.language source.lines).laminarForest

theorem ordered_scopes : ordered (scopes source) = (scopes source).scopes.zipIdx.map Prod.swap :=
  order_eq source.language source.lines

theorem map_fst_ordered : (ordered (scopes source)).map (·.1) = (scopes source).flatten := by
  rw [ordered_scopes, (laminarForest_scopes source).flatten_eq, List.map_map]
  show (scopes source).scopes.zipIdx.map Prod.snd = _
  rw [List.zipIdx_map_snd, ← List.range_eq_range', ScopeTree.size]

/-- The identities of the chunks are those that their scopes want. -/
theorem map_id_chunks : (chunks source).map (·.id) =
    ChunkId.allocate [] ((ordered (scopes source)).map fun x => wantedId source x.2) := by
  rw [chunks_eq]
  refine ChunkId.map_zipWith_id (fun _ _ => rfl) ?_
  rw [ChunkId.length_allocate, List.length_map]

/-- The identities given out beforehand are those of the chunks. -/
theorem identities_eq :
    identities source (scopes source) = (scopes source).flatten.zip ((chunks source).map (·.id)) := by
  rw [map_id_chunks, ← map_fst_ordered, identities]

theorem length_chunks : (chunks source).length = (ordered (scopes source)).length := by
  rw [← List.length_map (·.id), map_id_chunks, ChunkId.length_allocate, List.length_map]

theorem length_map_id_chunks : ((chunks source).map (·.id)).length = (scopes source).size := by
  rw [List.length_map, length_chunks, ordered_scopes, List.length_map, List.length_zipIdx, ScopeTree.size]

theorem lookup_eq_getElem? (k : Nat) :
    (identities source (scopes source)).lookup k = ((chunks source).map (·.id))[k]? := by
  rw [identities_eq, (laminarForest_scopes source).flatten_eq, lookup_range_zip (length_map_id_chunks source)]

theorem nodup_ids : ((chunks source).map (·.id)).Nodup := by
  rw [map_id_chunks]
  exact ChunkId.nodup_allocate _ _

variable {source}

/-- Scopes with the same identity are the same. -/
theorem eq_of_lookup {k j : Nat} {id : Text} (hk : (identities source (scopes source)).lookup k = some id)
    (hj : (identities source (scopes source)).lookup j = some id) : k = j := by
  rw [lookup_eq_getElem?] at hk hj
  exact (List.getElem?_inj (List.getElem?_eq_some_iff.mp hk).1 (nodup_ids source)).mp (hk.trans hj.symm)

/-- An identity was given out for every scope. -/
theorem exists_lookup_of_get? {k : Nat} {s : Scope} (hs : (scopes source).get? k = some s) :
    ∃ id, (identities source (scopes source)).lookup k = some id := by
  have hlt : k < ((chunks source).map (·.id)).length := by
    rw [length_map_id_chunks]
    exact (List.getElem?_eq_some_iff.mp hs).1
  exact ⟨_, (lookup_eq_getElem? source k).trans (List.getElem?_eq_getElem hlt)⟩

theorem exists_relative {k : Nat} {s : Scope} (hs : (scopes source).get? k = some s) {h : Nat}
    (hrelative : s.parent = some h ∨ h ∈ s.children) : ∃ q, (scopes source).get? h = some q := by
  rcases hrelative with hparent | hchild
  · obtain ⟨q, hq, _⟩ := (laminarForest_scopes source).child hs hparent
    exact ⟨q, hq⟩
  · obtain ⟨q, hq, _⟩ := ((laminarForest_scopes source).mem_children hs h).mp hchild
    exact ⟨q, hq⟩

/-- Every chunk shows the scope at its place. -/
theorem renders_of_getElem? {k : Nat} {x : Nat × Scope} {c : EnrichedChunk}
    (hx : (ordered (scopes source))[k]? = some x) (hc : (chunks source)[k]? = some c) :
    Renders (scopes source) (identities source (scopes source)) x.1 x.2 c := by
  have hid : (identities source (scopes source)).lookup k = some c.id := by
    rw [lookup_eq_getElem?, List.getElem?_map, hc, Option.map_some]
  rw [chunks_eq] at hc
  obtain ⟨id, y, _, hy, rfl⟩ := List.getElem?_zipWith_eq_some.mp hc
  obtain rfl := Option.some.inj (hx.symm.trans hy)
  rw [ordered_scopes, List.getElem?_map, List.getElem?_zipIdx, Option.map_map] at hx
  obtain ⟨s, hs, rfl⟩ := Option.map_eq_some_iff.mp hx
  have hscope : (scopes source).get? (0 + k) = some s := by rwa [Nat.zero_add]
  refine ⟨hscope, rfl, rfl, ?_, ?_⟩
  · show (identities source (scopes source)).lookup (0 + k) = _
    rwa [Nat.zero_add]
  · refine map_ends_relations fun h hrelative => ?_
    obtain ⟨q, hq⟩ := exists_relative hscope hrelative
    exact ⟨⟨q, hq⟩, exists_lookup_of_get? hq⟩

theorem renders_ordered :
    List.Forall₂ (fun x c => Renders (scopes source) (identities source (scopes source)) x.1 x.2 c)
      (ordered (scopes source)) (chunks source) := by
  refine List.forall₂_iff_get.mpr ⟨(length_chunks source).symm, fun k hk hk' => ?_⟩
  exact renders_of_getElem? (List.getElem?_eq_getElem hk) (List.getElem?_eq_getElem hk')

theorem exists_renders {c : EnrichedChunk} (hc : c ∈ chunks source) :
    ∃ k s, Renders (scopes source) (identities source (scopes source)) k s c := by
  obtain ⟨x, _, hx⟩ := exists_of_mem_right renders_ordered hc
  exact ⟨x.1, x.2, hx⟩

section

variable {i j : Nat} {p s : Scope} {a b : EnrichedChunk}
  (ha : Renders (scopes source) (identities source (scopes source)) i p a)
  (hb : Renders (scopes source) (identities source (scopes source)) j s b)

include ha hb

-- No identity was given out twice, so the target of a relation tells the scope it means.

/-- A chunk extends that of the parent and no other one. -/
theorem extends_iff_parent :
    (∃ r ∈ b.relations, r.kind = .extends_ ∧ r.target = a.id) ↔ s.parent = some i := by
  rw [hb.extends_iff]
  constructor
  · rintro ⟨k, hparent, hid⟩
    obtain rfl := eq_of_lookup hid ha.id
    exact hparent
  · intro hparent
    exact ⟨i, hparent, ha.id⟩

/-- A chunk uses those of the children and no other ones. -/
theorem uses_iff_child : (∃ r ∈ a.relations, r.kind = .uses ∧ r.target = b.id) ↔ j ∈ p.children := by
  rw [ha.uses_iff]
  constructor
  · rintro ⟨k, hchild, hid⟩
    obtain rfl := eq_of_lookup hid hb.id
    exact hchild
  · intro hchild
    exact ⟨j, hchild, hb.id⟩

/-- The children of a scope are those that name it as the parent. -/
theorem mem_children_iff_parent : j ∈ p.children ↔ s.parent = some i := by
  rw [(laminarForest_scopes source).mem_children ha.scope j]
  constructor
  · rintro ⟨s', hs', hparent⟩
    obtain rfl := Option.some.inj (hb.scope.symm.trans hs')
    exact hparent
  · intro hparent
    exact ⟨s, hb.scope, hparent⟩

/-- The chunk of a child lies inside that of the parent. -/
theorem inside_of_parent (hparent : s.parent = some i) :
    a.base.first ≤ b.base.first ∧ b.base.last ≤ a.base.last := by
  obtain ⟨q, hq, _, _, hfirst, hlast⟩ := (laminarForest_scopes source).child hb.scope hparent
  obtain rfl := Option.some.inj (ha.scope.symm.trans hq)
  rw [ha.first, ha.last, hb.first, hb.last]
  omega

end

end

/-! ### The tree of chunks -/

/-- The chunks of a file form a tree as its scopes do: they have the identities given out beforehand and the
relations of their scopes, every relation leads to a chunk, and a chunk leads to its children as they
lead to it. -/
structure TreeOfChunks (source : Source) (cs : List EnrichedChunk) : Prop where
  ids_given : identities source (scopes source) = (scopes source).flatten.zip (cs.map (·.id))
  ids_distinct : (cs.map (·.id)).Nodup
  renders : List.Forall₂ (fun x c => Renders (scopes source) (identities source (scopes source)) x.1 x.2 c)
    (ordered (scopes source)) cs
  targets : ∀ c ∈ cs, ∀ r ∈ c.relations, ∃ d ∈ cs, r.target = d.id
  extends_once : ∀ c ∈ cs, (c.relations.filter fun r => r.kind = .extends_).length ≤ 1
  uses_iff : ∀ a ∈ cs, ∀ b ∈ cs, (∃ r ∈ a.relations, r.kind = .uses ∧ r.target = b.id) ↔
    ∃ r ∈ b.relations, r.kind = .extends_ ∧ r.target = a.id
  inside : ∀ a ∈ cs, ∀ b ∈ cs, (∃ r ∈ b.relations, r.kind = .extends_ ∧ r.target = a.id) →
    a.base.first ≤ b.base.first ∧ b.base.last ≤ a.base.last

/-- The strategy always succeeds, and its chunks form a tree. -/
theorem chunks_treeOfChunks (reader : SyntaxReader) (path content snapshot : Text) :
    ∃ cs, Strategy.hierarchical.chunks reader path content snapshot = .ok cs ∧
      TreeOfChunks ⟨path, snapshot, Language.detect path content, content⟩ cs := by
  let source : Source := ⟨path, snapshot, Language.detect path content, content⟩
  refine ⟨chunks source, rfl, ?_⟩
  constructor
  case ids_given => exact identities_eq source
  case ids_distinct => exact nodup_ids source
  case renders => exact renders_ordered
  case targets =>
    intro c hc r hr
    obtain ⟨_, _, hs⟩ := exists_renders hc
    obtain ⟨k, hk⟩ := hs.exists_lookup hr
    rw [lookup_eq_getElem?] at hk
    obtain ⟨d, hd, heq⟩ := List.mem_map.mp (List.mem_of_getElem? hk)
    exact ⟨d, hd, heq.symm⟩
  case extends_once =>
    intro c hc
    obtain ⟨_, _, hs⟩ := exists_renders hc
    exact hs.length_extends_le
  case uses_iff =>
    intro a ha b hb
    obtain ⟨i, p, hp⟩ := exists_renders ha
    obtain ⟨j, s, hs⟩ := exists_renders hb
    rw [uses_iff_child hp hs, extends_iff_parent hp hs, mem_children_iff_parent hp hs]
  case inside =>
    intro a ha b hb hextends
    obtain ⟨i, p, hp⟩ := exists_renders ha
    obtain ⟨j, s, hs⟩ := exists_renders hb
    exact inside_of_parent hp hs ((extends_iff_parent hp hs).mp hextends)

end SourceChunks.Hierarchical
