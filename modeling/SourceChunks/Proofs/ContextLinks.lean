import SourceChunks.Proofs.Linked
import SourceChunks.Syntax.Reader

/-! The chunks of declarations that are tied to each other. Identities are given out twice, once for the
relations and once for the chunks, and both times the widened ranges want the same identities in the same
order, also where some of them coincide. So the places that a tie joins are the places of its chunks: one
of them is related to the other exactly once, and the other names it among its dependents. -/

namespace SourceChunks.ContextAware

/-! ### Ties by their places -/

/-- The places that a tie joins. -/
def ends (t : Tie) : Nat × Nat := (t.source, t.target)

theorem ends_of_tie? {a b : ContextNode × Nat} {t : Tie} (h : tie? a b = some t) : ends t = (a.2, b.2) := by
  unfold tie? at h
  split at h
  case isTrue => cases h
  case isFalse =>
    dsimp only at h
    split at h
    case isTrue => exact Option.some.inj h ▸ rfl
    case isFalse => cases h

theorem zipIdx_pairwise {α : Type} (xs : List α) : xs.zipIdx.Pairwise fun a b => a.2 ≠ b.2 := by
  have hplaces : (xs.zipIdx.map Prod.snd).Nodup := by
    rw [List.zipIdx_map_snd]
    exact List.nodup_range' 1
  exact List.pairwise_map.mp hplaces

/-- Two places are joined at most once in either direction. -/
theorem ties_pairwise (ns : List ContextNode) : (ties ns).Pairwise fun s t => ends s ≠ ends t := by
  rw [ties, List.pairwise_flatMap]
  constructor
  · intro a _
    rw [List.pairwise_filterMap]
    refine (zipIdx_pairwise ns).imp ?_
    intro b b' hne s hs t ht heq
    rw [ends_of_tie? hs, ends_of_tie? ht] at heq
    exact hne (Prod.mk.inj heq).2
  · refine (zipIdx_pairwise ns).imp ?_
    intro a a' hne s hs t ht heq
    obtain ⟨b, _, hs⟩ := List.mem_filterMap.mp hs
    obtain ⟨b', _, ht⟩ := List.mem_filterMap.mp ht
    rw [ends_of_tie? hs, ends_of_tie? ht] at heq
    exact hne (Prod.mk.inj heq).1

/-! ### Relations and dependents of a chunk -/

theorem mem_dependents_iff {ids : List Text} {ts : List Tie} {i : Nat} {id : Text} :
    id ∈ dependents ids ts i ↔ ∃ t ∈ ts, t.target = i ∧ ids[t.source]? = some id := by
  rw [dependents, mem_distinct, List.mem_filterMap]
  refine exists_congr fun t => and_congr_right fun _ => ?_
  split <;> simp_all

/-- The chunk at place `i`: it has the identity given out for the place, and its relations and dependents are
those of the ties there. -/
structure Shows (ns : List Node) (ids : List Text) (ts : List Tie) (i : Nat) (c : EnrichedChunk) : Prop where
  id : ids[i]? = some c.id
  relations : c.relations = (ts.filter fun t => t.source = i).filterMap (relation? ns ids)
  dependents : c.facets.dependents = dependents ids ts i

namespace Shows

variable {ns : List Node} {ids : List Text} {ts : List Tie} {i j : Nat} {a b : EnrichedChunk}

theorem exists_tie (ha : Shows ns ids ts i a) {r : Relation} (hr : r ∈ a.relations) :
    ∃ t ∈ ts, t.source = i ∧ ids[t.target]? = some r.target := by
  rw [ha.relations] at hr
  obtain ⟨t, ht, hr⟩ := List.mem_filterMap.mp hr
  obtain ⟨ht, hsource⟩ := List.mem_filter.mp ht
  exact ⟨t, ht, of_decide_eq_true hsource, relation?_target hr⟩

-- Identities are distinct, so from here on an identity tells the place it was given out for.
variable (hids : ids.Nodup)

include hids

theorem place_eq {x y : Nat} {id : Text} (hx : ids[x]? = some id) (hy : ids[y]? = some id) : x = y :=
  (List.getElem?_inj (List.getElem?_eq_some_iff.mp hx).1 hids).mp (hx.trans hy.symm)

/-- A chunk is related to another one if and only if a tie leads from its place to the other place. -/
theorem related_iff (hlength : ids.length = ns.length) (ha : Shows ns ids ts i a) (hb : Shows ns ids ts j b) :
    (∃ r ∈ a.relations, r.target = b.id) ↔ ∃ t ∈ ts, t.source = i ∧ t.target = j := by
  constructor
  · rintro ⟨r, hr, htarget⟩
    obtain ⟨t, ht, hsource, hid⟩ := ha.exists_tie hr
    exact ⟨t, ht, hsource, place_eq hids (htarget ▸ hid) hb.id⟩
  · rintro ⟨t, ht, hsource, rfl⟩
    have hlt : t.target < ns.length := hlength ▸ (List.getElem?_eq_some_iff.mp hb.id).1
    have hrelation : ∃ r, relation? ns ids t = some r ∧ r.target = b.id := by
      rw [relation?, hb.id, List.getElem?_eq_getElem hlt]
      exact ⟨_, rfl, rfl⟩
    obtain ⟨r, hr, htarget⟩ := hrelation
    refine ⟨r, ?_, htarget⟩
    rw [ha.relations]
    exact List.mem_filterMap.mpr ⟨t, List.mem_filter.mpr ⟨ht, decide_eq_true hsource⟩, hr⟩

/-- A chunk is named among the dependents of another one if and only if a tie leads from its place to the
other place. -/
theorem mem_dependents_iff_tie (ha : Shows ns ids ts i a) (hb : Shows ns ids ts j b) :
    a.id ∈ b.facets.dependents ↔ ∃ t ∈ ts, t.source = i ∧ t.target = j := by
  rw [hb.dependents, mem_dependents_iff]
  refine exists_congr fun t => and_congr_right fun _ => ?_
  constructor
  · rintro ⟨htarget, hid⟩
    exact ⟨place_eq hids hid ha.id, htarget⟩
  · rintro ⟨rfl, htarget⟩
    exact ⟨htarget, ha.id⟩

/-- Ties that join different places give relations with different targets. -/
theorem nodup_targets (hts : ts.Pairwise fun s t => ends s ≠ ends t) (ha : Shows ns ids ts i a) :
    (a.relations.map (·.target)).Nodup := by
  rw [ha.relations]
  refine List.pairwise_map.mpr (List.pairwise_filterMap.mpr ?_)
  refine (hts.sublist List.filter_sublist).imp_of_mem ?_
  intro s t hs ht hne r hr q hq heq
  have hsource : s.source = t.source :=
    (of_decide_eq_true (List.mem_filter.mp hs).2).trans (of_decide_eq_true (List.mem_filter.mp ht).2).symm
  have htarget : s.target = t.target := place_eq hids (relation?_target hr) (heq ▸ relation?_target hq)
  exact hne (Prod.ext hsource htarget)

end Shows

/-! ### The chunks of a file -/

/-- The chunks of a list of declarations, one for each: they have the identities given out beforehand and the
widened ranges of their declarations. A chunk is related at most once to any other, along the ties, every
relation leads to another chunk, and relations and dependents say the same. -/
structure TiedChunks (p : ContextParams) (source : Source) (found : List ContextNode) (cs : List EnrichedChunk) :
    Prop where
  ids_given : identities p source source.lines.length (found.map (·.node)) (ties found) = cs.map (·.id)
  ids_distinct : (cs.map (·.id)).Nodup
  ranges : cs.map (fun c => (c.base.first, c.base.last)) = found.zipIdx.map fun n =>
    bounds p source.lines.length (found.map (·.node)) (ties found) n.2 n.1.node
  targets : ∀ a ∈ cs, ∀ r ∈ a.relations, ∃ b ∈ cs, b.id ≠ a.id ∧ r.target = b.id
  once : ∀ a ∈ cs, (a.relations.map (·.target)).Nodup
  tied : ∀ (i j : Nat) (a b : EnrichedChunk), cs[i]? = some a → cs[j]? = some b →
    ((∃ r ∈ a.relations, r.target = b.id) ↔ ∃ t ∈ ties found, t.source = i ∧ t.target = j)
  inverse : ∀ a ∈ cs, ∀ b ∈ cs, (∃ r ∈ a.relations, r.target = b.id) ↔ a.id ∈ b.facets.dependents
  dependents_once : ∀ b ∈ cs, b.facets.dependents.Nodup
  dependents_known : ∀ b ∈ cs, ∀ id ∈ b.facets.dependents, ∃ a ∈ cs, a.id = id

section

variable (p : ContextParams) (source : Source) (found : List ContextNode)

/-- The identities given out beforehand. -/
abbrev given : List Text := identities p source source.lines.length (found.map (·.node)) (ties found)

/-- The chunks made of the declarations. -/
abbrev made : List EnrichedChunk :=
  Draft.chunks source source.lines (found.zipIdx.map fun n =>
    draft p source source.lines (found.map (·.node)) (ties found) (given p source found) n.2 n.1)

theorem length_given : (given p source found).length = found.length := by
  simp [identities, ChunkId.length_allocate]

theorem nodup_given : (given p source found).Nodup := ChunkId.nodup_allocate _ _

theorem map_id_made : (made p source found).map (·.id) = given p source found := by
  rw [made, draftChunks_eq]
  refine ChunkId.map_zipWith_id (fun _ _ => rfl) ?_
  rw [length_given, List.length_zipIdx]

theorem ranges_made : (made p source found).map (fun c => (c.base.first, c.base.last)) =
    found.zipIdx.map fun n =>
      bounds p source.lines.length (found.map (·.node)) (ties found) n.2 n.1.node :=
  ranges_drafts p source source.lines found (ties found) (given p source found)

variable {p source found}

theorem shows_made {i : Nat} {c : EnrichedChunk} (hc : (made p source found)[i]? = some c) :
    Shows (found.map (·.node)) (given p source found) (ties found) i c := by
  have hid : (given p source found)[i]? = some c.id := by
    rw [← map_id_made, List.getElem?_map, hc, Option.map_some]
  rw [made, draftChunks_eq] at hc
  obtain ⟨id, ⟨n, k⟩, _, hn, rfl⟩ := List.getElem?_zipWith_eq_some.mp hc
  obtain rfl : i = k := by
    rw [List.getElem?_zipIdx] at hn
    obtain ⟨_, _, he⟩ := Option.map_eq_some_iff.mp hn
    simpa using congrArg Prod.snd he
  exact ⟨hid, rfl, rfl⟩

theorem exists_shows {c : EnrichedChunk} (hc : c ∈ made p source found) :
    ∃ i, Shows (found.map (·.node)) (given p source found) (ties found) i c := by
  obtain ⟨i, hi⟩ := List.mem_iff_getElem?.mp hc
  exact ⟨i, shows_made hi⟩

/-- At every place for which an identity was given out there is a chunk. -/
theorem exists_made {i : Nat} {id : Text} (hid : (given p source found)[i]? = some id) :
    ∃ c ∈ made p source found, c.id = id := by
  rw [← map_id_made] at hid
  obtain ⟨c, hc, heq⟩ := List.mem_map.mp (List.mem_of_getElem? hid)
  exact ⟨c, hc, heq⟩

theorem made_tiedChunks : TiedChunks p source found (made p source found) := by
  have hids := nodup_given p source found
  have hlength : (given p source found).length = (found.map (·.node)).length := by
    rw [length_given, List.length_map]
  constructor
  case ids_given => exact (map_id_made p source found).symm
  case ids_distinct =>
    rw [map_id_made]
    exact hids
  case ranges => exact ranges_made p source found
  case targets =>
    intro a ha r hr
    obtain ⟨i, hi⟩ := exists_shows ha
    obtain ⟨t, ht, hsource, htarget⟩ := hi.exists_tie hr
    obtain ⟨b, hb, heq⟩ := exists_made htarget
    refine ⟨b, hb, ?_, heq.symm⟩
    intro hsame
    have hplace : t.target = i := Shows.place_eq hids htarget (heq ▸ hsame ▸ hi.id)
    exact source_ne_target ht (hsource.trans hplace.symm)
  case once =>
    intro a ha
    obtain ⟨i, hi⟩ := exists_shows ha
    exact hi.nodup_targets hids (ties_pairwise found)
  case tied =>
    intro i j a b ha hb
    exact (shows_made ha).related_iff hids hlength (shows_made hb)
  case inverse =>
    intro a ha b hb
    obtain ⟨i, hi⟩ := exists_shows ha
    obtain ⟨j, hj⟩ := exists_shows hb
    rw [hi.related_iff hids hlength hj, hi.mem_dependents_iff_tie hids hj]
  case dependents_once =>
    intro b hb
    obtain ⟨j, hj⟩ := exists_shows hb
    rw [hj.dependents]
    exact nodup_distinct _
  case dependents_known =>
    intro b hb id hid
    obtain ⟨j, hj⟩ := exists_shows hb
    rw [hj.dependents, mem_dependents_iff] at hid
    obtain ⟨t, _, _, hsource⟩ := hid
    exact exists_made hsource

end

/-- Whatever the parameters, without syntax trees the strategy always succeeds, and its chunks are tied as their
declarations are. -/
theorem chunks_tiedChunks (reader : SyntaxReader) (p : ContextParams) (ht : p.preferTrees = false)
    (path content snapshot : Text) :
    ∃ found cs, contextNodes reader p (Language.detect path content) 50 (Text.lines content) = .ok found ∧
      (Strategy.contextAware p).chunks reader path content snapshot = .ok cs ∧
      TiedChunks p ⟨path, snapshot, Language.detect path content, content⟩ found cs := by
  let source : Source := ⟨path, snapshot, Language.detect path content, content⟩
  have hblock : (0 : Int) < 50 := by decide
  obtain ⟨ns, hns, _⟩ := source.topNodes_arranged reader ht hblock
  have hfound : contextNodes reader p source.language 50 source.lines =
      .ok (ns.map (contextualise source.lines source.language)) := by
    rw [contextNodes, hns]
    rfl
  refine ⟨_, made p source (ns.map (contextualise source.lines source.language)), hfound, ?_, made_tiedChunks⟩
  show chunks reader p source = _
  rw [chunks, hfound]
  rfl

/-- Two functions that call each other from neighbouring lines, so that both are widened to the whole file. -/
theorem chunks_tiedChunks_callers :
    ({ radius := 3, threshold := 0.25 } : ContextParams).preferTrees = false ∧
      ∃ found cs, contextNodes Grammar.tree { radius := 3, threshold := 0.25 }
          (Language.detect "a.py" "def f(): g()\ndef g(): f()") 50 (Text.lines "def f(): g()\ndef g(): f()") = .ok found ∧
        (Strategy.contextAware { radius := 3, threshold := 0.25 }).chunks Grammar.tree "a.py"
          "def f(): g()\ndef g(): f()" "s" = .ok cs ∧
        TiedChunks { radius := 3, threshold := 0.25 } ⟨"a.py", "s",
          Language.detect "a.py" "def f(): g()\ndef g(): f()", "def f(): g()\ndef g(): f()"⟩ found cs :=
  ⟨rfl, chunks_tiedChunks Grammar.tree _ rfl "a.py" "def f(): g()\ndef g(): f()" "s"⟩

end SourceChunks.ContextAware
