import SourceChunks.Proofs.LinkedPipeline
import SourceChunks.Proofs.SoundChunks

/-! From a file to sound chunks. All that a strategy, the windows or the passes say about a chunk is of
the listed kinds, and no identity is empty; the rest is known of linked chunks. So the checks find
nothing in the chunks of a file, scores apart. -/

namespace SourceChunks

/-! ### Identities -/

namespace ChunkId

theorem make_ne_nil (snapshot path : Text) (first last : Int) (suffix : Text) :
    make snapshot path first last suffix ≠ [] := by
  simp [make, ofLabel, sanitise]

theorem numbered_ne_nil (id : Text) (n : Nat) : numbered id n ≠ [] := by
  simp [numbered]

theorem freshFrom_ne_nil (seen : List Text) (id : Text) (fuel n : Nat) : freshFrom seen id fuel n ≠ [] := by
  induction fuel generalizing n with
  | zero => exact numbered_ne_nil id n
  | succ fuel ih =>
    rw [freshFrom]
    split
    · exact ih (n + 1)
    · exact numbered_ne_nil id n

theorem fresh_ne_nil {id : Text} (h : id ≠ []) (seen : List Text) : fresh seen id ≠ [] := by
  unfold fresh
  split
  · exact freshFrom_ne_nil seen id _ 1
  · exact h

/-- No identity is empty unless an empty one was wanted. -/
theorem ne_nil_of_mem_allocate {seen wanted : List Text} (h : ∀ id ∈ wanted, id ≠ []) {id : Text}
    (hid : id ∈ allocate seen wanted) : id ≠ [] := by
  induction wanted generalizing seen with
  | nil => cases hid
  | cons w wanted ih =>
    rcases List.mem_cons.mp hid with rfl | hid
    · exact fresh_ne_nil (h w List.mem_cons_self) seen
    · exact ih (fun v hv => h v (List.mem_cons_of_mem _ hv)) hid

end ChunkId

/-- Identities for ranges of lines are not empty. -/
theorem Source.ne_nil_of_mem_allocate {α : Type} (source : Source) {first last : α → Int} {suffix : α → Text}
    {xs : List α} {id : Text}
    (hid : id ∈ ChunkId.allocate [] (xs.map fun x => source.idFor (first x) (last x) (suffix x))) : id ≠ [] := by
  refine ChunkId.ne_nil_of_mem_allocate ?_ hid
  intro w hw
  obtain ⟨x, _, rfl⟩ := List.mem_map.mp hw
  exact ChunkId.make_ne_nil _ _ _ _ _

/-! ### Roles -/

theorem NodeKind.semanticType_listed (k : NodeKind) : k.semanticType ∈ SemanticType.listed := by
  cases k <;> decide

namespace Metrics

theorem firstRole_listed {signs : List (Bool × SemanticType)} (h : ∀ s ∈ signs, s.2 ∈ SemanticType.listed) :
    firstRole signs ∈ SemanticType.listed := by
  unfold firstRole
  cases hf : signs.find? (·.1) with
  | none => decide
  | some s => exact h s (List.mem_of_find?_eq_some hf)

theorem declaredRole_listed (content : Text) (language : Language) :
    declaredRole content language ∈ SemanticType.listed := by
  unfold declaredRole
  split
  · exact firstRole_listed (by simp [SemanticType.listed])
  · exact firstRole_listed (by simp [SemanticType.listed])
  · exact firstRole_listed (by simp [SemanticType.listed])
  · split
    · exact firstRole_listed (by simp [SemanticType.listed])
    · decide

theorem inferRole_listed (content : Text) (language : Language) (path : Text) :
    inferRole content language path ∈ SemanticType.listed := by
  unfold inferRole
  dsimp only
  split
  · decide
  · split
    · decide
    · split
      · decide
      · split
        · decide
        · exact declaredRole_listed content language

end Metrics

/-! ### Before enrichment -/

/-- The chunk has an identity, and its role and relations are of the listed kinds. -/
structure EnrichedChunk.Listed (c : EnrichedChunk) : Prop where
  id : c.id ≠ []
  semanticType : c.facets.semanticType ∈ SemanticType.listed
  relations : ∀ r ∈ c.relations, r.Listed

theorem listed_of_drafts {α : Type} {source : Source} {ls ids : List Text} {xs : List α} {draft : α → Draft}
    (hids : ∀ id ∈ ids, id ≠ []) (hkind : ∀ x ∈ xs, (draft x).semanticType ∈ SemanticType.listed)
    (hrel : ∀ x ∈ xs, ∀ r ∈ (draft x).relations, r.Listed) :
    ∀ c ∈ List.zipWith (fun id x => (draft x).chunk source ls id) ids xs, c.Listed := by
  intro c hc
  obtain ⟨id, hid, x, hx, rfl⟩ := ChunkId.exists_of_mem_zipWith hc
  exact ⟨hids id hid, hkind x hx, hrel x hx⟩

theorem Relation.listed_make {kind : RelationKind} (hk : kind ∈ RelationKind.listed) {direction : Direction}
    (hd : direction ∈ Direction.listed) {origin : Origin} (ho : origin ∈ Origin.listed) {target description : Text}
    {strength confidence : Float} {line : Option Int} {context : Option Text} :
    (make kind target strength description direction confidence origin line context).Listed := ⟨hk, hd, ho⟩

theorem ContextAware.relation?_listed {found : List ContextNode} {ns : List Node} {ids : List Text} {t : Tie}
    (ht : t ∈ ties found) {r : Relation} (h : relation? ns ids t = some r) : r.Listed := by
  obtain ⟨a, b, _, rfl⟩ := mem_ties ht
  have hkind : ∀ k ∈ [RelationKind.calls, .imports, .extends_, .uses], k ∈ RelationKind.listed := by decide
  unfold relation? at h
  obtain ⟨id, _, h⟩ := Option.bind_eq_some_iff.mp h
  obtain ⟨n, _, h⟩ := Option.bind_eq_some_iff.mp h
  obtain rfl := Option.some.inj h
  exact Relation.listed_make (hkind _ (tieKind_mem a.1 b.1)) (by decide) (by decide)

theorem Hierarchical.relations_listed {t : ScopeTree} {idOf? : Nat → Option Text} {s : Scope} {r : Relation}
    (hr : r ∈ relations t idOf? s) : r.Listed := by
  rcases List.mem_append.mp hr with hr | hr
  · obtain ⟨p, _, hr⟩ := List.mem_filterMap.mp hr
    obtain ⟨q, _, hr⟩ := Option.bind_eq_some_iff.mp hr
    obtain ⟨id, _, hr⟩ := Option.bind_eq_some_iff.mp hr
    obtain rfl := Option.some.inj hr
    exact Relation.listed_make (by decide) (by decide) (by decide)
  · obtain ⟨c, _, hr⟩ := List.mem_filterMap.mp hr
    obtain ⟨q, _, hr⟩ := Option.bind_eq_some_iff.mp hr
    obtain ⟨id, _, hr⟩ := Option.bind_eq_some_iff.mp hr
    obtain rfl := Option.some.inj hr
    exact Relation.listed_make (by decide) (by decide) (by decide)

theorem Strategy.chunks_listed {reader : SyntaxReader} {s : Strategy} {path content snapshot : Text}
    {cs : List EnrichedChunk} (h : s.chunks reader path content snapshot = .ok cs) : ∀ c ∈ cs, c.Listed := by
  cases s with
  | semantic p =>
    dsimp only [chunks, Semantic.chunks] at h
    obtain ⟨ns, _, h⟩ := exists_of_bind_eq_ok h
    obtain rfl := Except.ok.inj h
    rw [Draft.chunks_map]
    refine listed_of_drafts (fun id => Source.ne_nil_of_mem_allocate _) ?_ ?_
    · exact fun n _ => n.kind.semanticType_listed
    · exact fun n _ r hr => absurd hr List.not_mem_nil
  | hierarchical =>
    obtain rfl := Except.ok.inj h
    rw [Hierarchical.chunks_eq]
    refine listed_of_drafts (fun id => Source.ne_nil_of_mem_allocate _) ?_ ?_
    · exact fun n _ => n.2.kind.semanticType_listed
    · exact fun n _ r hr => Hierarchical.relations_listed hr
  | contextAware p =>
    dsimp only [chunks, ContextAware.chunks] at h
    obtain ⟨ns, _, h⟩ := exists_of_bind_eq_ok h
    obtain rfl := Except.ok.inj h
    rw [Draft.chunks_map]
    refine listed_of_drafts (fun id => Source.ne_nil_of_mem_allocate _) ?_ ?_
    · exact fun n _ => n.1.node.kind.semanticType_listed
    · intro n _ r hr
      obtain ⟨t, ht, hr⟩ := List.mem_filterMap.mp hr
      exact ContextAware.relation?_listed (List.mem_filter.mp ht).1 hr

namespace Pipeline

theorem fallbackChunks_listed (s : Settings) (source : Source) : ∀ c ∈ fallbackChunks s source, c.Listed := by
  intro c hc
  obtain ⟨b, hb, rfl⟩ := List.mem_map.mp hc
  obtain ⟨id, hid, p, _, rfl⟩ := ChunkId.exists_of_mem_zipWith hb
  refine ⟨source.ne_nil_of_mem_allocate hid, Metrics.inferRole_listed _ _ _, ?_⟩
  exact fun r hr => absurd hr List.not_mem_nil

theorem rawChunks_listed (p : Pipeline) (source : Source) (preferred : Option Text) :
    ∀ c ∈ (p.rawChunks source preferred).1, c.Listed := by
  rcases p.rawChunks_cases source preferred with ⟨s, _, h, _⟩ | heq
  · exact Strategy.chunks_listed h
  · rw [heq]
    exact fallbackChunks_listed p.settings source

end Pipeline

/-! ### Enrichment -/

theorem Relation.Made.listed {pass : RelationPass} {q : IndexEntry} {r : Relation} (h : Made pass q r) :
    r.Listed := by
  obtain ⟨hkind, hdirection, horigin⟩ := marks_listed pass _ h.marked
  exact ⟨hkind, hdirection, horigin⟩

namespace Enrichment

theorem enrichFile_listed {minConfidence : Float} {cs : List EnrichedChunk} (h : ∀ c ∈ cs, c.Listed)
    (file : Text) : ∀ e ∈ enrichFile minConfidence cs file, e.Listed := by
  intro e he
  obtain ⟨k, hk⟩ := List.mem_iff_getElem?.mp he
  obtain ⟨c, found, hc, hfound, rfl⟩ := getElem?_enrichFile hk
  have hlisted := h c (List.mem_of_getElem? hc)
  refine ⟨hlisted.id, hlisted.semanticType, ?_⟩
  intro r hr
  rcases List.mem_append.mp (Relation.mem_of_mem_distinctKeys hr) with hr | hr
  · exact hlisted.relations r hr
  · obtain ⟨_, _, pass, _, _, hmade⟩ := RelationAnalysis.made_of_mem_fileRelations hfound hr
    exact hmade.listed

/-- Linked chunks of the listed kinds become sound when they are enriched. -/
theorem enrichFile_sound (minConfidence : Float) {cs : List EnrichedChunk} {path file : Text}
    (hlinked : Linked (Text.lines file) cs) (hlisted : ∀ c ∈ cs, c.Listed) (hpath : ∀ c ∈ cs, c.path = path)
    (hne : path ≠ []) : ∀ e ∈ enrichFile minConfidence cs file, e.Sound := by
  intro e he
  have hout := enrichFile_linked minConfidence hlinked file
  have hin := (hout.quotes e he).inFile
  have hkinds := enrichFile_listed hlisted file e he
  obtain ⟨k, hk⟩ := List.mem_iff_getElem?.mp he
  obtain ⟨c, found, hc, hfound, heq⟩ := getElem?_enrichFile hk
  refine
    { id := hkinds.id, path := ?_, nonneg := hin.nonneg, ordered := hin.ordered,
      semanticType := hkinds.semanticType, counts := ?_, relations := ?_, context := ?_ }
  · have hsame : e.path = c.path := heq ▸ rfl
    rw [hsame, hpath c (List.mem_of_getElem? hc)]
    exact hne
  · rw [heq]
    exact LineCounts.ofLines_consistent _
  · -- The target is the identity of a chunk of the file, and none of these is empty.
    intro r hr
    refine ⟨hkinds.relations r hr, ?_⟩
    obtain ⟨d, hd, hid⟩ := List.mem_map.mp (hout.relations e he r hr).1
    rw [← hid]
    exact (enrichFile_listed hlisted file d hd).id
  · have hcontext : e.context = some (keepContext c.context (Context.analyse {} c file (cs.map (·.id)))) :=
      heq ▸ rfl
    refine ⟨_, hcontext, ?_, ?_⟩
    · rw [file_keepContext]
      exact hin.below
    · rw [file_keepContext]
      exact Int.natCast_nonneg _

end Enrichment

/-! ### Files -/

namespace Pipeline

/-- Whatever the settings and the preferred strategy, a file with a path and a text becomes chunks in
which the checks find nothing but scores out of range. -/
theorem chunk_accepted (reader : SyntaxReader) (size overlap fallback : Int) (validate : Bool) (minConfidence : Float)
    (path content snapshot : Text) (preferred : Option Text) (hpath : path ≠ []) (hcontent : content ≠ []) :
    ∃ cs log, (ofSettings reader (Settings.clamp size overlap fallback false validate minConfidence)).chunk path
        content snapshot preferred = .ok (cs, log) ∧
      cs ≠ [] ∧ ∀ c ∈ cs, (Validation.validate c.unchecked).findings.ScoresOnly := by
  have hs := Settings.clamp_valid size overlap fallback false validate minConfidence
  generalize hp : ofSettings reader (Settings.clamp size overlap fallback false validate minConfidence) = p
  obtain ⟨log, hchunk⟩ := p.chunk_eq path content snapshot preferred hcontent
  have hlinked := rawChunks_linked reader hs rfl ⟨path, snapshot, Language.detect path content, content⟩ preferred
  rw [hp] at hlinked
  have hlisted := p.rawChunks_listed ⟨path, snapshot, Language.detect path content, content⟩ preferred
  refine ⟨_, log, hchunk, Enrichment.enrichFile_ne_nil (p.rawChunks_ne_nil _ preferred) content, ?_⟩
  intro c hc
  exact Validation.validate_sound
    (Enrichment.enrichFile_sound _ hlinked hlisted (fun d hd => path_of_mem_rawChunks hd) hpath c hc)

/-- Two methods that call each other, cut by their scopes. -/
theorem chunk_accepted_methods :
    ("a.py" : Text) ≠ [] ∧ ("class A:\n def f(): g()\n\n def g(): f()\n" : Text) ≠ [] ∧
      ∃ cs log, (ofSettings Grammar.tree (Settings.clamp (-3) 900 0 false true 0.3)).chunk "a.py"
          "class A:\n def f(): g()\n\n def g(): f()\n" "s" (some "hierarchical") = .ok (cs, log) ∧
        cs ≠ [] ∧ ∀ c ∈ cs, (Validation.validate c.unchecked).findings.ScoresOnly :=
  ⟨by decide, by decide, chunk_accepted Grammar.tree (-3) 900 0 true 0.3 "a.py"
    "class A:\n def f(): g()\n\n def g(): f()\n" "s" (some "hierarchical") (by decide) (by decide)⟩

end Pipeline

end SourceChunks
