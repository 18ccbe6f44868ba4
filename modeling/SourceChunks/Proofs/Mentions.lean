import SourceChunks.Proofs.BatchOrder
import SourceChunks.Proofs.Matching

/-! Names that a text mentions. A name whose call or use occurs in a text stands there with no character
of a name on either side, and so it is one of the identifiers that a scan from left to right cuts out
of the text. Looking names up among these identifiers misses nothing: calls and uses give one relation
for every other chunk that declares a name which the text holds in the right form. -/

namespace SourceChunks

namespace Names

open Pattern

/-! ### Characters -/

theorem inName_of_letterOr {x : Char} (h : letterOr "_$" x = true) : inName x = true := by
  rw [letterOr, Bool.or_eq_true] at h
  rcases h with halpha | hsign
  · simp [inName, wordOr, isWordChar_of_isAlpha halpha]
  · have hmem : x = '_' ∨ x = '$' := by simpa using hsign
    rcases hmem with rfl | rfl <;> decide

/-- No blank stands in a name. -/
theorem not_inName_of_isBlank {x : Char} (h : isBlank x = true) : inName x = false := by
  have hne : x ≠ '$' := by
    rintro rfl
    cases h
  simp [inName, wordOr, not_isWordChar_of_isBlank h, hne]

/-! ### Identifiers -/

section

variable {extra inside : Text} {offset : Nat} {before : Option Char} {x : Char} {xs : Text}

/-- A name goes as far as its characters do. -/
theorem matchAt?_nameOf (inside : Text) (offset : Nat) (before : Option Char) (xs : Text)
    (hx : letterOr extra x = true) :
    ∃ o, (nameOf extra inside).matchAt? ⟨offset, before, x :: xs⟩ = some o ∧
      o.1.offset = offset + 1 + (xs.takeWhile (wordOr inside)).length := by
  obtain ⟨d, hoffset, hrun⟩ := run?_nameOf inside (c := ⟨offset, before, x :: xs⟩) rfl hx
  exact ⟨(d, []), hrun _ _ _ rfl, hoffset⟩

theorem matchAt?_nameOf_eq_none (hx : ¬ letterOr extra x = true) :
    (nameOf extra inside).matchAt? ⟨offset, before, x :: xs⟩ = none := by
  show (Pattern.seq (.one (letterOr extra)) (.run (wordOr inside) 0 none .greedy)).matchAt? _ = _
  simp [matchAt?, run?, hx]

/-- A scan for names comes to every place where a name can begin and no name can go on. -/
theorem mem_scanFrom_nameOf (hsub : ∀ x, letterOr extra x = true → wordOr inside x = true) {skip : Nat}
    {t : Text} (front : Text) (hskip : (t.take skip).all (wordOr inside) = true)
    (hbefore : 0 < skip → before.any (wordOr inside) = true) (ht : t = front ++ x :: xs)
    (hedge : (front.getLast?.or before).any (wordOr inside) = false) (hx : letterOr extra x = true) :
    x :: xs.takeWhile (wordOr inside) ∈ ((nameOf extra inside).scanFrom skip offset before t).map (·.text) := by
  induction t generalizing skip offset before front with
  | nil => simp at ht
  | cons y ys ih =>
    cases front with
    | nil =>
      -- Inside an earlier name the character before would belong to it.
      have hzero : skip = 0 := by
        by_contra hne
        have hany := hbefore (by omega)
        simp [hany] at hedge
      obtain ⟨rfl, rfl⟩ := List.cons.inj ht
      obtain ⟨o, ho, hoffset⟩ := matchAt?_nameOf inside offset before ys hx
      have hlength : o.1.offset - offset = (ys.takeWhile (wordOr inside)).length + 1 := by omega
      have hprefix : ys.take (ys.takeWhile (wordOr inside)).length = ys.takeWhile (wordOr inside) :=
        (List.prefix_iff_eq_take.mp (List.takeWhile_prefix _)).symm
      rw [scanFrom, if_pos hzero]
      dsimp only
      rw [ho, List.map_cons, toMatch, hlength, List.take_succ_cons, hprefix]
      exact List.mem_cons_self
    | cons z front =>
      obtain ⟨rfl, hys⟩ := List.cons.inj ht
      have hnext : (front.getLast?.or (some y)).any (wordOr inside) = false := by
        rw [List.getLast?_cons] at hedge
        cases hlast : front.getLast? <;> simpa [hlast] using hedge
      by_cases hzero : skip = 0
      · rw [scanFrom, if_pos hzero]
        dsimp only
        by_cases hy : letterOr extra y = true
        · obtain ⟨o, ho, hoffset⟩ := matchAt?_nameOf inside offset before ys hy
          rw [ho, List.map_cons]
          refine List.mem_cons_of_mem _ (ih front ?_ (fun _ => hsub y hy) hys hnext)
          have hlength : o.1.offset - offset - 1 = (ys.takeWhile (wordOr inside)).length := by omega
          rw [hlength, ← List.prefix_iff_eq_take.mp (List.takeWhile_prefix _)]
          exact List.all_takeWhile
        · rw [matchAt?_nameOf_eq_none hy]
          exact ih front (by simp) (by simp) hys hnext
      · obtain ⟨skip, rfl⟩ := Nat.exists_eq_succ_of_ne_zero hzero
        rw [List.take_succ_cons, List.all_cons, Bool.and_eq_true] at hskip
        rw [scanFrom, if_neg hzero]
        exact ih front hskip.2 (fun _ => hskip.1) hys hnext

theorem mem_scan_nameOf (hsub : ∀ x, letterOr extra x = true → wordOr inside x = true) {front : Text}
    (hedge : front.getLast?.any (wordOr inside) = false) (hx : letterOr extra x = true) :
    x :: xs.takeWhile (wordOr inside) ∈ ((nameOf extra inside).scan (front ++ x :: xs)).map (·.text) := by
  refine mem_scanFrom_nameOf hsub front ?_ ?_ rfl ?_ hx
  · rfl
  · intro h
    cases h
  · rwa [Option.or_none]

end

/-- The shape of an identifier. -/
def isName : Text → Bool
  | [] => false
  | x :: xs => letterOr "_$" x && xs.all inName

/-- The name stands in the text with no character of a name before it or behind it. -/
def StandsIn (s t : Text) : Prop :=
  ∃ front back, t = front ++ s ++ back ∧ front.getLast?.any inName = false ∧ back.head?.any inName = false

/-- A name that stands in a text is one of its identifiers. -/
theorem mem_identifiers_of_standsIn {s t : Text} (hs : isName s = true) (h : StandsIn s t) : s ∈ identifiers t := by
  obtain ⟨front, back, rfl, hfront, hback⟩ := h
  cases s with
  | nil => cases hs
  | cons x xs =>
    rw [isName, Bool.and_eq_true] at hs
    have hstop : back.takeWhile inName = [] := by
      cases back with
      | nil => rfl
      | cons y ys => exact List.takeWhile_cons_of_neg (by simpa using hback)
    have hname : (xs ++ back).takeWhile inName = xs := by
      rw [List.takeWhile_append_of_pos (List.all_eq_true.mp hs.2), hstop, List.append_nil]
    have hmem : x :: (xs ++ back).takeWhile inName ∈ (dollarName.scan (front ++ x :: (xs ++ back))).map (·.text) :=
      mem_scan_nameOf (fun _ => inName_of_letterOr) hfront hs.1
    rw [identifiers, mem_distinct, List.append_assoc]
    rwa [hname] at hmem

/-! ### Calls and uses -/

/-- What is read after a place where no name goes on, and before one, stands in the text. -/
theorem standsIn_of_passes {s t : Text} {c d : Cursor} (hc : (Cursor.start t).Reaches c) (hpass : c.Passes s d)
    (hbefore : c.before.any inName = false) (hback : d.rest.head?.any inName = false) : StandsIn s t := by
  obtain ⟨front, hfront⟩ := hc
  refine ⟨front, d.rest, ?_, ?_, hback⟩
  · rw [List.append_assoc, ← hpass.rest]
    exact hfront.rest
  · rw [hfront.before] at hbefore
    simpa [Cursor.start] using hbefore

theorem standsIn_of_callOf {s t : Text} (h : (callOf s).occursIn t = true) : StandsIn s t := by
  obtain ⟨c, d, hc, e, ⟨m, ⟨_, hedge, hname⟩, blank, hblank, hall, _⟩, hbracket⟩ := occursIn_iff.mp h
  obtain ⟨hbefore, rfl⟩ := reads_notAfter_iff.mp hedge
  refine standsIn_of_passes hc (reads_ofChars_iff.mp hname) hbefore ?_
  rw [hblank.rest, (reads_ofChars_iff.mp hbracket).rest]
  cases blank with
  | nil =>
    show inName '(' = false
    decide
  | cons y ys =>
    rw [List.all_cons, Bool.and_eq_true] at hall
    simpa using not_inName_of_isBlank hall.1

theorem standsIn_of_useOf {s t : Text} (h : (useOf s).occursIn t = true) : StandsIn s t := by
  obtain ⟨c, d, hc, e, ⟨m, ⟨_, hedge, hname⟩, hend⟩, _⟩ := occursIn_iff.mp h
  obtain ⟨hbefore, rfl⟩ := reads_notAfter_iff.mp hedge
  exact standsIn_of_passes hc (reads_ofChars_iff.mp hname) hbefore (reads_notBefore_iff.mp hend).1

end Names

/-! ### The index -/

namespace ChunkIndex

theorem mem_referenced {index : ChunkIndex} {e : IndexEntry} {s : Text} :
    s ∈ index.referenced e ↔ s ∈ index.declared ∧ s ∈ e.identifiers ∧ s ∉ e.symbols := by
  simp [referenced]

/-- The names that a chunk mentions are sorted, each once. -/
theorem referenced_sorted (cs : List EnrichedChunk) (e : IndexEntry) :
    ((ofChunks cs).referenced e).Pairwise fun a b => Text.le a b = true ∧ a ≠ b := by
  have htrans : ∀ a b c : Text, Text.le a b = true → Text.le b c = true → Text.le a c = true :=
    fun _ _ _ => Text.le_trans
  have hnodup : ((ofChunks cs).referenced e).Nodup :=
    (List.mergeSort_perm _ _).nodup_iff.mpr ((nodup_distinct _).filter _)
  exact (List.pairwise_mergeSort htrans Text.le_total _).and hnodup

/-- The entries at other places are those of the chunks at other places. -/
theorem others_ofChunks (cs : List EnrichedChunk) (place : Nat) :
    (ofChunks cs).others place =
      (cs.zipIdx.filter fun q => q.2 != place).map fun q => (IndexEntry.ofChunk q.1, q.2) := by
  rw [others, ofChunks, List.zipIdx_map, List.filter_map]
  rfl

end ChunkIndex

namespace Relation

/-- What the index finds in the text of `c` among the names of `d`. -/
def hits (form : Text → Pattern) (cs : List EnrichedChunk) (c d : EnrichedChunk) : List Mention :=
  mentionsOf (mentions (.ofChunks cs) (.ofChunk c) form) (.ofChunk d)

theorem symbols_hits (form : Text → Pattern) (cs : List EnrichedChunk) (c d : EnrichedChunk) :
    (hits form cs c d).map (·.symbol) =
      ((ChunkIndex.ofChunks cs).referenced (.ofChunk c)).filter fun s =>
        d.symbols.contains s && (form s).occursIn c.content := by
  have hmentions : (mentions (.ofChunks cs) (.ofChunk c) form).map (·.symbol) =
      ((ChunkIndex.ofChunks cs).referenced (.ofChunk c)).filter fun s => (form s).occursIn c.content := by
    rw [mentions, List.map_filterMap, ← List.filterMap_eq_filter]
    congr 1
    funext s
    show Option.map _ (if ((form s).scan c.content).isEmpty then none else _) = _
    rw [Pattern.isEmpty_scan, Option.guard]
    cases (form s).occursIn c.content <;> rfl
  rw [← List.filter_filter, ← hmentions, List.filter_map]
  rfl

theorem byMentions_ofChunks (form : Text → Pattern) (relation : IndexEntry → List Mention → Relation)
    (cs : List EnrichedChunk) (place : Nat) (c : EnrichedChunk) :
    byMentions form relation (.ofChunks cs) place (.ofChunk c) =
      (cs.zipIdx.filter fun q => q.2 != place).filterMap fun q =>
        if hits form cs c q.1 = [] then none else some (relation (.ofChunk q.1) (hits form cs c q.1)) := by
  rw [byMentions, ChunkIndex.others_ofChunks, List.filterMap_map]
  congr 1
  funext q
  exact mentionRule_eq form relation ((ChunkIndex.ofChunks cs).referenced (.ofChunk c)) (.ofChunk c) (.ofChunk q.1)

/-! ### All pairs -/

/-- `s` is a name of `d` and not of `c`, and the text of `c` holds it in the form. -/
def Holds (form : Text → Pattern) (c d : EnrichedChunk) (s : Text) : Prop :=
  s ∈ d.symbols ∧ s ∉ c.symbols ∧ (form s).occursIn c.content = true

instance (form : Text → Pattern) (c d : EnrichedChunk) (s : Text) : Decidable (Holds form c d s) :=
  inferInstanceAs (Decidable (_ ∧ _ ∧ _))

/-- The relation leads to `d`, and its description is about the names of `d` that the text of `c` holds, in
their order. -/
structure Describes (kind : RelationKind) (form : Text → Pattern) (describe : List Text → EnrichedChunk → Text)
    (c d : EnrichedChunk) (r : Relation) : Prop where
  kind : r.kind = kind
  target : r.target = d.id
  direction : r.direction = .outgoing
  names : ∃ names : List Text, r.description = describe names d ∧
    names.Pairwise (fun a b => Text.le a b = true ∧ a ≠ b) ∧ ∀ s, s ∈ names ↔ Holds form c d s

/-- One relation for every chunk at another place with a name that the text of `c` holds, in the order of
the places. -/
def OnePerTarget (kind : RelationKind) (form : Text → Pattern) (describe : List Text → EnrichedChunk → Text)
    (cs : List EnrichedChunk) (place : Nat) (c : EnrichedChunk) (rs : List Relation) : Prop :=
  ∃ places : List Nat, places.Pairwise (· < ·) ∧
    (∀ q, q ∈ places ↔ q ≠ place ∧ ∃ d, cs[q]? = some d ∧ ∃ s, Holds form c d s) ∧
    List.Forall₂ (fun q r => ∃ d, cs[q]? = some d ∧ Describes kind form describe c d r) places rs

theorem forall₂_filterMap {α β γ : Type} (f : α → Option β) (key : α → γ) (xs : List α) :
    List.Forall₂ (fun k b => ∃ x ∈ xs, key x = k ∧ f x = some b) ((xs.filter fun x => (f x).isSome).map key)
      (xs.filterMap f) := by
  induction xs with
  | nil => exact .nil
  | cons x xs ih =>
    have hrest : List.Forall₂ (fun k b => ∃ y ∈ x :: xs, key y = k ∧ f y = some b)
        ((xs.filter fun x => (f x).isSome).map key) (xs.filterMap f) :=
      ih.imp fun _ _ ⟨y, hy, h⟩ => ⟨y, List.mem_cons_of_mem x hy, h⟩
    cases hx : f x with
    | none => simpa [hx] using hrest
    | some b => simpa [hx] using List.Forall₂.cons ⟨x, List.mem_cons_self, rfl, hx⟩ hrest

section

variable {cs : List EnrichedChunk} {form : Text → Pattern}

/-- The index finds those names that the text holds and that are among its identifiers. -/
theorem mem_symbols_hits_iff {c d : EnrichedChunk} (hd : d ∈ cs) (s : Text) :
    s ∈ (hits form cs c d).map (·.symbol) ↔ s ∈ Names.identifiers c.content ∧ Holds form c d s := by
  rw [symbols_hits, List.mem_filter, ChunkIndex.mem_referenced, Bool.and_eq_true, List.contains_iff_mem]
  constructor
  · rintro ⟨⟨_, hidentifier, hown⟩, hmem, hoccurs⟩
    exact ⟨hidentifier, hmem, hown, hoccurs⟩
  · rintro ⟨hidentifier, hmem, hown, hoccurs⟩
    have hdeclared : s ∈ (ChunkIndex.ofChunks cs).declared :=
      mem_distinct.mpr (List.mem_flatMap.mpr ⟨d, hd, hmem⟩)
    exact ⟨⟨hdeclared, hidentifier, hown⟩, hmem, hoccurs⟩

/-- The index finds exactly the names that the text holds. -/
theorem mem_symbols_hits (hshape : ∀ d ∈ cs, ∀ s ∈ d.symbols, Names.isName s = true)
    (hform : ∀ s t, (form s).occursIn t = true → Names.StandsIn s t) {c d : EnrichedChunk} (hd : d ∈ cs) (s : Text) :
    s ∈ (hits form cs c d).map (·.symbol) ↔ Holds form c d s := by
  rw [mem_symbols_hits_iff hd]
  refine and_iff_right_of_imp ?_
  rintro ⟨hmem, _, hoccurs⟩
  exact Names.mem_identifiers_of_standsIn (hshape d hd s hmem) (hform s _ hoccurs)

theorem hits_ne_nil_iff (hshape : ∀ d ∈ cs, ∀ s ∈ d.symbols, Names.isName s = true)
    (hform : ∀ s t, (form s).occursIn t = true → Names.StandsIn s t) {c d : EnrichedChunk} (hd : d ∈ cs) :
    hits form cs c d ≠ [] ↔ ∃ s, Holds form c d s := by
  constructor
  · intro h
    obtain ⟨m, hm⟩ := List.exists_mem_of_ne_nil _ h
    exact ⟨m.symbol, (mem_symbols_hits hshape hform hd _).mp (List.mem_map_of_mem hm)⟩
  · rintro ⟨s, hs⟩ h
    have hmem := (mem_symbols_hits hshape hform hd s).mpr hs
    rw [h] at hmem
    cases hmem

theorem byMentions_onePerTarget (hshape : ∀ d ∈ cs, ∀ s ∈ d.symbols, Names.isName s = true)
    (hform : ∀ s t, (form s).occursIn t = true → Names.StandsIn s t) {kind : RelationKind}
    {describe : List Text → EnrichedChunk → Text} (relation : IndexEntry → List Mention → Relation)
    (hkind : ∀ e ms, (relation e ms).kind = kind) (htarget : ∀ e ms, (relation e ms).target = e.chunk.id)
    (hdirection : ∀ e ms, (relation e ms).direction = .outgoing)
    (hdescribe : ∀ d ms, (relation (.ofChunk d) ms).description = describe (ms.map (·.symbol)) d)
    (place : Nat) (c : EnrichedChunk) :
    OnePerTarget kind form describe cs place c (byMentions form relation (.ofChunks cs) place (.ofChunk c)) := by
  let rule (q : EnrichedChunk × Nat) : Option Relation :=
    if hits form cs c q.1 = [] then none else some (relation (.ofChunk q.1) (hits form cs c q.1))
  have hrule : ∀ q, (rule q).isSome = true ↔ hits form cs c q.1 ≠ [] := by
    intro q
    by_cases h : hits form cs c q.1 = [] <;> simp [rule, h]
  rw [byMentions_ofChunks]
  refine ⟨((cs.zipIdx.filter fun q => q.2 != place).filter fun q => (rule q).isSome).map (·.2), ?_, ?_, ?_⟩
  · have hall : (cs.zipIdx.map (·.2)).Pairwise (· < ·) := by
      rw [List.zipIdx_map_snd]
      exact List.pairwise_lt_range'
    exact hall.sublist ((List.filter_sublist.trans List.filter_sublist).map _)
  · intro q
    constructor
    · intro hq
      obtain ⟨⟨d, _⟩, hmem, rfl⟩ := List.mem_map.mp hq
      obtain ⟨hmem, hsome⟩ := List.mem_filter.mp hmem
      obtain ⟨hmem, hne⟩ := List.mem_filter.mp hmem
      have hget := List.mem_zipIdx_iff_getElem?.mp hmem
      exact ⟨bne_iff_ne.mp hne, d, hget,
        (hits_ne_nil_iff hshape hform (List.mem_of_getElem? hget)).mp ((hrule _).mp hsome)⟩
    · rintro ⟨hne, d, hget, hholds⟩
      refine List.mem_map.mpr ⟨(d, q), ?_, rfl⟩
      rw [List.mem_filter, List.mem_filter]
      have hsome := (hrule (d, q)).mpr ((hits_ne_nil_iff hshape hform (List.mem_of_getElem? hget)).mpr hholds)
      exact ⟨⟨List.mem_zipIdx_iff_getElem?.mpr hget, bne_iff_ne.mpr hne⟩, hsome⟩
  · refine (forall₂_filterMap rule (·.2) _).imp ?_
    rintro _ r ⟨⟨d, q⟩, hmem, rfl, hsome⟩
    have hget := List.mem_zipIdx_iff_getElem?.mp (List.mem_filter.mp hmem).1
    obtain ⟨_, heq⟩ := Option.ite_none_left_eq_some.mp hsome
    obtain rfl := Option.some.inj heq
    refine ⟨d, hget, hkind _ _, htarget _ _, hdirection _ _, _, hdescribe d _, ?_, ?_⟩
    · rw [symbols_hits]
      exact (ChunkIndex.referenced_sorted cs _).filter _
    · exact mem_symbols_hits hshape hform (List.mem_of_getElem? hget)

end

/-- Calls and uses give one relation for every other chunk that declares a name which the text holds in
the form of a call, or of a use. No such name is missing among the identifiers of the text. -/
theorem mentions_onePerTarget {cs : List EnrichedChunk} (hshape : ∀ d ∈ cs, ∀ s ∈ d.symbols, Names.isName s = true)
    {place : Nat} (hplace : place < cs.length) :
    OnePerTarget .calls Names.callOf (fun names d => "Calls " ++ Text.join ", " names ++ " from " ++ d.path) cs place
        cs[place] (calls (.ofChunks cs) place (.ofChunk cs[place])) ∧
      OnePerTarget .uses Names.useOf (fun names _ => "Uses " ++ Text.join ", " names) cs place
        cs[place] (uses (.ofChunks cs) place (.ofChunk cs[place])) ∧
      ∀ d ∈ cs, ∀ s, Holds Names.callOf cs[place] d s ∨ Holds Names.useOf cs[place] d s →
        s ∈ Names.identifiers cs[place].content := by
  have hcall : ∀ s t, (Names.callOf s).occursIn t = true → Names.StandsIn s t :=
    fun _ _ => Names.standsIn_of_callOf
  have huse : ∀ s t, (Names.useOf s).occursIn t = true → Names.StandsIn s t :=
    fun _ _ => Names.standsIn_of_useOf
  refine ⟨?_, ?_, ?_⟩
  · exact byMentions_onePerTarget hshape hcall (callTo (.ofChunk cs[place])) (fun _ _ => rfl) (fun _ _ => rfl)
      (fun _ _ => rfl) (fun _ _ => rfl) place _
  · exact byMentions_onePerTarget hshape huse (useOf (.ofChunk cs[place])) (fun _ _ => rfl) (fun _ _ => rfl)
      (fun _ _ => rfl) (fun _ _ => rfl) place _
  · rintro d hd s (⟨hmem, _, hoccurs⟩ | ⟨hmem, _, hoccurs⟩)
    · exact Names.mem_identifiers_of_standsIn (hshape d hd s hmem) (hcall s _ hoccurs)
    · exact Names.mem_identifiers_of_standsIn (hshape d hd s hmem) (huse s _ hoccurs)

/-- A text that calls one name, uses another and holds a third inside a longer one. -/
def mentioners : List EnrichedChunk :=
  [{ base := ⟨"a", "x = $g (f2, h)", "a.js", 0, 0, "s", .javascript, ["x"], [], none, none⟩
     facets := { language := .javascript } },
   { base := ⟨"b", "let f = 1, h = 2", "b.js", 0, 0, "s", .javascript, ["f", "h"], [], none, none⟩
     facets := { language := .javascript } },
   { base := ⟨"c", "function $g() {}", "b.js", 1, 1, "s", .javascript, ["$g"], [], none, none⟩
     facets := { language := .javascript } }]

theorem mentions_onePerTarget_mentioners :
    (∀ d ∈ mentioners, ∀ s ∈ d.symbols, Names.isName s = true) ∧ 0 < mentioners.length ∧
      Holds Names.callOf mentioners[0] mentioners[2] "$g" ∧ Holds Names.useOf mentioners[0] mentioners[1] "h" ∧
      ¬ Holds Names.useOf mentioners[0] mentioners[1] "f" ∧
      OnePerTarget .calls Names.callOf (fun names d => "Calls " ++ Text.join ", " names ++ " from " ++ d.path)
        mentioners 0 mentioners[0] (calls (.ofChunks mentioners) 0 (.ofChunk mentioners[0])) ∧
      OnePerTarget .uses Names.useOf (fun names _ => "Uses " ++ Text.join ", " names) mentioners 0 mentioners[0]
        (uses (.ofChunks mentioners) 0 (.ofChunk mentioners[0])) ∧
      ("$g" : Text) ∈ Names.identifiers mentioners[0].content := by
  have hshape : ∀ d ∈ mentioners, ∀ s ∈ d.symbols, Names.isName s = true := by decide
  have hcall : Holds Names.callOf mentioners[0] mentioners[2] "$g" := by decide +kernel
  have huse : Holds Names.useOf mentioners[0] mentioners[1] "h" := by decide +kernel
  have hinside : ¬ Holds Names.useOf mentioners[0] mentioners[1] "f" := by decide +kernel
  have hplace : 0 < mentioners.length := by decide
  obtain ⟨hcalls, huses, hidentifiers⟩ := mentions_onePerTarget hshape hplace
  exact ⟨hshape, hplace, hcall, huse, hinside, hcalls, huses, hidentifiers _ (List.getElem_mem _) _ (.inl hcall)⟩

end Relation

end SourceChunks
