import SourceChunks.Proofs.BatchGraph
import SourceChunks.Proofs.Mentions
import SourceChunks.Proofs.PlainChunks
import SourceChunks.Proofs.Texts

/-! Lines of the evidence. A relation that is read off the text of a chunk tells a line of the file. If
the chunk quotes its lines, the line is one of them: counting the newlines before an offset of the
content counts the lines before it. The line of a call or a use is the line where the first of its
names stands in the form that was looked for. -/

namespace SourceChunks

/-! ### Offsets and lines -/

namespace Text

/-- An offset of a text that begins with the line `first` lies on the line `i`: before it there are the
lines from `first` on that come before `i`, with their newlines, and a part of the line `i`. -/
def LiesOn (ls : List Text) (first : Nat) (t : Text) (offset i : Nat) : Prop :=
  ∃ line part, ls[i]? = some line ∧ part <+: line ∧
    t.take offset = ((ls.take i).drop first).flatMap (· ++ ['\n']) ++ part

theorem liesOn_head (l : Text) (ls : List Text) {t : Text} {offset : Nat} (h : t.take offset <+: l) :
    LiesOn (l :: ls) 0 t offset 0 := ⟨l, t.take offset, rfl, h, rfl⟩

theorem liesOn_cons {ls : List Text} {t : Text} {offset i : Nat} (h : LiesOn ls 0 t offset i) (l : Text) :
    LiesOn (l :: ls) 0 (l ++ '\n' :: t) (l.length + 1 + offset) (i + 1) := by
  obtain ⟨line, part, hline, hpart, htake⟩ := h
  refine ⟨line, part, hline, hpart, ?_⟩
  rw [Nat.add_assoc, Nat.add_comm 1, List.take_length_add_append, List.take_succ_cons, htake]
  simp

/-- The newlines before an offset are as many as the lines before it. -/
theorem liesOn_count {ls : List Text} (hne : ls ≠ []) (h : ∀ l ∈ ls, '\n' ∉ l) (offset : Nat) :
    LiesOn ls 0 (ofLines ls) offset (((ofLines ls).take offset).count '\n') := by
  induction ls generalizing offset with
  | nil => exact absurd rfl hne
  | cons l ls ih =>
    have hhead (n : Nat) : (l.take n).count '\n' = 0 :=
      List.count_eq_zero.mpr fun hmem => h l List.mem_cons_self (List.mem_of_mem_take hmem)
    cases ls with
    | nil =>
      show LiesOn [l] 0 l offset ((l.take offset).count '\n')
      rw [hhead]
      exact liesOn_head l [] (List.take_prefix offset l)
    | cons m ls =>
      have hjoin : ofLines (l :: m :: ls) = l ++ '\n' :: ofLines (m :: ls) := by
        rw [ofLines, join_cons_cons, List.append_assoc]
        rfl
      rw [hjoin]
      by_cases hle : offset ≤ l.length
      · rw [List.take_append_of_le_length hle, hhead]
        refine liesOn_head l (m :: ls) ?_
        rw [List.take_append_of_le_length hle]
        exact List.take_prefix offset l
      · obtain ⟨rest, rfl⟩ : ∃ rest, offset = l.length + 1 + rest := ⟨offset - (l.length + 1), by omega⟩
        have hcount : ((l ++ '\n' :: ofLines (m :: ls)).take (l.length + 1 + rest)).count '\n' =
            ((ofLines (m :: ls)).take rest).count '\n' + 1 := by
          have hzero := hhead l.length
          rw [List.take_length] at hzero
          rw [Nat.add_assoc, Nat.add_comm 1, List.take_length_add_append, List.take_succ_cons, List.count_append,
            hzero, List.count_cons_self, Nat.zero_add]
        rw [hcount]
        exact liesOn_cons (ih (List.cons_ne_nil m ls) (fun l' hl' => h l' (List.mem_cons_of_mem l hl')) rest) l

/-- What lies on a line of a range of lines lies on a line of the whole. -/
theorem LiesOn.of_range {ls : List Text} {first stop : Nat} {t : Text} {offset i : Nat}
    (h : LiesOn ((ls.take stop).drop first) 0 t offset i) :
    first + i < stop ∧ LiesOn ls first t offset (first + i) := by
  obtain ⟨line, part, hline, hpart, htake⟩ := h
  rw [List.getElem?_drop, List.getElem?_take] at hline
  obtain ⟨hlt, hline⟩ := Option.ite_none_right_eq_some.mp hline
  refine ⟨hlt, line, part, hline, hpart, ?_⟩
  rw [htake, List.drop_zero, List.take_drop, List.take_take, Nat.min_eq_left (Nat.le_of_lt hlt)]

end Text

/-- Every offset lies on a line of the chunk, and this is the line that is told of it. -/
theorem Chunk.Quotes.lineOf {c : EnrichedChunk} {t : Text} (h : c.base.Quotes (Text.lines t)) (offset : Nat) :
    ∃ line : Nat, (IndexEntry.ofChunk c).lineOf offset = line ∧ c.base.first ≤ line ∧
      line ≤ c.base.last ∧ Text.LiesOn (Text.lines t) c.base.first.toNat c.content offset line := by
  obtain ⟨⟨h0, h1, h2⟩, hcontent⟩ := h
  have hcontent : c.content = Text.ofLines (((Text.lines t).take (c.base.last.toNat + 1)).drop c.base.first.toNat) :=
    hcontent
  have hne : ((Text.lines t).take (c.base.last.toNat + 1)).drop c.base.first.toNat ≠ [] := by
    rw [← List.length_pos_iff, List.length_drop, List.length_take]
    omega
  have hclean : ∀ l ∈ ((Text.lines t).take (c.base.last.toNat + 1)).drop c.base.first.toNat, '\n' ∉ l :=
    fun l hl => Text.not_mem_of_mem_split (List.mem_of_mem_take (List.mem_of_mem_drop hl))
  obtain ⟨hlt, hlies⟩ := (Text.liesOn_count hne hclean offset).of_range
  rw [← hcontent] at hlt hlies
  refine ⟨_, ?_, ?_, ?_, hlies⟩
  · show c.base.first + ((c.content.take offset).count '\n' : Int) = _
    omega
  · omega
  · omega

namespace Relation

/-! ### First mentions -/

/-- The offset is the first in the text where one of the names stands in the form. -/
structure Earliest (form : Text → Pattern) (names : List Text) (t : Text) (offset : Nat) : Prop where
  attained : ∃ s ∈ names, (form s).MatchesAt t offset
  least : ∀ s ∈ names, ∀ o, (form s).MatchesAt t o → offset ≤ o

/-- The first of the first matches is the first of all. -/
theorem earliest_firstOffset {form : Text → Pattern} {t : Text} {ms : List Mention} (hne : ms ≠ [])
    (h : ∀ m ∈ ms, ∃ a, m.found.head? = some a ∧ (form m.symbol).MatchesAt t a.start ∧
      ∀ o, (form m.symbol).MatchesAt t o → a.start ≤ o) :
    Earliest form (ms.map (·.symbol)) t (firstOffset ms) := by
  have hmem : ∀ m ∈ ms, ∀ a, m.found.head? = some a →
      a.start ∈ ms.filterMap fun m => m.found.head?.map (·.start) := by
    intro m hm a ha
    exact List.mem_filterMap.mpr ⟨m, hm, by rw [ha]; rfl⟩
  obtain ⟨offset, hoffset⟩ : ∃ offset, (ms.filterMap fun m => m.found.head?.map (·.start)).min? = some offset := by
    obtain ⟨m, hm⟩ := List.exists_mem_of_ne_nil ms hne
    obtain ⟨a, ha, _⟩ := h m hm
    exact Option.isSome_iff_exists.mp (List.isSome_min?_of_mem (hmem m hm a ha))
  obtain ⟨hin, hleast⟩ := List.min?_eq_some_iff.mp hoffset
  rw [firstOffset, hoffset, Option.getD_some]
  constructor
  · obtain ⟨m, hm, hstart⟩ := List.mem_filterMap.mp hin
    obtain ⟨a, ha, hmatch, _⟩ := h m hm
    rw [ha] at hstart
    obtain rfl := Option.some.inj hstart
    exact ⟨m.symbol, List.mem_map_of_mem hm, hmatch⟩
  · intro s hs o ho
    obtain ⟨m, hm, rfl⟩ := List.mem_map.mp hs
    obtain ⟨a, ha, _, hfirst⟩ := h m hm
    exact Nat.le_trans (hleast _ (hmem m hm a ha)) (hfirst o ho)

theorem exists_first_of_mem_hits {form : Text → Pattern} {cs : List EnrichedChunk} {c d : EnrichedChunk} {m : Mention}
    (h : m ∈ hits form cs c d) :
    ∃ a, m.found.head? = some a ∧ (form m.symbol).MatchesAt c.content a.start ∧
      ∀ o, (form m.symbol).MatchesAt c.content o → a.start ≤ o := by
  obtain ⟨s, _, hs⟩ := List.mem_filterMap.mp (List.mem_filter.mp h).1
  obtain ⟨hsome, heq⟩ := Option.ite_none_left_eq_some.mp hs
  obtain rfl := Option.some.inj heq
  cases hhead : ((form s).scan c.content).head? with
  | none => exact absurd (List.isEmpty_iff.mpr (List.head?_eq_none_iff.mp hhead)) hsome
  | some a => exact ⟨a, hhead, Pattern.head?_scan_first hhead⟩

/-! ### Lines of relations -/

/-- The relation tells the line, and it is a line of the chunk. -/
structure TellsLine (c : EnrichedChunk) (r : Relation) (line : Nat) : Prop where
  told : r.evidence.line = some (line : Int)
  first_le : c.base.first ≤ line
  le_last : line ≤ c.base.last

/-- The relation leads to `d`, it describes the names of `d` that the text of `c` holds, and the first
place where one of them stands is on the line. -/
structure PointsAtFirst (form : Text → Pattern) (describe : List Text → EnrichedChunk → Text) (ls : List Text)
    (c d : EnrichedChunk) (r : Relation) (line : Nat) : Prop where
  target : r.target = d.id
  first : ∃ names offset, r.description = describe names d ∧
    (∀ s, s ∈ names ↔ s ∈ Names.identifiers c.content ∧ Holds form c d s) ∧
    Earliest form names c.content offset ∧ Text.LiesOn ls c.base.first.toNat c.content offset line

def describeCalls (names : List Text) (d : EnrichedChunk) : Text :=
  "Calls " ++ Text.join ", " names ++ " from " ++ d.path

def describeUses (names : List Text) (_ : EnrichedChunk) : Text := "Uses " ++ Text.join ", " names

/-- The relation tells a line of the chunk, for a call or a use that of the first mention. -/
structure PointsInto (cs : List EnrichedChunk) (ls : List Text) (c : EnrichedChunk) (r : Relation) (line : Nat) : Prop
    extends TellsLine c r line where
  calls : r.kind = .calls → ∃ d ∈ cs, PointsAtFirst Names.callOf describeCalls ls c d r line
  uses : r.kind = .uses → ∃ d ∈ cs, PointsAtFirst Names.useOf describeUses ls c d r line

section

variable {cs : List EnrichedChunk} {c : EnrichedChunk} {t : Text} (hquotes : c.base.Quotes (Text.lines t))
include hquotes

theorem pointsAtFirst_of_mem {form : Text → Pattern} {kind : RelationKind}
    (relation : IndexEntry → List Mention → Relation) (describe : List Text → EnrichedChunk → Text)
    (hkind : ∀ q ms, (relation q ms).kind = kind) (htarget : ∀ q ms, (relation q ms).target = q.chunk.id)
    (hdescribe : ∀ d ms, (relation (.ofChunk d) ms).description = describe (ms.map (·.symbol)) d)
    (hline : ∀ q ms, (relation q ms).evidence.line = some ((IndexEntry.ofChunk c).lineOf (firstOffset ms)))
    {place : Nat} {r : Relation} (hr : r ∈ byMentions form relation (.ofChunks cs) place (.ofChunk c)) :
    r.kind = kind ∧ ∃ line, TellsLine c r line ∧ ∃ d ∈ cs, PointsAtFirst form describe (Text.lines t) c d r line := by
  rw [byMentions_ofChunks] at hr
  obtain ⟨⟨d, j⟩, hmem, hr⟩ := List.mem_filterMap.mp hr
  obtain ⟨hne, heq⟩ := Option.ite_none_left_eq_some.mp hr
  obtain rfl := Option.some.inj heq
  have hd : d ∈ cs := List.mem_of_getElem? (List.mem_zipIdx_iff_getElem?.mp (List.mem_filter.mp hmem).1)
  obtain ⟨line, hlineOf, hfirst, hlast, hlies⟩ := hquotes.lineOf (firstOffset (hits form cs c d))
  refine ⟨hkind _ _, line, ⟨by rw [hline, hlineOf], hfirst, hlast⟩, d, hd, htarget _ _, ?_⟩
  exact ⟨_, _, hdescribe d _, mem_symbols_hits_iff hd, earliest_firstOffset hne fun _ => exists_first_of_mem_hits, hlies⟩

/-- A relation that tells the line of an offset points into the chunk, if it is no call and no use. -/
theorem pointsInto_of_lineOf {r : Relation} {offset : Nat}
    (hline : r.evidence.line = some ((IndexEntry.ofChunk c).lineOf offset)) (hcalls : r.kind ≠ .calls)
    (huses : r.kind ≠ .uses) : ∃ line, PointsInto cs (Text.lines t) c r line := by
  obtain ⟨line, hlineOf, hfirst, hlast, _⟩ := hquotes.lineOf offset
  refine ⟨line, ⟨by rw [hline, hlineOf], hfirst, hlast⟩, ?_, ?_⟩
  · exact fun h => absurd h hcalls
  · exact fun h => absurd h huses

theorem pointsInto_toBase (b : Names.Base) (q : IndexEntry) :
    ∃ line, PointsInto cs (Text.lines t) c (toBase (.ofChunk c) b q) line := by
  unfold toBase
  dsimp only
  split
  · exact pointsInto_of_lineOf hquotes rfl nofun nofun
  · exact pointsInto_of_lineOf hquotes rfl nofun nofun

end

end Relation

namespace RelationAnalysis

/-- The passes that take their evidence from the text. -/
def textual : List RelationPass := [.imports, .calls, .inheritance, .usage]

theorem mem_textual_of_kind {pass : RelationPass} {m : RelationKind × Direction × Origin}
    (hm : m ∈ Relation.marks pass)
    (hkind : m.1 ∈ [RelationKind.imports, .calls, .extends_, .implements, .uses]) : pass ∈ textual := by
  revert m
  cases pass <;> decide

variable {s : RelationSettings} {cs : List EnrichedChunk} {place : Nat} {c : EnrichedChunk} {t : Text}

/-- What a pass reads off the text points into it. -/
theorem pointsInto_of_mem_found (hquotes : c.base.Quotes (Text.lines t)) {pass : RelationPass}
    (hpass : pass ∈ textual) {rs : List Relation} (h : found s (.ofChunks cs) place (.ofChunk c) pass = .ok rs)
    {r : Relation} (hr : r ∈ rs) : ∃ line, Relation.PointsInto cs (Text.lines t) c r line := by
  cases pass with
  | imports =>
    obtain ⟨gs, hgs, heq⟩ := exists_of_bind_eq_ok h
    obtain rfl := Except.ok.inj heq
    obtain ⟨g, hg, hr⟩ := List.mem_flatten.mp hr
    obtain ⟨importPath, _, hg⟩ := exists_of_mem_right (mapM_eq_ok_iff.mp hgs) hg
    obtain ⟨d, _, _, rfl⟩ := exists_importOf_of_mem hg hr
    exact Relation.pointsInto_of_lineOf hquotes rfl nofun nofun
  | calls =>
    obtain rfl := Except.ok.inj h
    obtain ⟨hkind, line, htells, hfirst⟩ := Relation.pointsAtFirst_of_mem hquotes (Relation.callTo (.ofChunk c))
      Relation.describeCalls (fun _ _ => rfl) (fun _ _ => rfl) (fun _ _ => rfl) (fun _ _ => rfl) hr
    refine ⟨line, htells, fun _ => hfirst, ?_⟩
    rw [hkind]
    exact nofun
  | inheritance =>
    obtain rfl := Except.ok.inj h
    obtain ⟨b, _, hr⟩ := List.mem_flatMap.mp hr
    obtain ⟨q, _, rfl⟩ := List.mem_map.mp hr
    exact Relation.pointsInto_toBase hquotes b q.1
  | usage =>
    obtain rfl := Except.ok.inj h
    obtain ⟨hkind, line, htells, hfirst⟩ := Relation.pointsAtFirst_of_mem hquotes (Relation.useOf (.ofChunk c))
      Relation.describeUses (fun _ _ => rfl) (fun _ _ => rfl) (fun _ _ => rfl) (fun _ _ => rfl) hr
    refine ⟨line, htells, ?_, fun _ => hfirst⟩
    rw [hkind]
    exact nofun
  | tests => exact absurd hpass (by decide)
  | similarity => exact absurd hpass (by decide)

/-- The relations that imports, calls, bases and uses give tell lines of the chunk, if it quotes lines of a
file; and the line of a call or a use is the line of the file where the first of its names stands in
the form. So do those of them that an analysis keeps. -/
theorem evidence_pointsInto (s : RelationSettings) (hc : cs[place]? = some c)
    (hquotes : c.base.Quotes (Text.lines t)) :
    (∀ pass ∈ textual, ∀ rs, found s (.ofChunks cs) place (.ofChunk c) pass = .ok rs → ∀ r ∈ rs,
      r.kind ∈ (Relation.marks pass).map (·.1) ∧ ∃ line, Relation.PointsInto cs (Text.lines t) c r line) ∧
      ∀ all, analyse s cs = .ok all → ∀ rs, all[place]? = some rs → ∀ r ∈ rs,
        r.kind ∈ [RelationKind.imports, .calls, .extends_, .implements, .uses] →
          ∃ line, Relation.PointsInto cs (Text.lines t) c r line := by
  constructor
  · intro pass hpass rs h r hr
    refine ⟨?_, pointsInto_of_mem_found hquotes hpass h hr⟩
    rw [found_eq_groups] at h
    obtain ⟨gs, hgs, heq⟩ := exists_of_bind_eq_ok h
    obtain rfl := Except.ok.inj heq
    obtain ⟨_, _, _, _, hmade⟩ := made_of_mem_groups hc hgs hr
    exact List.mem_map_of_mem hmade.marked
  · intro all h rs hrs r hr hkind
    obtain ⟨c', gs, hc', rfl, hgroups⟩ := exists_groups_of_analyse h hrs
    obtain rfl := Option.some.inj (hc.symm.trans hc')
    obtain ⟨⟨g, hg, hr⟩, _⟩ := mem_kept hr
    obtain ⟨pass, _, hg⟩ := exists_of_mem_right hgroups hg
    obtain ⟨_, _, _, _, hmade⟩ := made_of_mem_groups hc hg hr
    have hfound : found s (.ofChunks cs) place (.ofChunk c) pass = .ok g.flatten := by
      rw [found_eq_groups, hg]
      rfl
    exact pointsInto_of_mem_found hquotes (mem_textual_of_kind hmade.marked hkind) hfound hr

/-- A text that uses one name and calls another on the line behind. -/
def callingText : Text := "let k = 0\nlet run = () =>\n  [h,\n    f (f(k))]"

/-- A chunk that quotes the text from its second line on, and one that declares the names. -/
def quoters : List EnrichedChunk :=
  [{ base := ⟨"a", "let run = () =>\n  [h,\n    f (f(k))]", "a.js", 1, 3, "s", .javascript, ["run"], [], none, none⟩
     facets := { language := .javascript } },
   { base := ⟨"b", "let f = x => x, h = 2", "b.js", 0, 0, "s", .javascript, ["f", "h"], [], none, none⟩
     facets := { language := .javascript } }]

theorem evidence_pointsInto_quoters :
    quoters[0]? = some quoters[0] ∧ quoters[0].base.Quotes (Text.lines callingText) ∧
      (Relation.calls (.ofChunks quoters) 0 (.ofChunk quoters[0])).map (fun r => (r.kind, r.evidence.line)) =
        [(.calls, some 3)] ∧
      (Relation.uses (.ofChunks quoters) 0 (.ofChunk quoters[0])).map (fun r => (r.kind, r.evidence.line)) =
        [(.uses, some 2)] ∧
      (∀ r ∈ Relation.calls (.ofChunks quoters) 0 (.ofChunk quoters[0]),
        ∃ line, Relation.PointsInto quoters (Text.lines callingText) quoters[0] r line) ∧
      ∀ r ∈ Relation.uses (.ofChunks quoters) 0 (.ofChunk quoters[0]),
        ∃ line, Relation.PointsInto quoters (Text.lines callingText) quoters[0] r line := by
  have hquotes : quoters[0].base.Quotes (Text.lines callingText) := ⟨⟨by decide, by decide, by decide⟩, by decide⟩
  have hreferenced : (ChunkIndex.ofChunks quoters).referenced (.ofChunk quoters[0]) = ["f", "h"] := by
    have hnames : ((ChunkIndex.ofChunks quoters).declared.filter fun s =>
        (IndexEntry.ofChunk quoters[0]).identifiers.contains s && !(IndexEntry.ofChunk quoters[0]).symbols.contains s) =
          ["f", "h"] := by decide +kernel
    rw [ChunkIndex.referenced, hnames]
    exact List.mergeSort_of_pairwise (by decide)
  have hcalls : (Relation.calls (.ofChunks quoters) 0 (.ofChunk quoters[0])).map (fun r => (r.kind, r.evidence.line)) =
      [(.calls, some 3)] := by
    rw [Relation.calls, Relation.byMentions_eq, hreferenced]
    decide +kernel
  have huses : (Relation.uses (.ofChunks quoters) 0 (.ofChunk quoters[0])).map (fun r => (r.kind, r.evidence.line)) =
      [(.uses, some 2)] := by
    rw [Relation.uses, Relation.byMentions_eq, hreferenced]
    decide +kernel
  have hplace : quoters[0]? = some quoters[0] := rfl
  obtain ⟨hfound, _⟩ := evidence_pointsInto {} hplace hquotes
  refine ⟨hplace, hquotes, hcalls, huses, ?_, ?_⟩
  · exact fun r hr => (hfound .calls (by decide) _ rfl r hr).2
  · exact fun r hr => (hfound .usage (by decide) _ rfl r hr).2

end RelationAnalysis

end SourceChunks
