import SourceChunks.Proofs.BatchGraph
import SourceChunks.Proofs.Mentions
import SourceChunks.Proofs.SharedContext

/-! Relations seen from both ends. A pass that has one rule for a chunk gives exactly what this rule says of each other
chunk, because no other pass gives relations of the same kind. So whether two chunks lead to each other is a
question about two rules. The rule of similarity treats both chunks alike, and the two rules of tests do not: a test
passes over the names that it declares itself, and the chunk that is tested does not know of them. -/

namespace SourceChunks

/-! ### Passes with one rule -/

/-- The kind of a relation tells which pass it comes from. -/
theorem Relation.pass_eq_of_kind {p q : RelationPass} {m n : RelationKind × Direction × Origin}
    (hm : m ∈ Relation.marks p) (hn : n ∈ Relation.marks q) (h : m.1 = n.1) : p = q := by
  have hpass : ∀ p : RelationPass, p ∈ RelationPass.all := by
    intro p
    cases p <;> decide
  have hall : ∀ p ∈ RelationPass.all, ∀ q ∈ RelationPass.all, ∀ m ∈ Relation.marks p, ∀ n ∈ Relation.marks q,
      m.1 = n.1 → p = q := by decide
  exact hall p (hpass p) q (hpass q) m hm n hn h

theorem Relation.key_eq_key_iff {r q : Relation} :
    r.key = q.key ↔ r.kind = q.kind ∧ r.target = q.target ∧ r.direction = q.direction := by
  simp [Relation.key]

namespace RelationAnalysis

section

variable {s : RelationSettings} {cs : List EnrichedChunk} {i j : Nat} {c d : EnrichedChunk}

theorem mem_passes {pass : RelationPass} : pass ∈ passes s ↔ s.enabled pass = true := by
  rw [passes, List.mem_filter]
  cases pass <;> simp [RelationPass.all]

theorem ofChunk_mem_peers (hd : cs[j]? = some d) (hne : j ≠ i) :
    .ofChunk d ∈ (ChunkIndex.ofChunks cs).peers i := by
  refine List.mem_eraseIdx_iff_getElem?.mpr ⟨j, hne, ?_⟩
  rw [ChunkIndex.ofChunks, List.getElem?_map, hd]
  rfl

/-- Among chunks with distinct identities the target of a relation tells the chunk. -/
theorem eq_ofChunk_of_mem_peers (hids : (cs.map (·.id)).Nodup) {q : IndexEntry}
    (hq : q ∈ (ChunkIndex.ofChunks cs).peers i) (hd : cs[j]? = some d) (hid : q.chunk.id = d.id) :
    j ≠ i ∧ q = .ofChunk d := by
  obtain ⟨k, hne, hk⟩ := List.mem_eraseIdx_iff_getElem?.mp hq
  rw [ChunkIndex.ofChunks, List.getElem?_map] at hk
  obtain ⟨b, hb, rfl⟩ := Option.map_eq_some_iff.mp hk
  obtain rfl := place_eq_of_nodup_map hids hb hd hid
  obtain rfl := Option.some.inj (hb.symm.trans hd)
  exact ⟨hne, rfl⟩

theorem key_mem_kept {gs : List (List (List Relation))} {g : List (List Relation)} (hg : g ∈ gs) {r : Relation}
    (hr : r ∈ g.flatten) (hconfident : ¬ r.evidence.confidence.toFloat < s.minConfidence) :
    r.key ∈ (kept s gs).map Relation.key := by
  rw [kept, Relation.distinctKeys_eq_foldl, mem_keys_foldl_addByKey, ← List.filter_flatten, List.flatten_flatten]
  refine .inr (List.mem_map_of_mem (List.mem_filter.mpr ⟨?_, by simpa using hconfident⟩))
  exact List.mem_flatten.mpr ⟨g.flatten, List.mem_map_of_mem hg, hr⟩

variable {found : List (List Relation)} {rs : List Relation} {pass : RelationPass} {rule : Relation.Rule}

theorem groups_of_rule {index : ChunkIndex} {e : IndexEntry}
    (hrule : Relation.rules s (index.referenced e) e pass = [rule]) :
    groups s index i e pass = .ok [(index.peers i).filterMap rule] := by
  have hpass : pass ≠ .imports := by
    rintro rfl
    cases hrule
  rw [groups_of_ne _ _ _ _ hpass, Relation.ruleGroups, hrule, List.map_singleton]

variable (hids : (cs.map (·.id)).Nodup) (h : analyse s cs = .ok found) (hc : cs[i]? = some c) (hd : cs[j]? = some d)
  (hrs : found[i]? = some rs)
  (hrule : Relation.rules s ((ChunkIndex.ofChunks cs).referenced (.ofChunk c)) (.ofChunk c) pass = [rule])
include hids h hc hd hrs hrule

/-- A relation of a kind that a pass with one rule gives is what the rule says of its target. -/
theorem rule_of_mem {r : Relation} (hr : r ∈ rs) (hkind : ∃ m ∈ Relation.marks pass, m.1 = r.kind)
    (htarget : r.target = d.id) :
    s.enabled pass = true ∧ j ≠ i ∧ rule (.ofChunk d) = some r ∧
      ¬ r.evidence.confidence.toFloat < s.minConfidence := by
  obtain ⟨c', gs, hc', rfl, hgroups⟩ := exists_groups_of_analyse h hrs
  obtain rfl := Option.some.inj (hc.symm.trans hc')
  obtain ⟨⟨g, hg, hr⟩, hconfident⟩ := mem_kept hr
  obtain ⟨pass', hpass', hg⟩ := exists_of_mem_right hgroups hg
  obtain ⟨_, _, _, _, hmade⟩ := made_of_mem_groups hc hg hr
  obtain ⟨m, hm, hmkind⟩ := hkind
  obtain rfl := Relation.pass_eq_of_kind hmade.marked hm hmkind.symm
  rw [groups_of_rule hrule] at hg
  obtain rfl := Except.ok.inj hg
  rw [List.flatten_singleton] at hr
  obtain ⟨q, hq, hsome⟩ := List.mem_filterMap.mp hr
  have hq' := (Relation.made_of_rule (hrule ▸ List.mem_singleton_self rule) hsome).target
  obtain ⟨hne, rfl⟩ := eq_ofChunk_of_mem_peers hids hq hd (hq'.symm.trans htarget)
  exact ⟨mem_passes.mp hpass', hne, hsome, hconfident⟩

/-- What the one rule of a pass says of another chunk is among the relations unless it is too uncertain. -/
theorem mem_of_rule (henabled : s.enabled pass = true) (hne : j ≠ i) {r : Relation} (hsome : rule (.ofChunk d) = some r)
    (hconfident : ¬ r.evidence.confidence.toFloat < s.minConfidence) : r ∈ rs := by
  have hmade := Relation.made_of_rule (hrule ▸ List.mem_singleton_self rule) hsome
  obtain ⟨c', gs, hc', rfl, hgroups⟩ := exists_groups_of_analyse h hrs
  obtain rfl := Option.some.inj (hc.symm.trans hc')
  obtain ⟨g, hg, hgroup⟩ := exists_of_mem_right hgroups.flip (mem_passes.mpr henabled)
  have hmem : r ∈ g.flatten := by
    rw [groups_of_rule hrule] at hgroup
    rw [← Except.ok.inj hgroup, List.flatten_singleton]
    exact List.mem_filterMap.mpr ⟨_, ofChunk_mem_peers hd hne, hsome⟩
  -- the relation that is kept for the key comes from the same rule, and so it is the same one
  obtain ⟨q, hq, hkey⟩ := List.mem_map.mp (key_mem_kept hg hmem hconfident)
  obtain ⟨hkind, htarget, _⟩ := Relation.key_eq_key_iff.mp hkey
  have hsame := (rule_of_mem hids h hc hd hrs hrule hq ⟨_, hmade.marked, hkind.symm⟩
    (htarget.trans hmade.target)).2.2.1
  rw [hsome] at hsame
  rwa [Option.some.inj hsame]

/-- Where the rule says `r` of a chunk under a condition, the relations have the key of `r` under the same one. -/
theorem key_mem_iff {r : Relation} (hmade : Relation.Made pass (.ofChunk d) r) {p : Prop} [Decidable p]
    (hgives : rule (.ofChunk d) = if p then some r else none) :
    r.key ∈ rs.map Relation.key ↔
      s.enabled pass = true ∧ j ≠ i ∧ p ∧ ¬ r.evidence.confidence.toFloat < s.minConfidence := by
  constructor
  · intro hkey
    obtain ⟨q, hq, hkey⟩ := List.mem_map.mp hkey
    obtain ⟨hkind, htarget, _⟩ := Relation.key_eq_key_iff.mp hkey
    obtain ⟨henabled, hne, hsome, hconfident⟩ :=
      rule_of_mem hids h hc hd hrs hrule hq ⟨_, hmade.marked, hkind.symm⟩ (htarget.trans hmade.target)
    obtain ⟨hp, heq⟩ := Option.ite_none_right_eq_some.mp (hgives.symm.trans hsome)
    rw [← Option.some.inj heq] at hconfident
    exact ⟨henabled, hne, hp, hconfident⟩
  · rintro ⟨henabled, hne, hp, hconfident⟩
    have hsome := hgives.trans (if_pos hp)
    exact List.mem_map_of_mem (mem_of_rule hids h hc hd hrs hrule henabled hne hsome hconfident)

end

/-! ### Tests -/

/-- The names of the second chunk that the text of the first one mentions. -/
def mentionedNames (t c : EnrichedChunk) : List Text := c.symbols.filter (Names.identifiers t.content).contains

theorem mem_mentionedNames {t c : EnrichedChunk} {name : Text} :
    name ∈ mentionedNames t c ↔ name ∈ c.symbols ∧ name ∈ Names.identifiers t.content := by
  rw [mentionedNames, List.mem_filter, List.contains_iff_mem]

/-- The confidence in tests is left as it is by rounding. -/
theorem roundTo_confidence_tests : roundTo 4 (clampUnit 0.7) = 0.7 := by
  have hmodel : ∀ {x y : Float}, x.toModel = y.toModel → x = y := fun h => congrArg Float.ofModel h
  exact hmodel (by decide +kernel)

theorem confident_of_tests {minConfidence : Float} (h : minConfidence ≤ 0.7) {r : Relation}
    (hr : r.evidence.confidence = .real (roundTo 4 (clampUnit 0.7))) :
    ¬ r.evidence.confidence.toFloat < minConfidence := by
  rw [hr, roundTo_confidence_tests]
  exact fun hlt => Double.not_le_of_lt hlt h

section

variable {s : RelationSettings} {cs : List EnrichedChunk} {found : List (List Relation)} {i j : Nat}
  {t c : EnrichedChunk} {rs qs : List Relation} (henabled : s.enabled .tests = true) (hmin : s.minConfidence ≤ 0.7)
  (hids : (cs.map (·.id)).Nodup) (h : analyse s cs = .ok found) (ht : cs[i]? = some t) (hc : cs[j]? = some c)
  (htest : (IndexEntry.ofChunk t).isTest = true) (hplain : (IndexEntry.ofChunk c).isTest = false)

include htest hplain ht hc in
theorem place_ne_of_isTest : i ≠ j := by
  rintro rfl
  obtain rfl := Option.some.inj (ht.symm.trans hc)
  rw [htest] at hplain
  cases hplain

include hc in
/-- The names that a test looks for in a chunk. -/
theorem any_referenced_iff :
    (c.symbols.any ((ChunkIndex.ofChunks cs).referenced (.ofChunk t)).contains = true) ↔
      ∃ name ∈ mentionedNames t c, name ∉ t.symbols := by
  have hdeclared : ∀ name ∈ c.symbols, name ∈ (ChunkIndex.ofChunks cs).declared := fun name hname =>
    mem_distinct.mpr (List.mem_flatMap.mpr ⟨c, List.mem_of_getElem? hc, hname⟩)
  simp only [List.any_eq_true, List.contains_iff_mem, ChunkIndex.mem_referenced, mem_mentionedNames]
  constructor
  · rintro ⟨name, hname, _, hmentioned, hnew⟩
    exact ⟨name, ⟨hname, hmentioned⟩, hnew⟩
  · rintro ⟨name, ⟨hname, hmentioned⟩, hnew⟩
    exact ⟨name, hname, hdeclared name hname, hmentioned, hnew⟩

include henabled hmin hids h ht hc htest hplain

/-- A test leads to the chunks with a name that it mentions and does not declare. -/
theorem outgoing_tests_iff (hrs : found[i]? = some rs) :
    (.tests, c.id, .outgoing) ∈ rs.map Relation.key ↔ ∃ name ∈ mentionedNames t c, name ∉ t.symbols := by
  have hrule : Relation.rules s ((ChunkIndex.ofChunks cs).referenced (.ofChunk t)) (.ofChunk t) .tests =
      [Relation.testTargetRule ((ChunkIndex.ofChunks cs).referenced (.ofChunk t))] := by
    rw [Relation.rules, if_pos htest]
  have hgives : Relation.testTargetRule ((ChunkIndex.ofChunks cs).referenced (.ofChunk t)) (.ofChunk c) =
      if c.symbols.any ((ChunkIndex.ofChunks cs).referenced (.ofChunk t)).contains then
        some (Relation.testOf (.ofChunk c)) else none := by
    rw [Relation.testTargetRule, hplain]
    rfl
  have hkey := key_mem_iff hids h ht hc hrs hrule ⟨rfl, List.mem_cons_self⟩ hgives
  have hne := place_ne_of_isTest ht hc htest hplain
  rw [← any_referenced_iff hc]
  exact hkey.trans ⟨fun hall => hall.2.2.1, fun hany => ⟨henabled, hne.symm, hany, confident_of_tests hmin rfl⟩⟩

/-- A chunk leads to the tests that mention one of its names. -/
theorem incoming_tests_iff (hqs : found[j]? = some qs) :
    (.tests, t.id, .incoming) ∈ qs.map Relation.key ↔ mentionedNames t c ≠ [] := by
  have hrule : Relation.rules s ((ChunkIndex.ofChunks cs).referenced (.ofChunk c)) (.ofChunk c) .tests =
      [Relation.testSourceRule (.ofChunk c)] := by
    rw [Relation.rules, if_neg (by simp [hplain])]
  have hgives : Relation.testSourceRule (.ofChunk c) (.ofChunk t) =
      if (IndexEntry.ofChunk t).mentions (.ofChunk c) then some (Relation.testedBy (.ofChunk t)) else none := by
    rw [Relation.testSourceRule, htest]
    rfl
  have hkey := key_mem_iff hids h hc ht hqs hrule ⟨rfl, List.mem_cons_of_mem _ List.mem_cons_self⟩ hgives
  have hne := place_ne_of_isTest ht hc htest hplain
  have hmentions : (IndexEntry.ofChunk t).mentions (.ofChunk c) = true ↔ mentionedNames t c ≠ [] := by
    rw [mentionedNames, Ne, List.filter_eq_nil_iff]
    simp [IndexEntry.mentions, IndexEntry.ofChunk]
  rw [← hmentions]
  exact hkey.trans ⟨fun hall => hall.2.2.1, fun hany => ⟨henabled, hne, hany, confident_of_tests hmin rfl⟩⟩

end

/-- A test and another chunk: which of the two leads to the other, given their relations. -/
structure TestLinks (t c : EnrichedChunk) (rs qs : List Relation) : Prop where
  outgoing : (.tests, c.id, .outgoing) ∈ rs.map Relation.key ↔ ∃ name ∈ mentionedNames t c, name ∉ t.symbols
  incoming : (.tests, t.id, .incoming) ∈ qs.map Relation.key ↔ mentionedNames t c ≠ []
  /-- Both lead to each other or none does, unless all names that the test mentions are names of its own too. -/
  mutual_iff : ((.tests, c.id, .outgoing) ∈ rs.map Relation.key ↔ (.tests, t.id, .incoming) ∈ qs.map Relation.key) ↔
    (mentionedNames t c = [] ∨ ∃ name ∈ mentionedNames t c, name ∉ t.symbols)

/-- Tests and the chunks that they test lead to each other up to names that both declare. -/
theorem analyse_testLinks {s : RelationSettings} (henabled : s.enabled .tests = true) (hmin : s.minConfidence ≤ 0.7)
    {cs : List EnrichedChunk} (hids : (cs.map (·.id)).Nodup) {found : List (List Relation)}
    (h : analyse s cs = .ok found) {i j : Nat} {t c : EnrichedChunk} (ht : cs[i]? = some t) (hc : cs[j]? = some c)
    (htest : (IndexEntry.ofChunk t).isTest = true) (hplain : (IndexEntry.ofChunk c).isTest = false)
    {rs qs : List Relation} (hrs : found[i]? = some rs) (hqs : found[j]? = some qs) : TestLinks t c rs qs := by
  have hout := outgoing_tests_iff henabled hmin hids h ht hc htest hplain hrs
  have hin := incoming_tests_iff henabled hmin hids h ht hc htest hplain hqs
  refine ⟨hout, hin, ?_⟩
  rw [hout, hin]
  constructor
  · intro hiff
    by_cases hnil : mentionedNames t c = []
    · exact .inl hnil
    · exact .inr (hiff.mpr hnil)
  · rintro (hnil | hnew)
    · simp [hnil]
    · have hne : mentionedNames t c ≠ [] := by
        obtain ⟨name, hname, _⟩ := hnew
        exact List.ne_nil_of_mem hname
      exact ⟨fun _ => hne, fun _ => hnew⟩

/-- A test that declares one of the names that it tests, and two chunks with a name each. -/
def shadowing : List EnrichedChunk :=
  [{ base := ⟨"t", "const add = x => math.add(x);\nexpect(add(1)).toBe(sub(2));", "tests/math.test.js", 0, 1,
       "s", .javascript, ["add"], [], none, none⟩
     facets := { language := .javascript } },
   { base := ⟨"a", "function add(x) \x7b\x7d", "src/math.js", 0, 0, "s", .javascript, ["add"], [], none, none⟩
     facets := { language := .javascript } },
   { base := ⟨"b", "function sub(x) \x7b\x7d", "src/math.js", 1, 1, "s", .javascript, ["sub"], [], none, none⟩
     facets := { language := .javascript } }]

theorem named_shadowing : ∀ c ∈ shadowing, Named c.path := by
  simp only [shadowing, List.forall_mem_cons, List.not_mem_nil, false_implies, implies_true, and_true, Named]
  decide

/-- Only tests are looked for. -/
def testsOnly : RelationSettings := { enabled := fun pass => pass = .tests }

/-- The test and the chunk with the other name lead to each other. -/
theorem analyse_testLinks_shadowing : ∃ found rs qs t c, analyse testsOnly shadowing = .ok found ∧
    shadowing[0]? = some t ∧ shadowing[2]? = some c ∧ found[0]? = some rs ∧ found[2]? = some qs ∧
    TestLinks t c rs qs ∧ mentionedNames t c = ["sub"] ∧ t.symbols = ["add"] := by
  have hids : (shadowing.map (·.id)).Nodup := by decide
  obtain ⟨found, hfound⟩ := exists_analyse_of_named testsOnly named_shadowing
  obtain ⟨rs, hrs, _⟩ := relationsAt_of_analyse hfound (i := 0) rfl
  obtain ⟨qs, hqs, _⟩ := relationsAt_of_analyse hfound (i := 2) rfl
  refine ⟨found, rs, qs, _, _, hfound, rfl, rfl, hrs, hqs, ?_, by decide +kernel, rfl⟩
  exact analyse_testLinks (by decide) (by decide +kernel) hids hfound rfl rfl (by decide +kernel) (by decide +kernel)
    hrs hqs

/-- The chunk whose name the test declares too leads to the test, and the test does not lead to it. -/
theorem analyse_shadowing_oneWay :
    (analyse testsOnly shadowing).map (fun found => found.map fun rs => rs.map Relation.key) =
      .ok [[(.tests, "b", .outgoing)], [(.tests, "t", .incoming)], [(.tests, "t", .incoming)]] := by
  decide +kernel

end RelationAnalysis

/-! ### Similarity -/

namespace Relation

/-- Two sets have the same members in common whichever comes first. -/
theorem countP_contains_comm {xs ys : List Text} (hxs : xs.Nodup) (hys : ys.Nodup) :
    xs.countP ys.contains = ys.countP xs.contains := by
  have hperm : (xs.filter ys.contains).Perm (ys.filter xs.contains) := by
    rw [List.perm_ext_iff_of_nodup (hxs.filter _) (hys.filter _)]
    intro x
    simp only [List.mem_filter, List.contains_iff_mem]
    exact and_comm
  rw [List.countP_eq_length_filter, List.countP_eq_length_filter, hperm.length_eq]

theorem jaccard_comm (as bs : List Text) : jaccard as bs = jaccard bs as := by
  unfold jaccard
  dsimp only
  rw [countP_contains_comm (nodup_distinct as) (nodup_distinct bs), Nat.add_comm (distinct as).length]

theorem similarity_comm (a b : IndexEntry) : similarity a b = similarity b a := by
  unfold similarity
  dsimp only
  rw [jaccard_comm a.symbols, jaccard_comm a.words]
  simp only [eq_comm]

/-- The relation to a chunk that is similar. -/
def similarTo (e q : IndexEntry) : Relation :=
  .make .similarTo q.chunk.id (similarity e q) ("Similar to " ++ q.chunk.id) .bidirectional (similarity e q) .semantic
    none none

/-- How similar the chunks are is what both ends say. -/
theorem strength_similarTo (e q : IndexEntry) : (similarTo e q).strength = (similarTo q e).strength := by
  dsimp only [similarTo, make]
  rw [similarity_comm]

theorem confidence_similarTo (e q : IndexEntry) :
    (similarTo e q).evidence.confidence = (similarTo q e).evidence.confidence := by
  dsimp only [similarTo, make]
  rw [similarity_comm]

end Relation

namespace RelationAnalysis

/-- What has to hold for two chunks at different places to be called similar. -/
structure Similar (s : RelationSettings) (a b : EnrichedChunk) : Prop where
  enabled : s.enabled .similarity = true
  above : s.similarityLimit < Relation.similarity (.ofChunk a) (.ofChunk b)
  confident : ¬ (Relation.similarTo (.ofChunk a) (.ofChunk b)).evidence.confidence.toFloat < s.minConfidence

theorem Similar.symm {s : RelationSettings} {a b : EnrichedChunk} (h : Similar s a b) : Similar s b a := by
  obtain ⟨henabled, habove, hconfident⟩ := h
  rw [Relation.similarity_comm] at habove
  rw [Relation.confidence_similarTo] at hconfident
  exact ⟨henabled, habove, hconfident⟩

theorem mem_similar_iff {s : RelationSettings} {cs : List EnrichedChunk} (hids : (cs.map (·.id)).Nodup)
    {found : List (List Relation)} (h : analyse s cs = .ok found) {i j : Nat} {a b : EnrichedChunk}
    (ha : cs[i]? = some a) (hb : cs[j]? = some b) {rs : List Relation} (hrs : found[i]? = some rs) {r : Relation} :
    r ∈ rs ∧ r.kind = .similarTo ∧ r.target = b.id ↔
      j ≠ i ∧ Similar s a b ∧ r = Relation.similarTo (.ofChunk a) (.ofChunk b) := by
  have hrule : Relation.rules s ((ChunkIndex.ofChunks cs).referenced (.ofChunk a)) (.ofChunk a) .similarity =
      [Relation.similarRule s.similarityLimit (.ofChunk a)] := rfl
  have hgives : Relation.similarRule s.similarityLimit (.ofChunk a) (.ofChunk b) =
      if s.similarityLimit < Relation.similarity (.ofChunk a) (.ofChunk b) then
        some (Relation.similarTo (.ofChunk a) (.ofChunk b)) else none := rfl
  constructor
  · rintro ⟨hr, hkind, htarget⟩
    obtain ⟨henabled, hne, hsome, hconfident⟩ :=
      rule_of_mem hids h ha hb hrs hrule hr ⟨_, List.mem_cons_self, hkind.symm⟩ htarget
    obtain ⟨habove, heq⟩ := Option.ite_none_right_eq_some.mp (hgives.symm.trans hsome)
    obtain rfl := Option.some.inj heq
    exact ⟨hne, ⟨henabled, habove, hconfident⟩, rfl⟩
  · rintro ⟨hne, ⟨henabled, habove, hconfident⟩, rfl⟩
    have hsome := hgives.trans (if_pos habove)
    exact ⟨mem_of_rule hids h ha hb hrs hrule henabled hne hsome hconfident, rfl, rfl⟩

/-- Similarity is found at both ends or at none, and both ends tell the same strength and confidence. -/
theorem analyse_similar_mutual (s : RelationSettings) {cs : List EnrichedChunk} (hids : (cs.map (·.id)).Nodup)
    {found : List (List Relation)} (h : analyse s cs = .ok found) {i j : Nat} {a b : EnrichedChunk}
    (ha : cs[i]? = some a) (hb : cs[j]? = some b) {rs qs : List Relation} (hrs : found[i]? = some rs)
    (hqs : found[j]? = some qs) :
    ((∃ r ∈ rs, r.kind = .similarTo ∧ r.target = b.id) ↔ ∃ q ∈ qs, q.kind = .similarTo ∧ q.target = a.id) ∧
      (∀ r ∈ rs, ∀ q ∈ qs, r.kind = .similarTo → r.target = b.id → q.kind = .similarTo → q.target = a.id →
        r.strength = q.strength ∧ r.evidence.confidence = q.evidence.confidence) ∧
      ((∃ r ∈ rs, r.kind = .similarTo ∧ r.target = b.id) ↔ i ≠ j ∧ Similar s a b) := by
  have hleft : (∃ r ∈ rs, r.kind = .similarTo ∧ r.target = b.id) ↔ j ≠ i ∧ Similar s a b := by
    simp only [mem_similar_iff hids h ha hb hrs, exists_and_left, exists_eq, and_true]
  have hright : (∃ q ∈ qs, q.kind = .similarTo ∧ q.target = a.id) ↔ i ≠ j ∧ Similar s b a := by
    simp only [mem_similar_iff hids h hb ha hqs, exists_and_left, exists_eq, and_true]
  have hsymm : Similar s a b ↔ Similar s b a := ⟨Similar.symm, Similar.symm⟩
  refine ⟨?_, ?_, ?_⟩
  · rw [hleft, hright, hsymm, ne_comm]
  · intro r hr q hq hkind htarget hkind' htarget'
    obtain ⟨_, _, rfl⟩ := (mem_similar_iff hids h ha hb hrs).mp ⟨hr, hkind, htarget⟩
    obtain ⟨_, _, rfl⟩ := (mem_similar_iff hids h hb ha hqs).mp ⟨hq, hkind', htarget'⟩
    exact ⟨Relation.strength_similarTo _ _, Relation.confidence_similarTo _ _⟩
  · rw [hleft, ne_comm]

/-- The two functions have most of their words in common, and both say so. -/
theorem analyse_similar_shadowing : ∃ found rs qs a b, analyse { similarityLimit := 0.5 } shadowing = .ok found ∧
    shadowing[1]? = some a ∧ shadowing[2]? = some b ∧ found[1]? = some rs ∧ found[2]? = some qs ∧
    ∃ r ∈ rs, ∃ q ∈ qs, (r.kind = .similarTo ∧ r.target = b.id) ∧ (q.kind = .similarTo ∧ q.target = a.id) ∧
      r.strength = q.strength ∧ r.evidence.confidence = q.evidence.confidence := by
  have hids : (shadowing.map (·.id)).Nodup := by decide
  obtain ⟨found, hfound⟩ := exists_analyse_of_named { similarityLimit := 0.5 } named_shadowing
  obtain ⟨rs, hrs, _⟩ := relationsAt_of_analyse hfound (i := 1) rfl
  obtain ⟨qs, hqs, _⟩ := relationsAt_of_analyse hfound (i := 2) rfl
  obtain ⟨hiff, hsame, hexists⟩ := analyse_similar_mutual { similarityLimit := 0.5 } hids hfound rfl rfl hrs hqs
  obtain ⟨r, hr, hkind, htarget⟩ := hexists.mpr ⟨by decide, rfl, by decide +kernel, by decide +kernel⟩
  obtain ⟨q, hq, hkind', htarget'⟩ := hiff.mp ⟨r, hr, hkind, htarget⟩
  exact ⟨found, rs, qs, _, _, hfound, rfl, rfl, hrs, hqs, r, hr, q, hq, ⟨hkind, htarget⟩, ⟨hkind', htarget'⟩,
    hsame r hr q hq hkind htarget hkind' htarget'⟩

end RelationAnalysis

end SourceChunks
