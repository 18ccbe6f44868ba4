import Mathlib.Data.List.Basic
import SourceChunks.Relation.Analysis

/-! Passes as rules. All passes but that of the imports try rules on the other chunks of a batch, one rule
after the other. A rule looks at one other chunk and gives at most one relation, which leads to this
chunk and bears the marks of the pass; of the batch it knows nothing but the names that are
mentioned. -/

namespace SourceChunks

/-! ### Other chunks -/

namespace ChunkIndex

/-- The entries other than the one at a place. -/
def peers (index : ChunkIndex) (place : Nat) : List IndexEntry := index.entries.eraseIdx place

theorem filter_zipIdx_ne {α : Type} (xs : List α) (start k : Nat) :
    ((xs.zipIdx start).filter fun q => q.2 != start + k).map (·.1) = xs.eraseIdx k := by
  induction xs generalizing start k with
  | nil => rfl
  | cons x xs ih =>
    rw [List.zipIdx_cons]
    cases k with
    | zero =>
      have hrest : ((xs.zipIdx (start + 1)).filter fun q => q.2 != start) = xs.zipIdx (start + 1) := by
        rw [List.filter_eq_self]
        intro q hq
        have := List.le_snd_of_mem_zipIdx hq
        simp only [bne_iff_ne]
        omega
      rw [Nat.add_zero, List.filter_cons, if_neg (by simp), hrest, List.zipIdx_map_fst, List.eraseIdx_zero,
        List.tail_cons]
    | succ k =>
      have hne : (start != start + (k + 1)) = true := by simp
      rw [List.filter_cons, if_pos hne, List.map_cons, List.eraseIdx_cons_succ, ← ih (start + 1) k,
        Nat.add_assoc start 1 k, Nat.add_comm 1 k]

theorem others_map_fst (index : ChunkIndex) (place : Nat) :
    (index.others place).map (·.1) = index.peers place := by
  have h := filter_zipIdx_ne index.entries 0 place
  rwa [Nat.zero_add] at h

theorem filterMap_others {α : Type} (index : ChunkIndex) (place : Nat) (f : IndexEntry → Option α) :
    (index.others place).filterMap (fun q => f q.1) = (index.peers place).filterMap f := by
  rw [← others_map_fst, List.filterMap_map]
  rfl

/-- What is made of the other entries of a certain kind. -/
theorem map_filter_others {α : Type} (index : ChunkIndex) (place : Nat) (p : IndexEntry → Bool)
    (f : IndexEntry → α) :
    ((index.others place).filter fun q => p q.1).map (fun q => f q.1) =
      (index.peers place).filterMap fun q => if p q then some (f q) else none := by
  rw [← filterMap_others, ← List.filterMap_eq_map, List.filterMap_filter]
  rfl

end ChunkIndex

/-! ### Rules -/

namespace Relation

/-- A rule gives the relation to another chunk, if there is one. -/
abbrev Rule := IndexEntry → Option Relation

/-- The given names that the text holds in a certain form. -/
def mentionsAmong (names : List Text) (e : IndexEntry) (form : Text → Pattern) : List Mention :=
  names.filterMap fun s =>
    let found := (form s).scan e.chunk.content
    if found.isEmpty then none else some ⟨s, found⟩

/-- A relation to a chunk that declares one of the names the text holds in a certain form. -/
def mentionRule (form : Text → Pattern) (relation : IndexEntry → List Mention → Relation) (names : List Text)
    (e : IndexEntry) : Rule := fun q =>
  match mentionsOf (mentionsAmong names e form) q with
  | [] => none
  | hits => some (relation q hits)

/-- The rule gives nothing exactly if nothing is mentioned. -/
theorem mentionRule_eq (form : Text → Pattern) (relation : IndexEntry → List Mention → Relation)
    (names : List Text) (e q : IndexEntry) :
    mentionRule form relation names e q =
      if mentionsOf (mentionsAmong names e form) q = [] then none
      else some (relation q (mentionsOf (mentionsAmong names e form) q)) := by
  rw [mentionRule]
  cases mentionsOf (mentionsAmong names e form) q <;> rfl

theorem byMentions_eq (form : Text → Pattern) (relation : IndexEntry → List Mention → Relation)
    (index : ChunkIndex) (place : Nat) (e : IndexEntry) :
    byMentions form relation index place e =
      (index.peers place).filterMap (mentionRule form relation (index.referenced e) e) :=
  index.filterMap_others place (mentionRule form relation (index.referenced e) e)

def callTo (e target : IndexEntry) (ms : List Mention) : Relation :=
  .make .calls target.chunk.id (lesser 1.0 ((matchCount ms).toFloat * 0.2))
    ("Calls " ++ symbolList ms ++ " from " ++ target.chunk.path) .outgoing 0.8 .staticAnalysis
    (some (e.lineOf (firstOffset ms))) none

def useOf (e target : IndexEntry) (ms : List Mention) : Relation :=
  .make .uses target.chunk.id (lesser 0.8 ((matchCount ms).toFloat * 0.1)) ("Uses " ++ symbolList ms)
    .outgoing 0.7 .staticAnalysis (some (e.lineOf (firstOffset ms))) none

/-- The relation to a chunk that declares a base. -/
def baseRule (e : IndexEntry) (b : Names.Base) : Rule := fun q =>
  if q.symbols.contains b.name then some (toBase e b q) else none

def testOf (target : IndexEntry) : Relation :=
  .make .tests target.chunk.id 0.7 ("Tests " ++ Text.join ", " target.symbols) .outgoing 0.7 .heuristic none none

def testedBy (source : IndexEntry) : Relation :=
  .make .tests source.chunk.id 0.7 ("Tested by " ++ source.chunk.path) .incoming 0.7 .heuristic none none

/-- The relation of a test to a chunk that declares one of the names. -/
def testTargetRule (names : List Text) : Rule := fun q =>
  if !q.isTest && q.symbols.any names.contains then some (testOf q) else none

/-- The relation to a test that mentions the chunk. -/
def testSourceRule (e : IndexEntry) : Rule := fun q =>
  if q.isTest && q.mentions e then some (testedBy q) else none

/-- The relation to a similar chunk. -/
def similarRule (limit : Float) (e : IndexEntry) : Rule := fun q =>
  if limit < similarity e q then
    some (.make .similarTo q.chunk.id (similarity e q) ("Similar to " ++ q.chunk.id) .bidirectional
      (similarity e q) .semantic none none)
  else none

/-- The rules of a pass for one chunk, given the names of others that it mentions. -/
def rules (s : RelationSettings) (names : List Text) (e : IndexEntry) : RelationPass → List Rule
  | .imports => []
  | .calls => [mentionRule Names.callOf (callTo e) names e]
  | .inheritance => ((Names.bases e.chunk.content).filter fun b => !e.symbols.contains b.name).map (baseRule e)
  | .usage => [mentionRule Names.useOf (useOf e) names e]
  | .tests => [if e.isTest then testTargetRule names else testSourceRule e]
  | .similarity => [similarRule s.similarityLimit e]

/-- What the rules of a pass give for the other chunks, one list a rule. -/
def ruleGroups (s : RelationSettings) (index : ChunkIndex) (place : Nat) (e : IndexEntry) (pass : RelationPass) :
    List (List Relation) :=
  (rules s (index.referenced e) e pass).map fun rule => (index.peers place).filterMap rule

theorem inheritance_eq (s : RelationSettings) (index : ChunkIndex) (place : Nat) (e : IndexEntry) :
    inheritance index place e = (ruleGroups s index place e .inheritance).flatten := by
  rw [inheritance, ruleGroups, rules, List.map_map, List.flatMap]
  congr 2
  funext b
  exact index.map_filter_others place (fun q => q.symbols.contains b.name) (toBase e b)

theorem tests_eq (s : RelationSettings) (index : ChunkIndex) (place : Nat) (e : IndexEntry) :
    tests index place e = (ruleGroups s index place e .tests).flatten := by
  rw [tests, ruleGroups, rules, List.map_singleton, List.flatten_singleton]
  split
  · exact index.map_filter_others place (fun q => !q.isTest && q.symbols.any (index.referenced e).contains) testOf
  · exact index.map_filter_others place (fun q => q.isTest && q.mentions e) testedBy

/-- A pass other than that of the imports gives what its rules give. -/
theorem found_eq_rules (s : RelationSettings) (index : ChunkIndex) (place : Nat) (e : IndexEntry)
    {pass : RelationPass} (h : pass ≠ .imports) :
    RelationAnalysis.found s index place e pass = .ok (ruleGroups s index place e pass).flatten := by
  cases pass with
  | imports => exact absurd rfl h
  | calls =>
    rw [ruleGroups, rules, List.map_singleton, List.flatten_singleton, ← byMentions_eq]
    rfl
  | inheritance => exact congrArg Except.ok (inheritance_eq s index place e)
  | usage =>
    rw [ruleGroups, rules, List.map_singleton, List.flatten_singleton, ← byMentions_eq]
    rfl
  | tests => exact congrArg Except.ok (tests_eq s index place e)
  | similarity =>
    rw [ruleGroups, rules, List.map_singleton, List.flatten_singleton, ← ChunkIndex.filterMap_others]
    rfl

/-! ### Marks -/

/-- Kind, direction and origin of the relations that a pass gives. -/
def marks : RelationPass → List (RelationKind × Direction × Origin)
  | .imports => [(.imports, .outgoing, .staticAnalysis)]
  | .calls => [(.calls, .outgoing, .staticAnalysis)]
  | .inheritance => [(.implements, .outgoing, .staticAnalysis), (.extends_, .outgoing, .staticAnalysis)]
  | .usage => [(.uses, .outgoing, .staticAnalysis)]
  | .tests => [(.tests, .outgoing, .heuristic), (.tests, .incoming, .heuristic)]
  | .similarity => [(.similarTo, .bidirectional, .semantic)]

theorem marks_listed (pass : RelationPass) : ∀ m ∈ marks pass,
    m.1 ∈ RelationKind.listed ∧ m.2.1 ∈ Direction.listed ∧ m.2.2 ∈ Origin.listed := by
  cases pass <;> decide

/-- The relation leads to the chunk of an entry and bears marks of a pass. -/
structure Made (pass : RelationPass) (q : IndexEntry) (r : Relation) : Prop where
  target : r.target = q.chunk.id
  marked : (r.kind, r.direction, r.evidence.origin) ∈ marks pass

theorem made_mentionRule {pass : RelationPass} {form : Text → Pattern}
    {relation : IndexEntry → List Mention → Relation} (h : ∀ q ms, Made pass q (relation q ms)) {names : List Text}
    {e q : IndexEntry} {r : Relation} (hr : mentionRule form relation names e q = some r) : Made pass q r := by
  unfold mentionRule at hr
  split at hr
  case h_1 => cases hr
  case h_2 =>
    obtain rfl := Option.some.inj hr
    exact h q _

theorem made_toBase (e : IndexEntry) (b : Names.Base) (q : IndexEntry) : Made .inheritance q (toBase e b q) := by
  unfold toBase
  dsimp only
  split
  · exact ⟨rfl, List.mem_cons_self⟩
  · exact ⟨rfl, List.mem_cons_of_mem _ List.mem_cons_self⟩

theorem made_of_rule {s : RelationSettings} {names : List Text} {e q : IndexEntry} {pass : RelationPass}
    {rule : Rule} (h : rule ∈ rules s names e pass) {r : Relation} (hr : rule q = some r) : Made pass q r := by
  cases pass with
  | imports => cases h
  | calls =>
    obtain rfl := List.mem_singleton.mp h
    exact made_mentionRule (fun _ _ => ⟨rfl, List.mem_cons_self⟩) hr
  | inheritance =>
    obtain ⟨b, _, rfl⟩ := List.mem_map.mp h
    obtain ⟨_, heq⟩ := Option.ite_none_right_eq_some.mp hr
    obtain rfl := Option.some.inj heq
    exact made_toBase e b q
  | usage =>
    obtain rfl := List.mem_singleton.mp h
    exact made_mentionRule (fun _ _ => ⟨rfl, List.mem_cons_self⟩) hr
  | tests =>
    obtain rfl := List.mem_singleton.mp h
    split at hr
    · obtain ⟨_, heq⟩ := Option.ite_none_right_eq_some.mp hr
      obtain rfl := Option.some.inj heq
      exact ⟨rfl, List.mem_cons_self⟩
    · obtain ⟨_, heq⟩ := Option.ite_none_right_eq_some.mp hr
      obtain rfl := Option.some.inj heq
      exact ⟨rfl, List.mem_cons_of_mem _ List.mem_cons_self⟩
  | similarity =>
    obtain rfl := List.mem_singleton.mp h
    obtain ⟨_, heq⟩ := Option.ite_none_right_eq_some.mp hr
    obtain rfl := Option.some.inj heq
    exact ⟨rfl, List.mem_cons_self⟩

/-- What a pass other than that of the imports gives leads to another chunk. -/
theorem made_of_mem_ruleGroups {s : RelationSettings} {index : ChunkIndex} {place : Nat} {e : IndexEntry}
    {pass : RelationPass} {r : Relation} (hr : r ∈ (ruleGroups s index place e pass).flatten) :
    ∃ q ∈ index.peers place, Made pass q r := by
  obtain ⟨group, hgroup, hr⟩ := List.mem_flatten.mp hr
  obtain ⟨rule, hrule, rfl⟩ := List.mem_map.mp hgroup
  obtain ⟨q, hq, hsome⟩ := List.mem_filterMap.mp hr
  exact ⟨q, hq, made_of_rule hrule hsome⟩

end Relation

end SourceChunks
