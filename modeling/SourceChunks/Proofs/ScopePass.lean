import Mathlib.Logic.Relation
import SourceChunks.Proofs.Lines
import SourceChunks.Scope.Tree

/-! The pass that finds the scopes of a source. Opening and closing a scope are described once, by
what every number refers to afterwards; from that the shape of the scopes is carried through the
pass. A scope is put below its parent when it is closed, so what is claimed of children holds of the
closed ones, and the open ones are the scopes around the current line. -/

namespace SourceChunks.ScopeTree

/-- `p` is the parent of `h`. -/
def Parent (t : ScopeTree) (p h : Nat) : Prop := ∃ s, t.get? h = some s ∧ s.parent = some p

/-- `h` is a scope outside all others. -/
def Root (t : ScopeTree) (h : Nat) : Prop := ∃ s, t.get? h = some s ∧ s.parent = none

/-- The first scope is around the second, at any distance. -/
def Ancestor (t : ScopeTree) : Nat → Nat → Prop := Relation.TransGen t.Parent

/-! ### Opening -/

theorem get?_lt {t : ScopeTree} {h : Nat} {s : Scope} (hs : t.get? h = some s) : h < t.size :=
  (List.getElem?_eq_some_iff.mp hs).1

theorem get?_size (t : ScopeTree) : t.get? t.size = none := List.getElem?_eq_none (Nat.le_refl _)

theorem get?_add (t : ScopeTree) (s : Scope) (k : Nat) :
    (t.add s).get? k = if k = t.size then some s else t.get? k := by
  unfold get? add size
  by_cases hk : k < t.scopes.length
  · rw [if_neg (by omega), List.getElem?_append_left hk]
  · by_cases he : k = t.scopes.length
    · simp [he]
    · rw [if_neg he, List.getElem?_eq_none (by simp; omega), List.getElem?_eq_none (by omega)]

theorem get?_add_of_some {t : ScopeTree} {k : Nat} {q : Scope} (s : Scope) (hq : t.get? k = some q) :
    (t.add s).get? k = some q := by
  have := get?_lt hq
  rw [get?_add, if_neg (by omega), hq]

theorem get?_add_cases {t : ScopeTree} {s q : Scope} {h : Nat} (hq : (t.add s).get? h = some q) :
    (h = t.size ∧ q = s) ∨ t.get? h = some q := by
  rw [get?_add] at hq
  split at hq
  case isTrue he => exact .inl ⟨he, (Option.some.inj hq).symm⟩
  case isFalse => exact .inr hq

theorem parent_add {t : ScopeTree} {s : Scope} {p h : Nat} :
    (t.add s).Parent p h ↔ t.Parent p h ∨ (h = t.size ∧ s.parent = some p) := by
  unfold Parent
  rw [get?_add]
  by_cases hh : h = t.size
  · subst hh
    simp [get?_size]
  · simp [hh]

theorem root_add {t : ScopeTree} {s : Scope} {h : Nat} :
    (t.add s).Root h ↔ t.Root h ∨ (h = t.size ∧ s.parent = none) := by
  unfold Root
  rw [get?_add]
  by_cases hh : h = t.size
  · subst hh
    simp [get?_size]
  · simp [hh]

theorem Ancestor.add {t : ScopeTree} {a b : Nat} (h : t.Ancestor a b) (s : Scope) :
    (t.add s).Ancestor a b :=
  Relation.TransGen.mono (fun _ _ hp => parent_add.mpr (.inl hp)) a b h

/-! ### Closing -/

/-- What the number `k` refers to once the scope `s` with the number `h` is closed at `stop`. -/
def closing (ls : List Text) (stop h : Nat) (s : Scope) (k : Nat) (q : Scope) : Scope :=
  { q with
    last := if k = h then lastCodeLine ls s.first (max s.first stop) else q.last
    children := if s.parent = some k then q.children ++ [h] else q.children }

theorem get?_close (ls : List Text) (stop : Nat) {t : ScopeTree} {h : Nat} {s : Scope}
    (hs : t.get? h = some s) (k : Nat) :
    (close ls stop t h).get? k = (t.get? k).map (closing ls stop h s k) := by
  have hlt := get?_lt hs
  simp only [get?, size] at hs hlt
  have hset (e : Scope) : (t.scopes.set h e)[k]? = if h = k then some e else t.scopes[k]? := by
    rw [List.getElem?_set, if_pos hlt]
  simp only [close, get?, hs, attach]
  split
  case h_1 hp =>
    rw [hset]
    by_cases hk : h = k
    · subst hk
      simp [hs, closing, hp]
    · cases t.scopes[k]? <;> simp [closing, hk, hp, Ne.symm hk]
  case h_2 p hp =>
    rw [List.getElem?_modify, hset]
    by_cases hk : h = k
    · subst hk
      by_cases hpk : p = h <;> simp [hs, closing, hp, hpk]
    · by_cases hpk : p = k <;> cases t.scopes[k]? <;> simp [closing, hk, hp, hpk, Ne.symm hk]

theorem get?_close_of_some {ls : List Text} {stop : Nat} {t : ScopeTree} {h k : Nat} {s q : Scope}
    (hs : t.get? h = some s) (hq : t.get? k = some q) :
    (close ls stop t h).get? k = some (closing ls stop h s k q) := by
  rw [get?_close ls stop hs, hq, Option.map_some]

theorem exists_of_get?_close {ls : List Text} {stop : Nat} {t : ScopeTree} {h k : Nat} {s q : Scope}
    (hs : t.get? h = some s) (hq : (close ls stop t h).get? k = some q) :
    ∃ o, t.get? k = some o ∧ q = closing ls stop h s k o := by
  rw [get?_close ls stop hs, Option.map_eq_some_iff] at hq
  obtain ⟨o, ho, rfl⟩ := hq
  exact ⟨o, ho, rfl⟩

theorem roots_close (ls : List Text) (stop : Nat) {t : ScopeTree} {h : Nat} {s : Scope}
    (hs : t.get? h = some s) :
    (close ls stop t h).roots = if s.parent = none then t.roots ++ [h] else t.roots := by
  simp only [close, hs, attach]
  split
  case h_1 hp => rw [if_pos hp]
  case h_2 p hp => rw [if_neg (by simp_all)]

theorem parent_close (ls : List Text) (stop : Nat) {t : ScopeTree} {h : Nat} {s : Scope}
    (hs : t.get? h = some s) : (close ls stop t h).Parent = t.Parent := by
  funext p k
  unfold Parent
  rw [get?_close ls stop hs]
  cases t.get? k <;> simp [closing]

theorem root_close (ls : List Text) (stop : Nat) {t : ScopeTree} {h : Nat} {s : Scope}
    (hs : t.get? h = some s) : (close ls stop t h).Root = t.Root := by
  funext k
  unfold Root
  rw [get?_close ls stop hs]
  cases t.get? k <;> simp [closing]

theorem ancestor_close (ls : List Text) (stop : Nat) {t : ScopeTree} {h : Nat} {s : Scope}
    (hs : t.get? h = some s) : (close ls stop t h).Ancestor = t.Ancestor := by
  unfold Ancestor
  rw [parent_close ls stop hs]

/-! ### The shape of the scopes during the pass -/

/-- Every open scope lies right inside the next one of the stack. -/
def Chain (t : ScopeTree) : List Nat → Prop
  | [] => True
  | h :: rest =>
    (∃ s, t.get? h = some s ∧ s.parent = rest.head? ∧ s.level = rest.length) ∧ Chain t rest

theorem Chain.add {t : ScopeTree} {stack : List Nat} (hc : t.Chain stack) (s : Scope) :
    (t.add s).Chain stack := by
  induction stack with
  | nil => trivial
  | cons h rest ih =>
    obtain ⟨⟨q, hq, hp, hl⟩, ht⟩ := hc
    exact ⟨⟨q, get?_add_of_some s hq, hp, hl⟩, ih ht⟩

theorem Chain.close {t : ScopeTree} {stack : List Nat} (hc : t.Chain stack) (ls : List Text)
    (stop : Nat) {h : Nat} {s : Scope} (hs : t.get? h = some s) : (close ls stop t h).Chain stack := by
  induction stack with
  | nil => trivial
  | cons k rest ih =>
    obtain ⟨⟨q, hq, hp, hl⟩, ht⟩ := hc
    exact ⟨⟨closing ls stop h s k q, get?_close_of_some hs hq, hp, hl⟩, ih ht⟩

/-- The scopes below the top of the stack are around the top. -/
theorem Chain.ancestor {t : ScopeTree} {h : Nat} {rest : List Nat} (hc : t.Chain (h :: rest)) :
    ∀ x ∈ rest, t.Ancestor x h := by
  induction rest generalizing h with
  | nil => simp
  | cons p rest ih =>
    obtain ⟨⟨s, hs, hp, _⟩, ht⟩ := hc
    have hph : t.Parent p h := ⟨s, hs, hp⟩
    intro x hx
    rcases List.mem_cons.mp hx with rfl | hx
    · exact .single hph
    · exact (ih ht x hx).tail hph

/-- What holds when the scopes of `stack` are open and everything found so far lies before line
`bound`. -/
structure Progress (ls : List Text) (bound : Nat) (t : ScopeTree) (stack : List Nat) : Prop where
  chain : t.Chain stack
  parent : ∀ {h s p}, t.get? h = some s → s.parent = some p →
    ∃ q, t.get? p = some q ∧ p < h ∧ q.indent < s.indent ∧ s.level = q.level + 1
  root : ∀ {h s}, t.get? h = some s → s.parent = none → s.level = 0
  first_lt : ∀ {a b s r}, t.get? a = some s → t.get? b = some r → a < b → s.first < r.first
  first_le_last : ∀ {h s}, t.get? h = some s → s.first ≤ s.last
  last_lt : ∀ {h s}, t.get? h = some s → s.last < bound
  first_text : ∀ {h s}, t.get? h = some s → HasText ls s.first
  last_text : ∀ {h s}, t.get? h = some s → HasText ls s.last
  nested : ∀ {h s p q}, t.get? h = some s → s.parent = some p → t.get? p = some q → p ∉ stack →
    s.last ≤ q.last
  apart : ∀ {a b s r}, t.get? a = some s → t.get? b = some r → a < b →
    t.Ancestor a b ∨ (a ∉ stack ∧ s.last < r.first)
  mem_children : ∀ {p q h}, t.get? p = some q → (h ∈ q.children ↔ h ∉ stack ∧ t.Parent p h)
  mem_roots : ∀ {h}, h ∈ t.roots ↔ h ∉ stack ∧ t.Root h
  children_sorted : ∀ {p q}, t.get? p = some q → q.children.Pairwise (· < ·)
  roots_sorted : t.roots.Pairwise (· < ·)

namespace Progress

variable {ls : List Text} {bound : Nat} {t : ScopeTree} {stack : List Nat}

theorem empty (ls : List Text) : Progress ls 0 {} [] where
  chain := trivial
  parent := by simp [get?]
  root := by simp [get?]
  first_lt := by simp [get?]
  first_le_last := by simp [get?]
  last_lt := by simp [get?]
  first_text := by simp [get?]
  last_text := by simp [get?]
  nested := by simp [get?]
  apart := by simp [get?]
  mem_children := by simp [get?]
  mem_roots := by simp [Root, get?]
  children_sorted := by simp [get?]
  roots_sorted := .nil

theorem parent_lt (hp : Progress ls bound t stack) {p h : Nat} (hh : t.Parent p h) : p < h := by
  obtain ⟨s, hs, hsp⟩ := hh
  obtain ⟨q, _, hlt, _⟩ := hp.parent hs hsp
  exact hlt

theorem ancestor_lt (hp : Progress ls bound t stack) {a b : Nat} (h : t.Ancestor a b) : a < b := by
  induction h with
  | single h => exact hp.parent_lt h
  | tail _ h ih => exact Nat.lt_trans ih (hp.parent_lt h)

/-- A scope is not around another one with the same parent. -/
theorem not_ancestor_of_parent_eq (hp : Progress ls bound t stack) {a b : Nat} {s r : Scope}
    (hs : t.get? a = some s) (hr : t.get? b = some r) (he : s.parent = r.parent) :
    ¬ t.Ancestor a b := by
  intro h
  obtain ⟨m, ham, hmb⟩ := Relation.TransGen.tail'_iff.mp h
  obtain ⟨r', hr', hm⟩ := hmb
  rw [hr, Option.some.injEq] at hr'
  subst hr'
  have hma : m < a := hp.parent_lt ⟨s, hs, he.trans hm⟩
  rcases Relation.reflTransGen_iff_eq_or_transGen.mp ham with rfl | ham
  · omega
  · have := hp.ancestor_lt ham
    omega

theorem siblings_apart (hp : Progress ls bound t stack) {a b : Nat} {s r : Scope}
    (hs : t.get? a = some s) (hr : t.get? b = some r) (he : s.parent = r.parent) (hab : a < b) :
    a ∉ stack ∧ s.last < r.first :=
  (hp.apart hs hr hab).resolve_left (hp.not_ancestor_of_parent_eq hs hr he)

theorem level_le (hp : Progress ls bound t stack) {h : Nat} {s : Scope} (hs : t.get? h = some s) :
    s.level ≤ h := by
  induction h using Nat.strongRecOn generalizing s with
  | ind h ih =>
    cases hsp : s.parent with
    | none =>
      rw [hp.root hs hsp]
      exact Nat.zero_le h
    | some p =>
      obtain ⟨q, hq, hlt, _, hl⟩ := hp.parent hs hsp
      have := ih p hlt hq
      omega

end Progress

/-! ### What opening keeps -/

/-- The scope can be opened at line `bound`: it lies right inside the innermost open scope and is indented
deeper. -/
structure Fits (ls : List Text) (bound : Nat) (t : ScopeTree) (stack : List Nat) (s : Scope) : Prop where
  text : HasText ls bound
  first : s.first = bound
  last : s.last = bound
  level : s.level = stack.length
  parent : s.parent = stack.head?
  children : s.children = []
  indent : ∀ h ∈ stack.head?, ∀ q, t.get? h = some q → q.indent < s.indent

namespace Fits

variable {ls : List Text} {bound : Nat} {t : ScopeTree} {stack : List Nat} {s : Scope}

theorem chain (hs : Fits ls bound t stack s) (hp : Progress ls bound t stack) :
    (t.add s).Chain (t.size :: stack) := by
  have hnew : (t.add s).get? t.size = some s := by rw [get?_add, if_pos rfl]
  exact ⟨⟨s, hnew, hs.parent, hs.level⟩, hp.chain.add s⟩

/-- The parent of the new scope is the innermost open one. -/
theorem exists_parent (hs : Fits ls bound t stack s) (hp : Progress ls bound t stack) {p : Nat}
    (hsp : s.parent = some p) : ∃ q, t.get? p = some q ∧ q.indent < s.indent ∧ s.level = q.level + 1 := by
  have hhead : stack.head? = some p := hs.parent.symm.trans hsp
  cases stack with
  | nil => cases hhead
  | cons k rest =>
    obtain rfl : k = p := Option.some.inj hhead
    obtain ⟨⟨q, hq, _, hl⟩, _⟩ := hp.chain
    refine ⟨q, hq, hs.indent k rfl q hq, ?_⟩
    rw [hs.level, hl, List.length_cons]

/-- The new scope lies in the open ones and behind the closed ones. -/
theorem apart (hs : Fits ls bound t stack s) (hp : Progress ls bound t stack) {a : Nat} {q : Scope}
    (hq : t.get? a = some q) :
    (t.add s).Ancestor a t.size ∨ (a ∉ t.size :: stack ∧ q.last < s.first) := by
  by_cases ha : a ∈ stack
  · exact .inl ((hs.chain hp).ancestor a ha)
  · refine .inr ⟨?_, ?_⟩
    · have := get?_lt hq
      simp only [List.mem_cons, not_or]
      exact ⟨by omega, ha⟩
    · rw [hs.first]
      exact hp.last_lt hq

theorem not_parent (hs : Fits ls bound t stack s) (hp : Progress ls bound t stack) (h : Nat) :
    ¬ (t.add s).Parent t.size h := by
  intro hpar
  rcases parent_add.mp hpar with ⟨o, ho, hop⟩ | ⟨_, hsp⟩
  · obtain ⟨q, hq, _⟩ := hp.parent ho hop
    exact Nat.lt_irrefl _ (get?_lt hq)
  · obtain ⟨q, hq, _⟩ := hs.exists_parent hp hsp
    exact Nat.lt_irrefl _ (get?_lt hq)

end Fits

namespace Progress

variable {ls : List Text} {bound : Nat} {t : ScopeTree} {stack : List Nat}

/-- Opening a scope at the current line, deeper than the innermost open one. -/
theorem add (hp : Progress ls bound t stack) {s : Scope} (hs : Fits ls bound t stack s) :
    Progress ls (bound + 1) (t.add s) (t.size :: stack) := by
  have hf := hs.first
  have hl := hs.last
  constructor
  case chain => exact hs.chain hp
  case parent =>
    intro h q p hq hqp
    rcases get?_add_cases hq with ⟨rfl, rfl⟩ | hq
    · obtain ⟨o, ho, h1, h2⟩ := hs.exists_parent hp hqp
      exact ⟨o, get?_add_of_some _ ho, get?_lt ho, h1, h2⟩
    · obtain ⟨o, ho, h1, h2, h3⟩ := hp.parent hq hqp
      exact ⟨o, get?_add_of_some s ho, h1, h2, h3⟩
  case root =>
    intro h q hq hqp
    rcases get?_add_cases hq with ⟨rfl, rfl⟩ | hq
    · rw [hs.parent, List.head?_eq_none_iff] at hqp
      rw [hs.level, hqp, List.length_nil]
    · exact hp.root hq hqp
  case first_lt =>
    intro a b q r hq hr hab
    rcases get?_add_cases hq with ⟨rfl, rfl⟩ | hqo <;> rcases get?_add_cases hr with ⟨rfl, rfl⟩ | hro
    · omega
    · have := get?_lt hro
      omega
    · have := hp.first_le_last hqo
      have := hp.last_lt hqo
      omega
    · exact hp.first_lt hqo hro hab
  case first_le_last =>
    intro h q hq
    rcases get?_add_cases hq with ⟨rfl, rfl⟩ | hq
    · omega
    · exact hp.first_le_last hq
  case last_lt =>
    intro h q hq
    rcases get?_add_cases hq with ⟨rfl, rfl⟩ | hq
    · omega
    · have := hp.last_lt hq
      omega
  case first_text =>
    intro h q hq
    rcases get?_add_cases hq with ⟨rfl, rfl⟩ | hq
    · exact hf ▸ hs.text
    · exact hp.first_text hq
  case last_text =>
    intro h q hq
    rcases get?_add_cases hq with ⟨rfl, rfl⟩ | hq
    · exact hl ▸ hs.text
    · exact hp.last_text hq
  case nested =>
    intro h q p o hq hqp ho hpo
    rcases get?_add_cases hq with ⟨rfl, rfl⟩ | hq
    · rw [hs.parent] at hqp
      exact absurd (List.mem_cons_of_mem _ (List.mem_of_head? hqp)) hpo
    · rcases get?_add_cases ho with ⟨rfl, rfl⟩ | ho
      · exact absurd List.mem_cons_self hpo
      · exact hp.nested hq hqp ho (fun hm => hpo (List.mem_cons_of_mem _ hm))
  case apart =>
    intro a b q r hq hr hab
    rcases get?_add_cases hq with ⟨rfl, rfl⟩ | hqo <;> rcases get?_add_cases hr with ⟨rfl, rfl⟩ | hro
    · omega
    · have := get?_lt hro
      omega
    · exact hs.apart hp hqo
    · rcases hp.apart hqo hro hab with h | ⟨h, hlt⟩
      · exact .inl (h.add s)
      · refine .inr ⟨?_, hlt⟩
        have := get?_lt hqo
        simp only [List.mem_cons, not_or]
        exact ⟨by omega, h⟩
  case mem_children =>
    intro p q h hq
    rcases get?_add_cases hq with ⟨rfl, rfl⟩ | hq
    · rw [hs.children]
      simp only [List.not_mem_nil, false_iff, not_and]
      exact fun _ => hs.not_parent hp h
    · rw [hp.mem_children hq, parent_add, List.mem_cons, not_or]
      constructor
      · rintro ⟨hh, o, ho, hop⟩
        have := get?_lt ho
        exact ⟨⟨by omega, hh⟩, .inl ⟨o, ho, hop⟩⟩
      · rintro ⟨⟨hne, hh⟩, hpar | ⟨he, _⟩⟩
        · exact ⟨hh, hpar⟩
        · exact absurd he hne
  case mem_roots =>
    intro h
    change h ∈ t.roots ↔ _
    rw [hp.mem_roots, root_add, List.mem_cons, not_or]
    constructor
    · rintro ⟨hh, q, hq, hqp⟩
      have := get?_lt hq
      exact ⟨⟨by omega, hh⟩, .inl ⟨q, hq, hqp⟩⟩
    · rintro ⟨⟨hne, hh⟩, hr | ⟨he, _⟩⟩
      · exact ⟨hh, hr⟩
      · exact absurd he hne
  case children_sorted =>
    intro p q hq
    rcases get?_add_cases hq with ⟨rfl, rfl⟩ | hq
    · rw [hs.children]
      exact .nil
    · exact hp.children_sorted hq
  case roots_sorted => exact hp.roots_sorted

/-! ### What closing keeps -/

section Attached

variable {xs rest : List Nat} {h : Nat} {here : Prop} [Decidable here]

/-- A closed scope is attached in one place, and the stack has lost it. -/
theorem mem_attached {below : Nat → Prop} (hne : h ∉ rest) (hhere : below h ↔ here) {k : Nat}
    (hk : k ∈ xs ↔ k ∉ h :: rest ∧ below k) :
    k ∈ (if here then xs ++ [h] else xs) ↔ k ∉ rest ∧ below k := by
  rw [List.mem_cons, not_or] at hk
  by_cases he : k = h
  · subst he
    split <;> simp_all
  · split <;> simp [hk, he]

theorem sorted_attached (hxs : xs.Pairwise (· < ·)) (hlt : here → ∀ k ∈ xs, k < h) :
    (if here then xs ++ [h] else xs).Pairwise (· < ·) := by
  split
  case isFalse => exact hxs
  case isTrue hh =>
    refine List.pairwise_append.mpr ⟨hxs, List.pairwise_singleton _ _, ?_⟩
    intro k hk x hx
    obtain rfl := List.mem_singleton.mp hx
    exact hlt hh k hk

end Attached

section Closing

variable {h : Nat} {rest : List Nat} {s : Scope}

/-- A closed scope with the parent of the innermost open one is older. -/
theorem lt_of_closed_sibling (hp : Progress ls bound t (h :: rest)) (hs : t.get? h = some s) {c : Nat}
    {q : Scope} (hc : c ∉ h :: rest) (hq : t.get? c = some q) (he : q.parent = s.parent) : c < h := by
  rcases Nat.lt_trichotomy c h with hlt | rfl | hgt
  · exact hlt
  · exact absurd List.mem_cons_self hc
  · exact absurd List.mem_cons_self (hp.siblings_apart hs hq he.symm hgt).1

/-- Where a scope ends once the innermost open one is closed: between its first line and the bound, at a
line with text. -/
theorem closing_last (hp : Progress ls bound t (h :: rest)) (hs : t.get? h = some s) {stop bound' : Nat}
    (hb : bound ≤ stop + 1) (hs' : stop < bound') {k : Nat} {q : Scope} (hq : t.get? k = some q) :
    q.first ≤ (closing ls stop h s k q).last ∧ (closing ls stop h s k q).last < bound' ∧
      HasText ls (closing ls stop h s k q).last := by
  have hfl := hp.first_le_last hq
  have hlb := hp.last_lt hq
  dsimp only [closing]
  split
  case isFalse => exact ⟨hfl, by omega, hp.last_text hq⟩
  case isTrue hk =>
    subst hk
    obtain rfl : q = s := Option.some.inj (hq.symm.trans hs)
    have := lastCodeLine_le ls q.first (max q.first stop)
    exact ⟨le_lastCodeLine ls _ _, by omega, hasText_lastCodeLine (hp.first_text hq)⟩

/-- The scopes in the innermost open one end with text, so it is not cut before them. -/
theorem closing_nested (hp : Progress ls bound t (h :: rest)) (hs : t.get? h = some s)
    (hsp : s.parent = rest.head?) {stop : Nat} (hb : bound ≤ stop + 1) {k p : Nat} {o w : Scope}
    (ho : t.get? k = some o) (hop : o.parent = some p) (hw : t.get? p = some w) (hpr : p ∉ rest) :
    (closing ls stop h s k o).last ≤ (closing ls stop h s p w).last := by
  have hkh : k ≠ h := by
    rintro rfl
    obtain rfl : o = s := Option.some.inj (ho.symm.trans hs)
    exact hpr (List.mem_of_head? (hsp.symm.trans hop))
  dsimp only [closing]
  rw [if_neg hkh]
  split
  case isTrue =>
    have := hp.last_lt ho
    exact le_lastCodeLine_of_hasText (hp.last_text ho) (by omega)
  case isFalse hph =>
    refine hp.nested ho hop hw ?_
    simp only [List.mem_cons, not_or]
    exact ⟨hph, hpr⟩

/-- Closing the innermost open scope at a line behind everything found so far. -/
theorem close (hp : Progress ls bound t (h :: rest)) {stop bound' : Nat} (hb : bound ≤ stop + 1)
    (hs' : stop < bound') : Progress ls bound' (close ls stop t h) rest := by
  obtain ⟨⟨s, hs, hsp, _⟩, hrest⟩ := hp.chain
  have hne : h ∉ rest := fun hm => Nat.lt_irrefl h (hp.ancestor_lt (hp.chain.ancestor h hm))
  constructor
  case chain => exact hrest.close ls stop hs
  case parent =>
    intro k q p hq hqp
    obtain ⟨o, ho, rfl⟩ := exists_of_get?_close hs hq
    obtain ⟨w, hw, h1, h2, h3⟩ := hp.parent ho hqp
    exact ⟨_, get?_close_of_some hs hw, h1, h2, h3⟩
  case root =>
    intro k q hq hqp
    obtain ⟨o, ho, rfl⟩ := exists_of_get?_close hs hq
    exact hp.root (s := o) ho hqp
  case first_lt =>
    intro a b q r hq hr hab
    obtain ⟨o, ho, rfl⟩ := exists_of_get?_close hs hq
    obtain ⟨w, hw, rfl⟩ := exists_of_get?_close hs hr
    exact hp.first_lt (s := o) (r := w) ho hw hab
  case first_le_last =>
    intro k q hq
    obtain ⟨o, ho, rfl⟩ := exists_of_get?_close hs hq
    exact (hp.closing_last hs hb hs' ho).1
  case last_lt =>
    intro k q hq
    obtain ⟨o, ho, rfl⟩ := exists_of_get?_close hs hq
    exact (hp.closing_last hs hb hs' ho).2.1
  case first_text =>
    intro k q hq
    obtain ⟨o, ho, rfl⟩ := exists_of_get?_close hs hq
    exact hp.first_text (s := o) ho
  case last_text =>
    intro k q hq
    obtain ⟨o, ho, rfl⟩ := exists_of_get?_close hs hq
    exact (hp.closing_last hs hb hs' ho).2.2
  case nested =>
    intro k q p r hq hqp hr hpr
    obtain ⟨o, ho, rfl⟩ := exists_of_get?_close hs hq
    obtain ⟨w, hw, rfl⟩ := exists_of_get?_close hs hr
    exact hp.closing_nested hs hsp hb ho hqp hw hpr
  case apart =>
    intro a b q r hq hr hab
    obtain ⟨o, ho, rfl⟩ := exists_of_get?_close hs hq
    obtain ⟨w, hw, rfl⟩ := exists_of_get?_close hs hr
    rw [ancestor_close ls stop hs]
    rcases hp.apart ho hw hab with hanc | ⟨hnot, hlt⟩
    · exact .inl hanc
    · simp only [List.mem_cons, not_or] at hnot
      exact .inr ⟨hnot.2, by simpa only [closing, if_neg hnot.1] using hlt⟩
  case mem_children =>
    intro p q k hq
    obtain ⟨o, ho, rfl⟩ := exists_of_get?_close hs hq
    rw [parent_close ls stop hs]
    exact mem_attached hne (by simp [Parent, hs]) (hp.mem_children ho)
  case mem_roots =>
    intro k
    rw [roots_close ls stop hs, root_close ls stop hs]
    exact mem_attached hne (by simp [Root, hs]) hp.mem_roots
  case children_sorted =>
    intro p q hq
    obtain ⟨o, ho, rfl⟩ := exists_of_get?_close hs hq
    refine sorted_attached (hp.children_sorted ho) ?_
    intro hsp' c hc
    obtain ⟨hcs, w, hw, hwp⟩ := (hp.mem_children ho).mp hc
    exact hp.lt_of_closed_sibling hs hcs hw (hwp.trans hsp'.symm)
  case roots_sorted =>
    rw [roots_close ls stop hs]
    refine sorted_attached hp.roots_sorted ?_
    intro hn c hc
    obtain ⟨hcs, w, hw, hwp⟩ := hp.mem_roots.mp hc
    exact hp.lt_of_closed_sibling hs hcs hw (hwp.trans hn.symm)

end Closing

/-! ### The pass -/

theorem mono (hp : Progress ls bound t stack) {bound' : Nat} (hb : bound ≤ bound') :
    Progress ls bound' t stack :=
  { hp with last_lt := fun hs => Nat.lt_of_lt_of_le (hp.last_lt hs) hb }

theorem bound_pos (hp : Progress ls bound t stack) (hne : stack ≠ []) : 0 < bound := by
  cases stack with
  | nil => exact absurd rfl hne
  | cons h rest =>
    obtain ⟨⟨s, hs, _⟩, _⟩ := hp.chain
    have := hp.last_lt hs
    omega

/-- Closing scopes from the top of the stack; the one that stays on top is not left. -/
theorem closeWhile (hp : Progress ls bound t stack) (leaves : Scope → Bool) (stop : Nat) {bound' : Nat}
    (hb : bound ≤ bound') (hs : stack ≠ [] → bound' ≤ stop + 1 ∧ stop < bound') :
    Progress ls bound' (closeWhile leaves ls stop stack t).2 (closeWhile leaves ls stop stack t).1 ∧
      ∀ h ∈ (closeWhile leaves ls stop stack t).1.head?, ∀ q,
        (closeWhile leaves ls stop stack t).2.get? h = some q → leaves q = false := by
  induction stack generalizing t bound with
  | nil => exact ⟨hp.mono hb, by simp [ScopeTree.closeWhile]⟩
  | cons h rest ih =>
    obtain ⟨h1, h2⟩ := hs (by simp)
    obtain ⟨⟨s, hget, _⟩, _⟩ := hp.chain
    rw [ScopeTree.closeWhile, hget, Option.any_some]
    by_cases hl : leaves s = true
    · rw [if_pos hl]
      exact ih (hp.close (by omega) h2) (Nat.le_refl _) (fun _ => ⟨h1, h2⟩)
    · rw [if_neg hl]
      refine ⟨hp.mono hb, ?_⟩
      intro k hk q hq
      obtain rfl : h = k := by simpa using hk
      rw [hget, Option.some.injEq] at hq
      rw [← hq]
      simpa using hl

/-- After a line has left scopes by its indentation, the innermost open one is indented less. -/
theorem leaveByIndent {s : State} (hp : Progress ls bound s.tree s.stack) (indent : Nat) :
    Progress ls bound (leaveByIndent ls bound indent s).tree (leaveByIndent ls bound indent s).stack ∧
      ∀ h ∈ (leaveByIndent ls bound indent s).stack.head?, ∀ q,
        (leaveByIndent ls bound indent s).tree.get? h = some q → q.indent < indent := by
  have hstop (hne : s.stack ≠ []) : bound ≤ bound - 1 + 1 ∧ bound - 1 < bound := by
    have := hp.bound_pos hne
    omega
  obtain ⟨hq, htop⟩ := hp.closeWhile (fun o => indent ≤ o.indent) (bound - 1) (Nat.le_refl _) hstop
  refine ⟨hq, ?_⟩
  intro h hh q hget
  have := htop h hh q hget
  simpa using this

/-- Opening the scope of a header at the current line. -/
theorem opened {s : State} (hp : Progress ls bound s.tree s.stack) (ht : HasText ls bound)
    {indent : Nat} (hi : ∀ h ∈ s.stack.head?, ∀ q, s.tree.get? h = some q → q.indent < indent)
    (header : NodeKind × Text) :
    Progress ls (bound + 1) (s.tree.add (opened s bound indent header)) (s.tree.size :: s.stack) :=
  hp.add ⟨ht, rfl, rfl, rfl, rfl, rfl, hi⟩

theorem indentedStep {s : State} (hp : Progress ls bound s.tree s.stack) (ht : HasText ls bound)
    (line : Text) :
    Progress ls (bound + 1) (indentedStep ls bound line s).tree
      (indentedStep ls bound line s).stack := by
  obtain ⟨hq, htop⟩ := hp.leaveByIndent (Text.indent line)
  unfold ScopeTree.indentedStep
  cases Scope.header? line .python with
  | none => exact hq.mono (Nat.le_succ _)
  | some header => exact hq.opened ht htop header

theorem bracedStep {s : State} (hp : Progress ls bound s.tree s.stack) (ht : HasText ls bound)
    (language : Language) (line : Text) :
    Progress ls (bound + 1) (bracedStep language ls bound line s).tree
      (bracedStep language ls bound line s).stack := by
  obtain ⟨hq, htop⟩ := hp.leaveByIndent (Text.indent line)
  unfold ScopeTree.bracedStep
  cases Scope.header? line language with
  | none =>
    by_cases hc : 0 < line.count '\x7d'
    · simp only [if_pos hc]
      exact (hp.closeWhile _ bound (Nat.le_succ _) (fun _ => ⟨Nat.le_refl _, Nat.lt_succ_self _⟩)).1
    · simp only [if_neg hc]
      exact hp.mono (Nat.le_succ _)
  | some header =>
    have ho := hq.opened ht htop header
    dsimp only
    split
    · exact ho.close (Nat.le_refl _) (Nat.lt_succ_self _)
    · exact ho

theorem step {s : State} (hp : Progress ls bound s.tree s.stack) {line : Text}
    (hline : ls[bound]? = some line) (language : Language) :
    Progress ls (bound + 1) (step language ls bound line s).tree
      (step language ls bound line s).stack := by
  unfold ScopeTree.step
  split
  case isTrue => exact hp.mono (Nat.le_succ _)
  case isFalse hc =>
    have ht : HasText ls bound := hasText_of_isCodeLine hline (by simpa using hc)
    split
    case isTrue => exact hp.indentedStep ht line
    case isFalse => exact hp.bracedStep ht language line

theorem runFrom {s : State} (hp : Progress ls bound s.tree s.stack) {rest : List Text}
    (hr : ls.drop bound = rest) (hb : bound ≤ ls.length) (language : Language) :
    Progress ls ls.length (runFrom language ls bound rest s).tree
      (runFrom language ls bound rest s).stack := by
  induction rest generalizing bound s with
  | nil => exact hp.mono hb
  | cons line rest ih =>
    obtain ⟨hline, hrest⟩ := getElem?_of_drop_eq_cons hr
    exact ih (hp.step hline language) hrest (List.getElem?_eq_some_iff.mp hline).1

/-- Closing whatever is open leaves nothing on the stack. -/
theorem closeAll (hp : Progress ls bound t stack) {stop bound' : Nat} (hb : bound ≤ bound')
    (hs : stack ≠ [] → bound' ≤ stop + 1 ∧ stop < bound') :
    (ScopeTree.closeWhile (fun _ => true) ls stop stack t).1 = [] := by
  obtain ⟨hq, htop⟩ := hp.closeWhile (fun _ => true) stop hb hs
  cases hstack : (ScopeTree.closeWhile (fun _ => true) ls stop stack t).1 with
  | nil => rfl
  | cons h rest =>
    obtain ⟨⟨o, ho, _⟩, _⟩ := hstack ▸ hq.chain
    exact absurd (htop h (by simp [hstack]) o ho) (by simp)

/-- The scopes that are open behind the last line end with it. -/
theorem last_stop (hp : Progress ls ls.length t stack) (hne : stack ≠ []) :
    ls.length ≤ ls.length - 1 + 1 ∧ ls.length - 1 < ls.length := by
  have := hp.bound_pos hne
  omega

/-- When the source has been read, no scope is open. -/
theorem ofLines (language : Language) (ls : List Text) :
    Progress ls ls.length (ofLines language ls) [] := by
  have hrun := (empty ls).runFrom (s := {}) List.drop_zero (Nat.zero_le _) language
  have hclosed := (hrun.closeWhile (fun _ => true) (ls.length - 1) (Nat.le_refl _) hrun.last_stop).1
  rwa [hrun.closeAll (Nat.le_refl _) hrun.last_stop] at hclosed

end Progress

end SourceChunks.ScopeTree
