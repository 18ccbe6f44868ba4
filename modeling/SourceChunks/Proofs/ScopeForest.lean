import Mathlib.Data.List.Sort
import SourceChunks.Proofs.ScopePass

/-! The scopes of a source form a laminar forest: every scope is put in one place, children lie
inside their parents and deeper, scopes that are not around each other share no line, and the order
of the tree is the order in which the scopes were opened. -/

namespace SourceChunks.ScopeTree

/-- A forest of ranges of lines in a source of `count` lines. -/
structure LaminarForest (count : Nat) (t : ScopeTree) : Prop where
  mem_children : ∀ {p q}, t.get? p = some q → ∀ h, h ∈ q.children ↔ t.Parent p h
  mem_roots : ∀ h, h ∈ t.roots ↔ t.Root h
  children_nodup : ∀ {p q}, t.get? p = some q → q.children.Nodup
  roots_nodup : t.roots.Nodup
  root_level : ∀ {h s}, t.get? h = some s → s.parent = none → s.level = 0
  child : ∀ {h s p}, t.get? h = some s → s.parent = some p →
    ∃ q, t.get? p = some q ∧ s.level = q.level + 1 ∧ q.indent < s.indent ∧ q.first < s.first ∧
      s.last ≤ q.last
  range : ∀ {h s}, t.get? h = some s → s.first ≤ s.last ∧ s.last < count
  disjoint : ∀ {a b s r}, t.get? a = some s → t.get? b = some r → a ≠ b → ¬ t.Ancestor a b →
    ¬ t.Ancestor b a → s.last < r.first ∨ r.last < s.first
  flatten_eq : t.flatten = List.range t.size

/-! ### Order -/

namespace Progress

variable {ls : List Text} {bound : Nat} {t : ScopeTree} {stack : List Nat}

theorem first_le (hp : Progress ls bound t stack) {a b : Nat} {s r : Scope} (hs : t.get? a = some s)
    (hr : t.get? b = some r) (hab : a ≤ b) : s.first ≤ r.first := by
  rcases Nat.lt_or_eq_of_le hab with hlt | rfl
  · exact Nat.le_of_lt (hp.first_lt hs hr hlt)
  · rw [Option.some.inj (hs.symm.trans hr)]

/-- Numbers in order are also in the order of first lines. -/
theorem byFirstLine_eq (hp : Progress ls bound t stack) {hs : List Nat} (hord : hs.Pairwise (· < ·))
    (hget : ∀ h ∈ hs, ∃ s, t.get? h = some s) : t.byFirstLine hs = hs := by
  unfold byFirstLine
  apply List.mergeSort_of_pairwise
  refine hord.imp_of_mem ?_
  intro a b ha hb hab
  obtain ⟨s, hs⟩ := hget a ha
  obtain ⟨r, hr⟩ := hget b hb
  simp [hs, hr, hp.first_le hs hr (Nat.le_of_lt hab)]

theorem byFirstLine_roots (hp : Progress ls bound t stack) : t.byFirstLine t.roots = t.roots := by
  refine hp.byFirstLine_eq hp.roots_sorted ?_
  intro h hh
  obtain ⟨_, s, hs, _⟩ := hp.mem_roots.mp hh
  exact ⟨s, hs⟩

/-- A visit goes to the scope and then to its children as they are listed. -/
theorem visit_succ (hp : Progress ls bound t stack) {h : Nat} {s : Scope} (hs : t.get? h = some s)
    (fuel : Nat) : t.visit (fuel + 1) h = h :: s.children.flatMap (t.visit fuel) := by
  have hsort : t.byFirstLine s.children = s.children := by
    refine hp.byFirstLine_eq (hp.children_sorted hs) ?_
    intro c hc
    obtain ⟨_, q, hq, _⟩ := (hp.mem_children hs).mp hc
    exact ⟨q, hq⟩
  rw [visit, hs, Option.map_some, Option.getD_some, hsort]

/-- Of two scopes with the same parent, whatever lies in the older one comes first. -/
theorem lt_of_siblings (hp : Progress ls bound t stack) {a b x y : Nat} {s r u v : Scope}
    (hs : t.get? a = some s) (hr : t.get? b = some r) (he : s.parent = r.parent) (hab : a < b)
    (hu : t.get? x = some u) (hv : t.get? y = some v) (hus : u.last ≤ s.last)
    (hvr : r.first ≤ v.first) : x < y := by
  have hapart := (hp.siblings_apart hs hr he hab).2
  have hle := hp.first_le_last hu
  by_contra hyx
  have := hp.first_le hv hu (by omega)
  omega

/-- A visit stays inside the scope and goes forward. -/
theorem visit_spec (hp : Progress ls bound t []) (fuel : Nat) {h : Nat} {s : Scope}
    (hs : t.get? h = some s) :
    (t.visit fuel h).Pairwise (· < ·) ∧
      ∀ x ∈ t.visit fuel h, h ≤ x ∧ ∃ u, t.get? x = some u ∧ s.first ≤ u.first ∧ u.last ≤ s.last := by
  induction fuel generalizing h s with
  | zero =>
    refine ⟨List.pairwise_singleton _ _, ?_⟩
    intro x hx
    obtain rfl := List.mem_singleton.mp hx
    exact ⟨Nat.le_refl _, s, hs, Nat.le_refl _, Nat.le_refl _⟩
  | succ fuel ih =>
    rw [hp.visit_succ hs]
    have hchild : ∀ c ∈ s.children, ∃ q, t.get? c = some q ∧ q.parent = some h := by
      intro c hc
      obtain ⟨_, q, hq, hqp⟩ := (hp.mem_children hs).mp hc
      exact ⟨q, hq, hqp⟩
    have hinside : ∀ x ∈ s.children.flatMap (t.visit fuel),
        h < x ∧ ∃ u, t.get? x = some u ∧ s.first ≤ u.first ∧ u.last ≤ s.last := by
      intro x hx
      obtain ⟨c, hc, hxc⟩ := List.mem_flatMap.mp hx
      obtain ⟨q, hq, hqp⟩ := hchild c hc
      obtain ⟨hcx, u, hu, h1, h2⟩ := (ih hq).2 x hxc
      have hlt := hp.parent_lt ⟨q, hq, hqp⟩
      have hfirst := hp.first_lt hs hq hlt
      have hlast := hp.nested hq hqp hs List.not_mem_nil
      exact ⟨by omega, u, hu, by omega, by omega⟩
    constructor
    · rw [List.pairwise_cons]
      refine ⟨fun x hx => (hinside x hx).1, ?_⟩
      rw [List.pairwise_flatMap]
      constructor
      · intro c hc
        obtain ⟨q, hq, _⟩ := hchild c hc
        exact (ih hq).1
      · refine (hp.children_sorted hs).imp_of_mem ?_
        intro a b ha hb hab x hx y hy
        obtain ⟨q, hq, hqp⟩ := hchild a ha
        obtain ⟨r, hr, hrp⟩ := hchild b hb
        obtain ⟨_, u, hu, _, huq⟩ := (ih hq).2 x hx
        obtain ⟨_, v, hv, hvr, _⟩ := (ih hr).2 y hy
        exact hp.lt_of_siblings hq hr (hqp.trans hrp.symm) hab hu hv huq hvr
    · intro x hx
      rcases List.mem_cons.mp hx with rfl | hx
      · exact ⟨Nat.le_refl _, s, hs, Nat.le_refl _, Nat.le_refl _⟩
      · obtain ⟨hlt, hu⟩ := hinside x hx
        exact ⟨Nat.le_of_lt hlt, hu⟩

theorem mem_visit_self (t : ScopeTree) (fuel h : Nat) : h ∈ t.visit fuel h := by
  cases fuel <;> simp [visit]

/-- With one more level a visit comes to the children of what it came to. -/
theorem mem_visit_succ (hp : Progress ls bound t []) {fuel h p c : Nat} {s : Scope}
    (hs : t.get? h = some s) (hm : p ∈ t.visit fuel h) (hc : t.Parent p c) :
    c ∈ t.visit (fuel + 1) h := by
  induction fuel generalizing h s with
  | zero =>
    obtain rfl := List.mem_singleton.mp hm
    rw [hp.visit_succ hs]
    have hmem : c ∈ s.children := (hp.mem_children hs).mpr ⟨List.not_mem_nil, hc⟩
    exact List.mem_cons_of_mem _ (List.mem_flatMap.mpr ⟨c, hmem, mem_visit_self t 0 c⟩)
  | succ fuel ih =>
    rw [hp.visit_succ hs] at hm ⊢
    rcases List.mem_cons.mp hm with rfl | hm
    · have hmem : c ∈ s.children := (hp.mem_children hs).mpr ⟨List.not_mem_nil, hc⟩
      exact List.mem_cons_of_mem _ (List.mem_flatMap.mpr ⟨c, hmem, mem_visit_self t _ c⟩)
    · obtain ⟨d, hd, hpd⟩ := List.mem_flatMap.mp hm
      obtain ⟨_, q, hq, _⟩ := (hp.mem_children hs).mp hd
      exact List.mem_cons_of_mem _ (List.mem_flatMap.mpr ⟨d, hd, ih hq hpd⟩)

/-- Visits from the roots come to every scope whose level they reach. -/
theorem mem_visits (hp : Progress ls bound t []) {h fuel : Nat} {s : Scope} (hs : t.get? h = some s)
    (hf : s.level ≤ fuel) : h ∈ t.roots.flatMap (t.visit fuel) := by
  induction h using Nat.strongRecOn generalizing s fuel with
  | ind h ih =>
    cases hsp : s.parent with
    | none =>
      have hroot : h ∈ t.roots := hp.mem_roots.mpr ⟨List.not_mem_nil, s, hs, hsp⟩
      exact List.mem_flatMap.mpr ⟨h, hroot, mem_visit_self t fuel h⟩
    | some p =>
      obtain ⟨q, hq, hlt, _, hl⟩ := hp.parent hs hsp
      obtain ⟨fuel, rfl⟩ : ∃ f, fuel = f + 1 := ⟨fuel - 1, by omega⟩
      obtain ⟨r, hr, hpr⟩ := List.mem_flatMap.mp (ih p hlt hq (show q.level ≤ fuel by omega))
      obtain ⟨_, w, hw, _⟩ := hp.mem_roots.mp hr
      exact List.mem_flatMap.mpr ⟨r, hr, hp.mem_visit_succ hw hpr ⟨s, hs, hsp⟩⟩

theorem flatten_sorted (hp : Progress ls bound t []) : t.flatten.Pairwise (· < ·) := by
  rw [flatten, hp.byFirstLine_roots, List.pairwise_flatMap]
  have hroot : ∀ h ∈ t.roots, ∃ s, t.get? h = some s ∧ s.parent = none := by
    intro h hh
    exact (hp.mem_roots.mp hh).2
  constructor
  · intro h hh
    obtain ⟨s, hs, _⟩ := hroot h hh
    exact (hp.visit_spec t.size hs).1
  · refine hp.roots_sorted.imp_of_mem ?_
    intro a b ha hb hab x hx y hy
    obtain ⟨s, hs, hsp⟩ := hroot a ha
    obtain ⟨r, hr, hrp⟩ := hroot b hb
    obtain ⟨_, u, hu, _, hus⟩ := (hp.visit_spec t.size hs).2 x hx
    obtain ⟨_, v, hv, hvr, _⟩ := (hp.visit_spec t.size hr).2 y hy
    exact hp.lt_of_siblings hs hr (hsp.trans hrp.symm) hab hu hv hus hvr

theorem mem_flatten (hp : Progress ls bound t []) {h : Nat} : h ∈ t.flatten ↔ h < t.size := by
  rw [flatten, hp.byFirstLine_roots]
  constructor
  · intro hh
    obtain ⟨r, hr, hhr⟩ := List.mem_flatMap.mp hh
    obtain ⟨_, w, hw, _⟩ := hp.mem_roots.mp hr
    obtain ⟨_, u, hu, _⟩ := (hp.visit_spec t.size hw).2 h hhr
    exact get?_lt hu
  · intro hlt
    have hs : t.get? h = some t.scopes[h] := List.getElem?_eq_getElem hlt
    have hlevel := hp.level_le hs
    exact hp.mem_visits hs (by omega)

/-- Once all scopes are closed they form a laminar forest. -/
theorem laminarForest (hp : Progress ls bound t []) : LaminarForest bound t where
  mem_children := by
    intro p q hq h
    simpa using hp.mem_children (h := h) hq
  mem_roots := by
    intro h
    simpa using hp.mem_roots (h := h)
  children_nodup := fun hq => (hp.children_sorted hq).imp Nat.ne_of_lt
  roots_nodup := hp.roots_sorted.imp Nat.ne_of_lt
  root_level := hp.root
  child := by
    intro h s p hs hsp
    obtain ⟨q, hq, hlt, hi, hl⟩ := hp.parent hs hsp
    exact ⟨q, hq, hl, hi, hp.first_lt hq hs hlt, hp.nested hs hsp hq List.not_mem_nil⟩
  range := fun hs => ⟨hp.first_le_last hs, hp.last_lt hs⟩
  disjoint := by
    intro a b s r hs hr hne hab hba
    rcases Nat.lt_or_gt_of_ne hne with hlt | hlt
    · exact .inl ((hp.apart hs hr hlt).resolve_left hab).2
    · exact .inr ((hp.apart hr hs hlt).resolve_left hba).2
  flatten_eq := by
    refine hp.flatten_sorted.eq_of_mem_iff List.pairwise_lt_range ?_
    intro h
    rw [hp.mem_flatten, List.mem_range]

end Progress

/-- Whatever the lines and the language, the scopes found in one pass form a laminar forest, and the
order of the tree is the order of opening. -/
theorem laminarForest_ofLines (language : Language) (ls : List Text) :
    (ofLines language ls).LaminarForest ls.length :=
  (Progress.ofLines language ls).laminarForest

end SourceChunks.ScopeTree
