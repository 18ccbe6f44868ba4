import Mathlib.Data.List.Basic
import Mathlib.Tactic.ByContra
import SourceChunks.Syntax.Tree

/-! Places in a syntax tree: a place is the list of indices of the children that lead to it. Where the spans of
children lie inside their parent's and do not overlap, what stands at a place lies inside everything above it, and
what stands at two places neither of which is above the other does not overlap. -/

namespace SourceChunks.SyntaxTree

/-- The tree at a place, unless the place is outside the tree. -/
def at? (t : SyntaxTree) : List Nat → Option SyntaxTree
  | [] => some t
  | i :: p => t.children[i]?.bind fun c => c.at? p

/-- Place `p` is on the way to place `q` and not `q` itself. -/
def Above (p q : List Nat) : Prop := ∃ i r, q = p ++ i :: r

@[simp] theorem at?_nil (t : SyntaxTree) : t.at? [] = some t := rfl

theorem at?_cons_eq_some_iff {t u : SyntaxTree} {i : Nat} {p : List Nat} :
    t.at? (i :: p) = some u ↔ ∃ c, t.children[i]? = some c ∧ c.at? p = some u := Option.bind_eq_some_iff

theorem at?_append (t : SyntaxTree) (p q : List Nat) : t.at? (p ++ q) = (t.at? p).bind (·.at? q) := by
  induction p generalizing t with
  | nil => rfl
  | cons i p ih =>
    rw [List.cons_append, at?, at?]
    cases t.children[i]? with
    | none => rfl
    | some c => exact ih c

/-- What stands at a place is reached from everything on the way to it. -/
theorem exists_at?_of_append {t u : SyntaxTree} {p q : List Nat} (h : t.at? (p ++ q) = some u) :
    ∃ v, t.at? p = some v ∧ v.at? q = some u := by
  rw [at?_append] at h
  exact Option.bind_eq_some_iff.mp h

/-! ### Above -/

theorem above_nil_cons (i : Nat) (p : List Nat) : Above [] (i :: p) := ⟨i, p, rfl⟩

theorem not_above_nil (p : List Nat) : ¬ Above p [] := by
  rintro ⟨i, r, h⟩
  simp at h

theorem above_cons_iff {i j : Nat} {p q : List Nat} : Above (i :: p) (j :: q) ↔ i = j ∧ Above p q := by
  constructor
  · rintro ⟨k, r, h⟩
    obtain ⟨rfl, rfl⟩ := List.cons.inj h
    exact ⟨rfl, k, r, rfl⟩
  · rintro ⟨rfl, k, r, rfl⟩
    exact ⟨k, r, rfl⟩

/-- Two places are the same, or one is above the other, or the ways to them part at some place. -/
theorem places_cases (p q : List Nat) :
    p = q ∨ Above p q ∨ Above q p ∨ ∃ r i j p' q', i ≠ j ∧ p = r ++ i :: p' ∧ q = r ++ j :: q' := by
  induction p generalizing q with
  | nil =>
    cases q with
    | nil => exact .inl rfl
    | cons j q => exact .inr (.inl (above_nil_cons j q))
  | cons i p ih =>
    cases q with
    | nil => exact .inr (.inr (.inl (above_nil_cons i p)))
    | cons j q =>
      by_cases hij : i = j
      · subst hij
        rcases ih q with rfl | h | h | ⟨r, k, l, p', q', hne, rfl, rfl⟩
        · exact .inl rfl
        · exact .inr (.inl (above_cons_iff.mpr ⟨rfl, h⟩))
        · exact .inr (.inr (.inl (above_cons_iff.mpr ⟨rfl, h⟩)))
        · exact .inr (.inr (.inr ⟨i :: r, k, l, p', q', hne, rfl, rfl⟩))
      · exact .inr (.inr (.inr ⟨[], i, j, p, q, hij, rfl, rfl⟩))

/-! ### Spans -/

/-- The character behind `offset` others belongs to the tree. -/
def Covers (t : SyntaxTree) (offset : Nat) : Prop := t.start.offset ≤ offset ∧ offset < t.stop.offset

/-- The spans do not overlap. -/
def Apart (t u : SyntaxTree) : Prop := ∀ offset, t.Covers offset → ¬ u.Covers offset

/-- The span of `u` lies inside that of `t`, in characters and in lines. -/
structure Within (u t : SyntaxTree) : Prop where
  start : t.start.offset ≤ u.start.offset
  stop : u.stop.offset ≤ t.stop.offset
  firstRow : t.start.row ≤ u.start.row
  lastRow : u.stop.row ≤ t.stop.row

/-- Everywhere in the tree the children lie inside their parent and do not overlap each other. -/
def Nested (t : SyntaxTree) : Prop :=
  ∀ p u, t.at? p = some u → (∀ c ∈ u.children, c.Within u) ∧ u.children.Pairwise Apart

theorem Apart.symm {t u : SyntaxTree} (h : t.Apart u) : u.Apart t := fun offset hu ht => h offset ht hu

theorem Within.refl (t : SyntaxTree) : t.Within t := ⟨Nat.le_refl _, Nat.le_refl _, Nat.le_refl _, Nat.le_refl _⟩

theorem Within.trans {t u v : SyntaxTree} (h : v.Within u) (h' : u.Within t) : v.Within t :=
  ⟨Nat.le_trans h'.start h.start, Nat.le_trans h.stop h'.stop, Nat.le_trans h'.firstRow h.firstRow,
    Nat.le_trans h.lastRow h'.lastRow⟩

theorem Within.covers {t u : SyntaxTree} (h : u.Within t) {offset : Nat} (hu : u.Covers offset) : t.Covers offset :=
  ⟨Nat.le_trans h.start hu.1, Nat.lt_of_lt_of_le hu.2 h.stop⟩

theorem Apart.of_within {t u t' u' : SyntaxTree} (h : t.Apart u) (ht : t'.Within t) (hu : u'.Within u) :
    t'.Apart u' :=
  fun offset ht' hu' => h offset (ht.covers ht') (hu.covers hu')

theorem within_iff {t u : SyntaxTree} : u.Within t ↔ t.start.offset ≤ u.start.offset ∧
    u.stop.offset ≤ t.stop.offset ∧ t.start.row ≤ u.start.row ∧ u.stop.row ≤ t.stop.row :=
  ⟨fun h => ⟨h.start, h.stop, h.firstRow, h.lastRow⟩, fun ⟨h₁, h₂, h₃, h₄⟩ => ⟨h₁, h₂, h₃, h₄⟩⟩

/-- Spans do not overlap if one of them is empty or one ends before the other starts. -/
theorem apart_iff {t u : SyntaxTree} :
    t.Apart u ↔ min t.stop.offset u.stop.offset ≤ max t.start.offset u.start.offset := by
  constructor
  · intro h
    by_contra hlt
    exact h (max t.start.offset u.start.offset) ⟨by omega, by omega⟩ ⟨by omega, by omega⟩
  · rintro h offset ⟨ht, ht'⟩ ⟨hu, hu'⟩
    omega

instance (t u : SyntaxTree) : Decidable (u.Within t) := decidable_of_iff _ within_iff.symm

instance (t u : SyntaxTree) : Decidable (t.Apart u) := decidable_of_iff _ apart_iff.symm

/-- It is enough to look at the children of the root and into each of them. -/
theorem nested_iff {t : SyntaxTree} :
    t.Nested ↔ (∀ c ∈ t.children, c.Within t) ∧ t.children.Pairwise Apart ∧ ∀ c ∈ t.children, c.Nested := by
  constructor
  · intro h
    refine ⟨(h [] t rfl).1, (h [] t rfl).2, fun c hc p u hu => ?_⟩
    obtain ⟨i, hi⟩ := List.mem_iff_getElem?.mp hc
    exact h (i :: p) u (at?_cons_eq_some_iff.mpr ⟨c, hi, hu⟩)
  · rintro ⟨hwithin, hapart, hbelow⟩ p u hu
    cases p with
    | nil =>
      obtain rfl := Option.some.inj hu
      exact ⟨hwithin, hapart⟩
    | cons i p =>
      obtain ⟨c, hc, hu⟩ := at?_cons_eq_some_iff.mp hu
      exact hbelow c (List.mem_of_getElem? hc) p u hu

namespace Nested

variable {t u v : SyntaxTree} {p q : List Nat}

theorem at? (h : t.Nested) (hu : t.at? p = some u) : u.Nested := by
  intro q v hv
  refine h (p ++ q) v ?_
  rw [at?_append, hu, Option.bind_some, hv]

theorem within (h : t.Nested) (hu : t.at? p = some u) : u.Within t := by
  induction p generalizing t with
  | nil =>
    obtain rfl := Option.some.inj hu
    exact .refl t
  | cons i p ih =>
    obtain ⟨c, hc, hu⟩ := at?_cons_eq_some_iff.mp hu
    obtain ⟨hwithin, -, hbelow⟩ := nested_iff.mp h
    have hmem := List.mem_of_getElem? hc
    exact (ih (hbelow c hmem) hu).trans (hwithin c hmem)

/-- What is above something contains it. -/
theorem within_of_above (h : t.Nested) (hu : t.at? p = some u) (hv : t.at? q = some v) (hpq : Above p q) :
    v.Within u := by
  obtain ⟨i, r, rfl⟩ := hpq
  obtain ⟨w, hw, hv⟩ := exists_at?_of_append hv
  obtain rfl := Option.some.inj (hu.symm.trans hw)
  exact (h.at? hu).within hv

/-- Behind a place where the ways part nothing overlaps. -/
theorem apart_of_parting (h : t.Nested) {i j : Nat} (hij : i ≠ j) (hu : t.at? (i :: p) = some u)
    (hv : t.at? (j :: q) = some v) : u.Apart v := by
  obtain ⟨c, hc, hu⟩ := at?_cons_eq_some_iff.mp hu
  obtain ⟨d, hd, hv⟩ := at?_cons_eq_some_iff.mp hv
  obtain ⟨-, hapart, hbelow⟩ := nested_iff.mp h
  have hcd : c.Apart d := by
    obtain ⟨hi, rfl⟩ := List.getElem?_eq_some_iff.mp hc
    obtain ⟨hj, rfl⟩ := List.getElem?_eq_some_iff.mp hd
    rw [List.pairwise_iff_getElem] at hapart
    rcases Nat.lt_or_gt_of_ne hij with hlt | hgt
    · exact hapart i j hi hj hlt
    · exact (hapart j i hj hi hgt).symm
  exact hcd.of_within ((hbelow c (List.mem_of_getElem? hc)).within hu)
    ((hbelow d (List.mem_of_getElem? hd)).within hv)

/-- Of two places neither of which is above the other, what stands there does not overlap. -/
theorem apart (h : t.Nested) (hu : t.at? p = some u) (hv : t.at? q = some v) (hne : p ≠ q) (hpq : ¬ Above p q)
    (hqp : ¬ Above q p) : u.Apart v := by
  obtain rfl | habove | habove | ⟨r, i, j, p', q', hij, rfl, rfl⟩ := places_cases p q
  · exact absurd rfl hne
  · exact absurd habove hpq
  · exact absurd habove hqp
  · obtain ⟨w, hw, hu⟩ := exists_at?_of_append hu
    obtain ⟨w', hw', hv⟩ := exists_at?_of_append hv
    obtain rfl := Option.some.inj (hw.symm.trans hw')
    exact (h.at? hw).apart_of_parting hij hu hv

end Nested

end SourceChunks.SyntaxTree
