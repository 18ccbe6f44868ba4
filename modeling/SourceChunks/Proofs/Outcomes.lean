import Mathlib.Data.List.Forall2
import SourceChunks.Failure

/-! Lists of computations that can fail. A list succeeds if and only if every member does, and two
computations agree when both fail or both succeed with related results. -/

namespace SourceChunks

variable {α β γ δ : Type}

/-- A computation succeeds only if its first step does. -/
theorem exists_of_bind_eq_ok {x : Except Failure α} {f : α → Except Failure β} {b : β}
    (h : x >>= f = .ok b) : ∃ a, x = .ok a ∧ f a = .ok b := by
  cases x with
  | error e => cases h
  | ok a => exact ⟨a, rfl, h⟩

/-! ### Lists -/

/-- A list succeeds with the results of its members. -/
theorem mapM_eq_ok_iff {f : α → Except Failure β} {xs : List α} {ys : List β} :
    xs.mapM f = .ok ys ↔ List.Forall₂ (fun x y => f x = .ok y) xs ys := by
  induction xs generalizing ys with
  | nil =>
    rw [List.forall₂_nil_left_iff]
    exact ⟨fun h => (Except.ok.inj h).symm, fun h => h ▸ rfl⟩
  | cons x xs ih =>
    rw [List.mapM_cons, List.forall₂_cons_left_iff]
    constructor
    · intro h
      obtain ⟨y, hy, h⟩ := exists_of_bind_eq_ok h
      obtain ⟨ys', hys, h⟩ := exists_of_bind_eq_ok h
      exact ⟨y, ys', hy, ih.mp hys, (Except.ok.inj h).symm⟩
    · rintro ⟨y, ys', hy, hys, rfl⟩
      rw [hy, ih.mpr hys]
      rfl

theorem mapM_eq_ok {f : α → Except Failure β} {g : α → β} {xs : List α}
    (h : ∀ x ∈ xs, f x = .ok (g x)) : xs.mapM f = .ok (xs.map g) :=
  mapM_eq_ok_iff.mpr (List.forall₂_map_right_iff.mpr (List.forall₂_same.mpr h))

theorem exists_mapM_eq_ok {f : α → Except Failure β} {xs : List α} (h : ∀ x ∈ xs, ∃ y, f x = .ok y) :
    ∃ ys, xs.mapM f = .ok ys := by
  induction xs with
  | nil => exact ⟨[], rfl⟩
  | cons x xs ih =>
    obtain ⟨y, hy⟩ := h x List.mem_cons_self
    obtain ⟨ys, hys⟩ := ih fun z hz => h z (List.mem_cons_of_mem _ hz)
    exact ⟨y :: ys, mapM_eq_ok_iff.mpr (.cons hy (mapM_eq_ok_iff.mp hys))⟩

theorem getElem?_of_mapM_eq_ok {f : α → Except Failure β} {xs : List α} {ys : List β} (h : xs.mapM f = .ok ys)
    {i : Nat} {x : α} (hx : xs[i]? = some x) : ∃ y, ys[i]? = some y ∧ f x = .ok y := by
  obtain ⟨hlength, hget⟩ := List.forall₂_iff_get.mp (mapM_eq_ok_iff.mp h)
  obtain ⟨hi, rfl⟩ := List.getElem?_eq_some_iff.mp hx
  have hi' : i < ys.length := hlength ▸ hi
  exact ⟨ys[i], List.getElem?_eq_getElem hi', hget i hi hi'⟩

theorem exists_of_mem_right {R : α → β → Prop} {xs : List α} {ys : List β} (h : List.Forall₂ R xs ys) {y : β}
    (hy : y ∈ ys) : ∃ x ∈ xs, R x y := by
  induction h with
  | nil => cases hy
  | cons hxy _ ih =>
    rcases List.mem_cons.mp hy with rfl | hy
    · exact ⟨_, List.mem_cons_self, hxy⟩
    · obtain ⟨x, hx, hR⟩ := ih hy
      exact ⟨x, List.mem_cons_of_mem _ hx, hR⟩

theorem mapM_map_ok (k : β → γ) (p : α → Except Failure β) (xs : List α) :
    xs.mapM (fun x => k <$> p x) = (·.map k) <$> xs.mapM p := by
  induction xs with
  | nil => rfl
  | cons x xs ih =>
    rw [List.mapM_cons, List.mapM_cons, ih]
    cases p x with
    | error e => rfl
    | ok y =>
      cases xs.mapM p with
      | error e => rfl
      | ok ys => rfl

/-- The test succeeds and says yes. -/
def accepts (p : α → Except Failure Bool) (x : α) : Bool :=
  match p x with
  | .ok b => b
  | .error _ => false

theorem filterAuxM_eq_ok_iff {p : α → Except Failure Bool} {xs acc zs : List α} :
    xs.filterAuxM p acc = .ok zs ↔
      (∀ x ∈ xs, ∃ b, p x = .ok b) ∧ (xs.filter (accepts p)).reverse ++ acc = zs := by
  induction xs generalizing acc with
  | nil => simp [List.filterAuxM, pure, Except.pure]
  | cons x xs ih =>
    rw [List.filterAuxM]
    cases hx : p x with
    | error e => simp [hx, bind, Except.bind]
    | ok b => cases b <;> simp [hx, accepts, bind, Except.bind, ih]

/-- A list is filtered if and only if every member can be tested. -/
theorem filterM_eq_ok_iff {p : α → Except Failure Bool} {xs zs : List α} :
    xs.filterM p = .ok zs ↔ (∀ x ∈ xs, ∃ b, p x = .ok b) ∧ xs.filter (accepts p) = zs := by
  have haux (ys : List α) :
      xs.filterAuxM p [] = .ok ys ↔ (∀ x ∈ xs, ∃ b, p x = .ok b) ∧ (xs.filter (accepts p)).reverse = ys := by
    rw [filterAuxM_eq_ok_iff, List.append_nil]
  rw [List.filterM]
  constructor
  · intro h
    obtain ⟨ys, hys, h⟩ := exists_of_bind_eq_ok h
    obtain ⟨hall, rfl⟩ := (haux ys).mp hys
    exact ⟨hall, by simpa using Except.ok.inj h⟩
  · rintro ⟨hall, rfl⟩
    rw [(haux _).mpr ⟨hall, rfl⟩]
    exact congrArg Except.ok (List.reverse_reverse _)

theorem filterM_eq_nil {p : α → Except Failure Bool} {xs : List α} (h : ∀ x ∈ xs, p x = .ok false) :
    xs.filterM p = .ok [] := by
  refine filterM_eq_ok_iff.mpr ⟨fun x hx => ⟨false, h x hx⟩, ?_⟩
  rw [List.filter_eq_nil_iff]
  intro x hx
  rw [accepts, h x hx]
  exact Bool.false_ne_true

theorem filterM_map (f : α → β) (p : β → Except Failure Bool) (xs : List α) :
    (xs.map f).filterM p = (·.map f) <$> xs.filterM fun x => p (f x) := by
  have haux (acc : List α) : (xs.map f).filterAuxM p (acc.map f) =
      (·.map f) <$> xs.filterAuxM (fun x => p (f x)) acc := by
    induction xs generalizing acc with
    | nil => rfl
    | cons x xs ih =>
      rw [List.map_cons, List.filterAuxM, List.filterAuxM, map_bind]
      refine bind_congr fun b => ?_
      cases b with
      | false => exact ih acc
      | true => exact ih (x :: acc)
  have hnil := haux []
  rw [List.map_nil] at hnil
  rw [List.filterM, hnil, List.filterM, map_bind, bind_map_left]
  refine bind_congr fun ys => ?_
  rw [map_pure, List.map_reverse]

/-! ### Failures -/

/-- The failure of a computation, if it fails. -/
def failure? : Except Failure α → Option Failure
  | .ok _ => none
  | .error e => some e

theorem failure?_eq_some_iff {x : Except Failure α} {e : Failure} : failure? x = some e ↔ x = .error e := by
  cases x <;> simp [failure?]

theorem failure?_map (f : α → β) (x : Except Failure α) : failure? (f <$> x) = failure? x := by
  cases x <;> rfl

/-- A list fails the way its first member that fails does. -/
theorem failure?_mapM (f : α → Except Failure β) (xs : List α) :
    failure? (xs.mapM f) = xs.findSome? fun x => failure? (f x) := by
  induction xs with
  | nil => rfl
  | cons x xs ih =>
    rw [List.mapM_cons, List.findSome?_cons]
    cases f x with
    | error e => rfl
    | ok y =>
      show failure? (xs.mapM f >>= fun ys => pure (y :: ys)) = _
      rw [bind_pure_comp, failure?_map, ih]
      rfl

theorem failure?_filterM (p : α → Except Failure Bool) (xs : List α) :
    failure? (xs.filterM p) = xs.findSome? fun x => failure? (p x) := by
  have haux (acc : List α) : failure? (xs.filterAuxM p acc) = xs.findSome? fun x => failure? (p x) := by
    induction xs generalizing acc with
    | nil => rfl
    | cons x xs ih =>
      rw [List.filterAuxM, List.findSome?_cons]
      cases p x with
      | error e => rfl
      | ok b => exact ih _
  rw [List.filterM, bind_pure_comp, failure?_map, haux]

/-! ### Agreement -/

/-- Both computations fail, or both succeed with related results. -/
inductive Agree (R : α → β → Prop) : Except Failure α → Except Failure β → Prop where
  | error (e e' : Failure) : Agree R (.error e) (.error e')
  | ok {a : α} {b : β} (h : R a b) : Agree R (.ok a) (.ok b)

namespace Agree

variable {R : α → β → Prop} {Q : γ → δ → Prop} {x : Except Failure α} {y : Except Failure β}

/-- If both succeed together, only the results matter. -/
theorem of_ok_iff (hiff : (∃ a, x = .ok a) ↔ ∃ b, y = .ok b) (h : ∀ a b, x = .ok a → y = .ok b → R a b) :
    Agree R x y := by
  cases x with
  | error e =>
    cases y with
    | error e' => exact .error e e'
    | ok b =>
      obtain ⟨a, ha⟩ := hiff.mpr ⟨b, rfl⟩
      cases ha
  | ok a =>
    obtain ⟨b, rfl⟩ := hiff.mp ⟨a, rfl⟩
    exact .ok (h a b rfl rfl)

theorem exists_ok (h : Agree R x y) {a : α} (hx : x = .ok a) : ∃ b, y = .ok b ∧ R a b := by
  cases h with
  | error e e' => cases hx
  | ok h =>
    obtain rfl := Except.ok.inj hx
    exact ⟨_, rfl, h⟩

theorem bind (h : Agree R x y) {f : α → Except Failure γ} {k : β → Except Failure δ}
    (hf : ∀ a b, R a b → Agree Q (f a) (k b)) : Agree Q (x >>= f) (y >>= k) := by
  cases h with
  | error e e' => exact .error e e'
  | ok h => exact hf _ _ h

theorem map (h : Agree R x y) {f : α → γ} {k : β → δ} (hf : ∀ a b, R a b → Q (f a) (k b)) :
    Agree Q (f <$> x) (k <$> y) := by
  cases h with
  | error e e' => exact .error e e'
  | ok h => exact .ok (hf _ _ h)

theorem mapM {f : γ → Except Failure α} {k : γ → Except Failure β} {xs : List γ}
    (h : ∀ x ∈ xs, Agree R (f x) (k x)) : Agree (List.Forall₂ R) (xs.mapM f) (xs.mapM k) := by
  induction xs with
  | nil => exact .ok .nil
  | cons x xs ih =>
    rw [List.mapM_cons, List.mapM_cons]
    refine (h x List.mem_cons_self).bind fun a b hab => ?_
    refine (ih fun z hz => h z (List.mem_cons_of_mem _ hz)).bind fun as bs hs => ?_
    exact .ok (.cons hab hs)

/-- Filtering the same members in another order. -/
theorem filterM {p : α → Except Failure Bool} {xs ys : List α} (h : xs.Perm ys) :
    Agree (fun zs ws => zs.Sublist xs ∧ zs.Perm ws) (xs.filterM p) (ys.filterM p) := by
  refine of_ok_iff ?_ ?_
  · constructor
    · rintro ⟨zs, hzs⟩
      have hall := (filterM_eq_ok_iff.mp hzs).1
      exact ⟨_, filterM_eq_ok_iff.mpr ⟨fun x hx => hall x (h.mem_iff.mpr hx), rfl⟩⟩
    · rintro ⟨zs, hzs⟩
      have hall := (filterM_eq_ok_iff.mp hzs).1
      exact ⟨_, filterM_eq_ok_iff.mpr ⟨fun x hx => hall x (h.mem_iff.mp hx), rfl⟩⟩
  · intro as bs has hbs
    rw [← (filterM_eq_ok_iff.mp has).2, ← (filterM_eq_ok_iff.mp hbs).2]
    exact ⟨List.filter_sublist, h.filter _⟩

end Agree

end SourceChunks
