import Mathlib.Data.List.Basic
import Mathlib.Data.List.Dedup
import Mathlib.Data.List.Induction
import SourceChunks.Relation.Basic

/-! Lists without repetitions: what is in them, that it stands in the order in which it first occurs, and that
renaming by a one-to-one function does not disturb them. Of several elements with one key the first stays, so that
adding the same elements once more changes nothing, and the order of elements with different keys does not matter. -/

namespace SourceChunks

/-- In a list whose members have distinct keys the key tells the place. -/
theorem place_eq_of_nodup_map {α β : Type} {key : α → β} {xs : List α} (h : (xs.map key).Nodup) {i j : Nat} {x y : α}
    (hi : xs[i]? = some x) (hj : xs[j]? = some y) (hkey : key x = key y) : i = j := by
  have hi' : (xs.map key)[i]? = some (key x) := by rw [List.getElem?_map, hi, Option.map_some]
  have hj' : (xs.map key)[j]? = some (key y) := by rw [List.getElem?_map, hj, Option.map_some]
  have hlt := (List.getElem?_eq_some_iff.mp hi').1
  exact (List.getElem?_inj hlt h).mp (hi'.trans (hkey ▸ hj'.symm))

section Distinct

variable {α β : Type} [BEq α] [LawfulBEq α] [BEq β] [LawfulBEq β]

theorem mem_addNew {seen : List α} {x y : α} : y ∈ addNew seen x ↔ y ∈ seen ∨ y = x := by
  unfold addNew
  split
  case isTrue h =>
    refine ⟨.inl, ?_⟩
    rintro (hy | rfl)
    · exact hy
    · exact List.contains_iff_mem.mp h
  case isFalse => rw [List.mem_append, List.mem_singleton]

theorem nodup_addNew {seen : List α} (h : seen.Nodup) (x : α) : (addNew seen x).Nodup := by
  unfold addNew
  split
  case isTrue => exact h
  case isFalse hx =>
    rw [List.contains_iff_mem] at hx
    refine List.nodup_append.mpr ⟨h, List.pairwise_singleton _ _, ?_⟩
    rintro y hy z hz rfl
    exact hx (List.mem_singleton.mp hz ▸ hy)

theorem mem_foldl_addNew {xs seen : List α} {y : α} : y ∈ xs.foldl addNew seen ↔ y ∈ seen ∨ y ∈ xs := by
  induction xs generalizing seen with
  | nil => simp
  | cons x xs ih => rw [List.foldl_cons, ih, mem_addNew, List.mem_cons, or_assoc]

theorem mem_distinct {xs : List α} {y : α} : y ∈ distinct xs ↔ y ∈ xs := by
  rw [distinct, mem_foldl_addNew]
  simp

/-- What is found first among the elements is found first in the list. -/
theorem findSome?_distinct {γ : Type} (f : α → Option γ) (xs : List α) : (distinct xs).findSome? f = xs.findSome? f := by
  have hadd (seen : List α) (x : α) : (addNew seen x).findSome? f = (seen.findSome? f).or (f x) := by
    unfold addNew
    split
    case isTrue hmem =>
      cases hseen : seen.findSome? f with
      | some b => rfl
      | none => exact (List.findSome?_eq_none_iff.mp hseen x (List.contains_iff_mem.mp hmem)).symm
    case isFalse => simp [List.findSome?_append]
  have hfold (seen : List α) : (xs.foldl addNew seen).findSome? f = (seen.findSome? f).or (xs.findSome? f) := by
    induction xs generalizing seen with
    | nil => exact Option.or_none.symm
    | cons x xs ih =>
      rw [List.foldl_cons, ih, hadd, Option.or_assoc, List.findSome?_cons]
      cases f x <;> rfl
  exact hfold []

theorem contains_map {f : α → β} (hf : Function.Injective f) (seen : List α) (x : α) :
    (seen.map f).contains (f x) = seen.contains x := by
  rw [Bool.eq_iff_iff, List.contains_iff_mem, List.contains_iff_mem, List.mem_map_of_injective hf]

theorem addNew_map {f : α → β} (hf : Function.Injective f) (seen : List α) (x : α) :
    addNew (seen.map f) (f x) = (addNew seen x).map f := by
  rw [addNew, contains_map hf, addNew]
  split <;> simp

theorem distinct_map {f : α → β} (hf : Function.Injective f) (xs : List α) :
    distinct (xs.map f) = (distinct xs).map f := by
  have hfold : xs.foldl (fun seen x => addNew seen (f x)) (List.map f []) = (xs.foldl addNew []).map f :=
    List.foldl_hom (List.map f) (addNew_map hf)
  rw [distinct, List.foldl_map]
  exact hfold

end Distinct

/-! ### Keys -/

section Keys

variable {α κ : Type} [BEq κ] {key : α → κ}

/-- `x` added at the end unless its key is there already. -/
def addByKey (key : α → κ) (seen : List α) (x : α) : List α :=
  if (seen.map key).contains (key x) then seen else seen ++ [x]

variable [LawfulBEq κ] {seen xs : List α}

theorem addByKey_of_mem {x : α} (h : key x ∈ seen.map key) : addByKey key seen x = seen :=
  if_pos (List.contains_iff_mem.mpr h)

theorem addByKey_of_not_mem {x : α} (h : key x ∉ seen.map key) : addByKey key seen x = seen ++ [x] :=
  if_neg fun hc => h (List.contains_iff_mem.mp hc)

theorem mem_keys_addByKey {x : α} {k : κ} :
    k ∈ (addByKey key seen x).map key ↔ k ∈ seen.map key ∨ k = key x := by
  by_cases h : key x ∈ seen.map key
  · rw [addByKey_of_mem h]
    refine ⟨.inl, ?_⟩
    rintro (hk | rfl)
    · exact hk
    · exact h
  · rw [addByKey_of_not_mem h, List.map_append, List.mem_append, List.map_singleton, List.mem_singleton]

theorem mem_keys_foldl_addByKey {k : κ} :
    k ∈ (xs.foldl (addByKey key) seen).map key ↔ k ∈ seen.map key ∨ k ∈ xs.map key := by
  induction xs generalizing seen with
  | nil => simp
  | cons x xs ih => rw [List.foldl_cons, ih, mem_keys_addByKey, List.map_cons, List.mem_cons, or_assoc]

theorem nodup_keys_foldl_addByKey (h : (seen.map key).Nodup) :
    ((xs.foldl (addByKey key) seen).map key).Nodup := by
  induction xs generalizing seen with
  | nil => exact h
  | cons x xs ih =>
    refine ih ?_
    by_cases hx : key x ∈ seen.map key
    · rwa [addByKey_of_mem hx]
    · rw [addByKey_of_not_mem hx, List.map_append, List.nodup_append]
      refine ⟨h, List.pairwise_singleton _ _, ?_⟩
      rintro k hk j hj rfl
      exact hx (List.mem_singleton.mp hj ▸ hk)

theorem foldl_addByKey_of_seen (h : ∀ x ∈ xs, key x ∈ seen.map key) : xs.foldl (addByKey key) seen = seen := by
  induction xs with
  | nil => rfl
  | cons x xs ih =>
    rw [List.foldl_cons, addByKey_of_mem (h x List.mem_cons_self)]
    exact ih fun y hy => h y (List.mem_cons_of_mem _ hy)

/-- Of elements with distinct keys exactly those with new keys are added. -/
theorem foldl_addByKey_of_nodup (h : (xs.map key).Nodup) :
    xs.foldl (addByKey key) seen = seen ++ xs.filter fun x => !(seen.map key).contains (key x) := by
  induction xs generalizing seen with
  | nil => simp
  | cons x xs ih =>
    obtain ⟨hx, hxs⟩ := List.nodup_cons.mp h
    rw [List.foldl_cons, ih hxs, List.filter_cons]
    by_cases hmem : key x ∈ seen.map key
    · rw [addByKey_of_mem hmem, if_neg (by simpa using hmem)]
    · rw [addByKey_of_not_mem hmem, if_pos (by simpa using hmem), List.append_assoc, List.singleton_append]
      congr 2
      refine List.filter_congr ?_
      intro y hy
      have hne : key y ≠ key x := fun he => hx (he ▸ List.mem_map_of_mem hy)
      simp [hne]

/-- Adding the same elements once more changes nothing. -/
theorem foldl_addByKey_absorb (xs ys : List α) :
    ((xs ++ ys).foldl (addByKey key) [] ++ ys).foldl (addByKey key) [] = (xs ++ ys).foldl (addByKey key) [] := by
  have hnodup : (((xs ++ ys).foldl (addByKey key) []).map key).Nodup := nodup_keys_foldl_addByKey List.nodup_nil
  rw [List.foldl_append, foldl_addByKey_of_nodup hnodup]
  simp only [List.map_nil, List.contains_nil, Bool.not_false, List.filter_true, List.nil_append]
  refine foldl_addByKey_of_seen ?_
  intro y hy
  rw [mem_keys_foldl_addByKey]
  exact .inr (List.mem_map_of_mem (List.mem_append_right _ hy))

/-- Groups of elements are added up to order if every group is given up to order and holds no key
twice. Only the order of the groups matters. -/
theorem foldl_addByKey_perm {gs hs : List (List α)} (h : List.Forall₂ List.Perm gs hs)
    (hn : ∀ g ∈ gs, (g.map key).Nodup) {seen seen' : List α} (hseen : seen.Perm seen') :
    (gs.flatten.foldl (addByKey key) seen).Perm (hs.flatten.foldl (addByKey key) seen') := by
  induction h generalizing seen seen' with
  | nil => exact hseen
  | @cons g g' gs hs hg _ ih =>
    have hnodup := hn g List.mem_cons_self
    have hkeys : (g'.map key).Nodup := (hg.map key).nodup_iff.mp hnodup
    have hfilter : (fun x => !(seen.map key).contains (key x)) = fun x => !(seen'.map key).contains (key x) := by
      funext x
      rw [(hseen.map key).contains_eq]
    rw [List.flatten_cons, List.foldl_append, List.flatten_cons, List.foldl_append]
    refine ih (fun g hg => hn g (List.mem_cons_of_mem _ hg)) ?_
    rw [foldl_addByKey_of_nodup hnodup, foldl_addByKey_of_nodup hkeys, hfilter]
    exact hseen.append (hg.filter _)

end Keys

section Distinct

variable {α : Type} [BEq α] [LawfulBEq α]

omit [LawfulBEq α] in
theorem distinct_eq_foldl (xs : List α) : distinct xs = xs.foldl (addByKey id) [] := by
  have hadd : (addNew : List α → α → List α) = addByKey id := by
    funext seen x
    rw [addNew, addByKey, List.map_id, id]
  rw [distinct, hadd]

theorem nodup_distinct (xs : List α) : (distinct xs).Nodup := by
  have h : ((xs.foldl (addByKey id) []).map id).Nodup := nodup_keys_foldl_addByKey List.nodup_nil
  rwa [List.map_id, ← distinct_eq_foldl] at h

theorem distinct_of_nodup {xs : List α} (h : xs.Nodup) : distinct xs = xs := by
  have hkeys : (xs.map id).Nodup := by rwa [List.map_id]
  rw [distinct_eq_foldl, foldl_addByKey_of_nodup hkeys]
  simp

theorem distinct_absorb (xs ys : List α) : distinct (distinct (xs ++ ys) ++ ys) = distinct (xs ++ ys) := by
  simp only [distinct_eq_foldl]
  exact foldl_addByKey_absorb xs ys

theorem distinct_perm {xs ys : List α} (h : xs.Perm ys) : (distinct xs).Perm (distinct ys) := by
  rw [List.perm_ext_iff_of_nodup (nodup_distinct xs) (nodup_distinct ys)]
  intro x
  rw [mem_distinct, mem_distinct, h.mem_iff]

end Distinct

section Dedup

variable {α : Type} [DecidableEq α]

theorem distinct_perm_dedup (xs : List α) : (distinct xs).Perm xs.dedup := by
  rw [List.perm_ext_iff_of_nodup (nodup_distinct xs) (List.nodup_dedup xs)]
  intro x
  rw [mem_distinct, List.mem_dedup]

/-- Distinct elements stand in the order in which they first occur. -/
theorem distinct_inOrder (xs : List α) : (distinct xs).Pairwise fun a b => xs.idxOf a < xs.idxOf b := by
  induction xs using List.reverseRecOn with
  | nil => exact .nil
  | append_singleton xs x ih =>
    have hdistinct : distinct (xs ++ [x]) = addNew (distinct xs) x := List.foldl_append
    have hold : (distinct xs).Pairwise fun a b => (xs ++ [x]).idxOf a < (xs ++ [x]).idxOf b := by
      refine ih.imp_of_mem fun ha hb hab => ?_
      rwa [List.idxOf_append_of_mem (mem_distinct.mp ha), List.idxOf_append_of_mem (mem_distinct.mp hb)]
    rw [hdistinct, addNew]
    split
    case isTrue => exact hold
    case isFalse hx =>
      rw [List.contains_iff_mem, mem_distinct] at hx
      refine List.pairwise_append.mpr ⟨hold, List.pairwise_singleton _ _, fun a ha b hb => ?_⟩
      obtain rfl := List.mem_singleton.mp hb
      have ha := mem_distinct.mp ha
      rw [List.idxOf_append_of_mem ha, List.idxOf_append_of_notMem hx]
      exact Nat.lt_add_right _ (List.idxOf_lt_length_of_mem ha)

end Dedup

/-! ### Relations -/

namespace Relation

theorem mem_of_mem_addNewKey {seen : List Relation} {r q : Relation} (h : q ∈ addNewKey seen r) :
    q ∈ seen ∨ q = r := by
  unfold addNewKey at h
  split at h
  · exact .inl h
  · simpa using h

theorem mem_of_mem_distinctKeys {rs : List Relation} {q : Relation} (h : q ∈ distinctKeys rs) : q ∈ rs := by
  have hfold : ∀ seen : List Relation, q ∈ rs.foldl addNewKey seen → q ∈ seen ∨ q ∈ rs := by
    clear h
    induction rs with
    | nil => exact fun seen hq => .inl hq
    | cons r rs ih =>
      intro seen hq
      rcases ih _ hq with hq | hq
      · rcases mem_of_mem_addNewKey hq with hq | rfl
        · exact .inl hq
        · exact .inr List.mem_cons_self
      · exact .inr (List.mem_cons_of_mem _ hq)
  simpa using hfold [] h

/-- A map that keeps apart what has different keys does not disturb relations with distinct keys. -/
theorem distinctKeys_map {f : Relation → Relation} (hf : ∀ r q, (f r).key = (f q).key ↔ r.key = q.key)
    (rs : List Relation) : distinctKeys (rs.map f) = (distinctKeys rs).map f := by
  have hstep (seen : List Relation) (r : Relation) :
      addNewKey (seen.map f) (f r) = (addNewKey seen r).map f := by
    have hany : ((seen.map f).any fun s => s.key == (f r).key) = seen.any fun s => s.key == r.key := by
      rw [List.any_map]
      congr 1
      funext q
      rw [Bool.eq_iff_iff, Function.comp_apply, beq_iff_eq, beq_iff_eq]
      exact hf q r
    rw [addNewKey, hany, addNewKey]
    split <;> simp
  have hfold : rs.foldl (fun seen r => addNewKey seen (f r)) (List.map f []) =
      (rs.foldl addNewKey []).map f := List.foldl_hom (List.map f) hstep
  rw [distinctKeys, List.foldl_map]
  exact hfold

theorem distinctKeys_eq_foldl (rs : List Relation) : distinctKeys rs = rs.foldl (addByKey key) [] := by
  have hadd : addNewKey = addByKey key := by
    funext seen r
    have hany : (seen.any fun s => s.key == r.key) = (seen.map key).contains r.key := by
      rw [Bool.eq_iff_iff, List.contains_iff_mem, List.any_eq_true, List.mem_map]
      simp only [beq_iff_eq]
    rw [addNewKey, hany, addByKey]
  rw [distinctKeys, hadd]

theorem distinctKeys_of_nodup {rs : List Relation} (h : (rs.map key).Nodup) : distinctKeys rs = rs := by
  rw [distinctKeys_eq_foldl, foldl_addByKey_of_nodup h]
  simp

theorem distinctKeys_absorb (rs qs : List Relation) :
    distinctKeys (distinctKeys (rs ++ qs) ++ qs) = distinctKeys (rs ++ qs) := by
  simp only [distinctKeys_eq_foldl]
  exact foldl_addByKey_absorb rs qs

theorem distinctKeys_perm {gs hs : List (List Relation)} (h : List.Forall₂ List.Perm gs hs)
    (hn : ∀ g ∈ gs, (g.map key).Nodup) : (distinctKeys gs.flatten).Perm (distinctKeys hs.flatten) := by
  simp only [distinctKeys_eq_foldl]
  exact foldl_addByKey_perm h hn (.refl [])

end Relation

end SourceChunks
