import Mathlib.Data.List.Count
import SourceChunks.Proofs.Distinct
import SourceChunks.Validation.Summary

/-! The most frequent codes of a batch. Distinct codes stand in the order in which they first occur, and sorting them
by frequency leaves equally frequent ones in that order. So a listed code comes before every other one that is less
frequent, or as frequent and later, listed or not. -/

namespace SourceChunks

namespace Validation

section Ranking

variable {α : Type} [DecidableEq α]

/-- `a` occurs more often in the list than `b`, or as often and earlier. -/
def Outranks (xs : List α) (a b : α) : Prop :=
  xs.count b < xs.count a ∨ xs.count a = xs.count b ∧ xs.idxOf a < xs.idxOf b

/-- `listed` are the `count` most frequent elements of a list, in order. -/
structure TopRanked (count : Nat) (xs listed : List α) : Prop where
  nodup : listed.Nodup
  length : listed.length = min count xs.dedup.length
  subset : listed ⊆ xs
  ranked : listed.Pairwise (Outranks xs)
  others : ∀ a ∈ listed, ∀ b ∈ xs, b ∉ listed → Outranks xs a b

/-- All distinct elements, the most frequent first. -/
def ranking (xs : List α) : List α := (distinct xs).mergeSort fun a b => xs.count b ≤ xs.count a

theorem ranking_perm (xs : List α) : (ranking xs).Perm (distinct xs) := List.mergeSort_perm _ _

theorem nodup_ranking (xs : List α) : (ranking xs).Nodup := (ranking_perm xs).nodup_iff.mpr (nodup_distinct xs)

theorem mem_ranking {xs : List α} {a : α} : a ∈ ranking xs ↔ a ∈ xs := (ranking_perm xs).mem_iff.trans mem_distinct

omit [DecidableEq α] in
theorem moreFrequent_trans (n : α → Nat) (a b c : α) (hab : decide (n b ≤ n a) = true)
    (hbc : decide (n c ≤ n b) = true) : decide (n c ≤ n a) = true := by
  simp only [decide_eq_true_eq] at *
  omega

omit [DecidableEq α] in
theorem moreFrequent_total (n : α → Nat) (a b : α) : (decide (n b ≤ n a) || decide (n a ≤ n b)) = true := by
  simp only [Bool.or_eq_true, decide_eq_true_eq]
  omega

section

variable {xs : List α} {a b : α}

theorem count_le_of_sublist_ranking (h : [a, b].Sublist (ranking xs)) : xs.count b ≤ xs.count a := by
  have hsorted := List.pairwise_mergeSort (moreFrequent_trans (xs.count ·)) (moreFrequent_total (xs.count ·))
    (distinct xs)
  exact of_decide_eq_true (List.pairwise_iff_forall_sublist.mp hsorted h)

/-- Sorting does not swap two elements that are in order already. -/
theorem sublist_ranking_of_le (hle : xs.count b ≤ xs.count a) (h : [a, b].Sublist (distinct xs)) :
    [a, b].Sublist (ranking xs) :=
  List.pair_sublist_mergeSort (moreFrequent_trans (xs.count ·)) (moreFrequent_total (xs.count ·)) (decide_eq_true hle) h

/-- Two elements stand in the ranking in one order only. -/
theorem idxOf_lt_of_sublist_ranking (h : [a, b].Sublist (ranking xs)) :
    (ranking xs).idxOf a < (ranking xs).idxOf b := by
  have hplaces := distinct_inOrder (ranking xs)
  rw [distinct_of_nodup (nodup_ranking xs)] at hplaces
  exact List.pairwise_iff_forall_sublist.mp hplaces h

/-- Of two equally frequent elements the one that stands first in the ranking occurs first. -/
theorem idxOf_lt_of_count_eq (h : [a, b].Sublist (ranking xs)) (heq : xs.count a = xs.count b) :
    xs.idxOf a < xs.idxOf b := by
  have hbefore := idxOf_lt_of_sublist_ranking h
  have ha : a ∈ distinct xs := (ranking_perm xs).mem_iff.mp (h.subset (by simp))
  have hb : b ∈ distinct xs := (ranking_perm xs).mem_iff.mp (h.subset (by simp))
  obtain ⟨front, back, hparts⟩ := List.append_of_mem ha
  rw [hparts, List.mem_append, List.mem_cons] at hb
  rcases hb with hfront | rfl | hback
  · -- then the sorting would have left `b` before `a`
    have hba : [b, a].Sublist (distinct xs) := by
      rw [hparts]
      exact (List.singleton_sublist.mpr hfront).append (List.singleton_sublist.mpr List.mem_cons_self)
    have hafter := idxOf_lt_of_sublist_ranking (sublist_ranking_of_le (Nat.le_of_eq heq) hba)
    omega
  · exact absurd hbefore (Nat.lt_irrefl _)
  · have horder := distinct_inOrder xs
    rw [hparts, List.pairwise_append, List.pairwise_cons] at horder
    exact horder.2.1.1 b hback

end

/-- Every element of the ranking outranks those behind it. -/
theorem ranking_ranked (xs : List α) : (ranking xs).Pairwise (Outranks xs) := by
  rw [List.pairwise_iff_forall_sublist]
  intro a b hab
  rcases Nat.lt_or_eq_of_le (count_le_of_sublist_ranking hab) with hlt | heq
  · exact .inl hlt
  · exact .inr ⟨heq.symm, idxOf_lt_of_count_eq hab heq.symm⟩

theorem mostCommon_topRanked (count : Nat) (xs : List α) : TopRanked count xs (mostCommon count xs) where
  nodup := (nodup_ranking xs).sublist (List.take_sublist count _)
  length := by
    rw [mostCommon, List.length_take, List.length_mergeSort, (distinct_perm_dedup xs).length_eq]
  subset := fun a ha => mem_ranking.mp (List.mem_of_mem_take ha)
  ranked := (ranking_ranked xs).sublist (List.take_sublist count _)
  others := by
    intro a ha b hb hnot
    have hparts := ranking_ranked xs
    rw [← List.take_append_drop count (ranking xs), List.pairwise_append] at hparts
    refine hparts.2.2 a ha b ?_
    have hmem := mem_ranking.mpr hb
    rw [← List.take_append_drop count (ranking xs), List.mem_append] at hmem
    exact hmem.resolve_left hnot

end Ranking

/-! ### Batches -/

/-- The summary counts the results that say that they are valid, and lists the five most frequent codes of the errors
and of the warnings in all of them. -/
theorem summarise_topRanked {κ : Type} [DecidableEq κ] (rs : List (ValidationResult κ)) :
    (summarise rs).total = rs.length ∧ (summarise rs).valid = rs.countP (·.isValid) ∧
      (summarise rs).valid + (summarise rs).invalid = (summarise rs).total ∧
      TopRanked 5 (rs.flatMap fun r => r.findings.errors.map (·.code)) (summarise rs).commonErrors ∧
      TopRanked 5 (rs.flatMap fun r => r.findings.warnings.map (·.code)) (summarise rs).commonWarnings :=
  ⟨rfl, rfl, Nat.add_sub_of_le List.countP_le_length, mostCommon_topRanked 5 _, mostCommon_topRanked 5 _⟩

/-- Of chunks that were checked, those without errors count as valid. -/
theorem valid_summarise_validate (cs : List UncheckedChunk) :
    (summarise (cs.map validate)).valid = cs.countP fun c => (findings c).errors.isEmpty :=
  List.countP_map

end Validation

end SourceChunks
