import Mathlib.Data.List.Nodup
import Mathlib.Data.List.Perm.Subperm
import SourceChunks.Chunk.Basic
import SourceChunks.Proofs.Distinct

/-! Identities of chunks. The search for a free number ends with one, so the identities of a list are
distinct; and a text put before all wanted identities comes before all allocated ones, since they
are compared with each other only. -/

namespace SourceChunks.ChunkId

theorem ofNat_injective {m n : Nat} (h : Text.ofNat m = Text.ofNat n) : m = n := by
  have hh := congrArg (fun t => Nat.ofDigitChars 10 t 0) h
  simpa only [Text.ofNat, Nat.ofDigitChars_ten_toDigits] using hh

theorem numbered_injective (id : Text) : Function.Injective (numbered id) := by
  intro m n h
  exact ofNat_injective (List.append_cancel_left h)

/-! ### Free identities -/

/-- A search that ends with a taken identity found all numbers taken. -/
theorem numbered_mem_of_freshFrom_mem {seen : List Text} {id : Text} {fuel n : Nat}
    (h : freshFrom seen id fuel n ∈ seen) {k : Nat} (hn : n ≤ k) (hk : k ≤ n + fuel) :
    numbered id k ∈ seen := by
  induction fuel generalizing n with
  | zero =>
    obtain rfl : k = n := by omega
    exact h
  | succ fuel ih =>
    rw [freshFrom] at h
    split at h
    case isTrue hc =>
      by_cases he : k = n
      · subst he
        exact List.contains_iff_mem.mp hc
      · exact ih h (by omega) (by omega)
    case isFalse hc => exact absurd (List.contains_iff_mem.mpr h) hc

theorem fresh_not_mem (seen : List Text) (id : Text) : fresh seen id ∉ seen := by
  unfold fresh
  split
  case isFalse hc => exact fun h => hc (List.contains_iff_mem.mpr h)
  case isTrue =>
    intro h
    -- more numbered identities than there are taken ones
    have hsub : (List.range' 1 (seen.length + 1)).map (numbered id) ⊆ seen := by
      intro x hx
      obtain ⟨k, hk, rfl⟩ := List.mem_map.mp hx
      rw [List.mem_range'_1] at hk
      exact numbered_mem_of_freshFrom_mem h hk.1 (by omega)
    have hnodup : ((List.range' 1 (seen.length + 1)).map (numbered id)).Nodup :=
      (List.nodup_range' 1).map (numbered_injective id)
    have hle := (hnodup.subperm hsub).length_le
    rw [List.length_map, List.length_range'] at hle
    omega

theorem length_allocate (seen ids : List Text) : (allocate seen ids).length = ids.length := by
  induction ids generalizing seen with
  | nil => rfl
  | cons id ids ih => simp [allocate, ih]

theorem not_mem_of_mem_allocate {seen ids : List Text} {x : Text} (h : x ∈ allocate seen ids) :
    x ∉ seen := by
  induction ids generalizing seen with
  | nil => simp [allocate] at h
  | cons id ids ih =>
    rw [allocate] at h
    rcases List.mem_cons.mp h with rfl | h
    · exact fresh_not_mem seen id
    · exact fun hx => ih h (List.mem_cons_of_mem _ hx)

theorem nodup_allocate (seen ids : List Text) : (allocate seen ids).Nodup := by
  induction ids generalizing seen with
  | nil => exact List.nodup_nil
  | cons id ids ih =>
    rw [allocate, List.nodup_cons]
    exact ⟨fun h => not_mem_of_mem_allocate h List.mem_cons_self, ih _⟩

/-! ### Things made under identities -/

section Made

variable {α β γ δ : Type}

/-- A reading that depends on one of two lists only. -/
theorem map_zipWith_left {f : α → β → γ} {g : γ → δ} {h : α → δ} (hf : ∀ x y, g (f x y) = h x) {xs : List α}
    {ys : List β} (hl : xs.length = ys.length) : (List.zipWith f xs ys).map g = xs.map h := by
  induction xs generalizing ys with
  | nil => rfl
  | cons x xs ih =>
    cases ys with
    | nil => cases hl
    | cons y ys => rw [List.zipWith_cons_cons, List.map_cons, hf, ih (Nat.succ.inj hl), List.map_cons]

variable {make : Text → α → β}

/-- Things made under identities have these identities. -/
theorem map_zipWith_id {idOf : β → Text} (h : ∀ id x, idOf (make id x) = id) {ids : List Text} {xs : List α}
    (hl : ids.length = xs.length) : (List.zipWith make ids xs).map idOf = ids := by
  rw [map_zipWith_left h hl, List.map_id']

theorem exists_of_mem_zipWith {ids : List Text} {xs : List α} {c : β} (hc : c ∈ List.zipWith make ids xs) :
    ∃ id ∈ ids, ∃ x ∈ xs, c = make id x := by
  rw [← List.map_uncurry_zip_eq_zipWith] at hc
  obtain ⟨⟨id, x⟩, hm, rfl⟩ := List.mem_map.mp hc
  exact ⟨id, (List.of_mem_zip hm).1, x, (List.of_mem_zip hm).2, rfl⟩

theorem exists_mem_zipWith (make : Text → α → β) {ids : List Text} {xs : List α}
    (hl : ids.length = xs.length) {x : α} (hx : x ∈ xs) : ∃ id, make id x ∈ List.zipWith make ids xs := by
  obtain ⟨k, hk⟩ := List.mem_iff_getElem?.mp hx
  have hlt := (List.getElem?_eq_some_iff.mp hk).1
  refine ⟨ids[k], List.mem_iff_getElem?.mpr ⟨k, ?_⟩⟩
  rw [List.getElem?_zipWith, hk, List.getElem?_eq_getElem (hl ▸ hlt)]

end Made

/-! ### A common beginning -/

section Prepended

variable (front : Text)

theorem freshFrom_append (seen : List Text) (id : Text) (fuel n : Nat) :
    freshFrom (seen.map (front ++ ·)) (front ++ id) fuel n = front ++ freshFrom seen id fuel n := by
  have hn (n : Nat) : numbered (front ++ id) n = front ++ numbered id n := by
    simp only [numbered, List.append_assoc]
  induction fuel generalizing n with
  | zero => exact hn n
  | succ fuel ih =>
    rw [freshFrom, freshFrom, hn, contains_map (List.append_right_injective front), ih]
    split <;> rfl

theorem fresh_append (seen : List Text) (id : Text) :
    fresh (seen.map (front ++ ·)) (front ++ id) = front ++ fresh seen id := by
  rw [fresh, fresh, contains_map (List.append_right_injective front), List.length_map, freshFrom_append]
  split <;> rfl

theorem allocate_map_append (seen ids : List Text) :
    allocate (seen.map (front ++ ·)) (ids.map (front ++ ·)) = (allocate seen ids).map (front ++ ·) := by
  induction ids generalizing seen with
  | nil => rfl
  | cons id ids ih =>
    rw [List.map_cons, allocate, fresh_append, allocate, List.map_cons, ← ih, List.map_cons]

end Prepended

theorem sanitise_append (s t : Text) : sanitise (s ++ t) = sanitise s ++ sanitise t := List.map_append

/-- The snapshot stands before everything else in an identity. -/
theorem make_eq (snapshot path : Text) (first last : Int) (suffix : Text) :
    make snapshot path first last suffix = sanitise snapshot ++ make [] path first last suffix := by
  simp only [make, ofLabel, List.append_assoc, sanitise_append, List.nil_append]

end SourceChunks.ChunkId
