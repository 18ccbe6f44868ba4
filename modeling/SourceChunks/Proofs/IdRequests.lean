import SourceChunks.Proofs.Identities
import SourceChunks.Proofs.Texts

/-! Identities for ranges of lines. What stands behind the snapshot and the file name tells the range, the part and
the number that was put behind them, although other characters were replaced before. So two requests compete for an
identity only if they are the same, and the numbers put behind it count the requests made before. The search for a
free number has no bound of its own; it ends because only finitely many identities are taken. -/

namespace SourceChunks.ChunkId

/-! ### The search -/

/-- The search for a free identity, without a bound: the candidate is given out if it is free, and else the next one
is `id` with the number `n` behind it. -/
inductive Settles (taken : Text → Prop) (id : Text) : (candidate : Text) → (n : Nat) → Text → Prop where
  | free {candidate : Text} {n : Nat} : ¬ taken candidate → Settles taken id candidate n candidate
  | next {candidate result : Text} {n : Nat} : taken candidate → Settles taken id (numbered id n) (n + 1) result →
      Settles taken id candidate n result

/-- The identity for a request that was made `m` times before. -/
def given (id : Text) : (m : Nat) → Text
  | 0 => id
  | m + 1 => numbered id (m + 1)

theorem given_append (front id : Text) (m : Nat) : given (front ++ id) m = front ++ given id m := by
  cases m with
  | zero => rfl
  | succ m => simp only [given, numbered, List.append_assoc]

/-- The search stops at a number, and all numbers before it are taken. -/
theorem freshFrom_spec (seen : List Text) (id : Text) (fuel n : Nat) :
    ∃ k, n ≤ k ∧ freshFrom seen id fuel n = numbered id k ∧ ∀ j, n ≤ j → j < k → numbered id j ∈ seen := by
  induction fuel generalizing n with
  | zero => exact ⟨n, Nat.le_refl n, rfl, fun j hj hjn => by omega⟩
  | succ fuel ih =>
    rw [freshFrom]
    split
    case isTrue htaken =>
      obtain ⟨k, hk, heq, hbefore⟩ := ih (n + 1)
      refine ⟨k, Nat.le_of_succ_le hk, heq, fun j hj hjk => ?_⟩
      rcases Nat.lt_or_eq_of_le hj with hlt | rfl
      · exact hbefore j hlt hjk
      · exact List.contains_iff_mem.mp htaken
    case isFalse => exact ⟨n, Nat.le_refl n, rfl, fun j hj hjn => by omega⟩

/-- The first identity that is free, of the wanted one and the numbered ones in order. -/
theorem fresh_spec (seen : List Text) (id : Text) :
    ∃ m, fresh seen id = given id m ∧ ∀ j < m, given id j ∈ seen := by
  unfold fresh
  split
  case isFalse => exact ⟨0, rfl, fun j hj => absurd hj (Nat.not_lt_zero j)⟩
  case isTrue htaken =>
    obtain ⟨k, hk, heq, hbefore⟩ := freshFrom_spec seen id seen.length 1
    obtain ⟨m, rfl⟩ : ∃ m, k = m + 1 := ⟨k - 1, by omega⟩
    refine ⟨m + 1, heq, fun j hj => ?_⟩
    cases j with
    | zero => exact List.contains_iff_mem.mp htaken
    | succ j => exact hbefore (j + 1) (Nat.le_add_left 1 j) hj

theorem settles_given {taken : Text → Prop} {id : Text} {m : Nat} (hfree : ¬ taken (given id m)) {n : Nat}
    (hn : n ≤ m) (hbefore : ∀ j, n ≤ j → j < m → taken (given id j)) :
    Settles taken id (given id n) (n + 1) (given id m) := by
  induction hd : m - n generalizing n with
  | zero =>
    obtain rfl : n = m := by omega
    exact .free hfree
  | succ d ih =>
    refine .next (hbefore n (Nat.le_refl n) (by omega)) ?_
    exact ih (n := n + 1) (by omega) (fun j hj hjm => hbefore j (by omega) hjm) (by omega)

/-- Whatever is taken, the search ends, and with the identity that is given out. -/
theorem settles_fresh (seen : List Text) (id : Text) : Settles (· ∈ seen) id id 1 (fresh seen id) := by
  obtain ⟨m, heq, hbefore⟩ := fresh_spec seen id
  have hfree : given id m ∉ seen := heq ▸ fresh_not_mem seen id
  rw [heq]
  exact settles_given (n := 0) hfree (Nat.zero_le m) fun j _ hj => hbefore j hj

/-! ### Requests -/

section Requests

variable {ρ : Type} {wanted : ρ → Text}

/-- The identities that requests can be given are all different. -/
def Separate (wanted : ρ → Text) : Prop :=
  ∀ {r r' m m'}, given (wanted r) m = given (wanted r') m' → r = r' ∧ m = m'

variable [DecidableEq ρ]

/-- Exactly the identities for the requests made so far are taken. -/
def Taken (wanted : ρ → Text) (made : List ρ) (seen : List Text) : Prop :=
  ∀ x, x ∈ seen ↔ ∃ r m, m < made.count r ∧ x = given (wanted r) m

theorem Taken.nil (wanted : ρ → Text) : Taken wanted [] [] := by simp [Taken]

theorem Taken.given_mem_iff {made : List ρ} {seen : List Text} (h : Taken wanted made seen)
    (hwanted : Separate wanted) {r : ρ} {m : Nat} : given (wanted r) m ∈ seen ↔ m < made.count r := by
  rw [h]
  constructor
  · rintro ⟨r', m', hlt, heq⟩
    obtain ⟨rfl, rfl⟩ := hwanted heq
    exact hlt
  · exact fun hlt => ⟨r, m, hlt, rfl⟩

/-- The number put behind an identity counts the same requests made before. -/
theorem Taken.fresh_eq {made : List ρ} {seen : List Text} (h : Taken wanted made seen) (hwanted : Separate wanted)
    (r : ρ) : fresh seen (wanted r) = given (wanted r) (made.count r) := by
  obtain ⟨m, heq, hbefore⟩ := fresh_spec seen (wanted r)
  have hfree := fresh_not_mem seen (wanted r)
  rw [heq, h.given_mem_iff hwanted] at hfree
  have hle : m ≤ made.count r := by
    by_contra hlt
    exact Nat.lt_irrefl _ ((h.given_mem_iff hwanted).mp (hbefore _ (Nat.lt_of_not_le hlt)))
  rw [heq, Nat.le_antisymm hle (Nat.le_of_not_lt hfree)]

theorem Taken.next {made : List ρ} {seen : List Text} (h : Taken wanted made seen) (r : ρ) :
    Taken wanted (made ++ [r]) (given (wanted r) (made.count r) :: seen) := by
  intro x
  rw [List.mem_cons, h]
  constructor
  · rintro (rfl | ⟨r', m, hlt, rfl⟩)
    · exact ⟨r, made.count r, by simp, rfl⟩
    · exact ⟨r', m, by rw [List.count_append]; omega, rfl⟩
  · rintro ⟨r', m, hlt, rfl⟩
    by_cases hr : r' = r
    · subst hr
      rw [List.count_append, List.count_singleton_self] at hlt
      rcases Nat.lt_succ_iff_lt_or_eq.mp hlt with hlt | rfl
      · exact .inr ⟨r', m, hlt, rfl⟩
      · exact .inl rfl
    · rw [List.count_append, List.count_singleton, if_neg (by simpa using Ne.symm hr)] at hlt
      exact .inr ⟨r', m, hlt, rfl⟩

/-- From any point of a run on, each request is given the identity for the number of times it was made before. -/
theorem Taken.getElem?_allocate {made : List ρ} {seen : List Text} (h : Taken wanted made seen)
    (hwanted : Separate wanted) {rs : List ρ} {k : Nat} {r : ρ} (hr : rs[k]? = some r) :
    (allocate seen (rs.map wanted))[k]? = some (given (wanted r) ((made ++ rs.take k).count r)) := by
  induction rs generalizing made seen k with
  | nil => simp at hr
  | cons q rs ih =>
    rw [List.map_cons, allocate, h.fresh_eq hwanted]
    cases k with
    | zero =>
      obtain rfl := Option.some.inj hr
      simp
    | succ k =>
      rw [List.getElem?_cons_succ, ih (h.next q) hr, List.take_succ_cons, List.append_assoc, List.singleton_append]

end Requests

/-- Each identity comes from a search among those given out before. -/
theorem settles_allocate (seen : List Text) {ids : List Text} {k : Nat} {id x : Text} (hid : ids[k]? = some id)
    (hx : (allocate seen ids)[k]? = some x) :
    Settles (fun y => y ∈ seen ∨ y ∈ (allocate seen ids).take k) id id 1 x := by
  induction ids generalizing seen k with
  | nil => simp at hid
  | cons i ids ih =>
    rw [allocate] at hx ⊢
    cases k with
    | zero =>
      obtain rfl := Option.some.inj hid
      obtain rfl := Option.some.inj hx
      simpa using settles_fresh seen i
    | succ k =>
      have htaken : (fun y => y ∈ seen ∨ y ∈ (fresh seen i :: allocate (fresh seen i :: seen) ids).take (k + 1)) =
          fun y => y ∈ fresh seen i :: seen ∨ y ∈ (allocate (fresh seen i :: seen) ids).take k := by
        funext y
        rw [List.take_succ_cons, List.mem_cons, List.mem_cons, or_left_comm, or_assoc]
      rw [htaken]
      exact ih (fresh seen i :: seen) hid hx

/-! ### Labels -/

theorem all_isDigit_ofNat (n : Nat) : (Text.ofNat n).all Char.isDigit = true :=
  List.all_eq_true.mpr fun _ hc => Nat.isDigit_of_mem_toDigits (by decide) (by decide) hc

/-- What is put behind an identity that was given out `m` times. -/
def mark : (m : Nat) → Text
  | 0 => []
  | m + 1 => '_' :: Text.ofNat (m + 1)

theorem given_eq (id : Text) (m : Nat) : given id m = id ++ mark m := by
  cases m with
  | zero => rw [given, mark, List.append_nil]
  | succ m => rw [given, numbered, mark, List.append_assoc]; rfl

theorem head?_mark (m : Nat) : (mark m).head?.any Char.isDigit = false := by
  cases m <;> rfl

theorem mark_injective {m n : Nat} (h : mark m = mark n) : m = n := by
  cases m with
  | zero =>
    cases n with
    | zero => rfl
    | succ n => cases h
  | succ m =>
    cases n with
    | zero => cases h
    | succ n => exact ofNat_injective (List.cons.inj h).2

/-- A request for the identity of a range of lines, or of a part of it that begins at a line. -/
structure LineRequest where
  first : Nat
  last : Nat
  part : Option Nat := none
  deriving DecidableEq, Repr

namespace LineRequest

/-- The text behind the range. -/
def suffix (r : LineRequest) : Text :=
  match r.part with
  | none => []
  | some line => "_L" ++ Text.ofNat line

/-- The identity that is asked for. -/
def wanted (snapshot path : Text) (r : LineRequest) : Text := make snapshot path r.first r.last r.suffix

/-- What tells requests for one file apart. -/
def label (r : LineRequest) : Text := Text.ofNat r.first ++ '-' :: (Text.ofNat r.last ++ r.suffix)

theorem head?_suffix_append (r : LineRequest) (m : Nat) : (r.suffix ++ mark m).head?.any Char.isDigit = false := by
  unfold suffix
  cases r.part with
  | none => exact head?_mark m
  | some line => rfl

/-- A number behind a suffix is never taken for a part of it. -/
theorem suffix_append_injective {r r' : LineRequest} {m m' : Nat} (h : r.suffix ++ mark m = r'.suffix ++ mark m') :
    r.part = r'.part ∧ m = m' := by
  have hL (line m m' : Nat) : mark m ≠ "_L" ++ Text.ofNat line ++ mark m' := by
    intro h
    cases m with
    | zero => cases h
    | succ m =>
      have hmem : 'L' ∈ Text.ofNat (m + 1) := by
        rw [(List.cons.inj h).2]
        exact List.mem_cons_self
      exact absurd (List.all_eq_true.mp (all_isDigit_ofNat (m + 1)) 'L' hmem) (by decide)
  unfold suffix at h
  cases hr : r.part with
  | none =>
    cases hr' : r'.part with
    | none =>
      rw [hr, hr'] at h
      exact ⟨rfl, mark_injective h⟩
    | some line' =>
      rw [hr, hr'] at h
      exact absurd h (hL line' m m')
  | some line =>
    cases hr' : r'.part with
    | none =>
      rw [hr, hr'] at h
      exact absurd h.symm (hL line m' m)
    | some line' =>
      rw [hr, hr'] at h
      simp only [List.append_assoc, List.append_cancel_left_eq] at h
      obtain ⟨hline, hmark⟩ := Text.cut_unique h (all_isDigit_ofNat line) (all_isDigit_ofNat line') (head?_mark m)
        (head?_mark m')
      exact ⟨congrArg some (ofNat_injective hline), mark_injective hmark⟩

/-- A label with a number behind it tells the request and the number. -/
theorem given_label_injective {r r' : LineRequest} {m m' : Nat} (h : given r.label m = given r'.label m') :
    r = r' ∧ m = m' := by
  rw [given_eq, given_eq, label, label, List.append_assoc, List.append_assoc, List.cons_append, List.cons_append] at h
  obtain ⟨hfirst, hrest⟩ := Text.cut_unique h (all_isDigit_ofNat _) (all_isDigit_ofNat _) rfl rfl
  have hrest := (List.cons.inj hrest).2
  rw [List.append_assoc, List.append_assoc] at hrest
  obtain ⟨hlast, hsuffix⟩ := Text.cut_unique hrest (all_isDigit_ofNat _) (all_isDigit_ofNat _)
    (r.head?_suffix_append m) (r'.head?_suffix_append m')
  obtain ⟨hpart, hm⟩ := suffix_append_injective hsuffix
  obtain ⟨first, last, part⟩ := r
  obtain ⟨first', last', part'⟩ := r'
  obtain rfl := ofNat_injective hfirst
  obtain rfl := ofNat_injective hlast
  obtain rfl := hpart
  exact ⟨rfl, hm⟩

end LineRequest

/-! ### The alphabet -/

theorem isSafe_of_isDigit {c : Char} (h : c.isDigit = true) : isSafe c = true := by
  simp [isSafe, Char.isAlphanum, h]

theorem isSafe_of_mem_ofNat {n : Nat} {c : Char} (h : c ∈ Text.ofNat n) : isSafe c = true :=
  isSafe_of_isDigit (List.all_eq_true.mp (all_isDigit_ofNat n) c h)

theorem isSafe_of_mem_sanitise {t : Text} {c : Char} (h : c ∈ sanitise t) : isSafe c = true := by
  obtain ⟨x, -, rfl⟩ := List.mem_map.mp h
  split
  case isTrue hx => exact hx
  case isFalse => rfl

theorem sanitise_of_safe {t : Text} (h : ∀ c ∈ t, isSafe c = true) : sanitise t = t := by
  rw [sanitise]
  conv_rhs => rw [← List.map_id t]
  exact List.map_congr_left fun c hc => if_pos (h c hc)

theorem isSafe_of_mem_given {id : Text} (hid : ∀ c ∈ id, isSafe c = true) {m : Nat} {c : Char}
    (h : c ∈ given id m) : isSafe c = true := by
  rw [given_eq, List.mem_append] at h
  rcases h with h | h
  · exact hid c h
  · cases m with
    | zero => cases h
    | succ m =>
      rcases List.mem_cons.mp h with rfl | h
      · rfl
      · exact isSafe_of_mem_ofNat h

namespace LineRequest

theorem isSafe_of_mem_suffix {r : LineRequest} {c : Char} (h : c ∈ r.suffix) : isSafe c = true := by
  unfold suffix at h
  cases hr : r.part with
  | none =>
    rw [hr] at h
    cases h
  | some line =>
    rw [hr] at h
    rcases List.mem_append.mp h with h | h
    · have hall : ("_L" : Text).all isSafe = true := by decide
      exact List.all_eq_true.mp hall c h
    · exact isSafe_of_mem_ofNat h

theorem isSafe_of_mem_label {r : LineRequest} {c : Char} (h : c ∈ r.label) : isSafe c = true := by
  rw [label, List.mem_append, List.mem_cons, List.mem_append] at h
  rcases h with h | rfl | h | h
  · exact isSafe_of_mem_ofNat h
  · rfl
  · exact isSafe_of_mem_ofNat h
  · exact isSafe_of_mem_suffix h

/-- The label stands unchanged at the end of the identity. -/
theorem wanted_eq (snapshot path : Text) (r : LineRequest) :
    r.wanted snapshot path = sanitise (snapshot ++ "_" ++ (FilePath.ofText path).name ++ "_") ++ r.label := by
  have hlabel : Text.ofInt r.first ++ "-" ++ Text.ofInt r.last ++ r.suffix = r.label := by
    simp only [List.append_assoc]
    rfl
  rw [wanted, make, ofLabel, hlabel, sanitise_append, sanitise_of_safe fun _ => isSafe_of_mem_label]

theorem separate_wanted (snapshot path : Text) : Separate (wanted snapshot path) := by
  intro r r' m m' h
  rw [wanted_eq, wanted_eq, given_append, given_append] at h
  exact given_label_injective (List.append_cancel_left h)

end LineRequest

/-- The identities given out for a run of requests. -/
structure Allocation {ρ : Type} [DecidableEq ρ] (wanted : ρ → Text) (rs : List ρ) (ids : List Text) : Prop where
  length : ids.length = rs.length
  nodup : ids.Nodup
  safe : ∀ id ∈ ids, ∀ c ∈ id, isSafe c = true
  settles : ∀ k r, rs[k]? = some r →
    ∃ id, ids[k]? = some id ∧ Settles (· ∈ ids.take k) (wanted r) (wanted r) 1 id
  first : ∀ k r, rs[k]? = some r → (rs.take k).count r = 0 → ids[k]? = some (wanted r)
  again : ∀ k r m, rs[k]? = some r → (rs.take k).count r = m → 1 ≤ m →
    ids[k]? = some (wanted r ++ "_" ++ Text.ofNat m)

/-- Requests for ranges of one file are given different identities: the wanted one to the first of several that are
the same, and to the others the wanted one with their number behind it. -/
theorem allocate_requests (snapshot path : Text) (rs : List LineRequest) :
    Allocation (LineRequest.wanted snapshot path) rs
      (allocate [] (rs.map (LineRequest.wanted snapshot path))) := by
  have hgiven {k : Nat} {r : LineRequest} (hr : rs[k]? = some r) :
      (allocate [] (rs.map (LineRequest.wanted snapshot path)))[k]? =
        some (given (r.wanted snapshot path) ((rs.take k).count r)) := by
    have h := (Taken.nil _).getElem?_allocate (LineRequest.separate_wanted snapshot path) hr
    rwa [List.nil_append] at h
  constructor
  case length => rw [length_allocate, List.length_map]
  case nodup => exact nodup_allocate [] _
  case safe =>
    intro id hid
    obtain ⟨k, hk⟩ := List.mem_iff_getElem?.mp hid
    have hlt : k < rs.length := by
      have := (List.getElem?_eq_some_iff.mp hk).1
      rwa [length_allocate, List.length_map] at this
    rw [hgiven (List.getElem?_eq_getElem hlt)] at hk
    obtain rfl := Option.some.inj hk
    exact fun c => isSafe_of_mem_given fun _ => isSafe_of_mem_sanitise
  case settles =>
    intro k r hr
    refine ⟨_, hgiven hr, ?_⟩
    have hwanted : (rs.map (LineRequest.wanted snapshot path))[k]? = some (r.wanted snapshot path) := by
      rw [List.getElem?_map, hr, Option.map_some]
    have h := settles_allocate [] hwanted (hgiven hr)
    simpa only [List.not_mem_nil, false_or] using h
  case first =>
    intro k r hr hcount
    rw [hgiven hr, hcount]
    rfl
  case again =>
    intro k r m hr hcount hm
    obtain ⟨n, rfl⟩ : ∃ n, m = n + 1 := ⟨m - 1, by omega⟩
    rw [hgiven hr, hcount]
    rfl

end SourceChunks.ChunkId
