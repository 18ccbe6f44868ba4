import Mathlib.Data.List.Basic
import Mathlib.Data.Option.Basic
import SourceChunks.Pattern.Building
import SourceChunks.Pattern.Scan

/-! What patterns match. A pattern is read as a relation between the place where a match starts and
the place where it stops, with no order among the alternatives. The matcher finds a match from a
place exactly when the relation holds for some stop, and a search or a scan finds one exactly when
there is such a place in the text. -/

namespace SourceChunks

/-! ### Characters -/

theorem isWordChar_of_isAlpha {x : Char} (h : x.isAlpha = true) : isWordChar x = true := by
  have hascii : x.toNat < 128 := by
    have hlast : x.val ≤ 'Z'.val ∨ x.val ≤ 'z'.val :=
      (Bool.or_eq_true_iff.mp h).imp (fun hupper => (of_decide_eq_true hupper).2)
        fun hlower => of_decide_eq_true (Bool.and_eq_true_iff.mp hlower).2
    rw [UInt32.le_iff_toNat_le, UInt32.le_iff_toNat_le] at hlast
    have hcode : x.toNat = x.val.toNat := rfl
    have hz : 'z'.val.toNat = 122 := rfl
    have hZ : 'Z'.val.toNat = 90 := rfl
    omega
  simp [isWordChar, hascii, Char.isAlphanum, h]

/-- The codes of the blanks. -/
def blankCodes : List Nat :=
  [0x20, 0x85, 0xa0, 0x1680, 0x2028, 0x2029, 0x202f, 0x205f, 0x3000] ++ List.range' 0x09 5 ++ List.range' 0x1c 4 ++
    List.range' 0x2000 11

theorem toNat_mem_blankCodes {x : Char} (h : isBlank x = true) : x.toNat ∈ blankCodes := by
  simp only [isBlank, Bool.or_eq_true, Bool.and_eq_true, beq_iff_eq, decide_eq_true_eq] at h
  simp only [blankCodes, List.mem_append, List.mem_range'_1, List.mem_cons, List.not_mem_nil, or_false]
  omega

/-- No blank stands in a word. -/
theorem not_isWordChar_of_isBlank {x : Char} (h : isBlank x = true) : isWordChar x = false := by
  have hall : ∀ n ∈ blankCodes, isWordChar (Char.ofNat n) = false := by decide +kernel
  simpa using hall x.toNat (toNat_mem_blankCodes h)

/-! ### Passing characters -/

namespace Cursor

/-- `d` is `c` moved past the text `front`. -/
structure Passes (c : Cursor) (front : Text) (d : Cursor) : Prop where
  rest : c.rest = front ++ d.rest
  offset : d.offset = c.offset + front.length
  before : d.before = front.getLast?.or c.before

namespace Passes

variable {c d e : Cursor} {front back : Text}

theorem refl (c : Cursor) : c.Passes [] c := ⟨rfl, rfl, rfl⟩

theorem trans (h : c.Passes front d) (k : d.Passes back e) : c.Passes (front ++ back) e where
  rest := by rw [h.rest, k.rest, List.append_assoc]
  offset := by rw [k.offset, h.offset, List.length_append, Nat.add_assoc]
  before := by rw [k.before, h.before, List.getLast?_append, Option.or_assoc]

/-- Past one character. -/
theorem single_iff {x : Char} :
    c.Passes [x] d ↔ ∃ xs, c.rest = x :: xs ∧ d = ⟨c.offset + 1, some x, xs⟩ := by
  constructor
  · rintro ⟨hrest, hoffset, hbefore⟩
    refine ⟨d.rest, hrest, ?_⟩
    cases d
    simp_all
  · rintro ⟨xs, hrest, rfl⟩
    exact ⟨hrest, rfl, rfl⟩

/-- The first character and the others. -/
theorem cons_iff {x : Char} :
    c.Passes (x :: front) d ↔ ∃ m, c.Passes [x] m ∧ m.Passes front d := by
  constructor
  · rintro ⟨hrest, hoffset, hbefore⟩
    refine ⟨⟨c.offset + 1, some x, front ++ d.rest⟩, ⟨hrest, rfl, rfl⟩, rfl, ?_, ?_⟩
    · simp only [hoffset, List.length_cons]
      omega
    · rw [hbefore, List.getLast?_cons]
      cases front.getLast? <;> rfl
  · rintro ⟨m, hm, hd⟩
    exact hm.trans hd

theorem eq_of_nil (h : c.Passes [] d) : d = c := by
  obtain ⟨hrest, hoffset, hbefore⟩ := h
  cases c
  cases d
  simp_all

/-- A first part and the rest. -/
theorem append_iff : c.Passes (front ++ back) d ↔ ∃ m, c.Passes front m ∧ m.Passes back d := by
  induction front generalizing c with
  | nil =>
    constructor
    · exact fun h => ⟨c, .refl c, h⟩
    · rintro ⟨m, hm, h⟩
      exact hm.eq_of_nil ▸ h
  | cons x xs ih =>
    rw [List.cons_append, cons_iff]
    constructor
    · rintro ⟨k, hk, h⟩
      obtain ⟨m, hm, h⟩ := ih.mp h
      exact ⟨m, cons_iff.mpr ⟨k, hk, hm⟩, h⟩
    · rintro ⟨m, hm, h⟩
      obtain ⟨k, hk, hm⟩ := cons_iff.mp hm
      exact ⟨k, hk, ih.mpr ⟨m, hm, h⟩⟩

/-- A cursor that has moved forward leaves fewer characters. -/
theorem length_lt (h : c.Passes front d) (hlt : c.offset < d.offset) : d.rest.length < c.rest.length := by
  have hoffset := h.offset
  rw [h.rest, List.length_append]
  omega

end Passes

theorem exists_passes_start (front back : Text) : ∃ m, (start (front ++ back)).Passes front m ∧ m.rest = back :=
  ⟨⟨front.length, front.getLast?, back⟩, ⟨rfl, (Nat.zero_add _).symm, (Option.or_none).symm⟩, rfl⟩

/-- `d` is `c` or a place behind it. -/
def Reaches (c d : Cursor) : Prop := ∃ front, c.Passes front d

theorem Reaches.refl (c : Cursor) : c.Reaches c := ⟨[], .refl c⟩

theorem Reaches.trans {c d e : Cursor} (h : c.Reaches d) (k : d.Reaches e) : c.Reaches e := by
  obtain ⟨front, hfront⟩ := h
  obtain ⟨back, hback⟩ := k
  exact ⟨front ++ back, hfront.trans hback⟩

theorem Reaches.offset_le {c d : Cursor} (h : c.Reaches d) : c.offset ≤ d.offset := by
  obtain ⟨front, hfront⟩ := h
  rw [hfront.offset]
  exact Nat.le_add_right _ _

theorem reaches_nil_iff {offset : Nat} {before : Option Char} {d : Cursor} :
    Reaches ⟨offset, before, []⟩ d ↔ d = ⟨offset, before, []⟩ := by
  constructor
  · rintro ⟨front, h⟩
    obtain rfl : front = [] := (List.append_eq_nil_iff.mp h.rest.symm).1
    exact h.eq_of_nil
  · rintro rfl
    exact .refl _

/-- What lies behind a character lies behind the place before it. -/
theorem reaches_cons_iff {offset : Nat} {before : Option Char} {x : Char} {xs : Text} {d : Cursor} :
    Reaches ⟨offset, before, x :: xs⟩ d ↔ d = ⟨offset, before, x :: xs⟩ ∨ Reaches ⟨offset + 1, some x, xs⟩ d := by
  constructor
  · rintro ⟨front, h⟩
    cases front with
    | nil => exact .inl h.eq_of_nil
    | cons y front =>
      obtain ⟨m, hm, h⟩ := Passes.cons_iff.mp h
      obtain ⟨ys, hrest, rfl⟩ := Passes.single_iff.mp hm
      obtain ⟨rfl, rfl⟩ := List.cons.inj hrest
      exact .inr ⟨front, h⟩
  · rintro (rfl | ⟨front, h⟩)
    · exact .refl _
    · exact ⟨x :: front, Passes.cons_iff.mpr ⟨_, Passes.single_iff.mpr ⟨xs, rfl, rfl⟩, h⟩⟩

/-- The stop after `n` characters of a class. -/
theorem getElem?_stops (p : Char → Bool) (c d : Cursor) (n : Nat) :
    (c.stops p)[n]? = some d ↔ ∃ front, c.Passes front d ∧ front.all p = true ∧ front.length = n := by
  obtain ⟨offset, before, t⟩ := c
  rw [stops]
  induction t generalizing offset before n with
  | nil =>
    rw [stopsFrom]
    constructor
    · intro h
      obtain ⟨hn, rfl⟩ := List.getElem?_eq_some_iff.mp h
      obtain rfl : n = 0 := Nat.lt_one_iff.mp hn
      exact ⟨[], .refl _, rfl, rfl⟩
    · rintro ⟨front, hpass, _, rfl⟩
      have hnil : front = [] := (List.append_eq_nil_iff.mp hpass.rest.symm).1
      subst hnil
      rw [hpass.eq_of_nil]
      rfl
  | cons x xs ih =>
    rw [stopsFrom]
    cases n with
    | zero =>
      simp only [List.length_eq_zero_iff]
      constructor
      · intro h
        exact ⟨[], Option.some.inj h ▸ Passes.refl _, rfl, rfl⟩
      · rintro ⟨front, hpass, _, rfl⟩
        rw [hpass.eq_of_nil]
        rfl
    | succ n =>
      rw [List.getElem?_cons_succ]
      by_cases hx : p x = true
      · rw [if_pos hx, ih]
        constructor
        · rintro ⟨front, hpass, hall, rfl⟩
          have hone := Passes.cons_iff.mpr ⟨_, Passes.single_iff.mpr ⟨xs, rfl, rfl⟩, hpass⟩
          exact ⟨x :: front, hone, by simp [hx, hall], rfl⟩
        · rintro ⟨front, hpass, hall, hlength⟩
          obtain ⟨y, front, rfl⟩ := List.exists_of_length_succ front hlength
          obtain ⟨m, hm, hpass⟩ := Passes.cons_iff.mp hpass
          obtain ⟨ys, hrest, rfl⟩ := Passes.single_iff.mp hm
          obtain ⟨rfl, rfl⟩ := List.cons.inj hrest
          exact ⟨front, hpass, by simpa [hx] using hall, Nat.succ.inj hlength⟩
      · rw [if_neg hx]
        constructor
        · intro h
          cases h
        · rintro ⟨front, hpass, hall, hlength⟩
          obtain ⟨y, front, rfl⟩ := List.exists_of_length_succ front hlength
          obtain ⟨rfl, _⟩ := List.cons.inj hpass.rest
          rw [List.all_cons, Bool.and_eq_true] at hall
          exact absurd hall.1 hx

/-- The last stop lies behind all characters of the class. -/
theorem exists_last_stop (p : Char → Bool) (offset : Nat) (before : Option Char) (t : Text) :
    ∃ init d, stopsFrom p offset before t = init ++ [d] ∧ d.offset = offset + (t.takeWhile p).length := by
  induction t generalizing offset before with
  | nil => exact ⟨[], _, rfl, rfl⟩
  | cons x xs ih =>
    by_cases hx : p x = true
    · obtain ⟨init, d, hinit, hoffset⟩ := ih (offset + 1) (some x)
      refine ⟨⟨offset, before, x :: xs⟩ :: init, d, ?_, ?_⟩
      · rw [stopsFrom, if_pos hx, hinit, List.cons_append]
      · rw [hoffset, List.takeWhile_cons_of_pos hx, List.length_cons]
        omega
    · refine ⟨[], ⟨offset, before, x :: xs⟩, ?_, ?_⟩
      · rw [stopsFrom, if_neg hx, List.nil_append]
      · rw [List.takeWhile_cons_of_neg hx]
        rfl

end Cursor

namespace Pattern

/-! ### Patterns as relations -/

/-- Repetitions that each pass a character: at least `least` and at most `most` of them. -/
inductive Repeats (R : Cursor → Cursor → Prop) : (least : Nat) → (most : Option Nat) → Cursor → Cursor → Prop where
  | stop (most : Option Nat) (c : Cursor) : Repeats R 0 most c c
  | again {least : Nat} {most : Option Nat} {c m d : Cursor} (hmost : most ≠ some 0) (h : R c m)
      (hlt : c.offset < m.offset) (hrest : Repeats R (least - 1) (most.map (· - 1)) m d) : Repeats R least most c d

/-- A match of the pattern may start at the first cursor and stop at the second. -/
def Reads : Pattern → Cursor → Cursor → Prop
  | .empty, c, d => d = c
  | .one p, c, d => ∃ x, p x = true ∧ c.Passes [x] d
  | .seq p q, c, d => ∃ m, Reads p c m ∧ Reads q m d
  | .alt p q, c, d => Reads p c d ∨ Reads q c d
  | .run p least most _, c, d =>
    ∃ front, c.Passes front d ∧ front.all p = true ∧ least ≤ front.length ∧ ∀ n ∈ most, front.length ≤ n
  | .many p least most _, c, d => Repeats (Reads p) least most c d
  | .capture _ p, c, d => Reads p c d
  | .here test, c, d => test c.before c.rest = true ∧ d = c
  | .notAhead p, c, d => (∀ m, ¬ Reads p c m) ∧ d = c

theorem reads_ofChars_iff {s : Text} {c d : Cursor} : (ofChars s).Reads c d ↔ c.Passes s d := by
  induction s generalizing c with
  | nil => exact ⟨fun h => h ▸ .refl c, fun h => h.eq_of_nil⟩
  | cons x xs ih =>
    have hone : ∀ m, (Pattern.one (· == x)).Reads c m ↔ c.Passes [x] m := by simp [Reads]
    cases xs with
    | nil => exact hone d
    | cons y ys =>
      show (Pattern.seq (.one (· == x)) (ofChars (y :: ys))).Reads c d ↔ _
      rw [Cursor.Passes.cons_iff, Reads]
      simp only [hone, ih]

theorem reads_notAfter_iff {p : Char → Bool} {c d : Cursor} :
    (notAfter p).Reads c d ↔ c.before.any p = false ∧ d = c := by
  simp [notAfter, between, Reads]

theorem reads_notBefore_iff {p : Char → Bool} {c d : Cursor} :
    (notBefore p).Reads c d ↔ c.rest.head?.any p = false ∧ d = c := by
  simp [notBefore, between, Reads]

theorem Repeats.reaches {R : Cursor → Cursor → Prop} (hR : ∀ {c d}, R c d → c.Reaches d)
    {least : Nat} {most : Option Nat} {c d : Cursor} (h : Repeats R least most c d) : c.Reaches d := by
  induction h with
  | stop most c => exact .refl c
  | again _ h _ _ ih => exact (hR h).trans ih

/-- A match stops at its start or behind it. -/
theorem Reads.reaches {p : Pattern} {c d : Cursor} (h : p.Reads c d) : c.Reaches d := by
  induction p generalizing c d with
  | empty => exact h ▸ .refl c
  | one p =>
    obtain ⟨x, _, hpass⟩ := h
    exact ⟨[x], hpass⟩
  | seq p q ihp ihq =>
    obtain ⟨m, hp, hq⟩ := h
    exact (ihp hp).trans (ihq hq)
  | alt p q ihp ihq => exact h.elim ihp ihq
  | run p least most appetite =>
    obtain ⟨front, hpass, _⟩ := h
    exact ⟨front, hpass⟩
  | many p least most appetite ih => exact Repeats.reaches ih h
  | capture label p ih => exact ih h
  | here test => exact h.2 ▸ .refl c
  | notAhead p _ => exact h.2 ▸ .refl c

/-! ### The matcher -/

/-- `step` finds an outcome that the rest accepts exactly when `R` leads to one. Of the rest only
whether it accepts matters, and only at the cursors to which `R` leads. -/
def Finds (step : Cursor → Captures → Next → Option Outcome) (R : Cursor → Cursor → Prop) : Prop :=
  ∀ {c : Cursor} {s : Captures} {next : Next} (accepts : Cursor → Prop),
    (∀ d s', R c d → ((next d s').isSome = true ↔ accepts d)) →
      ((step c s next).isSome = true ↔ ∃ d, R c d ∧ accepts d)

theorem isSome_ite_none {α : Type} {b : Prop} [Decidable b] {o : Option α} :
    (if b then o else none).isSome = true ↔ b ∧ o.isSome = true := by
  split <;> simp_all

section Repetition

variable {body : Cursor → Captures → Next → Option Outcome} {R : Cursor → Cursor → Prop}

/-- One repetition of the body and then others. -/
def repeatAgain (body : Cursor → Captures → Next → Option Outcome) (appetite : Appetite) (fuel least : Nat)
    (most : Option Nat) (c : Cursor) (s : Captures) (next : Next) : Option Outcome :=
  if most = some 0 then none
  else body c s fun c' s' =>
    if c.offset < c'.offset then repeatFrom body appetite fuel (least - 1) (most.map (· - 1)) c' s' next else none

theorem isSome_repeatFrom_succ (appetite : Appetite) (fuel least : Nat) (most : Option Nat) (c : Cursor)
    (s : Captures) (next : Next) :
    (repeatFrom body appetite (fuel + 1) least most c s next).isSome = true ↔
      (repeatAgain body appetite fuel least most c s next).isSome = true ∨ least = 0 ∧ (next c s).isSome = true := by
  by_cases hleast : 0 < least
  · have hne : least ≠ 0 := by omega
    simp [repeatFrom, repeatAgain, hleast, hne]
  · have heq : least = 0 := by omega
    cases appetite with
    | greedy => simp [repeatFrom, repeatAgain, heq]
    | reluctant => simp [repeatFrom, repeatAgain, heq, or_comm]

/-- One repetition and then others. -/
def Again (R : Cursor → Cursor → Prop) (least : Nat) (most : Option Nat) (c d : Cursor) : Prop :=
  most ≠ some 0 ∧ ∃ m, R c m ∧ c.offset < m.offset ∧ Repeats R (least - 1) (most.map (· - 1)) m d

theorem repeats_iff {least : Nat} {most : Option Nat} {c d : Cursor} :
    Repeats R least most c d ↔ Again R least most c d ∨ least = 0 ∧ d = c := by
  constructor
  · intro h
    cases h with
    | stop => exact .inr ⟨rfl, rfl⟩
    | again hmost h hlt hrest => exact .inl ⟨hmost, _, h, hlt, hrest⟩
  · rintro (⟨hmost, m, h, hlt, hrest⟩ | ⟨rfl, rfl⟩)
    · exact .again hmost h hlt hrest
    · exact .stop _ _

/-- The characters left are fuel enough for repetitions that pass a character each. -/
theorem isSome_repeatFrom_iff (hbody : Finds body R) (hR : ∀ {c d}, R c d → c.Reaches d)
    (appetite : Appetite) {next : Next} {accepts : Cursor → Prop} {fuel least : Nat} {most : Option Nat}
    {c : Cursor} (s : Captures) (hfuel : c.rest.length ≤ fuel)
    (hnext : ∀ d s', Repeats R least most c d → ((next d s').isSome = true ↔ accepts d)) :
    (repeatFrom body appetite fuel least most c s next).isSome = true ↔
      ∃ d, Repeats R least most c d ∧ accepts d := by
  have hshort : ∀ {c m}, R c m → c.offset < m.offset → m.rest.length < c.rest.length := by
    intro c m hm hlt
    obtain ⟨front, hpass⟩ := hR hm
    exact hpass.length_lt hlt
  induction fuel generalizing c least most s with
  | zero =>
    have hstop : ∀ {d}, Repeats R least most c d ↔ least = 0 ∧ d = c := by
      intro d
      rw [repeats_iff, or_iff_right]
      rintro ⟨_, m, hm, hlt, _⟩
      have := hshort hm hlt
      omega
    simp only [repeatFrom, isSome_ite_none, hstop, and_assoc, exists_and_left, exists_eq_left]
    refine and_congr_right fun hleast => ?_
    exact hnext c s (hstop.mpr ⟨hleast, rfl⟩)
  | succ fuel ih =>
    have hagain : (repeatAgain body appetite fuel least most c s next).isSome = true ↔
        ∃ d, Again R least most c d ∧ accepts d := by
      by_cases hmost : most = some 0
      · simp [repeatAgain, Again, hmost]
      rw [repeatAgain, if_neg hmost, hbody fun m => c.offset < m.offset ∧
        ∃ d, Repeats R (least - 1) (most.map (· - 1)) m d ∧ accepts d]
      · constructor
        · rintro ⟨m, hm, hlt, d, hd, haccepts⟩
          exact ⟨d, ⟨hmost, m, hm, hlt, hd⟩, haccepts⟩
        · rintro ⟨d, ⟨_, m, hm, hlt, hd⟩, haccepts⟩
          exact ⟨m, hm, hlt, d, hd, haccepts⟩
      · intro m s' hm
        rw [isSome_ite_none]
        refine and_congr_right fun hlt => ?_
        have hless := hshort hm hlt
        exact ih s' (by omega) fun d s'' hd => hnext d s'' (.again hmost hm hlt hd)
    rw [isSome_repeatFrom_succ, hagain]
    simp only [repeats_iff, or_and_right, exists_or, and_assoc, exists_and_left, exists_eq_left]
    refine or_congr_right (and_congr_right fun hleast => ?_)
    exact hnext c s (repeats_iff.mpr (.inr ⟨hleast, rfl⟩))

end Repetition

/-- The stops of a run, whatever their order. -/
theorem mem_order_stops_iff {p : Char → Bool} {least : Nat} {most : Option Nat} {appetite : Appetite} {c d : Cursor} :
    d ∈ appetite.order ((match most with
      | none => c.stops p
      | some n => (c.stops p).take (n + 1)).drop least) ↔ (Pattern.run p least most appetite).Reads c d := by
  have horder : ∀ xs : List Cursor, d ∈ appetite.order xs ↔ d ∈ xs := by
    intro xs
    cases appetite <;> simp [Appetite.order]
  have hstop : ∀ i, (match most with
      | none => c.stops p
      | some n => (c.stops p).take (n + 1))[i]? = some d ↔
      (c.stops p)[i]? = some d ∧ ∀ n ∈ most, i ≤ n := by
    intro i
    cases most with
    | none => simp
    | some n =>
      simp only [List.getElem?_take, Option.mem_some_iff, forall_eq', Nat.lt_succ_iff]
      split <;> simp_all
  rw [horder, List.mem_iff_getElem?, Reads]
  simp only [List.getElem?_drop]
  constructor
  · rintro ⟨i, hi⟩
    obtain ⟨hget, hmost⟩ := (hstop _).mp hi
    obtain ⟨front, hpass, hall, hlength⟩ := (Cursor.getElem?_stops p c d _).mp hget
    exact ⟨front, hpass, hall, by omega, fun n hn => hlength ▸ hmost n hn⟩
  · rintro ⟨front, hpass, hall, hleast, hmost⟩
    refine ⟨front.length - least, (hstop _).mpr ⟨?_, ?_⟩⟩
    · exact (Cursor.getElem?_stops p c d _).mpr ⟨front, hpass, hall, by omega⟩
    · intro n hn
      have := hmost n hn
      omega

/-- The matcher finds an accepted match exactly when there is one. -/
theorem run?_finds (p : Pattern) : Finds p.run? p.Reads := by
  induction p with
  | empty =>
    intro c s next accepts hnext
    simp [run?, Reads, hnext c s rfl]
  | one p =>
    intro c s next accepts hnext
    simp only [Reads, Cursor.Passes.single_iff] at hnext ⊢
    cases hrest : c.rest with
    | nil => simp [run?, hrest]
    | cons x xs =>
      by_cases hx : p x = true
      · have hone := hnext _ s ⟨x, hx, xs, hrest, rfl⟩
        simp [run?, hrest, hx, hone]
      · simp [run?, hrest, hx]
  | seq p q ihp ihq =>
    intro c s next accepts hnext
    rw [run?, ihp fun m => ∃ d, q.Reads m d ∧ accepts d]
    · simp only [Reads]
      constructor
      · rintro ⟨m, hm, d, hd, haccepts⟩
        exact ⟨d, ⟨m, hm, hd⟩, haccepts⟩
      · rintro ⟨d, ⟨m, hm, hd⟩, haccepts⟩
        exact ⟨m, hm, d, hd, haccepts⟩
    · intro m s' hm
      exact ihq accepts fun d s'' hd => hnext d s'' ⟨m, hm, hd⟩
  | alt p q ihp ihq =>
    intro c s next accepts hnext
    have hp : (p.run? c s next).isSome = true ↔ ∃ d, p.Reads c d ∧ accepts d :=
      ihp accepts fun d s' hd => hnext d s' (.inl hd)
    have hq : (q.run? c s next).isSome = true ↔ ∃ d, q.Reads c d ∧ accepts d :=
      ihq accepts fun d s' hd => hnext d s' (.inr hd)
    simp [run?, Reads, hp, hq, or_and_right, exists_or]
  | run p least most appetite =>
    intro c s next accepts hnext
    simp only [run?, List.isSome_findSome?, List.any_eq_true]
    refine exists_congr fun d => ?_
    exact (and_congr_left' mem_order_stops_iff).trans (and_congr_right fun hd => hnext d s hd)
  | many p least most appetite ih =>
    intro c s next accepts hnext
    exact isSome_repeatFrom_iff ih Reads.reaches appetite s (Nat.le_refl _) hnext
  | capture label p ih =>
    intro c s next accepts hnext
    exact ih accepts fun d s' hd => hnext d _ hd
  | here test =>
    intro c s next accepts hnext
    simp only [run?, Reads, isSome_ite_none, and_assoc, exists_and_left, exists_eq_left]
    exact and_congr_right fun htest => hnext c s ⟨htest, rfl⟩
  | notAhead p ih =>
    intro c s next accepts hnext
    have hahead : (p.run? c s fun c' s' => some (c', s')).isSome = true ↔ ∃ d, p.Reads c d ∧ True :=
      ih (fun _ => True) (by simp)
    simp only [and_true] at hahead
    have hrun : ((notAhead p).run? c s next).isSome = true ↔ (∀ d, ¬ p.Reads c d) ∧ (next c s).isSome = true := by
      rw [run?, ← not_exists, ← hahead]
      split <;> simp_all
    simp only [hrun, Reads, and_assoc, exists_and_left, exists_eq_left]
    exact and_congr_right fun hnone => hnext c s ⟨hnone, rfl⟩

/-- There is a match at a cursor. -/
theorem isSome_matchAt?_iff {p : Pattern} {c : Cursor} : (p.matchAt? c).isSome = true ↔ ∃ d, p.Reads c d := by
  have h : (p.matchAt? c).isSome = true ↔ ∃ d, p.Reads c d ∧ True := p.run?_finds (fun _ => True) (by simp)
  simpa using h

/-! ### Outcomes -/

/-- Nothing is captured on the way. -/
def Unlabelled : Pattern → Prop
  | .seq p q => Unlabelled p ∧ Unlabelled q
  | .alt p q => Unlabelled p ∧ Unlabelled q
  | .many p _ _ _ => Unlabelled p
  | .capture _ _ => False
  | .empty | .one _ | .run .. | .here _ | .notAhead _ => True

/-- What `step` finds is an outcome of the rest at a cursor to which `R` leads, with the captures so far. -/
def Hands (step : Cursor → Captures → Next → Option Outcome) (R : Cursor → Cursor → Prop) : Prop :=
  ∀ {c : Cursor} {s : Captures} {next : Next} {o : Outcome}, step c s next = some o → ∃ d, R c d ∧ next d s = some o

theorem repeatFrom_succ_cases {body : Cursor → Captures → Next → Option Outcome} {appetite : Appetite}
    {fuel least : Nat} {most : Option Nat} {c : Cursor} {s : Captures} {next : Next} {o : Outcome}
    (h : repeatFrom body appetite (fuel + 1) least most c s next = some o) :
    repeatAgain body appetite fuel least most c s next = some o ∨ least = 0 ∧ next c s = some o := by
  by_cases hleast : 0 < least
  · exact .inl (by simpa only [repeatFrom, repeatAgain, hleast, if_true] using h)
  · have heq : least = 0 := by omega
    subst heq
    cases appetite with
    | greedy =>
      have h : (repeatAgain body .greedy fuel 0 most c s next <|> next c s) = some o := h
      rcases (Option.orElse_eq_some _ _ _).mp h with hagain | ⟨_, hstop⟩
      · exact .inl hagain
      · exact .inr ⟨rfl, hstop⟩
    | reluctant =>
      have h : (next c s <|> repeatAgain body .reluctant fuel 0 most c s next) = some o := h
      rcases (Option.orElse_eq_some _ _ _).mp h with hstop | ⟨_, hagain⟩
      · exact .inr ⟨rfl, hstop⟩
      · exact .inl hagain

theorem hands_repeatFrom {body : Cursor → Captures → Next → Option Outcome} {R : Cursor → Cursor → Prop}
    (hbody : Hands body R) (appetite : Appetite) {fuel least : Nat} {most : Option Nat} {c : Cursor} {s : Captures}
    {next : Next} {o : Outcome} (h : repeatFrom body appetite fuel least most c s next = some o) :
    ∃ d, Repeats R least most c d ∧ next d s = some o := by
  induction fuel generalizing c least most with
  | zero =>
    rw [repeatFrom, Option.ite_none_right_eq_some] at h
    obtain ⟨rfl, h⟩ := h
    exact ⟨c, .stop most c, h⟩
  | succ fuel ih =>
    rcases repeatFrom_succ_cases h with hagain | ⟨rfl, hstop⟩
    · rw [repeatAgain, Option.ite_none_left_eq_some] at hagain
      obtain ⟨hmost, hbodied⟩ := hagain
      obtain ⟨m, hm, hrest⟩ := hbody hbodied
      rw [Option.ite_none_right_eq_some] at hrest
      obtain ⟨hlt, hrest⟩ := hrest
      obtain ⟨d, hd, hnext⟩ := ih hrest
      exact ⟨d, .again hmost hm hlt hd, hnext⟩
    · exact ⟨c, .stop most c, hstop⟩

/-- What the matcher finds is a match. -/
theorem run?_hands {p : Pattern} (hp : p.Unlabelled) : Hands p.run? p.Reads := by
  induction p with
  | empty =>
    intro c s next o h
    exact ⟨c, rfl, h⟩
  | one p =>
    intro c s next o h
    cases hrest : c.rest with
    | nil => simp [run?, hrest] at h
    | cons x xs =>
      simp only [run?, hrest, Option.ite_none_right_eq_some] at h
      exact ⟨_, ⟨x, h.1, Cursor.Passes.single_iff.mpr ⟨xs, hrest, rfl⟩⟩, h.2⟩
  | seq p q ihp ihq =>
    intro c s next o h
    obtain ⟨m, hm, h⟩ := ihp hp.1 h
    obtain ⟨d, hd, h⟩ := ihq hp.2 h
    exact ⟨d, ⟨m, hm, hd⟩, h⟩
  | alt p q ihp ihq =>
    intro c s next o h
    rcases (Option.orElse_eq_some _ _ _).mp h with h | ⟨_, h⟩
    · obtain ⟨d, hd, h⟩ := ihp hp.1 h
      exact ⟨d, .inl hd, h⟩
    · obtain ⟨d, hd, h⟩ := ihq hp.2 h
      exact ⟨d, .inr hd, h⟩
  | run p least most appetite =>
    intro c s next o h
    obtain ⟨d, hd, h⟩ := List.exists_of_findSome?_eq_some h
    exact ⟨d, mem_order_stops_iff.mp hd, h⟩
  | many p least most appetite ih =>
    intro c s next o h
    have h : repeatFrom p.run? appetite c.rest.length least most c s next = some o := h
    exact hands_repeatFrom (@ih hp) appetite h
  | capture label p ih => exact hp.elim
  | here test =>
    intro c s next o h
    rw [run?, Option.ite_none_right_eq_some] at h
    exact ⟨c, ⟨h.1, rfl⟩, h.2⟩
  | notAhead p ih =>
    intro c s next o h
    have hahead : (p.run? c s fun c' s' => some (c', s')).isSome = true ↔ ∃ d, p.Reads c d ∧ True :=
      p.run?_finds (fun _ => True) (by simp)
    rw [run?] at h
    split at h
    case h_1 => cases h
    case h_2 hnone =>
      refine ⟨c, ⟨fun m hm => ?_, rfl⟩, h⟩
      have hsome := hahead.mpr ⟨m, hm, trivial⟩
      rw [hnone] at hsome
      cases hsome

/-- A name goes as far as its characters do, if the rest accepts that. -/
theorem run?_nameOf {extra : Text} (inside : Text) {c : Cursor} {x : Char} {xs : Text} (hc : c.rest = x :: xs)
    (hx : letterOr extra x = true) :
    ∃ d : Cursor, d.offset = c.offset + 1 + (xs.takeWhile (wordOr inside)).length ∧
      ∀ (s : Captures) (next : Next) (o : Outcome), next d s = some o →
        (nameOf extra inside).run? c s next = some o := by
  obtain ⟨offset, before, rest⟩ := c
  obtain rfl : rest = x :: xs := hc
  obtain ⟨init, d, hinit, hoffset⟩ := Cursor.exists_last_stop (wordOr inside) (offset + 1) (some x) xs
  have hstops : Cursor.stops (wordOr inside) ⟨offset + 1, some x, xs⟩ = init ++ [d] := hinit
  refine ⟨d, hoffset, fun s next o hnext => ?_⟩
  show (Pattern.seq (.one (letterOr extra)) (.run (wordOr inside) 0 none .greedy)).run? _ s next = some o
  simp [run?, hx, hstops, Appetite.order, hnext]

/-! ### Searching -/

theorem isSome_searchFrom_iff (p : Pattern) (offset : Nat) (before : Option Char) (t : Text) :
    (p.searchFrom offset before t).isSome = true ↔
      ∃ c d, Cursor.Reaches ⟨offset, before, t⟩ c ∧ p.Reads c d := by
  induction t generalizing offset before with
  | nil =>
    rw [searchFrom, Option.isSome_map, isSome_matchAt?_iff]
    simp [Cursor.reaches_nil_iff]
  | cons x xs ih =>
    have hcons : (p.searchFrom offset before (x :: xs)).isSome = true ↔
        (p.matchAt? ⟨offset, before, x :: xs⟩).isSome = true ∨
          (p.searchFrom (offset + 1) (some x) xs).isSome = true := by
      rw [searchFrom]
      split <;> simp_all
    rw [hcons, isSome_matchAt?_iff, ih]
    simp [Cursor.reaches_cons_iff, or_and_right, exists_or]

/-- A pattern occurs in a text if and only if a match can start at some place of it. -/
theorem occursIn_iff {p : Pattern} {t : Text} :
    p.occursIn t = true ↔ ∃ c d, (Cursor.start t).Reaches c ∧ p.Reads c d :=
  isSome_searchFrom_iff p 0 none t

/-- A scan begins with what a search finds. -/
theorem head?_scanFrom (p : Pattern) (offset : Nat) (before : Option Char) (t : Text) :
    (p.scanFrom 0 offset before t).head? = p.searchFrom offset before t := by
  induction t generalizing offset before with
  | nil =>
    rw [scanFrom, searchFrom, if_pos rfl]
    dsimp only
    cases p.matchAt? ⟨offset, before, []⟩ <;> rfl
  | cons x xs ih =>
    rw [scanFrom, searchFrom, if_pos rfl]
    dsimp only
    cases p.matchAt? ⟨offset, before, x :: xs⟩ with
    | none => exact ih (offset + 1) (some x)
    | some o => rfl

theorem head?_scan (p : Pattern) (t : Text) : (p.scan t).head? = p.search? t := p.head?_scanFrom 0 none t

/-- A scan gives nothing if and only if the pattern does not occur. -/
theorem isEmpty_scan (p : Pattern) (t : Text) : (p.scan t).isEmpty = !p.occursIn t := by
  rw [occursIn, ← head?_scan]
  cases p.scan t <;> rfl

/-! ### First matches -/

/-- A match can start at the offset. -/
def MatchesAt (p : Pattern) (t : Text) (offset : Nat) : Prop :=
  ∃ c d, (Cursor.start t).Reaches c ∧ c.offset = offset ∧ p.Reads c d

/-- The offset is the first from a place on where a match can start. -/
structure FirstFrom (p : Pattern) (c : Cursor) (offset : Nat) : Prop where
  reads : ∃ d e, c.Reaches d ∧ d.offset = offset ∧ p.Reads d e
  least : ∀ d e, c.Reaches d → p.Reads d e → offset ≤ d.offset

theorem FirstFrom.here {p : Pattern} {c d : Cursor} (h : p.Reads c d) : p.FirstFrom c c.offset :=
  ⟨⟨c, d, .refl c, rfl, h⟩, fun _ _ hreach _ => hreach.offset_le⟩

/-- A search finds a match that starts here, or there is none here and it goes on behind the next character. -/
theorem searchFrom_cases {p : Pattern} {offset : Nat} {before : Option Char} {t : Text} {m : Match}
    (h : p.searchFrom offset before t = some m) :
    (m.start = offset ∧ ∃ d, p.Reads ⟨offset, before, t⟩ d) ∨
      (¬ ∃ d, p.Reads ⟨offset, before, t⟩ d) ∧
        ∃ x xs, t = x :: xs ∧ p.searchFrom (offset + 1) (some x) xs = some m := by
  rw [← isSome_matchAt?_iff]
  cases t with
  | nil =>
    obtain ⟨o, ho, rfl⟩ := Option.map_eq_some_iff.mp h
    exact .inl ⟨rfl, by rw [ho]; rfl⟩
  | cons x xs =>
    rw [searchFrom] at h
    split at h
    case h_1 o ho =>
      obtain rfl := Option.some.inj h
      exact .inl ⟨rfl, by rw [ho]; rfl⟩
    case h_2 hnone => exact .inr ⟨by rw [hnone]; simp, x, xs, rfl, h⟩

/-- A search stops at the first place where a match can start. -/
theorem searchFrom_first {p : Pattern} {offset : Nat} {before : Option Char} {t : Text} {m : Match}
    (h : p.searchFrom offset before t = some m) : p.FirstFrom ⟨offset, before, t⟩ m.start := by
  induction t generalizing offset before with
  | nil =>
    rcases searchFrom_cases h with ⟨rfl, d, hd⟩ | ⟨_, x, xs, hcons, _⟩
    · exact .here hd
    · cases hcons
  | cons x xs ih =>
    rcases searchFrom_cases h with ⟨rfl, d, hd⟩ | ⟨hnone, _, _, hcons, hnext⟩
    · exact .here hd
    · obtain ⟨rfl, rfl⟩ := List.cons.inj hcons
      obtain ⟨⟨d, e, hd, hoffset, hreads⟩, hleast⟩ := ih hnext
      refine ⟨⟨d, e, Cursor.reaches_cons_iff.mpr (.inr hd), hoffset, hreads⟩, fun d' e' hd' hreads' => ?_⟩
      rcases Cursor.reaches_cons_iff.mp hd' with rfl | hd'
      · exact absurd ⟨e', hreads'⟩ hnone
      · exact hleast d' e' hd' hreads'

/-- The first match of a scan starts at the first place where one can. -/
theorem head?_scan_first {p : Pattern} {t : Text} {m : Match} (h : (p.scan t).head? = some m) :
    p.MatchesAt t m.start ∧ ∀ offset, p.MatchesAt t offset → m.start ≤ offset := by
  rw [head?_scan] at h
  obtain ⟨hreads, hleast⟩ := searchFrom_first h
  refine ⟨hreads, ?_⟩
  rintro _ ⟨c, d, hc, rfl, hd⟩
  exact hleast c d hc hd

end Pattern

end SourceChunks
