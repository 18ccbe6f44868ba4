import SourceChunks.Outline.Recogniser
import SourceChunks.Proofs.BracedOutline
import SourceChunks.Proofs.Matching

/-! Which declarations the pass over braces keeps. A line that begins with an at sign and stands outside all
declarations is taken for an annotation before any form is tried on it. If the forms of the language read it as a
declaration, it is kept only as an annotation of the next one, and lost if there is none. All other declared
lines are kept. Four languages have forms that read past an at sign. -/

namespace SourceChunks

namespace Pattern

/-! ### The first character that is not blank -/

/-- Some blank is in the class. -/
def holdsBlank (p : Char → Bool) : Bool := blankCodes.any fun n => p (Char.ofNat n)

theorem holdsBlank_of_isBlank {p : Char → Bool} {x : Char} (hx : isBlank x = true) (hp : p x = true) :
    holdsBlank p = true :=
  List.any_eq_true.mpr ⟨x.toNat, toNat_mem_blankCodes hx, by simpa using hp⟩

/-- A match from the blanks at the start of a line may stop among them. -/
def mayStay : Pattern → Bool
  | .empty => true
  | .one p => holdsBlank p
  | .seq p q => mayStay p && mayStay q
  | .alt p q => mayStay p || mayStay q
  | .run p least _ _ => least == 0 || holdsBlank p
  | .many p least _ _ => least == 0 || mayStay p
  | .capture _ p => mayStay p
  | .here _ => true
  | .notAhead _ => true

/-- A match from the blanks at the start of a line may pass the character behind them. -/
def mayPass (x : Char) : Pattern → Bool
  | .empty => false
  | .one p => p x
  | .seq p q => mayPass x p || (mayStay p && mayPass x q)
  | .alt p q => mayPass x p || mayPass x q
  | .run p _ _ _ => p x
  | .many p _ _ _ => mayPass x p
  | .capture _ p => mayPass x p
  | .here _ => false
  | .notAhead _ => false

/-- Only blanks stand between the cursor and the character. -/
def Faces (c : Cursor) (x : Char) : Prop := ∃ indent back, c.rest = indent ++ x :: back ∧ indent.all isBlank = true

variable {x : Char} {c d : Cursor}

theorem faces_or_mem {front : Text} (hc : Faces c x) (h : c.Passes front d) :
    (front.all isBlank = true ∧ Faces d x) ∨ x ∈ front := by
  obtain ⟨indent, back, hrest, hindent⟩ := hc
  rw [h.rest, List.append_eq_append_iff] at hrest
  rcases hrest with ⟨rest, rfl, hd⟩ | ⟨rest, rfl, hd⟩
  · rw [List.all_append, Bool.and_eq_true] at hindent
    exact .inl ⟨hindent.1, rest, back, hd, hindent.2⟩
  · cases rest with
    | nil => exact .inl ⟨by simpa using hindent, [], back, by simpa using hd.symm, rfl⟩
    | cons y rest =>
      obtain rfl : x = y := (List.cons.inj hd).1
      exact .inr (by simp)

theorem Repeats.stays_or_passes {R : Cursor → Cursor → Prop} {stays passes : Bool}
    (hR : ∀ {c d}, Faces c x → R c d → (stays = true ∧ Faces d x) ∨ passes = true) {least : Nat} {most : Option Nat}
    (h : Repeats R least most c d) (hc : Faces c x) :
    ((least == 0 || stays) = true ∧ Faces d x) ∨ passes = true := by
  induction h with
  | stop most c => exact .inl ⟨rfl, hc⟩
  | again _ hone _ _ ih =>
    rcases hR hc hone with ⟨hstays, hm⟩ | hpasses
    · rcases ih hm with ⟨_, hd⟩ | hpasses
      · exact .inl ⟨by simp [hstays], hd⟩
      · exact .inr hpasses
    · exact .inr hpasses

/-- A match that starts among blanks stops there or passes the character behind them. -/
theorem Reads.stays_or_passes {p : Pattern} (h : p.Reads c d) (hc : Faces c x) :
    (mayStay p = true ∧ Faces d x) ∨ mayPass x p = true := by
  induction p generalizing c d with
  | empty => exact .inl ⟨rfl, h ▸ hc⟩
  | one p =>
    obtain ⟨y, hy, hpass⟩ := h
    rcases faces_or_mem hc hpass with ⟨hblank, hd⟩ | hmem
    · exact .inl ⟨holdsBlank_of_isBlank (by simpa using hblank) hy, hd⟩
    · obtain rfl := List.mem_singleton.mp hmem
      exact .inr hy
  | seq p q ihp ihq =>
    obtain ⟨m, hp, hq⟩ := h
    rcases ihp hp hc with ⟨hstays, hm⟩ | hpasses
    · rcases ihq hq hm with ⟨hstays', hd⟩ | hpasses
      · exact .inl ⟨by simp [mayStay, hstays, hstays'], hd⟩
      · exact .inr (by simp [mayPass, hstays, hpasses])
    · exact .inr (by simp [mayPass, hpasses])
  | alt p q ihp ihq =>
    rcases h with h | h
    · exact (ihp h hc).imp (fun hs => ⟨by simp [mayStay, hs.1], hs.2⟩) fun hs => by simp [mayPass, hs]
    · exact (ihq h hc).imp (fun hs => ⟨by simp [mayStay, hs.1], hs.2⟩) fun hs => by simp [mayPass, hs]
  | run p least most appetite =>
    obtain ⟨front, hpass, hall, hleast, _⟩ := h
    rcases faces_or_mem hc hpass with ⟨hblank, hd⟩ | hmem
    · refine .inl ⟨?_, hd⟩
      cases front with
      | nil => simp [mayStay, Nat.le_zero.mp hleast]
      | cons y ys =>
        rw [List.all_cons, Bool.and_eq_true] at hall hblank
        simp [mayStay, holdsBlank_of_isBlank hblank.1 hall.1]
    · exact .inr (List.all_eq_true.mp hall x hmem)
  | many p least most appetite ih => exact Repeats.stays_or_passes (fun hc h => ih h hc) h hc
  | capture label p ih => exact ih h hc
  | here test => exact .inl ⟨rfl, h.2 ▸ hc⟩
  | notAhead p _ => exact .inl ⟨rfl, h.2 ▸ hc⟩

/-- No match begins on a line whose first character after the blanks the pattern cannot pass. -/
theorem matchStart?_eq_none {p : Pattern} {indent back : Text} (hstay : mayStay p = false)
    (hpass : mayPass x p = false) (hindent : indent.all isBlank = true) :
    p.matchStart? (indent ++ x :: back) = none := by
  rw [matchStart?, Option.map_eq_none_iff, ← Option.not_isSome_iff_eq_none, isSome_matchAt?_iff]
  rintro ⟨d, hd⟩
  rcases hd.stays_or_passes (x := x) ⟨indent, back, rfl, hindent⟩ with ⟨h, _⟩ | h <;> simp_all

end Pattern

namespace Outline

/-! ### Forms that pass an at sign -/

/-- A form of the language may fit a line that begins with an at sign. -/
def readsMark (language : Language) : Bool :=
  (forms language).any fun f => f.pattern.mayStay || f.pattern.mayPass '@'

theorem readsMark_iff (language : Language) :
    readsMark language = true ↔ language ∈ [.java, .csharp, .kotlin, .swift] := by
  cases language with
  | other tag =>
    have hscript : readsMark .javascript = false := by decide +kernel
    exact iff_of_false (ne_true_of_eq_false hscript) (by simp)
  | _ => simp; decide +kernel

namespace Braces

/-- The at sign stands behind the blanks of the line. -/
theorem exists_of_isAnnotating {line : Text} (h : isAnnotating line = true) :
    ∃ indent back, line = indent ++ '@' :: back ∧ indent.all isBlank = true := by
  rw [isAnnotating, beq_iff_eq, Text.head?_trim] at h
  obtain ⟨back, hback⟩ := List.head?_eq_some_iff.mp h
  refine ⟨line.takeWhile isBlank, back, ?_, List.all_takeWhile⟩
  rw [← hback]
  exact List.takeWhile_append_dropWhile.symm

theorem readsMark_of_declaration? {language : Language} {line : Text} {header : NodeKind × Text}
    (hmark : isAnnotating line = true) (hheader : declaration? language line = some header) :
    readsMark language = true := by
  obtain ⟨indent, back, rfl, hindent⟩ := exists_of_isAnnotating hmark
  obtain ⟨f, hf, hmatch⟩ := List.exists_of_findSome?_eq_some hheader
  rw [readsMark, List.any_eq_true]
  refine ⟨f, hf, ?_⟩
  by_contra hnot
  rw [Bool.not_eq_true, Bool.or_eq_false_iff] at hnot
  rw [Pattern.matchStart?_eq_none hnot.1 hnot.2 hindent] at hmatch
  cases hmatch

/-! ### Lines inside declarations -/

/-- Line `i` lies inside a declaration. -/
def Covers (ns : List Node) (i : Nat) : Prop := ∃ n ∈ ns, n.first ≤ (i : Int) ∧ (i : Int) ≤ n.last

theorem covers_append {as bs : List Node} {i : Nat} : Covers (as ++ bs) i ↔ Covers as i ∨ Covers bs i := by
  simp [Covers, or_and_right, exists_or]

/-- The state of the pass before line `i`. -/
def stateAt (language : Language) (ls : List Text) : Nat → State
  | 0 => {}
  | i + 1 => (step language ls i (ls.getD i []) (stateAt language ls i)).2

/-- The next line of code that is no annotation declares something. -/
def answered (language : Language) (rest : List Text) : Bool :=
  (rest.find? fun line => isCodeLine line && !isAnnotating line).any fun line => (declaration? language line).isSome

/-- Line `i` is taken for an annotation, and no declaration follows that it could belong to. -/
def isLost (language : Language) (ls : List Text) (i : Nat) : Bool :=
  isAnnotating (ls.getD i []) && (stateAt language ls i).current.isNone && !answered language (ls.drop (i + 1))

section

variable {language : Language} {ls rest : List Text} {i j d : Nat} {s : State} {line : Text}

theorem nodesFrom_cons :
    nodesFrom language ls i (line :: rest) s =
      (step language ls i line s).1 ++ nodesFrom language ls (i + 1) rest (step language ls i line s).2 := rfl

/-- Of a line and those behind it: what the line does, and which lines come into declarations by it. -/
theorem covers_nodesFrom_cons (language : Language) (ls rest : List Text) (line : Text) (s : State) (i j : Nat) :
    ∃ ended next, Effect language ls i line s ended next ∧
      (Covers (nodesFrom language ls i (line :: rest) s) j ↔
        Covers ended j ∨ Covers (nodesFrom language ls (i + 1) rest next) j) :=
  ⟨_, _, step_effect language ls i line s, covers_append⟩

theorem covers_close {n : OpenNode} {stop : Nat} (hfirst : n.first ≤ j) (htext : HasText ls j) (hj : j ≤ stop) :
    Covers [n.close ls stop] j :=
  ⟨n.close ls stop, List.mem_singleton_self _, Int.ofNat_le.mpr hfirst, le_close_last n ls htext hj⟩

theorem covers_closed {n : Opening} {stop : Nat} (hc : s.current = some n) (hfirst : n.first ≤ j)
    (htext : HasText ls j) (hj : j ≤ stop) : Covers (s.closed ls stop) j := by
  rw [State.closed, hc]
  exact covers_close hfirst htext hj

/-- The open declaration will end behind the lines with text that it has so far. -/
theorem covers_of_open {n : Opening} (hc : s.current = some n) (hfirst : n.first ≤ j) (hj : j < i)
    (htext : HasText ls j) : Covers (nodesFrom language ls i rest s) j := by
  induction rest generalizing i s n with
  | nil => exact covers_closed hc hfirst htext (by have := htext.lt_length; omega)
  | cons line rest ih =>
    obtain ⟨ended, next, he, hcons⟩ := covers_nodesFrom_cons language ls rest line s i j
    rw [hcons]
    cases he with
    | nothing _ => exact .inr (ih hc hfirst (by omega))
    | annotates _ _ hnone => rw [hnone] at hc; cases hc
    | opens _ _ _ _ => exact .inl (covers_closed hc hfirst htext (by omega))
    | declares _ _ _ _ => exact .inl (covers_append.mpr (.inl (covers_closed hc hfirst htext (by omega))))
    | ends _ _ _ _ => exact .inl (covers_closed hc hfirst htext (by omega))
    | passes _ _ _ => exact .inr (ih hc hfirst (by omega))

theorem not_covers_nodesFrom (hnone : s.current = none) (hs : s.annotation = none) (hj : j < i) (hr : ls.drop i = rest)
    (hi : i ≤ ls.length) : ¬ Covers (nodesFrom language ls i rest s) j := by
  have hready : Ready i i s := ⟨Nat.le_refl i, by simp [hnone], by simp [hs]⟩
  rintro ⟨n, hn, hfirst, _⟩
  have := (nodesFrom_separate language hready hr hi).range n hn
  omega

/-- A line of code that is no annotation decides about the annotations before it. -/
theorem covers_cons_iff (hnone : s.current = none) (hs : s.annotation = some d) (hd : d ≤ j) (hj : j < i)
    (htext : HasText ls j) (hr : ls.drop i = line :: rest) (hcode : isCodeLine line = true)
    (hmark : isAnnotating line = false) :
    Covers (nodesFrom language ls i (line :: rest) s) j ↔ (declaration? language line).isSome = true := by
  obtain ⟨hline, hrest⟩ := getElem?_of_drop_eq_cons hr
  have hlt : i < ls.length := (List.getElem?_eq_some_iff.mp hline).1
  have hadmits : s.admits = true := by simp [State.admits, hnone]
  obtain ⟨ended, next, he, hcons⟩ := covers_nodesFrom_cons language ls rest line s i j
  rw [hcons]
  cases he with
  | nothing hnot => simp [hcode] at hnot
  | annotates _ hnot _ => simp [hmark] at hnot
  | @opens _ _ header hheader _ =>
    have hfirst : (opening i line s header).first ≤ j := by simpa [opening, hs] using hd
    exact iff_of_true (.inr (covers_of_open rfl hfirst (Nat.lt_succ_of_lt hj) htext)) (Option.isSome_of_mem hheader)
  | @declares _ _ header hheader _ =>
    have hfirst : (opening i line s header).first ≤ j := by simpa [opening, hs] using hd
    have hone : Covers [(opening i line s header).close ls i] j := covers_close hfirst htext (Nat.le_of_lt hj)
    exact iff_of_true (.inl (covers_append.mpr (.inr hone))) (Option.isSome_of_mem hheader)
  | ends _ _ _ hleft => simp [hnone] at hleft
  | passes _ hheader _ =>
    -- the annotations are given up, and whatever comes later begins behind them
    have hlater : ¬ Covers (nodesFrom language ls (i + 1) rest ⟨s.current, depthAfter line s, none⟩) j :=
      not_covers_nodesFrom hnone rfl (Nat.lt_succ_of_lt hj) hrest hlt
    have hnow : ¬ Covers [] j := by simp [Covers]
    rw [hheader hadmits]
    exact iff_of_false (not_or.mpr ⟨hnow, hlater⟩) (by simp)

theorem nodesFrom_annotates (hcode : isCodeLine line = true) (hmark : isAnnotating line = true)
    (hnone : s.current = none) :
    nodesFrom language ls i (line :: rest) s =
      nodesFrom language ls (i + 1) rest ⟨none, depthAfter line s, s.annotation.or (some i)⟩ := by
  have hmark : ((Text.trim line).head? == some '@') = true := hmark
  simp [nodesFrom_cons, step, hcode, hmark, hnone, depthAfter]

/-- Annotated lines come into a declaration exactly if the next line of code that is no annotation declares one. -/
theorem covers_annotated_iff (hnone : s.current = none) (hs : s.annotation = some d) (hd : d ≤ j) (hj : j < i)
    (htext : HasText ls j) (hr : ls.drop i = rest) :
    Covers (nodesFrom language ls i rest s) j ↔ answered language rest = true := by
  induction rest generalizing i s with
  | nil => simp [nodesFrom, State.closed, hnone, Covers, answered]
  | cons line rest ih =>
    have hrest := (getElem?_of_drop_eq_cons hr).2
    by_cases hcode : isCodeLine line = true
    · by_cases hmark : isAnnotating line = true
      · rw [nodesFrom_annotates hcode hmark hnone, ih rfl (by rw [hs]; rfl) (by omega) hrest]
        simp [answered, hmark]
      · rw [Bool.not_eq_true] at hmark
        rw [covers_cons_iff hnone hs hd hj htext hr hcode hmark]
        simp [answered, hcode, hmark]
    · -- a comment or a blank line leaves the annotations at hand as they are
      have hstep : step language ls i line s = ([], s) := by simp [step, hcode]
      rw [nodesFrom_cons, hstep, List.nil_append, ih hnone hs (by omega) hrest]
      simp [answered, hcode]

/-- The declarations that have ended before line `i`, and those still to come. -/
theorem exists_nodes_eq_append (language : Language) (hi : i ≤ ls.length) :
    ∃ (done : List Node) (mid : Nat),
      nodes language ls = done ++ nodesFrom language ls i (ls.drop i) (stateAt language ls i) ∧
        Separate 0 mid done ∧ Ready mid i (stateAt language ls i) := by
  induction i with
  | zero =>
    refine ⟨[], 0, by simp [nodes, stateAt], .nil (Int.le_refl _), Nat.le_refl _, by simp [stateAt], by simp [stateAt]⟩
  | succ i ih =>
    obtain ⟨done, mid, hnodes, hdone, hready⟩ := ih (by omega)
    have hdrop : ls.drop i = ls.getD i [] :: ls.drop (i + 1) := by
      rw [List.drop_eq_getElem_cons hi]
      simp [List.getElem?_eq_getElem hi]
    obtain ⟨mid', hended, hready'⟩ := step_separate hready language ls (ls.getD i [])
    refine ⟨done ++ (step language ls i (ls.getD i []) (stateAt language ls i)).1, mid', ?_,
      hdone.append hended, hready'⟩
    rw [hnodes, hdrop, nodesFrom_cons, List.append_assoc]
    rfl

/-- A declared line that is not taken for an annotation lies inside a declaration. -/
theorem covers_of_declared {lo : Nat} {kind : NodeKind} {name : Text} (hready : Ready lo i s)
    (hline : ls[i]? = some line) (hcode : isCodeLine line = true)
    (hheader : declaration? language line = some (kind, name))
    (hplain : ¬ (isAnnotating line = true ∧ s.current = none)) :
    Covers (nodesFrom language ls i (line :: rest) s) i := by
  have htext : HasText ls i := hasText_of_isCodeLine hline hcode
  have hfirst : ∀ header, (opening i line s header).first ≤ i := by
    intro header
    cases hs : s.annotation with
    | none => simp [opening, hs]
    | some d => simpa [opening, hs] using Nat.le_of_lt (hready.annotation hs).2.1
  obtain ⟨ended, next, he, hcons⟩ := covers_nodesFrom_cons language ls rest line s i i
  rw [hcons]
  cases he with
  | nothing hnot => simp [hcode] at hnot
  | annotates _ hmark hnone => exact absurd ⟨hmark, hnone⟩ hplain
  | @opens _ _ header _ _ =>
    exact .inr (covers_of_open rfl (hfirst header) (Nat.lt_succ_self i) htext)
  | @declares _ _ header _ _ =>
    have hone : Covers [(opening i line s header).close ls i] i :=
      covers_close (hfirst header) htext (Nat.le_refl i)
    exact .inl (covers_append.mpr (.inr hone))
  | ends _ _ _ hleft =>
    obtain ⟨n, hc, _⟩ := (Option.any_eq_true _ _).mp hleft
    exact .inl (covers_closed hc (Nat.le_of_lt (hready.current hc).2) htext (Nat.le_refl i))
  | passes _ hnot _ =>
    have hopen : s.current ≠ none := by
      intro hnone
      simp [hnot (by simp [State.admits, hnone])] at hheader
    obtain ⟨n, hc⟩ := Option.ne_none_iff_exists'.mp hopen
    exact .inr (covers_of_open hc (Nat.le_of_lt (hready.current hc).2) (Nat.lt_succ_self i) htext)

/-- A declared line lies inside a declaration unless it is lost. -/
theorem covers_iff {kind : NodeKind} {name : Text} (h : DeclaredBy language ls i kind name) :
    Covers (nodes language ls) i ↔ isLost language ls i = false := by
  obtain ⟨line, hline, hcode, hheader⟩ := h
  have hlt : i < ls.length := (List.getElem?_eq_some_iff.mp hline).1
  obtain ⟨done, mid, hnodes, hdone, hready⟩ := exists_nodes_eq_append language (Nat.le_of_lt hlt)
  have hdrop : ls.drop i = line :: ls.drop (i + 1) := by
    rw [List.drop_eq_getElem_cons hlt, (List.getElem?_eq_some_iff.mp hline).2]
  have hbefore : ¬ Covers done i := by
    rintro ⟨n, hn, _, hlast⟩
    have h1 := hdone.range n hn
    have h2 := hready.le
    omega
  have hget : ls.getD i [] = line := by simp [hline]
  rw [hnodes, covers_append, or_iff_right hbefore, hdrop, isLost, hget]
  generalize stateAt language ls i = s at hready ⊢
  by_cases hplain : isAnnotating line = true ∧ s.current = none
  · -- the line joins the annotations at hand or begins a run of them
    obtain ⟨hmark, hnone⟩ := hplain
    obtain ⟨d, hd, hle⟩ : ∃ d, s.annotation.or (some i) = some d ∧ d ≤ i := by
      cases hs : s.annotation with
      | none => exact ⟨i, rfl, Nat.le_refl i⟩
      | some d => exact ⟨d, rfl, Nat.le_of_lt (hready.annotation hs).2.1⟩
    rw [nodesFrom_annotates hcode hmark hnone,
      covers_annotated_iff rfl hd hle (Nat.lt_succ_self i) (hasText_of_isCodeLine hline hcode) rfl]
    simp [hmark, hnone]
  · refine iff_of_true (covers_of_declared hready hline hcode hheader hplain) ?_
    rw [not_and] at hplain
    cases hmark : isAnnotating line with
    | false => rfl
    | true => simp [Option.isNone_iff_eq_none, hplain hmark]

end

/-! ### All declared lines -/

/-- Every declared line shows that there is something to find, and it lies inside one of the declarations found unless
it is lost. -/
structure Keeps (language : Language) (ls : List Text) (ns : List Node) : Prop where
  constructs : ∀ {i kind name}, DeclaredBy language ls i kind name →
    (Recogniser.braces language).hasConstructs ls = true
  covers_iff : ∀ {i kind name}, DeclaredBy language ls i kind name → (Covers ns i ↔ isLost language ls i = false)
  nonempty_iff : ns ≠ [] ↔ ∃ i kind name, DeclaredBy language ls i kind name ∧ isLost language ls i = false

section

variable {language : Language} {ls : List Text} {i : Nat} {kind : NodeKind} {name : Text}

theorem hasConstructs_of_declared (h : DeclaredBy language ls i kind name) :
    (Recogniser.braces language).hasConstructs ls = true := by
  obtain ⟨line, hline, hcode, hheader⟩ := h
  have hcomment : isCommentLine line = false := by simp_all [isCodeLine]
  rw [Recogniser.hasConstructs, Bool.or_eq_true, List.any_eq_true]
  exact .inl ⟨line, List.mem_of_getElem? hline, by simp [hcomment, hheader]⟩

theorem nodes_ne_nil_iff :
    nodes language ls ≠ [] ↔ ∃ i kind name, DeclaredBy language ls i kind name ∧ isLost language ls i = false := by
  constructor
  · intro hne
    obtain ⟨n, hn⟩ := List.exists_mem_of_ne_nil _ hne
    have hstart : Tracks language ls 0 {} := ⟨by simp, by simp⟩
    obtain ⟨i, hi⟩ := hstart.nodesFrom_around List.drop_zero (Nat.zero_le _) n hn
    exact ⟨i, n.kind, n.name, hi.declared, (covers_iff hi.declared).mp ⟨n, hn, hi.from_first, hi.to_last⟩⟩
  · rintro ⟨i, kind, name, hdeclared, hkept⟩
    obtain ⟨n, hn, _⟩ := (covers_iff hdeclared).mpr hkept
    exact List.ne_nil_of_mem hn

/-- A line is lost only where a form reads past its at sign. -/
theorem readsMark_of_not_covers (h : DeclaredBy language ls i kind name) (hlost : ¬ Covers (nodes language ls) i) :
    readsMark language = true := by
  rw [covers_iff h, Bool.not_eq_false, isLost, Bool.and_eq_true, Bool.and_eq_true] at hlost
  obtain ⟨line, hline, _, hheader⟩ := h
  have hget : ls.getD i [] = line := by simp [hline]
  exact readsMark_of_declaration? (hget ▸ hlost.1.1) hheader

end

/-- The declaration of a type of annotations. -/
def annotationType : List Text := ["@interface Marker \x7b".toList, "\x7d".toList]

/-- A function with an attribute before it on the line. -/
def attributedFunction : List Text := ["@objc func run() \x7b".toList, "\x7d".toList]

theorem exists_lost {language : Language} (h : language ∈ [.java, .csharp, .kotlin, .swift]) :
    ∃ ls i kind name, DeclaredBy language ls i kind name ∧ ¬ Covers (nodes language ls) i := by
  suffices hlost : ∃ ls kind name, DeclaredBy language ls 0 kind name ∧ isLost language ls 0 = true by
    obtain ⟨ls, kind, name, hdeclared, hlost⟩ := hlost
    exact ⟨ls, 0, kind, name, hdeclared, by rw [covers_iff hdeclared, hlost]; simp⟩
  have htype {language : Language}
      (hheader : declaration? language "@interface Marker \x7b".toList = some (.interface, "Marker".toList))
      (hlost : isLost language annotationType 0 = true) :
      ∃ ls kind name, DeclaredBy language ls 0 kind name ∧ isLost language ls 0 = true :=
    ⟨annotationType, _, _, ⟨_, rfl, by decide +kernel, hheader⟩, hlost⟩
  simp only [List.mem_cons, List.not_mem_nil, or_false] at h
  rcases h with rfl | rfl | rfl | rfl
  · exact htype (by decide +kernel) (by decide +kernel)
  · exact htype (by decide +kernel) (by decide +kernel)
  · exact htype (by decide +kernel) (by decide +kernel)
  · exact ⟨attributedFunction, .function, "run".toList, ⟨_, rfl, by decide +kernel, by decide +kernel⟩,
      by decide +kernel⟩

/-- The declared lines that the pass over braces loses are those taken for annotations that no declaration follows.
Four languages have such lines, and all others keep every declared line. -/
theorem nodes_keeps (language : Language) :
    (∀ ls, Keeps language ls (nodes language ls)) ∧
      ((∃ ls i kind name, DeclaredBy language ls i kind name ∧ ¬ Covers (nodes language ls) i) ↔
        language ∈ [.java, .csharp, .kotlin, .swift]) := by
  refine ⟨fun ls => ⟨hasConstructs_of_declared, covers_iff, nodes_ne_nil_iff⟩, ?_, exists_lost⟩
  rintro ⟨ls, i, kind, name, hdeclared, hlost⟩
  exact (readsMark_iff language).mp (readsMark_of_not_covers hdeclared hlost)

/-- The type of annotations is declared, and the outline of its source is empty. -/
theorem nodes_annotationType_empty :
    DeclaredBy .java annotationType 0 .interface "Marker".toList ∧
      (Recogniser.braces .java).hasConstructs annotationType = true ∧ nodes .java annotationType = [] :=
  ⟨⟨_, rfl, by decide +kernel, by decide +kernel⟩, by decide +kernel, by decide +kernel⟩

end Braces

end Outline

end SourceChunks
