import SourceChunks.Outline.Recogniser
import SourceChunks.Proofs.Lines

/-! Declarations found by reading lines lie inside the source and go forward: each one begins and ends
later than those before it. With braces they do not even share a line; with indentation a decorator
may belong to two of them. -/

namespace SourceChunks

namespace Outline

/-- Declarations outside all others, each inside the source, and each beginning and ending later than
those before it. -/
structure Arranged (count : Nat) (ns : List Node) : Prop where
  inFile : ∀ n ∈ ns, InFile count n.first n.last
  top : ∀ n ∈ ns, n.parent = none
  forward : ns.Pairwise fun a b => a.first < b.first ∧ a.last < b.last

theorem Arranged.sublist {count : Nat} {ms ns : List Node} (h : Arranged count ns)
    (hs : ms.Sublist ns) : Arranged count ms where
  inFile := fun n hn => h.inFile n (hs.subset hn)
  top := fun n hn => h.top n (hs.subset hn)
  forward := h.forward.sublist hs

theorem filter_top {ns : List Node} (h : ∀ n ∈ ns, n.parent = none) :
    (ns.filter fun n => n.parent.isNone) = ns := by
  rw [List.filter_eq_self]
  intro n hn
  rw [h n hn]
  rfl

/-! ### Ends -/

/-- Ending a declaration at a line not before its first one. -/
theorem close_range (n : OpenNode) (ls : List Text) {stop : Nat} (h : n.first ≤ stop) :
    (n.first : Int) ≤ (n.close ls stop).last ∧ (n.close ls stop).last ≤ stop := by
  have h1 := le_lastCodeLine ls n.first stop
  have h2 := lastCodeLine_le ls n.first stop
  simp only [OpenNode.close]
  omega

theorem le_close_last (n : OpenNode) (ls : List Text) {stop i : Nat} (hi : HasText ls i)
    (h : i ≤ stop) : (i : Int) ≤ (n.close ls stop).last := by
  have hle : i ≤ lastCodeLine ls n.first stop := le_lastCodeLine_of_hasText hi h
  simp only [OpenNode.close]
  omega

/-! ### Braces -/

namespace Braces

/-- Declarations from line `lo` on and before line `hi`, no two of which share a line. -/
structure Separate (lo hi : Int) (ns : List Node) : Prop where
  le : lo ≤ hi
  range : ∀ n ∈ ns, lo ≤ n.first ∧ n.first ≤ n.last ∧ n.last < hi
  top : ∀ n ∈ ns, n.parent = none
  apart : ns.Pairwise fun a b => a.last < b.first

theorem Separate.nil {lo hi : Int} (h : lo ≤ hi) : Separate lo hi [] :=
  ⟨h, by simp, by simp, .nil⟩

theorem Separate.append {lo mid hi : Int} {as bs : List Node} (ha : Separate lo mid as)
    (hb : Separate mid hi bs) : Separate lo hi (as ++ bs) where
  le := Int.le_trans ha.le hb.le
  range := by
    intro n hn
    have h1 := ha.le
    have h2 := hb.le
    rcases List.mem_append.mp hn with hn | hn
    · have := ha.range n hn
      omega
    · have := hb.range n hn
      omega
  top := by
    intro n hn
    rcases List.mem_append.mp hn with hn | hn
    · exact ha.top n hn
    · exact hb.top n hn
  apart := by
    rw [List.pairwise_append]
    refine ⟨ha.apart, hb.apart, ?_⟩
    intro a hna b hnb
    have h1 := (ha.range a hna).2.2
    have h2 := (hb.range b hnb).1
    omega

theorem Separate.arranged {count : Nat} {ns : List Node} (h : Separate 0 count ns) :
    Arranged count ns where
  inFile := by
    intro n hn
    obtain ⟨h1, h2, h3⟩ := h.range n hn
    exact ⟨h1, h2, h3⟩
  top := h.top
  forward := by
    refine h.apart.imp_of_mem ?_
    intro a b ha hb hab
    have h1 := h.range a ha
    have h2 := h.range b hb
    omega

theorem separate_close {n : OpenNode} {ls : List Text} {lo hi stop : Nat} (hlo : lo ≤ n.first)
    (hn : n.first ≤ stop) (hhi : stop < hi) : Separate lo hi [n.close ls stop] := by
  have hr := close_range n ls hn
  have hf : (n.close ls stop).first = n.first := rfl
  refine ⟨by omega, ?_, ?_, List.pairwise_singleton _ _⟩
  · intro m hm
    obtain rfl := List.mem_singleton.mp hm
    omega
  · intro m hm
    obtain rfl := List.mem_singleton.mp hm
    rfl

/-- Before line `i`, with everything found so far before line `lo`. -/
structure Ready (lo i : Nat) (s : State) : Prop where
  le : lo ≤ i
  current : ∀ {n}, s.current = some n → lo ≤ n.first ∧ n.first < i
  annotation : ∀ {d}, s.annotation = some d → lo ≤ d ∧ d < i ∧ s.current = none

/-- The open declaration, ended before line `hi`. -/
theorem Ready.closed {lo i hi stop : Nat} {s : State} (h : Ready lo i s) (h1 : i ≤ stop + 1)
    (h2 : stop < hi) (ls : List Text) : Separate lo hi (s.closed ls stop) := by
  have hle := h.le
  unfold State.closed
  cases hc : s.current with
  | none => exact .nil (by omega)
  | some n =>
    obtain ⟨hlo, hlt⟩ := h.current hc
    exact separate_close hlo (by omega) h2

/-- Before a declaration there is an annotation of its own or the open declaration ends. -/
theorem Ready.closed_before {lo i : Nat} {s : State} (h : Ready lo i s) (ls : List Text) :
    ∃ mid, lo ≤ mid ∧ mid ≤ s.annotation.getD i ∧ s.annotation.getD i ≤ i ∧
      Separate lo mid (s.closed ls (i - 1)) := by
  cases hc : s.current with
  | none =>
    have hnil : s.closed ls (i - 1) = [] := by simp [State.closed, hc]
    rw [hnil]
    refine ⟨lo, Nat.le_refl _, ?_, ?_, .nil (Int.le_refl _)⟩
    · cases ha : s.annotation with
      | none => exact h.le
      | some d => exact (h.annotation ha).1
    · cases ha : s.annotation with
      | none => exact Nat.le_refl _
      | some d => exact Nat.le_of_lt (h.annotation ha).2.1
  | some n =>
    have hnone : s.annotation = none := by
      cases ha : s.annotation with
      | none => rfl
      | some d => rw [(h.annotation ha).2.2] at hc; cases hc
    obtain ⟨hlo, hlt⟩ := h.current hc
    rw [hnone, Option.getD_none]
    exact ⟨i, by omega, Nat.le_refl _, Nat.le_refl _,
      h.closed (by omega) (by omega) ls⟩

/-- A declaration at line `i`, which may end there. -/
theorem Ready.opens {lo i : Nat} {s : State} (h : Ready lo i s) (ls : List Text) (node : Opening)
    (hf : node.first = s.annotation.getD i) (depth : Nat) (ends : Prop) [Decidable ends] :
    ∃ mid : Nat,
      Separate lo mid (if ends then
          (s.closed ls (i - 1) ++ [node.close ls i], ({ depth := depth } : State))
        else (s.closed ls (i - 1), { current := some node, depth := depth })).1 ∧
      Ready mid (i + 1) (if ends then
          (s.closed ls (i - 1) ++ [node.close ls i], ({ depth := depth } : State))
        else (s.closed ls (i - 1), { current := some node, depth := depth })).2 := by
  obtain ⟨mid, h1, h2, h3, hsep⟩ := h.closed_before ls
  rw [← hf] at h2 h3
  by_cases he : ends
  · simp only [if_pos he]
    exact ⟨i + 1, hsep.append (separate_close h2 h3 (by omega)), by omega, by simp, by simp⟩
  · simp only [if_neg he]
    refine ⟨mid, hsep, by omega, ?_, by simp⟩
    intro n hn
    obtain rfl := Option.some.inj hn
    exact ⟨h2, Nat.lt_succ_of_le h3⟩

theorem step_separate {lo i : Nat} {s : State} (h : Ready lo i s) (language : Language)
    (ls : List Text) (line : Text) :
    ∃ mid : Nat, Separate lo mid (step language ls i line s).1 ∧
      Ready mid (i + 1) (step language ls i line s).2 := by
  have hle := h.le
  have hkeep {depth : Nat} : Ready lo (i + 1) { s with depth := depth, annotation := none } :=
    ⟨by omega, fun hc => by have := h.current hc; omega, by simp⟩
  unfold step
  split
  case isTrue =>
    refine ⟨lo, .nil (Int.le_refl _), by omega, ?_, ?_⟩
    · intro n hc
      have := h.current hc
      omega
    · intro d ha
      have := h.annotation ha
      exact ⟨this.1, by omega, this.2.2⟩
  case isFalse =>
    dsimp only
    split
    case isTrue hat =>
      have hnone : s.current = none := by simp at hat; exact hat.2
      refine ⟨lo, .nil (Int.le_refl _), by omega, ?_, ?_⟩
      · intro n hc
        rw [hnone] at hc
        cases hc
      · intro d ha
        cases hs : s.annotation with
        | none =>
          simp only [hs, Option.none_or, Option.some.injEq] at ha
          exact ⟨by omega, by omega, hnone⟩
        | some e =>
          simp only [hs, Option.some_or, Option.some.injEq] at ha
          have := h.annotation hs
          exact ⟨by omega, by omega, hnone⟩
    case isFalse =>
      split
      case h_1 => exact h.opens ls _ rfl _ _
      case h_2 =>
        split
        case isTrue =>
          exact ⟨i + 1, h.closed (by omega) (by omega) ls, by omega, by simp, by simp⟩
        case isFalse => exact ⟨lo, .nil (Int.le_refl _), hkeep⟩

theorem nodesFrom_separate (language : Language) {ls rest : List Text} {lo i : Nat} {s : State}
    (h : Ready lo i s) (hr : ls.drop i = rest) (hi : i ≤ ls.length) :
    Separate lo ls.length (nodesFrom language ls i rest s) := by
  induction rest generalizing lo i s with
  | nil =>
    have hlen := List.drop_eq_nil_iff.mp hr
    rw [nodesFrom]
    by_cases hz : ls.length = 0
    · have hc : s.current = none := by
        cases hc : s.current with
        | none => rfl
        | some n => have := h.current hc; omega
      have := h.le
      simp only [State.closed, hc]
      exact .nil (by omega)
    · exact h.closed (by omega) (by omega) ls
  | cons line rest ih =>
    obtain ⟨hline, hrest⟩ := getElem?_of_drop_eq_cons hr
    obtain ⟨mid, hsep, hnext⟩ := step_separate h language ls line
    exact hsep.append (ih hnext hrest (List.getElem?_eq_some_iff.mp hline).1)

/-- Declarations with braces share no line. -/
theorem nodes_separate (language : Language) (ls : List Text) :
    Separate 0 ls.length (nodes language ls) :=
  nodesFrom_separate language ⟨Nat.le_refl _, by simp, by simp⟩ List.drop_zero (Nat.zero_le _)

end Braces

/-! ### Indentation -/

namespace Indentation

/-- Where the unbroken run of decorators began, behind a line that declares nothing. -/
def decoratorsAfter (i : Nat) (line : Text) (s : State) : Option Nat :=
  if isDecorator line then s.decorators.or (some i) else none

/-- The declaration that line `i` opens. -/
def opening (i : Nat) (line : Text) (s : State) (header : NodeKind × Text) : OpenNode :=
  { kind := header.1, name := header.2, first := s.decorators.getD i, indent := Text.indent line }

/-- What line `i` does: the declarations that end, and the state after it. -/
inductive Effect (ls : List Text) (i : Nat) (line : Text) (s : State) : List Node → State → Prop where
  /-- A blank line or a comment. -/
  | nothing (hcounts : counts line = false) : Effect ls i line s [] s
  /-- A header; it ends the declaration before it. -/
  | declares (hcounts : counts line = true) {header : NodeKind × Text} (hheader : header? line = some header) :
      Effect ls i line s (s.closed ls (i - 1)) { current := some (opening i line s header) }
  /-- A line that is indented no deeper than the open declaration. -/
  | leaves (hcounts : counts line = true) (hheader : header? line = none) (hleaves : s.leaves line = true) :
      Effect ls i line s (s.closed ls (i - 1)) { decorators := decoratorsAfter i line s }
  /-- Any other line. -/
  | passes (hcounts : counts line = true) (hheader : header? line = none) (hleaves : s.leaves line = false) :
      Effect ls i line s [] { s with decorators := decoratorsAfter i line s }

theorem step_effect (ls : List Text) (i : Nat) (line : Text) (s : State) :
    Effect ls i line s (step ls i line s).1 (step ls i line s).2 := by
  unfold step
  by_cases hcounts : counts line = true
  · rw [if_neg (by simp [hcounts])]
    cases hheader : header? line with
    | some header => exact .declares hcounts hheader
    | none =>
      dsimp only
      by_cases hleaves : s.leaves line = true
      · rw [if_pos hleaves]
        exact .leaves hcounts hheader hleaves
      · rw [if_neg hleaves]
        exact .passes hcounts hheader (by simpa using hleaves)
  · rw [if_pos (by simpa using hcounts)]
    exact .nothing (by simpa using hcounts)

/-- Declarations that begin between `lo` and `lo'` and end between `hi` and `hi'`, both in order. -/
structure Forward (lo hi lo' hi' : Int) (ns : List Node) : Prop where
  lo_le : lo ≤ lo'
  hi_le : hi ≤ hi'
  range : ∀ n ∈ ns, lo ≤ n.first ∧ n.first < lo' ∧ hi ≤ n.last ∧ n.last < hi' ∧ n.first ≤ n.last
  top : ∀ n ∈ ns, n.parent = none
  pairwise : ns.Pairwise fun a b => a.first < b.first ∧ a.last < b.last

theorem Forward.nil {lo hi lo' hi' : Int} (h : lo ≤ lo') (h' : hi ≤ hi') : Forward lo hi lo' hi' [] :=
  ⟨h, h', by simp, by simp, .nil⟩

theorem Forward.append {lo hi lo' hi' lo'' hi'' : Int} {as bs : List Node}
    (ha : Forward lo hi lo' hi' as) (hb : Forward lo' hi' lo'' hi'' bs) :
    Forward lo hi lo'' hi'' (as ++ bs) where
  lo_le := Int.le_trans ha.lo_le hb.lo_le
  hi_le := Int.le_trans ha.hi_le hb.hi_le
  range := by
    intro n hn
    have h1 := ha.lo_le
    have h2 := ha.hi_le
    have h3 := hb.lo_le
    have h4 := hb.hi_le
    rcases List.mem_append.mp hn with hn | hn
    · have := ha.range n hn
      omega
    · have := hb.range n hn
      omega
  top := by
    intro n hn
    rcases List.mem_append.mp hn with hn | hn
    · exact ha.top n hn
    · exact hb.top n hn
  pairwise := by
    rw [List.pairwise_append]
    refine ⟨ha.pairwise, hb.pairwise, ?_⟩
    intro a hna b hnb
    have h1 := ha.range a hna
    have h2 := hb.range b hnb
    omega

theorem Forward.arranged {count : Nat} {ns : List Node} (h : Forward 0 0 count count ns) :
    Arranged count ns where
  inFile := by
    intro n hn
    obtain ⟨h1, _, _, h4, h5⟩ := h.range n hn
    exact ⟨h1, h5, h4⟩
  top := h.top
  forward := h.pairwise

/-- Before line `i`, where declarations yet to end begin from `lo` on and end from `hi` on. The open
declaration has a header behind `hi`, and decorators lie behind its first line. -/
structure Ready (ls : List Text) (lo hi i : Nat) (s : State) : Prop where
  lo_le : lo ≤ i
  hi_le : hi ≤ i
  current : ∀ {n}, s.current = some n →
    lo ≤ n.first ∧ ∃ j, n.first ≤ j ∧ hi ≤ j ∧ j < i ∧ HasText ls j
  decorators : ∀ {d}, s.decorators = some d →
    d < i ∧ lo ≤ d ∧ ∀ {n}, s.current = some n → n.first < d

variable {ls : List Text} {lo hi i : Nat} {s : State}

/-- Ending the open declaration at `stop`. -/
theorem Ready.closed (h : Ready ls lo hi i s) {n : OpenNode} (hc : s.current = some n) {stop : Nat}
    (hs : i ≤ stop + 1) : Forward lo hi (n.first + 1 : Nat) (stop + 1 : Nat) (s.closed ls stop) := by
  obtain ⟨h1, j, h2, h3, h4, hj⟩ := h.current hc
  have hr := close_range n ls (show n.first ≤ stop by omega)
  have hl := le_close_last n ls hj (show j ≤ stop by omega)
  have hf : (n.close ls stop).first = n.first := rfl
  simp only [State.closed, hc, Option.map_some, Option.toList_some]
  refine ⟨by omega, by omega, ?_, ?_, List.pairwise_singleton _ _⟩
  · intro m hm
    obtain rfl := List.mem_singleton.mp hm
    omega
  · intro m hm
    obtain rfl := List.mem_singleton.mp hm
    rfl

/-- Ending whatever is open before line `i`. -/
theorem Ready.closed_before (h : Ready ls lo hi i s) :
    ∃ lo' hi' : Nat, Forward lo hi lo' hi' (s.closed ls (i - 1)) ∧ lo' ≤ i ∧ hi' ≤ i ∧
      (∀ {d}, s.decorators = some d → lo' ≤ d) := by
  cases hc : s.current with
  | none =>
    have hnil : s.closed ls (i - 1) = [] := by simp [State.closed, hc]
    rw [hnil]
    exact ⟨lo, hi, .nil (Int.le_refl _) (Int.le_refl _), h.lo_le, h.hi_le,
      fun hd => (h.decorators hd).2.1⟩
  | some n =>
    obtain ⟨_, j, h2, _, h4, _⟩ := h.current hc
    have hf : Forward lo hi (n.first + 1 : Nat) (i - 1 + 1 : Nat) (s.closed ls (i - 1)) :=
      h.closed hc (by omega)
    rw [show i - 1 + 1 = i by omega] at hf
    refine ⟨n.first + 1, i, hf, by omega, Nat.le_refl _, ?_⟩
    intro d hd
    have := (h.decorators hd).2.2 hc
    omega

theorem hasText_of_counts {line : Text} (hline : ls[i]? = some line) (hc : counts line = true) :
    HasText ls i := by
  refine hasText_iff.mpr ⟨line, hline, ?_⟩
  simp only [counts, Bool.and_eq_true, Bool.not_eq_true'] at hc
  exact hc.1

/-- The decorators after a line that declares nothing. -/
theorem decorators_next {line : Text} {d : Nat} (hd : decoratorsAfter i line s = some d) :
    s.decorators = some d ∨ d = i := by
  unfold decoratorsAfter at hd
  split at hd
  case isTrue =>
    cases hs : s.decorators with
    | none =>
      rw [hs, Option.none_or, Option.some.injEq] at hd
      exact .inr hd.symm
    | some e =>
      rw [hs, Option.some_or] at hd
      exact .inl hd
  case isFalse => cases hd

theorem step_forward (h : Ready ls lo hi i s) {line : Text} (hline : ls[i]? = some line) {ended : List Node}
    {next : State} (he : Effect ls i line s ended next) :
    ∃ lo' hi' : Nat, Forward lo hi lo' hi' ended ∧ Ready ls lo' hi' (i + 1) next := by
  have h1 := h.lo_le
  have h2 := h.hi_le
  have hkept : ∀ {n}, s.current = some n →
      lo ≤ n.first ∧ ∃ j, n.first ≤ j ∧ hi ≤ j ∧ j < i + 1 ∧ HasText ls j := by
    intro n hc
    obtain ⟨h3, j, h4, h5, h6, hj⟩ := h.current hc
    exact ⟨h3, j, h4, h5, by omega, hj⟩
  obtain ⟨lo', hi', hf, hlo, hhi, hdec⟩ := h.closed_before
  cases he with
  | nothing =>
    refine ⟨lo, hi, .nil (Int.le_refl _) (Int.le_refl _), by omega, by omega, hkept, ?_⟩
    intro d hd
    obtain ⟨h3, h4, h5⟩ := h.decorators hd
    exact ⟨by omega, h4, h5⟩
  | declares hcounts _ =>
    have htext : HasText ls i := hasText_of_counts hline hcounts
    refine ⟨lo', hi', hf, by omega, by omega, ?_, by simp⟩
    intro n hc
    obtain rfl := Option.some.inj hc
    cases hs : s.decorators with
    | none => exact ⟨by simp [opening, hs, hlo], i, by simp [opening, hs], hhi, Nat.lt_succ_self _, htext⟩
    | some d =>
      have := (h.decorators hs).1
      refine ⟨by simp [opening, hs, hdec hs], i, ?_, hhi, Nat.lt_succ_self _, htext⟩
      simp only [opening, hs, Option.getD_some]
      omega
  | leaves _ _ _ =>
    refine ⟨lo', hi', hf, by omega, by omega, by simp, ?_⟩
    intro d hd
    rcases decorators_next hd with hd | rfl
    · have := (h.decorators hd).1
      exact ⟨by omega, hdec hd, by simp⟩
    · exact ⟨Nat.lt_succ_self _, hlo, by simp⟩
  | passes _ _ _ =>
    refine ⟨lo, hi, .nil (Int.le_refl _) (Int.le_refl _), by omega, by omega, hkept, ?_⟩
    intro d hd
    rcases decorators_next hd with hd | rfl
    · obtain ⟨h3, h4, h5⟩ := h.decorators hd
      exact ⟨by omega, h4, h5⟩
    · refine ⟨Nat.lt_succ_self _, h1, ?_⟩
      intro n hc
      obtain ⟨_, j, h4, _, h6, _⟩ := h.current hc
      omega

theorem nodesFrom_forward {rest : List Text} (h : Ready ls lo hi i s) (hr : ls.drop i = rest)
    (hi' : i ≤ ls.length) : Forward lo hi ls.length ls.length (nodesFrom ls i rest s) := by
  induction rest generalizing lo hi i s with
  | nil =>
    have hlen := List.drop_eq_nil_iff.mp hr
    have h1 := h.lo_le
    have h2 := h.hi_le
    rw [nodesFrom]
    cases hc : s.current with
    | none =>
      simp only [State.closed, hc]
      exact .nil (by omega) (by omega)
    | some n =>
      obtain ⟨_, j, h4, _, h6, _⟩ := h.current hc
      have hf : Forward lo hi (n.first + 1 : Nat) (ls.length - 1 + 1 : Nat) (s.closed ls (ls.length - 1)) :=
        h.closed hc (by omega)
      have hnil : Forward (n.first + 1 : Nat) (ls.length - 1 + 1 : Nat) ls.length ls.length [] :=
        .nil (by omega) (by omega)
      simpa using hf.append hnil
  | cons line rest ih =>
    obtain ⟨hline, hrest⟩ := getElem?_of_drop_eq_cons hr
    obtain ⟨lo', hi'', hf, hnext⟩ := step_forward h hline (step_effect ls i line s)
    exact hf.append (ih hnext hrest (List.getElem?_eq_some_iff.mp hline).1)

/-- Declarations with indentation begin and end in order. -/
theorem nodes_forward (ls : List Text) : Forward 0 0 ls.length ls.length (nodes ls) :=
  nodesFrom_forward ⟨Nat.le_refl _, Nat.le_refl _, by simp, by simp⟩ List.drop_zero (Nat.zero_le _)

end Indentation

/-! ### Blocks -/

namespace Blocks

/-- The starts of blocks are in order and inside the source. -/
theorem startsFrom_spec (count size fuel start : Nat) (hs : 0 < size) :
    (startsFrom count size fuel start).Pairwise (fun a b => a + size ≤ b) ∧
      ∀ x ∈ startsFrom count size fuel start, start ≤ x ∧ x < count := by
  induction fuel generalizing start with
  | zero => exact ⟨.nil, by simp [startsFrom]⟩
  | succ fuel ih =>
    rw [startsFrom]
    split
    case isFalse => exact ⟨.nil, by simp⟩
    case isTrue hlt =>
      obtain ⟨hpair, hmem⟩ := ih (start + size)
      refine ⟨List.pairwise_cons.mpr ⟨fun x hx => (hmem x hx).1, hpair⟩, ?_⟩
      intro x hx
      rcases List.mem_cons.mp hx with rfl | hx
      · exact ⟨Nat.le_refl _, hlt⟩
      · have := hmem x hx
        omega

theorem nodes_arranged {size : Int} (hs : 0 < size) (ls : List Text) :
    ∃ ns, nodes size ls = .ok ns ∧ Arranged ls.length ns ∧ (ls ≠ [] → ns ≠ []) := by
  obtain ⟨hpair, hmem⟩ := startsFrom_spec ls.length size.toNat ls.length 0 (by omega)
  refine ⟨_, by rw [nodes, if_neg (by omega), if_neg (by omega)], ⟨?_, ?_, ?_⟩, ?_⟩
  · intro n hn
    obtain ⟨x, hx, rfl⟩ := List.mem_map.mp hn
    have := hmem x hx
    constructor <;> simp only [block] <;> omega
  · intro n hn
    obtain ⟨x, _, rfl⟩ := List.mem_map.mp hn
    rfl
  · rw [List.pairwise_map]
    refine hpair.imp_of_mem ?_
    intro a b ha hb hab
    have h1 := hmem a ha
    have h2 := hmem b hb
    simp only [block]
    omega
  · intro hne
    cases ls with
    | nil => exact absurd rfl hne
    | cons l ls => simp [startsFrom]

end Blocks

end Outline

/-! ### Recognisers that read lines -/

namespace Recogniser

open Outline

/-- By braces or by indentation declarations are found in order. -/
theorem nodes_arranged (language : Language) (ls : List Text)
    (hb : (forLines language).isBlocks = false) :
    ∃ ns, (forLines language).nodes ls = .ok ns ∧ Arranged ls.length ns := by
  unfold forLines at hb ⊢
  split
  case isTrue => exact ⟨_, rfl, (Indentation.nodes_forward ls).arranged⟩
  case isFalse h =>
    rw [if_neg h] at hb
    split
    case isTrue => exact ⟨_, rfl, (Braces.nodes_separate language ls).arranged⟩
    case isFalse h' =>
      rw [if_neg h'] at hb
      cases hb

/-- The declarations outside all others, or else blocks, are in order and cannot be missing. -/
theorem topNodes_arranged (language : Language) {size : Int} (hs : 0 < size) {ls : List Text}
    (hne : ls ≠ []) :
    ∃ ns, (forLines language).topNodes size ls = .ok ns ∧ Arranged ls.length ns ∧ ns ≠ [] := by
  obtain ⟨bs, hbs, hba, hbne⟩ := Blocks.nodes_arranged hs ls
  cases hb : (forLines language).isBlocks with
  | true =>
    refine ⟨bs, ?_, hba, hbne hne⟩
    simp [topNodes, hb, hbs, bind, Except.bind]
  | false =>
    obtain ⟨ns, hns, ha⟩ := nodes_arranged language ls hb
    have htop := filter_top ha.top
    by_cases hnil : ns = []
    · refine ⟨bs, ?_, hba, hbne hne⟩
      simp [topNodes, hb, hns, hbs, hnil, bind, Except.bind]
    · refine ⟨ns, ?_, ha, hnil⟩
      simp [topNodes, hb, hns, htop, hnil, bind, Except.bind]

end Recogniser

end SourceChunks
