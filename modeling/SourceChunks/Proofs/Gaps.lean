import SourceChunks.Proofs.Windows

/-! Gaps between pieces. Filling them in keeps every piece, at most made longer, and leaves out no
line with text. The order of the pieces is kept too. -/

namespace SourceChunks

/-- A line with text makes a slice around it one with text. -/
theorem hasText_slice {ls : List Text} {a b : Int} (ha : 0 ≤ a) (hb : b ≤ ls.length) {i : Nat}
    (hi : HasText ls i) (h1 : a ≤ i) (h2 : (i : Int) < b) : Cutting.hasText (slice ls a b) = true := by
  obtain ⟨line, hline, hblank⟩ := hasText_iff.mp hi
  have hcast : slice ls a b = (ls.drop a.toNat).take (b.toNat - a.toNat) := by
    rw [← slice_eq_drop_take ls (by omega), Int.toNat_of_nonneg ha, Int.toNat_of_nonneg (by omega)]
  have hget : ((ls.drop a.toNat).take (b.toNat - a.toNat))[i - a.toNat]? = some line := by
    rw [List.getElem?_take_of_lt (by omega), List.getElem?_drop, show a.toNat + (i - a.toNat) = i by omega,
      hline]
  rw [Cutting.hasText, hcast, List.any_eq_true]
  exact ⟨line, List.mem_of_getElem? hget, by rw [hblank]; rfl⟩

namespace Cutting

variable {s : Settings} {ls : List Text}

/-! ### Pieces over a range -/

namespace Tiles

variable {last start : Int} {ps : List Piece}

theorem piece_range (h : Tiles last start (ps.map (·.toRange))) {p : Piece} (hp : p ∈ ps) :
    start ≤ p.first ∧ p.first ≤ p.last ∧ p.last ≤ last :=
  h.range p.toRange (List.mem_map_of_mem hp)

theorem piece_covers (h : Tiles last start (ps.map (·.toRange))) {i : Int} (h1 : start ≤ i)
    (h2 : i ≤ last) : ∃ p ∈ ps, p.first ≤ i ∧ i ≤ p.last := by
  obtain ⟨r, hr, hi⟩ := h.covers h1 h2
  obtain ⟨p, hp, rfl⟩ := List.mem_map.mp hr
  exact ⟨p, hp, hi⟩

theorem piece_ordered (h : Tiles last start (ps.map (·.toRange))) :
    (ps.map (·.first)).Pairwise (· ≤ ·) := by
  rw [List.pairwise_map]
  exact (List.pairwise_map.mp h.ordered).imp Int.le_of_lt

end Tiles

theorem gapPieces_tiles (size : Nat) {first last : Int} (h : first ≤ last) :
    Tiles last first ((gapPieces size first last).map (·.toRange)) := by
  rw [gapPieces, List.map_map]
  simp only [Function.comp_def, List.map_id']
  exact windows_tiles _ _ h

/-! ### One piece -/

/-- A piece with what is put in front of it when everything before `cursor` is covered. -/
def withGap (s : Settings) (ls : List Text) (cursor : Int) (p : Piece) : List Piece :=
  if p.first > cursor then
    if foldsIn s cursor p then [{ p with first := cursor }]
    else if hasText (slice ls cursor p.first) then gapPieces s.chunkSize cursor (p.first - 1) ++ [p]
    else [p]
  else [p]

theorem fillFrom_cons (cursor : Int) (p : Piece) (ps : List Piece) :
    fillFrom s ls cursor (p :: ps) =
      (withGap s ls cursor p ++ (fillFrom s ls (max cursor (p.last + 1)) ps).1,
        (fillFrom s ls (max cursor (p.last + 1)) ps).2) := rfl

theorem withGap_of_le {cursor : Int} {p : Piece} (h : p.first ≤ cursor) : withGap s ls cursor p = [p] :=
  if_neg (by omega)

/-- A piece stays as it is when there is no text before it, or it takes the gap in, or the gap
becomes pieces of its own. -/
theorem withGap_cases {cursor : Int} {p : Piece} (hc : 0 ≤ cursor) (hp : InFile ls.length p.first p.last) :
    (withGap s ls cursor p = [p] ∧ ∀ i : Nat, HasText ls i → cursor ≤ i → p.first ≤ i) ∨
      (cursor < p.first ∧ foldsIn s cursor p ∧ withGap s ls cursor p = [{ p with first := cursor }]) ∨
      (cursor < p.first ∧
        withGap s ls cursor p = gapPieces s.chunkSize cursor (p.first - 1) ++ [p]) := by
  have hlast := hp.ordered
  have hlen := hp.below
  unfold withGap
  split
  case isFalse hle =>
    refine .inl ⟨rfl, ?_⟩
    intro i _ hi
    omega
  case isTrue hlt =>
    split
    case isTrue hfolds => exact .inr (.inl ⟨hlt, hfolds, rfl⟩)
    case isFalse =>
      split
      case isTrue => exact .inr (.inr ⟨hlt, rfl⟩)
      case isFalse hno =>
        refine .inl ⟨rfl, ?_⟩
        intro i htext hi
        apply Int.not_lt.mp
        intro hip
        exact hno (hasText_slice hc (by omega) htext hi hip)

/-! ### Lines -/

/-- Pieces inside the source and before line `done`, with every line of text from `cursor` up to
there in one of them. -/
structure Filled (ls : List Text) (cursor done : Int) (ps : List Piece) : Prop where
  le : cursor ≤ done
  inFile : ∀ p ∈ ps, InFile ls.length p.first p.last
  before : ∀ p ∈ ps, p.last < done
  covers : ∀ i : Nat, HasText ls i → cursor ≤ i → i < done → ∃ p ∈ ps, p.first ≤ i ∧ i ≤ p.last

theorem Filled.append {cursor mid done : Int} {ps qs : List Piece} (hp : Filled ls cursor mid ps)
    (hq : Filled ls mid done qs) : Filled ls cursor done (ps ++ qs) where
  le := Int.le_trans hp.le hq.le
  inFile := by
    intro p hm
    rcases List.mem_append.mp hm with hm | hm
    · exact hp.inFile p hm
    · exact hq.inFile p hm
  before := by
    intro p hm
    rcases List.mem_append.mp hm with hm | hm
    · exact Int.lt_of_lt_of_le (hp.before p hm) hq.le
    · exact hq.before p hm
  covers := by
    intro i htext h1 h2
    by_cases hi : (i : Int) < mid
    · obtain ⟨p, hm, hpi⟩ := hp.covers i htext h1 hi
      exact ⟨p, List.mem_append_left _ hm, hpi⟩
    · obtain ⟨p, hm, hpi⟩ := hq.covers i htext (by omega) h2
      exact ⟨p, List.mem_append_right _ hm, hpi⟩

theorem filled_of_tiles {first last : Int} {ps : List Piece} (h : Tiles last first (ps.map (·.toRange)))
    (h0 : 0 ≤ first) (hl : last < ls.length) : Filled ls first (last + 1) ps where
  le := by
    have := h.le
    omega
  inFile := by
    intro p hp
    obtain ⟨h1, h2, h3⟩ := h.piece_range hp
    exact ⟨by omega, h2, by omega⟩
  before := by
    intro p hp
    have := h.piece_range hp
    omega
  covers := by
    intro i _ h1 h2
    exact h.piece_covers h1 (by omega)

theorem filled_single {cursor : Int} {p : Piece} (hp : InFile ls.length p.first p.last)
    (h : ∀ i : Nat, HasText ls i → cursor ≤ i → p.first ≤ i) :
    Filled ls cursor (max cursor (p.last + 1)) [p] where
  le := Int.le_max_left _ _
  inFile := by simpa using hp
  before := by
    intro q hq
    obtain rfl := List.mem_singleton.mp hq
    omega
  covers := by
    intro i htext h1 h2
    exact ⟨p, List.mem_singleton_self p, h i htext h1, by omega⟩

theorem withGap_filled {cursor : Int} {p : Piece} (hc : 0 ≤ cursor) (hp : InFile ls.length p.first p.last) :
    Filled ls cursor (max cursor (p.last + 1)) (withGap s ls cursor p) := by
  obtain ⟨h0, h1, h2⟩ := hp
  rcases withGap_cases (s := s) hc ⟨h0, h1, h2⟩ with ⟨he, htext⟩ | ⟨hlt, _, he⟩ | ⟨hlt, he⟩
  · rw [he]
    exact filled_single ⟨h0, h1, h2⟩ htext
  · rw [he]
    exact filled_single (p := { p with first := cursor }) ⟨hc, by dsimp only; omega, h2⟩
      fun i _ hi => hi
  · rw [he]
    have hgap : Filled ls cursor (p.first - 1 + 1) (gapPieces s.chunkSize cursor (p.first - 1)) :=
      filled_of_tiles (gapPieces_tiles s.chunkSize (Int.le_sub_one_of_lt hlt)) hc (by omega)
    have hpiece : Filled ls (p.first - 1 + 1) (max (p.first - 1 + 1) (p.last + 1)) [p] :=
      filled_single ⟨h0, h1, h2⟩ fun i _ hi => by omega
    rw [show max cursor (p.last + 1) = max (p.first - 1 + 1) (p.last + 1) by omega]
    exact hgap.append hpiece

theorem fillFrom_filled {cursor : Int} {ps : List Piece} (hc : 0 ≤ cursor)
    (hps : ∀ p ∈ ps, InFile ls.length p.first p.last) :
    Filled ls cursor (fillFrom s ls cursor ps).2 (fillFrom s ls cursor ps).1 := by
  induction ps generalizing cursor with
  | nil =>
    refine ⟨Int.le_refl _, by simp [fillFrom], by simp [fillFrom], ?_⟩
    intro i _ h1 h2
    exact absurd h2 (Int.not_lt.mpr h1)
  | cons p ps ih =>
    rw [fillFrom_cons]
    have hhere := withGap_filled (s := s) hc (hps p List.mem_cons_self)
    exact hhere.append (ih (by omega) fun q hq => hps q (List.mem_cons_of_mem _ hq))

/-! ### Pieces are kept -/

/-- A piece over at least the lines of another and with the same names. -/
structure Piece.Extends (q p : Piece) : Prop where
  symbols : q.symbols = p.symbols
  first : q.first ≤ p.first
  last : p.last ≤ q.last

theorem Piece.Extends.refl (p : Piece) : p.Extends p := ⟨rfl, Int.le_refl _, Int.le_refl _⟩

theorem withGap_keeps {cursor : Int} {p : Piece} (hc : 0 ≤ cursor) (hp : InFile ls.length p.first p.last) :
    ∃ q ∈ withGap s ls cursor p, q.Extends p := by
  rcases withGap_cases (s := s) hc hp with ⟨he, _⟩ | ⟨hlt, _, he⟩ | ⟨_, he⟩
  · exact ⟨p, by rw [he]; exact List.mem_singleton_self p, .refl p⟩
  · exact ⟨{ p with first := cursor }, by rw [he]; exact List.mem_singleton_self _, rfl, Int.le_of_lt hlt,
      Int.le_refl _⟩
  · exact ⟨p, by rw [he]; exact List.mem_append_right _ (List.mem_singleton_self p), .refl p⟩

theorem fillFrom_keeps {cursor : Int} {ps : List Piece} (hc : 0 ≤ cursor)
    (hps : ∀ p ∈ ps, InFile ls.length p.first p.last) {p : Piece} (hp : p ∈ ps) :
    ∃ q ∈ (fillFrom s ls cursor ps).1, q.Extends p := by
  induction ps generalizing cursor with
  | nil => cases hp
  | cons p' ps ih =>
    rw [fillFrom_cons]
    rcases List.mem_cons.mp hp with rfl | hp
    · obtain ⟨q, hq, hqp⟩ := withGap_keeps (s := s) hc (hps p List.mem_cons_self)
      exact ⟨q, List.mem_append_left _ hq, hqp⟩
    · have hc' : 0 ≤ max cursor (p'.last + 1) := by omega
      obtain ⟨q, hq, hqp⟩ := ih hc' (fun q hq => hps q (List.mem_cons_of_mem _ hq)) hp
      exact ⟨q, List.mem_append_right _ hq, hqp⟩

/-! ### Order -/

theorem starts_append {ps qs : List Piece} (hps : (ps.map (·.first)).Pairwise (· ≤ ·))
    (hqs : (qs.map (·.first)).Pairwise (· ≤ ·)) (h : ∀ p ∈ ps, ∀ q ∈ qs, p.first ≤ q.first) :
    ((ps ++ qs).map (·.first)).Pairwise (· ≤ ·) := by
  rw [List.map_append, List.pairwise_append]
  refine ⟨hps, hqs, ?_⟩
  intro x hx y hy
  obtain ⟨p, hp, rfl⟩ := List.mem_map.mp hx
  obtain ⟨q, hq, rfl⟩ := List.mem_map.mp hy
  exact h p hp q hq

theorem withGap_starts {cursor low : Int} {p : Piece} (hc : 0 ≤ cursor)
    (hp : InFile ls.length p.first p.last) (h1 : low ≤ cursor) (h2 : low ≤ p.first) :
    ((withGap s ls cursor p).map (·.first)).Pairwise (· ≤ ·) ∧
      ∀ q ∈ withGap s ls cursor p, low ≤ q.first ∧ q.first ≤ p.first := by
  rcases withGap_cases (s := s) hc hp with ⟨he, _⟩ | ⟨hlt, _, he⟩ | ⟨hlt, he⟩
  · rw [he]
    refine ⟨List.pairwise_singleton _ _, ?_⟩
    intro q hq
    obtain rfl := List.mem_singleton.mp hq
    exact ⟨h2, Int.le_refl _⟩
  · rw [he]
    refine ⟨List.pairwise_singleton _ _, ?_⟩
    intro q hq
    obtain rfl := List.mem_singleton.mp hq
    exact ⟨h1, Int.le_of_lt hlt⟩
  · have ht := gapPieces_tiles s.chunkSize (Int.le_sub_one_of_lt hlt)
    rw [he]
    constructor
    · refine starts_append ht.piece_ordered (List.pairwise_singleton _ _) ?_
      intro q hq r hr
      obtain rfl := List.mem_singleton.mp hr
      have := ht.piece_range hq
      omega
    · intro q hq
      rcases List.mem_append.mp hq with hq | hq
      · have := ht.piece_range hq
        omega
      · obtain rfl := List.mem_singleton.mp hq
        exact ⟨h2, Int.le_refl _⟩

/-- Pieces in order stay in order. -/
theorem fillFrom_starts {cursor low : Int} {ps : List Piece} (hc : 0 ≤ cursor)
    (hps : ∀ p ∈ ps, InFile ls.length p.first p.last) (hord : (ps.map (·.first)).Pairwise (· ≤ ·))
    (h1 : low ≤ cursor) (h2 : ∀ p ∈ ps, low ≤ p.first) :
    ((fillFrom s ls cursor ps).1.map (·.first)).Pairwise (· ≤ ·) ∧
      ∀ q ∈ (fillFrom s ls cursor ps).1, low ≤ q.first := by
  induction ps generalizing cursor low with
  | nil => exact ⟨.nil, by simp [fillFrom]⟩
  | cons p ps ih =>
    have hp := hps p List.mem_cons_self
    have hplast := hp.ordered
    have hlow := h2 p List.mem_cons_self
    obtain ⟨hhere, hrange⟩ := withGap_starts (s := s) hc hp h1 hlow
    rw [List.map_cons, List.pairwise_cons] at hord
    -- everything behind begins where the piece begins or later
    have hc' : 0 ≤ max cursor (p.last + 1) := by omega
    have hfirst : p.first ≤ max cursor (p.last + 1) := by omega
    obtain ⟨hrest, hbehind⟩ := ih hc' (fun q hq => hps q (List.mem_cons_of_mem _ hq)) hord.2 hfirst
      fun q hq => hord.1 _ (List.mem_map_of_mem hq)
    rw [fillFrom_cons]
    constructor
    · refine starts_append hhere hrest ?_
      intro q hq r hr
      exact Int.le_trans (hrange q hq).2 (hbehind r hr)
    · intro q hq
      rcases List.mem_append.mp hq with hq | hq
      · exact (hrange q hq).1
      · exact Int.le_trans hlow (hbehind q hq)

theorem fillFrom_append (cursor : Int) (ps qs : List Piece) :
    fillFrom s ls cursor (ps ++ qs) =
      ((fillFrom s ls cursor ps).1 ++ (fillFrom s ls (fillFrom s ls cursor ps).2 qs).1,
        (fillFrom s ls (fillFrom s ls cursor ps).2 qs).2) := by
  induction ps generalizing cursor with
  | nil => rfl
  | cons p ps ih =>
    rw [List.cons_append, fillFrom_cons, fillFrom_cons, ih, List.append_assoc]

/-- Pieces without a gap stay as they are. -/
theorem fillFrom_tiles {cursor last start : Int} {ps : List Piece}
    (h : Tiles last start (ps.map (·.toRange))) (hs : start ≤ cursor) :
    fillFrom s ls cursor ps = (ps, max cursor (last + 1)) := by
  generalize hrs : ps.map (·.toRange) = rs at h
  induction h generalizing cursor ps with
  | single =>
    obtain ⟨⟨r, names⟩, rfl, rfl⟩ := List.map_eq_singleton_iff.mp hrs
    rw [fillFrom_cons, withGap_of_le hs]
    rfl
  | @cons start stop next rs h1 h2 h3 h4 _ ih =>
    obtain ⟨⟨r, names⟩, qs, rfl, rfl, hqs⟩ := List.map_eq_cons_iff.mp hrs
    have hrest : fillFrom s ls (max cursor (stop + 1)) qs = (qs, max (max cursor (stop + 1)) (last + 1)) :=
      ih (by omega) hqs
    rw [fillFrom_cons, withGap_of_le hs, hrest,
      show max (max cursor (stop + 1)) (last + 1) = max cursor (last + 1) by omega]
    rfl

/-- Of pieces without a gap at most the first one changes. -/
theorem mem_fillFrom_of_tiles (s : Settings) (ls : List Text) (cursor : Int) {last start : Int} {ps : List Piece}
    (h : Tiles last start (ps.map (·.toRange))) {p : Piece} (hp : p ∈ ps) (hne : p.first ≠ start) :
    p ∈ (fillFrom s ls cursor ps).1 := by
  generalize hrs : ps.map (·.toRange) = rs at h
  cases h with
  | single =>
    obtain ⟨q, rfl, hq⟩ := List.map_eq_singleton_iff.mp hrs
    obtain rfl := List.mem_singleton.mp hp
    exact absurd (congrArg Range.first hq) hne
  | @cons _ stop _ _ h1 h2 h3 h4 ht =>
    obtain ⟨q, qs, rfl, hq, rfl⟩ := List.map_eq_cons_iff.mp hrs
    rcases List.mem_cons.mp hp with rfl | hp
    · exact absurd (congrArg Range.first hq) hne
    · have hstop : q.last = stop := congrArg Range.last hq
      rw [fillFrom_cons, fillFrom_tiles ht (by omega)]
      exact List.mem_append_right _ hp

theorem last_lt_fillFrom {cursor : Int} {ps : List Piece} (hc : 0 ≤ cursor)
    (hps : ∀ p ∈ ps, InFile ls.length p.first p.last) {p : Piece} (hp : p ∈ ps) :
    p.last < (fillFrom s ls cursor ps).2 := by
  obtain ⟨q, hq, hqp⟩ := fillFrom_keeps (s := s) hc hps hp
  exact Int.lt_of_le_of_lt hqp.last ((fillFrom_filled hc hps).before q hq)

/-! ### The whole source -/

/-- Lines with text behind all pieces go to the last piece or to pieces of their own. -/
theorem fillGaps_cases {ps : List Piece} (hps : ∀ p ∈ ps, InFile ls.length p.first p.last) :
    (fillGaps s ls ps = (fillFrom s ls 0 ps).1 ∧ ∀ i : Nat, HasText ls i → i < (fillFrom s ls 0 ps).2) ∨
      ((fillFrom s ls 0 ps).2 < ls.length ∧ ∃ front p, (fillFrom s ls 0 ps).1 = front ++ [p] ∧
        (ls.length : Int) - p.first ≤ s.chunkSize ∧
        fillGaps s ls ps = front ++ [{ p with last := (ls.length : Int) - 1 }]) ∨
      ((fillFrom s ls 0 ps).2 < ls.length ∧ fillGaps s ls ps =
        (fillFrom s ls 0 ps).1 ++ gapPieces s.chunkSize (fillFrom s ls 0 ps).2 ((ls.length : Int) - 1)) := by
  have hdone := (fillFrom_filled (s := s) (Int.le_refl 0) hps).le
  unfold fillGaps
  dsimp only
  split
  case isFalse hno =>
    refine .inl ⟨rfl, ?_⟩
    intro i htext
    have hi := htext.lt_length
    apply Int.not_le.mp
    intro hle
    have hslice := hasText_slice hdone (Int.le_refl _) htext hle (by omega)
    exact hno (by simp only [hslice, Bool.and_true, decide_eq_true_eq]; omega)
  case isTrue hyes =>
    rw [Bool.and_eq_true, decide_eq_true_eq] at hyes
    have hlt := hyes.1
    split
    case h_2 hnone =>
      rw [List.getLast?_eq_none_iff.mp hnone]
      exact .inr (.inr ⟨by omega, rfl⟩)
    case h_1 p hlast =>
      obtain ⟨front, hfront⟩ := List.getLast?_eq_some_iff.mp hlast
      split
      case isTrue hfits =>
        refine .inr (.inl ⟨by omega, front, p, hfront, hfits, ?_⟩)
        rw [hfront, List.dropLast_concat]
      case isFalse => exact .inr (.inr ⟨by omega, rfl⟩)

/-- With all gaps filled every line with text is in a piece. -/
theorem fillGaps_filled {ps : List Piece} (hps : ∀ p ∈ ps, InFile ls.length p.first p.last) :
    (∀ q ∈ fillGaps s ls ps, InFile ls.length q.first q.last) ∧
      ∀ i : Nat, HasText ls i → ∃ q ∈ fillGaps s ls ps, q.first ≤ i ∧ i ≤ q.last := by
  have hf := fillFrom_filled (s := s) (Int.le_refl 0) hps
  rcases fillGaps_cases (s := s) hps with ⟨he, hdone⟩ | ⟨hlt, front, p, hout, _, he⟩ | ⟨hlt, he⟩
  · rw [he]
    exact ⟨hf.inFile, fun i htext => hf.covers i htext (Int.natCast_nonneg i) (hdone i htext)⟩
  · rw [hout] at hf
    have hp : p ∈ front ++ [p] := List.mem_append_right _ (List.mem_singleton_self p)
    obtain ⟨h0, h1, h2⟩ := hf.inFile p hp
    have hbefore := hf.before p hp
    rw [he]
    constructor
    · intro q hq
      rcases List.mem_append.mp hq with hq | hq
      · exact hf.inFile q (List.mem_append_left _ hq)
      · obtain rfl := List.mem_singleton.mp hq
        exact ⟨h0, by dsimp only; omega, by dsimp only; omega⟩
    · intro i htext
      have hi := htext.lt_length
      by_cases hpi : p.first ≤ (i : Int)
      · exact ⟨_, List.mem_append_right _ (List.mem_singleton_self _), hpi, by dsimp only; omega⟩
      · obtain ⟨q, hq, hqi⟩ := hf.covers i htext (Int.natCast_nonneg i) (by omega)
        rcases List.mem_append.mp hq with hq | hq
        · exact ⟨q, List.mem_append_left _ hq, hqi⟩
        · obtain rfl := List.mem_singleton.mp hq
          exact absurd hqi.1 hpi
  · have hrest : Filled ls (fillFrom s ls 0 ps).2 ((ls.length : Int) - 1 + 1) _ :=
      filled_of_tiles (gapPieces_tiles s.chunkSize (Int.le_sub_one_of_lt hlt)) hf.le (by omega)
    have hall := hf.append hrest
    rw [he]
    refine ⟨hall.inFile, ?_⟩
    intro i htext
    have hi := htext.lt_length
    exact hall.covers i htext (Int.natCast_nonneg i) (by omega)

theorem fillGaps_keeps {ps : List Piece} (hps : ∀ p ∈ ps, InFile ls.length p.first p.last) {p : Piece}
    (hp : p ∈ ps) : ∃ q ∈ fillGaps s ls ps, q.Extends p := by
  obtain ⟨q, hq, hqp⟩ := fillFrom_keeps (s := s) (Int.le_refl 0) hps hp
  have hf := fillFrom_filled (s := s) (Int.le_refl 0) hps
  rcases fillGaps_cases (s := s) hps with ⟨he, _⟩ | ⟨hlt, front, r, hout, _, he⟩ | ⟨_, he⟩
  · exact ⟨q, he ▸ hq, hqp⟩
  · have hbefore := hf.before q hq
    rw [hout] at hq
    rcases List.mem_append.mp hq with hq | hq
    · exact ⟨q, he ▸ List.mem_append_left _ hq, hqp⟩
    · obtain rfl := List.mem_singleton.mp hq
      refine ⟨{ q with last := (ls.length : Int) - 1 }, ?_, hqp.symbols, hqp.first, ?_⟩
      · rw [he]
        exact List.mem_append_right _ (List.mem_singleton_self _)
      · have := hqp.last
        dsimp only
        omega
  · exact ⟨q, he ▸ List.mem_append_left _ hq, hqp⟩

/-- The lines behind all pieces come last, so that they do not matter for the order. -/
theorem fillGaps_ordered_iff {ps : List Piece} (hps : ∀ p ∈ ps, InFile ls.length p.first p.last) :
    ((fillGaps s ls ps).map (·.first)).Pairwise (· ≤ ·) ↔
      ((fillFrom s ls 0 ps).1.map (·.first)).Pairwise (· ≤ ·) := by
  have hf := fillFrom_filled (s := s) (Int.le_refl 0) hps
  rcases fillGaps_cases (s := s) hps with ⟨he, _⟩ | ⟨_, front, r, hout, _, he⟩ | ⟨hlt, he⟩
  · rw [he]
  · rw [he, hout, List.map_append, List.map_append]
    rfl
  · have ht := gapPieces_tiles s.chunkSize (Int.le_sub_one_of_lt hlt)
    rw [he]
    refine ⟨?_, fun h => starts_append h ht.piece_ordered ?_⟩
    · rw [List.map_append, List.pairwise_append]
      exact fun h => h.1
    intro p hp q hq
    have h1 := (hf.inFile p hp).ordered
    have h2 := hf.before p hp
    have h3 := ht.piece_range hq
    omega

end Cutting

end SourceChunks
