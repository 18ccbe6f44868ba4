import Mathlib.Data.List.Chain
import SourceChunks.Proofs.Gaps
import SourceChunks.Proofs.Outlines

/-! Pieces along declarations. Every declaration is shown by a piece that holds its first line. Pieces
begin in order, except that the windows over a long declaration may run past the beginning of the
next one; this is the only way to lose the order. -/

namespace SourceChunks.Cutting

open Outline

variable {s : Settings} {isBoundary : Text → Bool} {ls : List Text}

/-! ### Batches -/

theorem foldl_max_last (ns : List Node) (l : Int) :
    l ≤ ns.foldl (fun l m => max l m.last) l ∧ (∀ m ∈ ns, m.last ≤ ns.foldl (fun l m => max l m.last) l) ∧
      (ns.foldl (fun l m => max l m.last) l = l ∨ ∃ m ∈ ns, ns.foldl (fun l m => max l m.last) l = m.last) := by
  induction ns generalizing l with
  | nil => exact ⟨Int.le_refl _, by simp, .inl rfl⟩
  | cons n ns ih =>
    obtain ⟨hle, hall, hsome⟩ := ih (max l n.last)
    rw [List.foldl_cons]
    refine ⟨by omega, ?_, ?_⟩
    · intro m hm
      rcases List.mem_cons.mp hm with rfl | hm
      · omega
      · exact hall m hm
    · rcases hsome with heq | ⟨m, hm, heq⟩
      · rcases Int.le_total l n.last with hl | hl
        · exact .inr ⟨n, List.mem_cons_self, by omega⟩
        · exact .inl (by omega)
      · exact .inr ⟨m, List.mem_cons_of_mem _ hm, heq⟩

/-- The piece of a batch begins with the first declaration of the batch and ends with the one that
ends last. -/
theorem mem_batchPiece {batch : List Node} {p : Piece} (hp : p ∈ batchPiece batch) :
    ∃ b rest, batch = b :: rest ∧ p.first = b.first ∧ p.symbols = some (batch.map (·.name)) ∧
      (∀ m ∈ batch, m.last ≤ p.last) ∧ ∃ m ∈ batch, p.last = m.last := by
  cases batch with
  | nil => cases hp
  | cons b rest =>
    obtain rfl := List.mem_singleton.mp hp
    obtain ⟨hle, hall, hsome⟩ := foldl_max_last rest b.last
    refine ⟨b, rest, rfl, rfl, rfl, ?_, ?_⟩
    · intro m hm
      rcases List.mem_cons.mp hm with rfl | hm
      · exact hle
      · exact hall m hm
    · rcases hsome with heq | ⟨m, hm, heq⟩
      · exact ⟨b, List.mem_cons_self, heq⟩
      · exact ⟨m, List.mem_cons_of_mem _ hm, heq⟩

/-- A piece is that of a batch or a window over a long declaration. -/
theorem mem_piecesFrom {batch ns : List Node} {p : Piece} (hp : p ∈ piecesFrom s isBoundary ls batch ns) :
    (∃ bs, bs ⊆ batch ++ ns ∧ p ∈ batchPiece bs) ∨ ∃ n ∈ ns, p ∈ largePieces s isBoundary ls n := by
  induction ns generalizing batch with
  | nil => exact .inl ⟨batch, List.subset_append_left _ _, hp⟩
  | cons n ns ih =>
    rw [piecesFrom] at hp
    have hlater : ∀ {bs : List Node}, bs ⊆ batch ++ [n] → p ∈ piecesFrom s isBoundary ls bs ns →
        (∃ bs, bs ⊆ batch ++ n :: ns ∧ p ∈ batchPiece bs) ∨
          ∃ m ∈ n :: ns, p ∈ largePieces s isBoundary ls m := by
      intro bs hbs hp
      rcases ih hp with ⟨cs, hcs, hp⟩ | ⟨m, hm, hp⟩
      · refine .inl ⟨cs, ?_, hp⟩
        intro x hx
        rcases List.mem_append.mp (hcs hx) with hx | hx
        · rw [List.append_cons]
          exact List.mem_append_left _ (hbs hx)
        · exact List.mem_append_right _ (List.mem_cons_of_mem _ hx)
      · exact .inr ⟨m, List.mem_cons_of_mem _ hm, hp⟩
    split at hp
    case isTrue =>
      rcases List.mem_append.mp hp with hp | hp
      · rcases List.mem_append.mp hp with hp | hp
        · exact .inl ⟨batch, List.subset_append_left _ _, hp⟩
        · exact .inr ⟨n, List.mem_cons_self, hp⟩
      · exact hlater (List.nil_subset _) hp
    case isFalse =>
      split at hp
      case isTrue =>
        rcases List.mem_append.mp hp with hp | hp
        · exact .inl ⟨batch, List.subset_append_left _ _, hp⟩
        · exact hlater (List.subset_append_right _ _) hp
      case isFalse => exact hlater (List.Subset.refl _) hp

theorem piecesFrom_range (hs : s.Valid) {batch ns : List Node} (h : Arranged ls.length (batch ++ ns))
    {low : Int} (hlow : ∀ n ∈ batch ++ ns, low ≤ n.first) {p : Piece}
    (hp : p ∈ piecesFrom s isBoundary ls batch ns) : low ≤ p.first ∧ InFile ls.length p.first p.last := by
  rcases mem_piecesFrom hp with ⟨bs, hbs, hp⟩ | ⟨n, hn, hp⟩
  · obtain ⟨b, rest, rfl, hfirst, _, hlast, m, hm, heq⟩ := mem_batchPiece hp
    have hb := hbs (List.mem_cons_self (a := b) (l := rest))
    have h1 := h.inFile b hb
    have h2 := (h.inFile m (hbs hm)).below
    have h3 := hlast b List.mem_cons_self
    have h4 := h1.ordered
    rw [hfirst]
    exact ⟨hlow b hb, h1.nonneg, by omega, by omega⟩
  · have hn' : n ∈ batch ++ ns := List.mem_append_right _ hn
    obtain ⟨h1, h2, h3⟩ := h.inFile n hn'
    obtain ⟨h4, h5, h6⟩ := (largePieces_tiles s hs isBoundary ls h2).piece_range hp
    exact ⟨Int.le_trans (hlow n hn') h4, by omega, h5, by omega⟩

/-! ### Names -/

/-- The piece holds the first line of a declaration and tells its name. -/
structure Piece.Shows (p : Piece) (n : Node) : Prop where
  names : ∃ names, p.symbols = some names ∧ n.name ∈ names
  first : p.first ≤ n.first
  last : n.first ≤ p.last

theorem batchPiece_shows {batch : List Node} {count : Nat} (h : Arranged count batch) {n : Node}
    (hn : n ∈ batch) : ∃ p ∈ batchPiece batch, p.Shows n := by
  cases batch with
  | nil => cases hn
  | cons b rest =>
    have hp : _ ∈ batchPiece (b :: rest) := List.mem_singleton_self _
    refine ⟨_, hp, ⟨_, rfl, List.mem_map_of_mem hn⟩, ?_, ?_⟩
    · rcases List.mem_cons.mp hn with rfl | hn
      · exact Int.le_refl _
      · exact Int.le_of_lt ((List.pairwise_cons.mp h.forward).1 n hn).1
    · obtain ⟨_, _, _, _, _, hlast, _⟩ := mem_batchPiece hp
      exact Int.le_trans (h.inFile n hn).ordered (hlast n hn)

theorem largePieces_shows (hs : s.Valid) {n : Node} (hn : n.first ≤ n.last) :
    ∃ p ∈ largePieces s isBoundary ls n, p.Shows n := by
  have ht := largePieces_tiles s hs isBoundary ls hn
  obtain ⟨p, hp, h1, h2⟩ := ht.piece_covers (Int.le_refl _) hn
  have hfirst : p.first = n.first := Int.le_antisymm h1 (ht.piece_range hp).1
  refine ⟨p, hp, ⟨[n.name], ?_, List.mem_singleton_self _⟩, h1, h2⟩
  obtain ⟨r, _, rfl⟩ := List.mem_map.mp hp
  exact congrArg some (if_pos hfirst)

theorem piecesFrom_shows (hs : s.Valid) {batch ns : List Node} (h : Arranged ls.length (batch ++ ns))
    {n : Node} (hn : n ∈ batch ++ ns) : ∃ p ∈ piecesFrom s isBoundary ls batch ns, p.Shows n := by
  induction ns generalizing batch with
  | nil =>
    rw [List.append_nil] at h hn
    exact batchPiece_shows h hn
  | cons m ns ih =>
    have hbatch := h.sublist (List.sublist_append_left batch (m :: ns))
    have hrest := h.sublist (List.sublist_append_right batch (m :: ns))
    have hjoin : batch ++ m :: ns = batch ++ [m] ++ ns := List.append_cons _ _ _
    rw [piecesFrom]
    split
    case isTrue =>
      rcases List.mem_append.mp hn with hn | hn
      · obtain ⟨p, hp, hpn⟩ := batchPiece_shows hbatch hn
        exact ⟨p, List.mem_append_left _ (List.mem_append_left _ hp), hpn⟩
      rcases List.mem_cons.mp hn with rfl | hn
      · obtain ⟨p, hp, hpn⟩ := largePieces_shows hs (hrest.inFile n List.mem_cons_self).ordered
        exact ⟨p, List.mem_append_left _ (List.mem_append_right _ hp), hpn⟩
      · have hlater : Arranged ls.length ([] ++ ns) := hrest.sublist (List.sublist_cons_self m ns)
        obtain ⟨p, hp, hpn⟩ := ih hlater hn
        exact ⟨p, List.mem_append_right _ hp, hpn⟩
    case isFalse =>
      split
      case isTrue =>
        rcases List.mem_append.mp hn with hn | hn
        · obtain ⟨p, hp, hpn⟩ := batchPiece_shows hbatch hn
          exact ⟨p, List.mem_append_left _ hp, hpn⟩
        · have hlater : Arranged ls.length ([m] ++ ns) := hrest
          obtain ⟨p, hp, hpn⟩ := ih hlater hn
          exact ⟨p, List.mem_append_right _ hp, hpn⟩
      case isFalse =>
        rw [hjoin] at h hn
        exact ih h hn

/-! ### Order -/

/-- If the first declaration is longer than a chunk, all windows over it begin before the second one
does. -/
def WindowsBefore (s : Settings) (isBoundary : Text → Bool) (ls : List Text) (a b : Node) : Prop :=
  a.lineCount > s.chunkSize → ∀ p ∈ largePieces s isBoundary ls a, p.first ≤ b.first

theorem batchPiece_starts (batch : List Node) : ((batchPiece batch).map (·.first)).Pairwise (· ≤ ·) := by
  cases batch with
  | nil => exact .nil
  | cons b rest => exact List.pairwise_singleton _ _

/-- The first window over a declaration begins with it. -/
theorem largePieces_head (hs : s.Valid) {n : Node} (hn : n.first ≤ n.last) :
    ∃ p ps, largePieces s isBoundary ls n = p :: ps ∧ p.first = n.first := by
  have hhead := (largePieces_tiles s hs isBoundary ls hn).head?
  generalize largePieces s isBoundary ls n = ps at hhead
  cases ps with
  | nil => cases hhead
  | cons p ps => exact ⟨p, ps, rfl, Option.some.inj hhead⟩

/-- The first piece begins with the first declaration. -/
theorem piecesFrom_head (hs : s.Valid) {batch ns rest : List Node} {b : Node}
    (h : Arranged ls.length (batch ++ ns)) (hb : batch ++ ns = b :: rest) :
    ∃ p ps, piecesFrom s isBoundary ls batch ns = p :: ps ∧ p.first = b.first := by
  induction ns generalizing batch with
  | nil =>
    rw [List.append_nil] at hb
    rw [hb]
    exact ⟨_, _, rfl, rfl⟩
  | cons n ns ih =>
    rw [piecesFrom]
    split
    case isTrue =>
      cases batch with
      | nil =>
        obtain ⟨rfl, rfl⟩ := List.cons.inj hb
        obtain ⟨p, ps, hps, hp⟩ : ∃ p ps, largePieces s isBoundary ls n = p :: ps ∧ p.first = n.first :=
          largePieces_head hs (h.inFile n List.mem_cons_self).ordered
        rw [hps]
        exact ⟨p, _, rfl, hp⟩
      | cons c batch =>
        obtain ⟨rfl, _⟩ := List.cons.inj hb
        exact ⟨_, _, rfl, rfl⟩
    case isFalse =>
      split
      case isTrue ho =>
        cases batch with
        | nil => cases ho
        | cons c batch =>
          obtain ⟨rfl, _⟩ := List.cons.inj hb
          exact ⟨_, _, rfl, rfl⟩
      case isFalse =>
        rw [List.append_cons] at h hb
        exact ih h hb

/-- All pieces begin with the first declaration or later. -/
theorem piecesFrom_lower (hs : s.Valid) {b : Node} {rest : List Node}
    (h : Arranged ls.length (b :: rest)) {p : Piece} {batch ns : List Node} (hb : batch ++ ns = b :: rest)
    (hp : p ∈ piecesFrom s isBoundary ls batch ns) : b.first ≤ p.first := by
  refine (piecesFrom_range hs (hb ▸ h) ?_ hp).1
  intro n hn
  rw [hb] at hn
  rcases List.mem_cons.mp hn with rfl | hn
  · exact Int.le_refl _
  · exact Int.le_of_lt ((List.pairwise_cons.mp h.forward).1 n hn).1

theorem piecesFrom_ordered (hs : s.Valid) {batch ns : List Node} (h : Arranged ls.length (batch ++ ns))
    (hc : ns.IsChain (WindowsBefore s isBoundary ls)) :
    ((piecesFrom s isBoundary ls batch ns).map (·.first)).Pairwise (· ≤ ·) := by
  induction ns generalizing batch with
  | nil => exact batchPiece_starts batch
  | cons n ns ih =>
    have hrest := h.sublist (List.sublist_append_right batch (n :: ns))
    have hchain : ns.IsChain (WindowsBefore s isBoundary ls) := List.isChain_of_isChain_cons hc
    have hbatch : ∀ p ∈ batchPiece batch, p.first < n.first := by
      intro p hp
      obtain ⟨b, bs, rfl, hfirst, _⟩ := mem_batchPiece hp
      rw [hfirst]
      exact ((List.pairwise_append.mp h.forward).2.2 b List.mem_cons_self n List.mem_cons_self).1
    rw [piecesFrom]
    split
    case isTrue hlarge =>
      have ht := largePieces_tiles s hs isBoundary ls (hrest.inFile n List.mem_cons_self).ordered
      have hsub := hrest.sublist (List.sublist_cons_self n ns)
      have hlater : ∀ p ∈ piecesFrom s isBoundary ls [] ns, n.first < p.first ∧
          ∀ q ∈ largePieces s isBoundary ls n, q.first ≤ p.first := by
        intro p hp
        cases ns with
        | nil => cases hp
        | cons b ns =>
          have hlow := piecesFrom_lower hs hsub rfl hp
          have hnb := ((List.pairwise_cons.mp hrest.forward).1 b List.mem_cons_self).1
          have hwin := (List.isChain_cons_cons.mp hc).1 hlarge
          exact ⟨by omega, fun q hq => Int.le_trans (hwin q hq) hlow⟩
      rw [List.append_assoc]
      refine starts_append (batchPiece_starts batch) (starts_append ht.piece_ordered (ih hsub hchain) ?_) ?_
      · intro q hq p hp
        exact (hlater p hp).2 q hq
      · intro q hq p hp
        have hqn := hbatch q hq
        rcases List.mem_append.mp hp with hp | hp
        · have := (ht.piece_range hp).1
          omega
        · have := (hlater p hp).1
          omega
    case isFalse =>
      split
      case isTrue =>
        refine starts_append (batchPiece_starts batch) (ih hrest hchain) ?_
        intro q hq p hp
        have h1 := hbatch q hq
        have h2 := piecesFrom_lower hs hrest (List.singleton_append ..) hp
        omega
      case isFalse =>
        rw [List.append_cons] at h
        exact ih h hchain

/-- When the filled pieces are in order, so are the windows over a long declaration and the next
declaration. -/
theorem windowsBefore_of_ordered (hs : s.Valid) {a b : Node} {rest : List Node} {cursor : Int}
    (hc : 0 ≤ cursor) (h : Arranged ls.length (a :: b :: rest))
    (hord : ((fillFrom s ls cursor (largePieces s isBoundary ls a ++
      piecesFrom s isBoundary ls [] (b :: rest))).1.map (·.first)).Pairwise (· ≤ ·)) :
    WindowsBefore s isBoundary ls a b := by
  intro _ w hw
  obtain ⟨h1, h2, h3⟩ := h.inFile a List.mem_cons_self
  have hab := ((List.pairwise_cons.mp h.forward).1 b List.mem_cons_self).1
  have ht := largePieces_tiles s hs isBoundary ls h2
  have hin : ∀ p ∈ largePieces s isBoundary ls a, InFile ls.length p.first p.last := by
    intro p hp
    have := ht.piece_range hp
    exact ⟨by omega, by omega, by omega⟩
  have hwr := ht.piece_range hw
  by_cases hfirst : w.first = a.first
  · omega
  -- a window behind the first one is kept as it is, and so is the next piece if it begins inside
  have hwmem := mem_fillFrom_of_tiles s ls cursor ht hw hfirst
  obtain ⟨p, ps, hps, hp⟩ : ∃ p ps, piecesFrom s isBoundary ls [] (b :: rest) = p :: ps ∧
      p.first = b.first :=
    piecesFrom_head hs (h.sublist (List.sublist_cons_self a (b :: rest))) rfl
  by_cases hb : b.first ≤ (fillFrom s ls cursor (largePieces s isBoundary ls a)).2
  · rw [fillFrom_append, hps, fillFrom_cons, withGap_of_le (hp ▸ hb), List.map_append,
      List.pairwise_append] at hord
    have := hord.2.2 w.first (List.mem_map_of_mem hwmem) p.first (List.mem_map_of_mem List.mem_cons_self)
    omega
  · have := last_lt_fillFrom (s := s) hc hin hw
    omega

theorem isChain_of_ordered (hs : s.Valid) {batch ns : List Node} (h : Arranged ls.length (batch ++ ns))
    {cursor : Int} (hc : 0 ≤ cursor)
    (hord : ((fillFrom s ls cursor (piecesFrom s isBoundary ls batch ns)).1.map (·.first)).Pairwise (· ≤ ·)) :
    ns.IsChain (WindowsBefore s isBoundary ls) := by
  induction ns generalizing batch cursor with
  | nil => exact .nil
  | cons n ns ih =>
    have hrest := h.sublist (List.sublist_append_right batch (n :: ns))
    have hsmall (hn : ¬ n.lineCount > s.chunkSize) (hchain : ns.IsChain (WindowsBefore s isBoundary ls)) :
        (n :: ns).IsChain (WindowsBefore s isBoundary ls) := by
      cases ns with
      | nil => exact .singleton n
      | cons b ns => exact hchain.cons_cons fun hlarge => absurd hlarge hn
    have hin : ∀ p ∈ piecesFrom s isBoundary ls batch (n :: ns), InFile ls.length p.first p.last :=
      fun p hp => (piecesFrom_range hs h (fun m hm => (h.inFile m hm).nonneg) hp).2
    rw [piecesFrom] at hord hin
    split at hord
    case isTrue hlarge =>
      rw [if_pos hlarge, List.append_assoc] at hin
      rw [List.append_assoc, fillFrom_append, List.map_append] at hord
      have hwin := (List.pairwise_append.mp hord).2.1
      have hc1 := (fillFrom_filled (s := s) hc fun p hp => hin p (List.mem_append_left _ hp)).le
      have hc2 := (fillFrom_filled (s := s) (Int.le_trans hc hc1) fun p hp =>
        hin p (List.mem_append_right _ (List.mem_append_left _ hp))).le
      have hlater := hwin
      rw [fillFrom_append, List.map_append] at hlater
      have hsub : Arranged ls.length ([] ++ ns) := hrest.sublist (List.sublist_cons_self n ns)
      have hchain := ih hsub (by omega) (List.pairwise_append.mp hlater).2.1
      cases ns with
      | nil => exact .singleton n
      | cons b ns => exact hchain.cons_cons (windowsBefore_of_ordered hs (by omega) hrest hwin)
    case isFalse hn =>
      rw [if_neg hn] at hin
      refine hsmall hn ?_
      split at hord
      case isTrue ho =>
        rw [if_pos ho] at hin
        rw [fillFrom_append, List.map_append] at hord
        have hc1 := (fillFrom_filled (s := s) hc fun p hp => hin p (List.mem_append_left _ hp)).le
        have hone : Arranged ls.length ([n] ++ ns) := hrest
        exact ih hone (by omega) (List.pairwise_append.mp hord).2.1
      case isFalse =>
        rw [List.append_cons] at h
        exact ih h hc hord

/-- The pieces of a source begin in order just when the windows over long declarations do. -/
theorem declarationPieces_ordered_iff (isBoundary : Text → Bool) (hs : s.Valid) {ns : List Node} (h : Arranged ls.length ns) :
    ((declarationPieces s isBoundary ls ns).map (·.first)).Pairwise (· ≤ ·) ↔
      ns.IsChain (WindowsBefore s isBoundary ls) := by
  have hin : ∀ p ∈ piecesFrom s isBoundary ls [] ns, InFile ls.length p.first p.last :=
    fun p hp => (piecesFrom_range hs h (fun m hm => (h.inFile m hm).nonneg) hp).2
  rw [declarationPieces, fillGaps_ordered_iff hin]
  constructor
  · exact isChain_of_ordered hs h (Int.le_refl 0)
  · intro hc
    exact (fillFrom_starts (Int.le_refl 0) hin (piecesFrom_ordered hs h hc) (Int.le_refl 0)
      fun p hp => (hin p hp).nonneg).1

/-- Declarations that share no lines are cut in order. -/
theorem isChain_of_separate (hs : s.Valid) {ns : List Node} {lo hi : Int} (h : Braces.Separate lo hi ns) :
    ns.IsChain (WindowsBefore s isBoundary ls) := by
  refine List.Pairwise.isChain (h.apart.imp_of_mem ?_)
  intro a b ha _ hab _ p hp
  have hr := (largePieces_tiles s hs isBoundary ls (h.range a ha).2.1).piece_range hp
  omega

/-- Along declarations no line with text is left out, and every declaration is shown. -/
theorem declarationPieces_spec (isBoundary : Text → Bool) (hs : s.Valid) {ns : List Node} (h : Arranged ls.length ns) :
    (∀ p ∈ declarationPieces s isBoundary ls ns, InFile ls.length p.first p.last) ∧
      (∀ i : Nat, HasText ls i → ∃ p ∈ declarationPieces s isBoundary ls ns, p.first ≤ i ∧ i ≤ p.last) ∧
      ∀ n ∈ ns, ∃ p ∈ declarationPieces s isBoundary ls ns, p.Shows n := by
  have hin : ∀ p ∈ piecesFrom s isBoundary ls [] ns, InFile ls.length p.first p.last :=
    fun p hp => (piecesFrom_range hs h (fun m hm => (h.inFile m hm).nonneg) hp).2
  obtain ⟨hfile, hcover⟩ := fillGaps_filled (s := s) hin
  refine ⟨hfile, hcover, ?_⟩
  intro n hn
  obtain ⟨p, hp, hpn⟩ : ∃ p ∈ piecesFrom s isBoundary ls [] ns, p.Shows n :=
    piecesFrom_shows hs ((List.nil_append ns).symm ▸ h) (List.mem_append_right _ hn)
  obtain ⟨q, hq, hqp⟩ := fillGaps_keeps (s := s) hin hp
  exact ⟨q, hq, hqp.symbols ▸ hpn.names, Int.le_trans hqp.first hpn.first, Int.le_trans hpn.last hqp.last⟩

end SourceChunks.Cutting
