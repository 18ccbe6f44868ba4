import SourceChunks.Cutting.Breakpoints
import SourceChunks.Cutting.Declarations
import SourceChunks.Proofs.Lines
import SourceChunks.Strategy.Semantic

/-! Windows, sections and parts of declarations leave no line out. All of them are ranges that begin
where the lines begin and end where the lines end, each beginning later than the one before it but
not later than the line after that one. -/

namespace SourceChunks

namespace Cutting

/-- Ranges over the lines from `start` through `last` without a gap. Neighbours may share lines. -/
inductive Tiles (last : Int) : (start : Int) → List Range → Prop
  | single {start : Int} : start ≤ last → Tiles last start [⟨start, last⟩]
  | cons {start stop next : Int} {rs : List Range} : start ≤ stop → stop < last → start < next →
      next ≤ stop + 1 → Tiles last next rs → Tiles last start (⟨start, stop⟩ :: rs)

namespace Tiles

variable {last start : Int} {rs : List Range}

theorem le (h : Tiles last start rs) : start ≤ last := by
  cases h with
  | single hle => exact hle
  | cons h1 h2 _ _ _ => omega

theorem ne_nil (h : Tiles last start rs) : rs ≠ [] := by
  cases h <;> simp

theorem range (h : Tiles last start rs) : ∀ r ∈ rs, start ≤ r.first ∧ r.first ≤ r.last ∧ r.last ≤ last := by
  induction h with
  | single hle =>
    intro r hr
    obtain rfl := List.mem_singleton.mp hr
    exact ⟨Int.le_refl _, hle, Int.le_refl _⟩
  | cons h1 h2 h3 h4 _ ih =>
    intro r hr
    rcases List.mem_cons.mp hr with rfl | hr
    · exact ⟨Int.le_refl _, h1, Int.le_of_lt h2⟩
    · have := ih r hr
      omega

theorem ordered (h : Tiles last start rs) : rs.Pairwise fun a b => a.first < b.first := by
  induction h with
  | single => exact List.pairwise_singleton _ _
  | cons h1 h2 h3 h4 ht ih =>
    refine List.pairwise_cons.mpr ⟨?_, ih⟩
    intro r hr
    exact Int.lt_of_lt_of_le h3 (ht.range r hr).1

theorem head? (h : Tiles last start rs) : rs.head?.map (·.first) = some start := by
  cases h <;> rfl

theorem getLast? (h : Tiles last start rs) : rs.getLast?.map (·.last) = some last := by
  induction h with
  | single _ => rfl
  | cons _ _ _ _ hrest ih => rwa [List.getLast?_cons_of_ne_nil hrest.ne_nil]

theorem covers (h : Tiles last start rs) {i : Int} (h1 : start ≤ i) (h2 : i ≤ last) :
    ∃ r ∈ rs, r.first ≤ i ∧ i ≤ r.last := by
  induction h with
  | single => exact ⟨_, List.mem_cons_self, h1, h2⟩
  | @cons start stop next rs h3 h4 h5 h6 _ ih =>
    by_cases hi : i ≤ stop
    · exact ⟨_, List.mem_cons_self, h1, hi⟩
    · obtain ⟨r, hr, hri⟩ := ih (by omega)
      exact ⟨r, List.mem_cons_of_mem _ hr, hri⟩

theorem append {mid : Int} {qs : List Range} (h : Tiles mid start rs) (hq : Tiles last (mid + 1) qs) :
    Tiles last start (rs ++ qs) := by
  have hle := hq.le
  induction h with
  | single h1 => exact .cons h1 (by omega) (by omega) (Int.le_refl _) hq
  | cons h1 h2 h3 h4 _ ih => exact .cons h1 (by omega) h3 h4 ih

end Tiles

/-! ### Ranges that share nothing -/

/-- Ranges over the lines from `start` through `last`, each line in exactly one of them. -/
inductive Partitions (last : Int) : (start : Int) → List Range → Prop
  | single {start : Int} : start ≤ last → Partitions last start [⟨start, last⟩]
  | cons {start stop : Int} {rs : List Range} : start ≤ stop → stop < last → Partitions last (stop + 1) rs →
      Partitions last start (⟨start, stop⟩ :: rs)

namespace Partitions

variable {last start : Int} {rs : List Range}

theorem tiles (h : Partitions last start rs) : Tiles last start rs := by
  induction h with
  | single hle => exact .single hle
  | cons h1 h2 _ ih => exact .cons h1 h2 (by omega) (Int.le_refl _) ih

/-- Ranges that are cut further without a gap leave no gap. -/
theorem tiles_flatMap {α : Type} {range : α → Range} {cut : α → List Range} {xs : List α}
    (h : Partitions last start (xs.map range))
    (hcut : ∀ x ∈ xs, Tiles (range x).last (range x).first (cut x)) : Tiles last start (xs.flatMap cut) := by
  generalize hrs : xs.map range = rs at h
  induction h generalizing xs with
  | single hle =>
    obtain ⟨x, rfl, hx⟩ := List.map_eq_singleton_iff.mp hrs
    simpa [hx] using hcut x List.mem_cons_self
  | cons h1 h2 _ ih =>
    obtain ⟨x, more, rfl, hx, hmore⟩ := List.map_eq_cons_iff.mp hrs
    have hhere := hcut x List.mem_cons_self
    rw [hx] at hhere
    rw [List.flatMap_cons]
    exact hhere.append (ih (fun y hy => hcut y (List.mem_cons_of_mem _ hy)) hmore)

end Partitions

/-! ### Ranges of one size -/

/-- Ranges of `size` lines that go on by `step` lines until one of them reaches the last line, which it does not
pass. There is no bound on how many they are. -/
inductive Slides (size step last : Int) : (start : Int) → List Range → Prop
  | stop {start : Int} : start ≤ last → last ≤ start + size - 1 → Slides size step last start [⟨start, last⟩]
  | next {start : Int} {rs : List Range} : start + size - 1 < last → Slides size step last (start + step) rs →
      Slides size step last start (⟨start, start + size - 1⟩ :: rs)

namespace Slides

variable {size step last start : Int} {rs : List Range}

theorem tiles (h : Slides size step last start rs) (h1 : 1 ≤ step) (h2 : step ≤ size) : Tiles last start rs := by
  induction h with
  | stop hle _ => exact .single hle
  | next hmore _ ih => exact .cons (by omega) hmore (by omega) (by omega) ih

theorem size_le (h : Slides size step last start rs) : ∀ r ∈ rs, r.last - r.first + 1 ≤ size := by
  induction h with
  | stop _ hreach =>
    intro r hr
    obtain rfl := List.mem_singleton.mp hr
    dsimp only
    omega
  | next _ _ ih =>
    intro r hr
    rcases List.mem_cons.mp hr with rfl | hr
    · dsimp only
      omega
    · exact ih r hr

end Slides

/-! ### Windows of one size -/

theorem windowsFrom_slides {size step last : Int} (h1 : 1 ≤ step) (h2 : step ≤ size) {fuel : Nat}
    {start : Int} (hs : start ≤ last) (hf : last - start < fuel) :
    Slides size step last start (windowsFrom size step last fuel start) := by
  induction fuel generalizing start with
  | zero => omega
  | succ fuel ih =>
    rw [windowsFrom, if_pos hs]
    dsimp only
    split
    case isTrue he =>
      rw [he]
      exact .stop hs (by omega)
    case isFalse hne =>
      rw [show min (start + size - 1) last = start + size - 1 by omega]
      exact .next (by omega) (ih (by omega) (by omega))

/-- The windows over a range that is not empty. -/
theorem windows_slides (size overlap : Int) {first last : Int} (h : first ≤ last) :
    Slides (max 1 size) (max 1 size - max 0 (min overlap (max 1 size - 1))) last first
      (windows size overlap first last) :=
  windowsFrom_slides (by omega) (by omega) h (by omega)

theorem windows_tiles (size overlap : Int) {first last : Int} (h : first ≤ last) :
    Tiles last first (windows size overlap first last) :=
  (windows_slides size overlap h).tiles (by omega) (by omega)

/-! ### Windows over large declarations -/

theorem boundaryDown_range {isBoundary : Text → Bool} {ls : List Text} {low : Int} {fuel : Nat}
    {stop x : Int} (h : boundaryDown isBoundary ls low fuel stop = some x) : low < x ∧ x ≤ stop := by
  induction fuel generalizing stop with
  | zero => cases h
  | succ fuel ih =>
    rw [boundaryDown] at h
    split at h
    case isFalse => cases h
    case isTrue hlt =>
      split at h
      case isTrue =>
        obtain rfl := Option.some.inj h
        exact ⟨hlt, Int.le_refl _⟩
      case isFalse =>
        have := ih h
        omega

theorem windowEnd_range (isBoundary : Text → Bool) (ls : List Text) {size : Nat} {last start : Int}
    (hsize : 1 ≤ size) (hs : start ≤ last) :
    start ≤ windowEnd isBoundary ls size last start ∧ windowEnd isBoundary ls size last start ≤ last := by
  unfold windowEnd
  dsimp only
  split
  case isFalse => omega
  case isTrue =>
    cases hb : boundaryDown isBoundary ls (start + (size * 3 / 4 : Nat))
        (min (start + size - 1) last - (start + (size * 3 / 4 : Nat))).toNat
        (min (start + size - 1) last) with
    | none =>
      simp only [Option.getD_none]
      omega
    | some x =>
      have := boundaryDown_range hb
      simp only [Option.getD_some]
      omega

theorem largeFrom_tiles (isBoundary : Text → Bool) (ls : List Text) {size : Nat} (hsize : 1 ≤ size)
    (step : Int) {last : Int} {fuel : Nat} {start : Int} (hs : start ≤ last) (hf : last - start < fuel) :
    Tiles last start (largeFrom isBoundary ls size step last fuel start) := by
  induction fuel generalizing start with
  | zero => omega
  | succ fuel ih =>
    have hend := windowEnd_range isBoundary ls hsize hs
    rw [largeFrom, if_pos hs]
    dsimp only
    split
    case isTrue he =>
      rw [he]
      exact .single hs
    case isFalse hne =>
      exact .cons hend.1 (by omega) (by omega) (by omega) (ih (by omega) (by omega))

/-- The windows over a declaration. -/
theorem largePieces_tiles (s : Settings) (hs : s.Valid) (isBoundary : Text → Bool) (ls : List Text)
    {n : Node} (hn : n.first ≤ n.last) :
    Tiles n.last n.first ((largePieces s isBoundary ls n).map (·.toRange)) := by
  have hsize := hs.size
  rw [largePieces, List.map_map]
  simp only [Function.comp_def, List.map_id']
  exact largeFrom_tiles isBoundary ls (by omega) _ hn (by simp only [Node.lineCount]; omega)

/-! ### Sections -/

/-- Breakpoints go forward and lie in the lines that are looked at. -/
theorem breakpointsFrom_spec (language : Language) (previous i : Nat) (afterBlank : Bool) (rest : List Text) :
    (breakpointsFrom language previous i afterBlank rest).Pairwise (· < ·) ∧
      ∀ x ∈ breakpointsFrom language previous i afterBlank rest, i ≤ x ∧ x < i + rest.length := by
  induction rest generalizing previous i afterBlank with
  | nil => exact ⟨.nil, by simp [breakpointsFrom]⟩
  | cons line rest ih =>
    rw [breakpointsFrom]
    split
    case isTrue =>
      obtain ⟨hpair, hmem⟩ := ih i (i + 1) (Text.allBlank line)
      refine ⟨List.pairwise_cons.mpr ⟨fun x hx => (hmem x hx).1, hpair⟩, ?_⟩
      intro x hx
      rw [List.length_cons]
      rcases List.mem_cons.mp hx with rfl | hx
      · omega
      · have := hmem x hx
        omega
    case isFalse =>
      obtain ⟨hpair, hmem⟩ := ih previous (i + 1) (Text.allBlank line)
      refine ⟨hpair, ?_⟩
      intro x hx
      have := hmem x hx
      rw [List.length_cons]
      omega

theorem breakpoints_spec (language : Language) {ls : List Text} (hne : ls ≠ []) :
    (breakpoints language ls ++ [ls.length]).Pairwise (· < ·) := by
  cases ls with
  | nil => exact absurd rfl hne
  | cons line rest =>
    obtain ⟨hpair, hmem⟩ := breakpointsFrom_spec language 0 1 (Text.allBlank line) rest
    rw [breakpoints, List.pairwise_append, List.pairwise_cons]
    refine ⟨⟨fun x hx => (hmem x hx).1, hpair⟩, List.pairwise_singleton _ _, ?_⟩
    intro x hx y hy
    obtain rfl := List.mem_singleton.mp hy
    rw [List.length_cons]
    rcases List.mem_cons.mp hx with rfl | hx
    · omega
    · have := hmem x hx
      omega

theorem sectionRanges_tiles (size overlap : Nat) {first last : Int} (h : first ≤ last) :
    Tiles last first (sectionRanges size overlap first last) := by
  unfold sectionRanges
  split
  · exact windows_tiles _ _ h
  · exact .single h

/-- Sections between points that go forward, the last point being the number of lines. -/
theorem sectionsFrom_tiles (size overlap : Nat) {start count : Nat} {points : List Nat}
    (h : (start :: points ++ [count]).Pairwise (· < ·)) :
    Tiles ((count : Int) - 1) start (sectionsFrom size overlap start (points ++ [count])) := by
  induction points generalizing start with
  | nil =>
    have hlt : start < count := (List.pairwise_cons.mp h).1 count List.mem_cons_self
    exact sectionRanges_tiles size overlap (by omega)
  | cons point points ih =>
    obtain ⟨next, more, heq⟩ : ∃ next more, points ++ [count] = next :: more := by
      cases points with
      | nil => exact ⟨_, _, rfl⟩
      | cons p ps => exact ⟨_, _, rfl⟩
    have hlt : start < point := (List.pairwise_cons.mp h).1 point List.mem_cons_self
    have hpoint : (point :: points ++ [count]).Pairwise (· < ·) := (List.pairwise_cons.mp h).2
    have hskip : (start :: points ++ [count]).Pairwise (· < ·) :=
      h.sublist ((List.sublist_cons_self point (points ++ [count])).cons_cons start)
    rw [List.cons_append, heq, sectionsFrom, ← heq]
    split
    case isTrue => exact ih hskip
    case isFalse =>
      have hhere : Tiles ((point : Int) - 1) start (sectionRanges size overlap start ((point : Int) - 1)) :=
        sectionRanges_tiles size overlap (by omega)
      have hrest := ih hpoint
      rw [show (point : Int) = (point : Int) - 1 + 1 by omega] at hrest
      exact hhere.append hrest

/-- A source cut by lines is cut without a gap. -/
theorem lineRanges_tiles (language : Language) (size overlap : Nat) {ls : List Text} (hne : ls ≠ []) :
    Tiles ((ls.length : Int) - 1) 0 (lineRanges language size overlap ls) := by
  have hlen : 0 < ls.length := List.length_pos_iff.mpr hne
  have hpoints := breakpoints_spec language hne
  obtain ⟨points, hb⟩ : ∃ points, breakpoints language ls = 0 :: points := by
    cases ls with
    | nil => exact absurd rfl hne
    | cons line rest => exact ⟨_, rfl⟩
  rw [hb] at hpoints
  unfold lineRanges
  rw [hb]
  cases points with
  | nil => exact windows_tiles _ _ (by omega)
  | cons point points => exact sectionsFrom_tiles size overlap hpoints

end Cutting

/-! ### Parts of declarations -/

namespace Semantic

open Cutting

theorem windowStep_range {p : SemanticParams} (hp : 1 ≤ p.maxSize) :
    1 ≤ windowStep p ∧ windowStep p ≤ p.maxSize := by
  unfold windowStep sharedLines
  omega

theorem rangesFrom_slides {size step last : Int} (h1 : 1 ≤ step) (h2 : step ≤ size) {fuel : Nat}
    {start : Int} (hs : start ≤ last) (hf : last - start - size + 1 < fuel) (hpos : 0 < fuel) :
    Slides size step last start (rangesFrom size step last fuel start) := by
  induction fuel generalizing start with
  | zero => omega
  | succ fuel ih =>
    rw [rangesFrom]
    split
    case isTrue hge =>
      rw [show min (start + size - 1) last = last by omega]
      exact .stop hs (by omega)
    case isFalse hlt =>
      rw [show min (start + size - 1) last = start + size - 1 by omega]
      exact .next (by omega) (ih (by omega) (by omega) (by omega))

theorem ranges_slides {p : SemanticParams} (hp : 1 ≤ p.maxSize) {first last : Int} (h : first ≤ last) :
    Slides p.maxSize (windowStep p) last first (ranges p first last) := by
  obtain ⟨h1, h2⟩ := windowStep_range hp
  exact rangesFrom_slides h1 h2 h (by omega) (Nat.succ_pos _)

theorem ranges_tiles {p : SemanticParams} (hp : 1 ≤ p.maxSize) {first last : Int} (h : first ≤ last) :
    Tiles last first (ranges p first last) := by
  obtain ⟨h1, h2⟩ := windowStep_range hp
  exact (ranges_slides hp h).tiles h1 h2

/-- A declaration that ends at line `last` can be split at line `i`, the part before it beginning at `start`. -/
structure SplitsAt (p : SemanticParams) (isBoundary : Text → Bool) (ls : List Text) (last start i : Int) : Prop where
  behind : start < i
  inside : i ≤ last
  boundary : SeenAt isBoundary ls i true
  min_le : p.minSize ≤ i - start
  le_max : i - start ≤ p.maxSize

/-- A declaration is split at the first line where it can be, and then so is the rest of it. -/
inductive Splits (p : SemanticParams) (isBoundary : Text → Bool) (ls : List Text) (last : Int) :
    (start : Int) → List Int → Prop
  | stop {start : Int} : (∀ i, ¬ SplitsAt p isBoundary ls last start i) → Splits p isBoundary ls last start []
  | next {start point : Int} {points : List Int} : SplitsAt p isBoundary ls last start point →
      (∀ i, i < point → ¬ SplitsAt p isBoundary ls last start i) → Splits p isBoundary ls last point points →
      Splits p isBoundary ls last start (point :: points)

section

variable {p : SemanticParams} {isBoundary : Text → Bool} {ls : List Text} {n m : Node}

/-- The lines `rest` from line `i` on remain to be looked at, and up to there no split was possible. -/
theorem splitPointsFrom_splits {count i : Nat} {previous : Int} (hprevious : previous < i) {rest : List Text}
    (hrest : (ls.take count).drop i = rest)
    (hnone : ∀ j, j < (i : Int) → ¬ SplitsAt p isBoundary ls ((count : Int) - 1) previous j) :
    Splits p isBoundary ls ((count : Int) - 1) previous (splitPointsFrom p isBoundary previous i rest) := by
  induction rest generalizing previous i with
  | nil =>
    refine .stop fun j hj => ?_
    obtain ⟨k, line, rfl, hline, _⟩ := hj.boundary
    have hlen := (List.getElem?_eq_some_iff.mp hline).1
    have hinside := hj.inside
    rw [List.drop_eq_nil_iff, List.length_take] at hrest
    exact hnone k (by omega) hj
  | cons line rest ih =>
    obtain ⟨hline, hrest⟩ := getElem?_of_drop_eq_cons hrest
    obtain ⟨hi, hline⟩ : i < count ∧ ls[i]? = some line := by
      rwa [List.getElem?_take, Option.ite_none_right_eq_some] at hline
    rw [splitPointsFrom, ← Int.natCast_succ]
    split
    case isTrue htaken =>
      simp only [Bool.and_eq_true, decide_eq_true_eq] at htaken
      obtain ⟨⟨hb, hmin⟩, hmax⟩ := htaken
      have hhere : SplitsAt p isBoundary ls ((count : Int) - 1) previous i :=
        ⟨hprevious, by omega, ⟨i, line, rfl, hline, hb⟩, hmin, hmax⟩
      refine .next hhere hnone (ih (by omega) hrest fun j hj hsplit => ?_)
      have := hsplit.behind
      omega
    case isFalse hpassed =>
      refine ih (by omega) hrest fun j hj hsplit => ?_
      by_cases hlt : j < i
      · exact hnone j hlt hsplit
      · obtain rfl : j = i := by omega
        obtain ⟨k, line', hk, hline', hb⟩ := hsplit.boundary
        obtain rfl : i = k := by omega
        obtain rfl : line = line' := Option.some.inj (hline.symm.trans hline')
        apply hpassed
        simp only [hb, hsplit.min_le, hsplit.le_max, decide_true, Bool.and_self]

/-- The points at which a declaration inside the source is split. -/
theorem splitPoints_splits (p : SemanticParams) (isBoundary : Text → Bool) (hn : InFile ls.length n.first n.last) :
    Splits p isBoundary ls n.last n.first (splitPoints p isBoundary ls n) := by
  obtain ⟨h0, h1, h2⟩ := hn
  obtain ⟨first, hfirst⟩ := Int.eq_ofNat_of_zero_le h0
  obtain ⟨count, hcount⟩ := Int.eq_ofNat_of_zero_le (show 0 ≤ n.last + 1 by omega)
  have hrest : (ls.take count).drop (first + 1) = lineRange ls (n.first + 1) n.last := by
    rw [lineRange, hfirst, hcount, ← Int.natCast_succ, slice_eq_drop_take ls (by omega), List.drop_take]
  have hsplits : Splits p isBoundary ls ((count : Int) - 1) n.first
      (splitPointsFrom p isBoundary n.first ((first + 1 : Nat) : Int) (lineRange ls (n.first + 1) n.last)) := by
    refine splitPointsFrom_splits (by omega) hrest fun j hj hsplit => ?_
    have := hsplit.behind
    omega
  rwa [Int.natCast_succ, ← hfirst, ← hcount, Int.add_sub_cancel] at hsplits

/-- What lies between the splits has every line of the declaration once. -/
theorem Splits.partitions {last start : Int} {points : List Int} (h : Splits p isBoundary ls last start points)
    (hs : start ≤ last) : Partitions last start (rangesBetween last start points) := by
  induction h with
  | stop _ => exact .single hs
  | @next start point points hsplit _ _ ih =>
    have hbehind := hsplit.behind
    have hinside := hsplit.inside
    exact .cons (by omega) (by omega) (by rw [show point - 1 + 1 = point by omega]; exact ih hinside)

/-- The lines of a declaration. -/
def span (n : Node) : Range := ⟨n.first, n.last⟩

theorem map_span_parts (n : Node) (rs : List Range) : (parts n rs).map span = rs := by
  rw [parts, List.map_map]
  exact List.zipIdx_map_fst 0 rs

theorem map_span_splitNode (p : SemanticParams) (isBoundary : Text → Bool) (ls : List Text) (n : Node) :
    (splitNode p isBoundary ls n).map span = rangesBetween n.last n.first (splitPoints p isBoundary ls n) := by
  unfold splitNode
  split
  case h_1 hnone =>
    rw [hnone]
    rfl
  case h_2 => rw [map_span_parts]

theorem splitNode_partitions (hn : InFile ls.length n.first n.last) :
    Partitions n.last n.first ((splitNode p isBoundary ls n).map span) := by
  rw [map_span_splitNode]
  exact (splitPoints_splits p isBoundary hn).partitions hn.ordered

/-- The parts of a declaration lie inside it. -/
theorem mem_parts {rs : List Range} (h : Tiles n.last n.first rs) (hm : m ∈ parts n rs) :
    n.first ≤ m.first ∧ m.first ≤ m.last ∧ m.last ≤ n.last := by
  obtain ⟨r, hr, rfl⟩ := List.mem_map.mp hm
  exact h.range r.1 (List.fst_mem_of_mem_zipIdx hr)

theorem mem_splitNode (hn : InFile ls.length n.first n.last) (hm : m ∈ splitNode p isBoundary ls n) :
    n.first ≤ m.first ∧ m.first ≤ m.last ∧ m.last ≤ n.last :=
  (splitNode_partitions hn).tiles.range (span m) (List.mem_map_of_mem hm)

/-- What a declaration is split into lies inside it. -/
theorem mem_optimiseNode (hp : 1 ≤ p.maxSize) (hn : InFile ls.length n.first n.last)
    (hm : m ∈ optimiseNode p isBoundary ls n) : n.first ≤ m.first ∧ m.first ≤ m.last ∧ m.last ≤ n.last := by
  unfold optimiseNode at hm
  split at hm
  case isTrue =>
    obtain rfl := List.mem_singleton.mp hm
    exact ⟨Int.le_refl _, hn.ordered, Int.le_refl _⟩
  case isFalse =>
    obtain ⟨q, hq, hm⟩ := List.mem_flatMap.mp hm
    obtain ⟨h1, h2, h3⟩ := mem_splitNode hn hq
    split at hm
    case isTrue =>
      have := mem_parts (ranges_tiles hp h2) hm
      omega
    case isFalse =>
      obtain rfl := List.mem_singleton.mp hm
      exact ⟨h1, h2, h3⟩

end

end Semantic

end SourceChunks
