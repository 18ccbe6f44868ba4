import Mathlib.Data.List.Chain
import SourceChunks.Proofs.Windows

/-! Windows over a declaration longer than a chunk. A window may be cut short at a boundary in its last quarter, and
the next one begins at most a quarter of a chunk before the full window would have ended. So every window ends behind
the one before it, and no line that is looked at lies outside the source. -/

namespace SourceChunks.Cutting

/-! ### The loop -/

/-- Where a window that begins at `start` ends. Lines are looked at from the end of the full window upward, through
its last quarter, until one is a boundary. -/
inductive WindowEnds (isBoundary : Text → Bool) (ls : List Text) (size : Nat) (last start : Int) :
    (stop : Int) → Prop
  | rest : last ≤ start + size - 1 → WindowEnds isBoundary ls size last start last
  | boundary {stop : Int} : start + size - 1 < last → start + (size * 3 / 4 : Nat) < stop →
      stop ≤ start + size - 1 → SeenAt isBoundary ls stop true →
      (∀ i, stop < i → i ≤ start + size - 1 → SeenAt isBoundary ls i false) →
      WindowEnds isBoundary ls size last start stop
  | full : start + size - 1 < last →
      (∀ i, start + (size * 3 / 4 : Nat) < i → i ≤ start + size - 1 → SeenAt isBoundary ls i false) →
      WindowEnds isBoundary ls size last start (start + size - 1)

/-- The windows of a loop that ends when one of them reaches the last line. There is no bound on how many they
are. -/
inductive Windowing (isBoundary : Text → Bool) (ls : List Text) (size : Nat) (step last : Int) :
    (start : Int) → List Range → Prop
  | stop {start : Int} : start ≤ last → WindowEnds isBoundary ls size last start last →
      Windowing isBoundary ls size step last start [⟨start, last⟩]
  | next {start stop : Int} {rs : List Range} : start ≤ last → WindowEnds isBoundary ls size last start stop →
      stop ≠ last →
      Windowing isBoundary ls size step last (max (start + 1) (min (start + step) (stop + 1))) rs →
      Windowing isBoundary ls size step last start (⟨start, stop⟩ :: rs)

/-- The second range begins and ends later than the first one, so that neither lies inside the other. -/
structure Range.Before (a b : Range) : Prop where
  first : a.first < b.first
  last : a.last < b.last

instance : Trans Range.Before Range.Before Range.Before where
  trans h h' := ⟨Int.lt_trans h.first h'.first, Int.lt_trans h.last h'.last⟩

section

variable {isBoundary : Text → Bool} {ls : List Text} {size : Nat} {step last start stop : Int} {rs : List Range}

namespace WindowEnds

theorem range (h : WindowEnds isBoundary ls size last start stop) (hsize : 1 ≤ size) (hs : start ≤ last) :
    start ≤ stop ∧ stop ≤ last ∧ stop ≤ start + size - 1 := by
  cases h with
  | rest _ => omega
  | boundary _ _ _ _ _ => omega
  | full _ _ => omega

/-- Only the last window may have less than three quarters of a full one. -/
theorem eq_last_or_lt (h : WindowEnds isBoundary ls size last start stop) (hsize : 4 ≤ size) :
    stop = last ∨ start + (size * 3 / 4 : Nat) ≤ stop := by
  cases h with
  | rest _ => exact .inl rfl
  | boundary _ hlow _ _ _ => exact .inr (Int.le_of_lt hlow)
  | full _ _ => exact .inr (by omega)

end WindowEnds

namespace Windowing

theorem size_le (h : Windowing isBoundary ls size step last start rs) (hsize : 1 ≤ size) :
    ∀ r ∈ rs, r.last - r.first + 1 ≤ size := by
  induction h with
  | stop hs hend =>
    intro r hr
    obtain rfl := List.mem_singleton.mp hr
    have := hend.range hsize hs
    dsimp only
    omega
  | next hs hend _ _ ih =>
    intro r hr
    rcases List.mem_cons.mp hr with rfl | hr
    · have := hend.range hsize hs
      dsimp only
      omega
    · exact ih r hr

/-- Windows that go on by at least three quarters of a full window end one behind the other. -/
theorem before (h : Windowing isBoundary ls size step last start rs) (hsize : 4 ≤ size)
    (hstep : (size : Int) - (size / 4 : Nat) ≤ step) : rs.IsChain Range.Before := by
  induction h with
  | stop _ _ => exact .singleton _
  | @next start stop rs hs hend hne hrest ih =>
    have hrange := hend.range (by omega) hs
    -- the next window begins behind this one, or `step` lines later and then it passes the full length of this one
    cases hrest with
    | stop hs' _ =>
      refine .cons_cons ⟨?_, ?_⟩ ih <;> dsimp only <;> omega
    | next hs' hend' _ _ =>
      have hrange' := hend'.range (by omega) hs'
      have hfar := hend'.eq_last_or_lt hsize
      refine .cons_cons ⟨?_, ?_⟩ ih <;> dsimp only <;> omega

end Windowing

/-! ### Lines that are looked at -/

theorem boundaryDown_some {low : Int} {fuel : Nat} {x : Int} (h0 : 0 ≤ low) (hlen : stop < ls.length)
    (h : boundaryDown isBoundary ls low fuel stop = some x) :
    SeenAt isBoundary ls x true ∧ ∀ i, x < i → i ≤ stop → SeenAt isBoundary ls i false := by
  induction fuel generalizing stop with
  | zero => cases h
  | succ fuel ih =>
    rw [boundaryDown] at h
    split at h
    case isFalse => cases h
    case isTrue hlow =>
      have hseen := seenAt_lineAt? isBoundary (i := stop) (by omega) hlen
      split at h
      case isTrue hb =>
        obtain rfl := Option.some.inj h
        rw [hb] at hseen
        exact ⟨hseen, fun i h1 h2 => absurd h1 (Int.not_lt.mpr h2)⟩
      case isFalse hb =>
        rw [Bool.not_eq_true] at hb
        rw [hb] at hseen
        obtain ⟨hx, hbelow⟩ := ih (by omega) h
        refine ⟨hx, fun i h1 h2 => ?_⟩
        rcases Int.lt_or_eq_of_le h2 with hlt | rfl
        · exact hbelow i h1 (by omega)
        · exact hseen

theorem boundaryDown_none {low : Int} {fuel : Nat} (h0 : 0 ≤ low) (hlen : stop < ls.length)
    (hf : stop - low ≤ fuel) (h : boundaryDown isBoundary ls low fuel stop = none) :
    ∀ i, low < i → i ≤ stop → SeenAt isBoundary ls i false := by
  induction fuel generalizing stop with
  | zero =>
    intro i h1 h2
    omega
  | succ fuel ih =>
    intro i h1 h2
    rw [boundaryDown, if_pos (by omega)] at h
    have hseen := seenAt_lineAt? isBoundary (i := stop) (by omega) hlen
    split at h
    case isTrue => cases h
    case isFalse hb =>
      rw [Bool.not_eq_true] at hb
      rw [hb] at hseen
      rcases Int.lt_or_eq_of_le h2 with hlt | rfl
      · exact ih (by omega) (by omega) h i h1 (by omega)
      · exact hseen

theorem windowEnd_ends (isBoundary : Text → Bool) (size : Nat) (h0 : 0 ≤ start) (hlen : last < ls.length) :
    WindowEnds isBoundary ls size last start (windowEnd isBoundary ls size last start) := by
  unfold windowEnd
  dsimp only
  split
  case isFalse hle =>
    rw [show min (start + size - 1) last = last by omega]
    exact .rest (by omega)
  case isTrue hlt =>
    rw [show min (start + size - 1) last = start + size - 1 by omega] at hlt ⊢
    cases hb : boundaryDown isBoundary ls (start + (size * 3 / 4 : Nat))
        (start + size - 1 - (start + (size * 3 / 4 : Nat))).toNat (start + size - 1) with
    | none => exact .full hlt (boundaryDown_none (by omega) (by omega) (by omega) hb)
    | some x =>
      obtain ⟨hlow, hstop⟩ := boundaryDown_range hb
      obtain ⟨hx, hbelow⟩ := boundaryDown_some (by omega) (by omega) hb
      exact .boundary hlt hlow hstop hx hbelow

theorem largeFrom_windowing (isBoundary : Text → Bool) (step : Int) (hsize : 1 ≤ size) (h0 : 0 ≤ start)
    (hs : start ≤ last) (hlen : last < ls.length) {fuel : Nat} (hf : last - start < fuel) :
    Windowing isBoundary ls size step last start (largeFrom isBoundary ls size step last fuel start) := by
  induction fuel generalizing start with
  | zero => omega
  | succ fuel ih =>
    have hends := windowEnd_ends isBoundary size h0 hlen
    have hrange := hends.range hsize hs
    rw [largeFrom, if_pos hs]
    dsimp only
    split
    case isTrue he =>
      rw [he] at hends ⊢
      exact .stop hs hends
    case isFalse hne =>
      exact .next hs hends hne (ih (by omega) (by omega) (by omega))

end

/-! ### Pieces -/

theorem Tiles.gapless {last start : Int} {rs : List Range} (h : Tiles last start rs) :
    rs.IsChain fun a b => b.first ≤ a.last + 1 := by
  induction h with
  | single _ => exact .singleton _
  | cons _ _ _ hnext hrest ih =>
    cases hrest with
    | single _ => exact .cons_cons hnext ih
    | cons _ _ _ _ _ => exact .cons_cons hnext ih

/-- The lines from one window over a long declaration to the next, unless a boundary comes first. -/
def largeStep (s : Settings) : Int := max 1 ((s.chunkSize : Int) - (min s.chunkOverlap (s.chunkSize / 4) : Nat))

theorem map_toRange_largePieces (s : Settings) (isBoundary : Text → Bool) (ls : List Text) (n : Node) :
    (largePieces s isBoundary ls n).map (·.toRange) =
      largeFrom isBoundary ls s.chunkSize (largeStep s) n.last n.lineCount.toNat n.first := by
  rw [largePieces, List.map_map]
  exact List.map_id' _

theorem map_symbols_largePieces (s : Settings) (isBoundary : Text → Bool) (ls : List Text) (n : Node) :
    (largePieces s isBoundary ls n).map (·.symbols) = ((largePieces s isBoundary ls n).map (·.toRange)).map
      fun r => some (if r.first = n.first then [n.name] else []) := by
  rw [map_toRange_largePieces, largePieces, List.map_map]
  rfl

/-- Pieces that cut a declaration into windows. -/
structure CutsLarge (s : Settings) (isBoundary : Text → Bool) (ls : List Text) (n : Node) (ps : List Piece) : Prop where
  /-- They come from a loop that ends, and every line it looks at is there. -/
  loop : Windowing isBoundary ls s.chunkSize (largeStep s) n.last n.first (ps.map (·.toRange))
  first : ps.head?.map (·.first) = some n.first
  last : ps.getLast?.map (·.last) = some n.last
  sizes : ∀ p ∈ ps, p.first ≤ p.last ∧ p.last - p.first + 1 ≤ s.chunkSize
  /-- Of any two windows the later one begins and ends later. -/
  before : ps.Pairwise fun p q => p.toRange.Before q.toRange
  /-- Every window begins where the one before it has ended, or earlier. -/
  gapless : ps.IsChain fun p q => q.first ≤ p.last + 1
  /-- The first window carries the name of the declaration, and no other one carries a name. -/
  named : ps.map (·.symbols) = some [n.name] :: List.replicate (ps.length - 1) (some [])

section

variable {s : Settings} {ls : List Text} {n : Node}

theorem largePieces_windowing (hs : s.Valid) (isBoundary : Text → Bool) (hn : InFile ls.length n.first n.last) :
    Windowing isBoundary ls s.chunkSize (largeStep s) n.last n.first
      ((largePieces s isBoundary ls n).map (·.toRange)) := by
  have hsize := hs.size
  rw [map_toRange_largePieces]
  exact largeFrom_windowing isBoundary _ (by omega) hn.nonneg hn.ordered hn.below
    (by simp only [Node.lineCount]; omega)

theorem largePieces_named (hs : s.Valid) (isBoundary : Text → Bool) (hn : n.first ≤ n.last) :
    (largePieces s isBoundary ls n).map (·.symbols) =
      some [n.name] :: List.replicate ((largePieces s isBoundary ls n).length - 1) (some []) := by
  have htiles := largePieces_tiles s hs isBoundary ls hn
  have hhead := htiles.head?
  have hordered := htiles.ordered
  rw [map_symbols_largePieces]
  generalize largePieces s isBoundary ls n = ps at hhead hordered ⊢
  cases ps with
  | nil => cases hhead
  | cons p ps =>
    have hfirst : p.first = n.first := Option.some.inj hhead
    rw [List.map_cons, List.map_cons, if_pos hfirst, List.length_cons, Nat.add_sub_cancel, List.map_map]
    rw [List.cons_inj_right, List.map_eq_replicate_iff]
    intro q hq
    have hlater : p.first < q.first :=
      (List.pairwise_cons.mp hordered).1 q.toRange (List.mem_map_of_mem hq)
    have hne : q.first ≠ n.first := by omega
    exact congrArg some (if_neg hne)

/-- Whatever the boundaries are, a declaration inside the source is cut into windows that go forward and leave no
line out. -/
theorem largePieces_cutsLarge (hs : s.Valid) (isBoundary : Text → Bool) (hn : InFile ls.length n.first n.last) :
    CutsLarge s isBoundary ls n (largePieces s isBoundary ls n) := by
  have hsize := hs.size
  have hloop := largePieces_windowing hs isBoundary hn
  have htiles := largePieces_tiles s hs isBoundary ls hn.ordered
  have hstep : (s.chunkSize : Int) - (s.chunkSize / 4 : Nat) ≤ largeStep s := by
    unfold largeStep
    omega
  constructor
  case loop => exact hloop
  case first => simpa using htiles.head?
  case last => simpa using htiles.getLast?
  case sizes =>
    intro p hp
    have hmem := List.mem_map_of_mem (f := fun p : Piece => p.toRange) hp
    exact ⟨(htiles.range p.toRange hmem).2.1, hloop.size_le (by omega) p.toRange hmem⟩
  case before => exact List.pairwise_map.mp (hloop.before (by omega) hstep).pairwise
  case gapless => exact (List.isChain_map _).mp htiles.gapless
  case named => exact largePieces_named hs isBoundary hn.ordered

/-- Thirty lines with two blank ones, each near the end of a window of ten lines. -/
def blankRows : List Text := (List.range 30).map fun i => if i = 9 ∨ i = 17 then [] else ['x']

/-- A declaration over most of them. -/
def largeDeclaration : Node := { kind := .function, name := ['f'], first := 1, last := 28 }

/-- Two windows are cut short at a blank line, and the third one is full and shares two lines with the last one. -/
theorem largePieces_blankRows :
    (largePieces (Settings.clamp 10 5 1 false false 0.3) Text.allBlank blankRows largeDeclaration).map
        (fun p => (p.first, p.last, p.symbols)) =
      [(1, 9, some [['f']]), (9, 17, some []), (17, 26, some []), (25, 28, some [])] ∧
      CutsLarge (Settings.clamp 10 5 1 false false 0.3) Text.allBlank blankRows largeDeclaration
        (largePieces (Settings.clamp 10 5 1 false false 0.3) Text.allBlank blankRows largeDeclaration) := by
  refine ⟨by decide +kernel, largePieces_cutsLarge (Settings.clamp_valid ..) Text.allBlank ?_⟩
  exact ⟨by decide, by decide, by decide⟩

end

end SourceChunks.Cutting
