import Mathlib.Data.List.Range
import SourceChunks.Proofs.DeclarationParts
import SourceChunks.Proofs.LargeWindows
import SourceChunks.Proofs.PlainChunks
import SourceChunks.Strategy.Registry

/-! Windows of one size. The window at place `k` begins `k` steps after the first line, all of them but the last are
full, and neighbours share as many lines as a step is shorter than a window. A long declaration without boundaries
is cut in this way by both cutters, although one of them looks for boundaries and the other does not. -/

namespace SourceChunks

namespace Cutting

/-! ### The loop -/

namespace Slides

variable {size step last start : Int} {rs qs : List Range}

theorem ne_nil (h : Slides size step last start rs) : rs ≠ [] := by
  cases h <;> exact List.cons_ne_nil _ _

/-- The loop can go one way only. -/
theorem unique (h : Slides size step last start rs) (h' : Slides size step last start qs) : rs = qs := by
  induction h generalizing qs with
  | stop _ hreach =>
    cases h' with
    | stop _ _ => rfl
    | next hmore _ => omega
  | next hmore _ ih =>
    cases h' with
    | stop _ hreach => omega
    | next _ hrest => rw [ih hrest]

theorem first_eq (h : Slides size step last start rs) {k : Nat} {r : Range} (hr : rs[k]? = some r) :
    r.first = start + k * step := by
  induction h generalizing k with
  | stop _ _ =>
    cases k with
    | zero =>
      obtain rfl := Option.some.inj hr
      simp
    | succ k => cases hr
  | next _ _ ih =>
    cases k with
    | zero =>
      obtain rfl := Option.some.inj hr
      simp
    | succ k =>
      rw [ih hr, Int.natCast_succ, Int.add_mul]
      omega

theorem last_of_mem_dropLast (h : Slides size step last start rs) :
    ∀ r ∈ rs.dropLast, r.last = r.first + size - 1 := by
  induction h with
  | stop _ _ => simp
  | next _ hrest ih =>
    intro r hr
    rw [List.dropLast_cons_of_ne_nil hrest.ne_nil] at hr
    rcases List.mem_cons.mp hr with rfl | hr
    · rfl
    · exact ih r hr

end Slides

/-! ### Windows line by line -/

/-- The lines of a range. -/
def Range.lines (r : Range) : List Int := (List.range (r.last + 1 - r.first).toNat).map fun (k : Nat) => r.first + k

/-- The lines that two ranges have in common. -/
def Range.common (a b : Range) : List Int := a.lines.filter b.lines.contains

theorem Range.mem_lines {r : Range} {i : Int} : i ∈ r.lines ↔ r.first ≤ i ∧ i ≤ r.last := by
  rw [Range.lines, List.mem_map]
  constructor
  · rintro ⟨k, hk, rfl⟩
    rw [List.mem_range] at hk
    omega
  · rintro ⟨hfirst, hlast⟩
    exact ⟨(i - r.first).toNat, List.mem_range.mpr (by omega), by omega⟩

theorem Range.nodup_lines (r : Range) : r.lines.Nodup := by
  refine List.nodup_range.map ?_
  intro k l hkl
  dsimp only at hkl
  omega

theorem Range.length_lines {r : Range} (h : r.first ≤ r.last + 1) : (r.lines.length : Int) = r.last - r.first + 1 := by
  rw [Range.lines, List.length_map, List.length_range]
  omega

theorem Overlaps.length_common {count : Int} {a b : Range} (h : Overlaps count a b) (hcount : 0 ≤ count) :
    ((a.common b).length : Int) = count := by
  obtain ⟨hfirst, hlast, hshared⟩ := h
  have hcommon : (a.common b).Perm (Range.lines ⟨b.first, a.last⟩) := by
    rw [Range.common, List.perm_ext_iff_of_nodup (a.nodup_lines.filter _) (Range.nodup_lines _)]
    intro i
    simp only [List.mem_filter, List.contains_iff_mem, Range.mem_lines]
    omega
  rw [hcommon.length_eq, Range.length_lines (by dsimp only; omega)]
  exact hshared

/-- Windows of `size` lines over the lines from `first` through `last`, neighbours sharing `overlap` lines. -/
structure FixedWindows (size overlap first last : Int) (rs : List Range) : Prop where
  /-- They come from a loop that ends. -/
  loop : first ≤ last → Slides size (size - overlap) last first rs
  nil_iff : rs = [] ↔ last < first
  start : ∀ (k : Nat) (r : Range), rs[k]? = some r → r.first = first + k * (size - overlap)
  /-- All but the last window are full. -/
  full : ∀ r ∈ rs.dropLast, (r.lines.length : Int) = size
  stop : ∀ r, rs.getLast? = some r → r.last = last
  /-- Every window has a line that none before it has. -/
  fresh : ∀ before r after, rs = before ++ r :: after → ∃ i ∈ r.lines, ∀ q ∈ before, i ∉ q.lines
  shared : rs.IsChain fun a b => ((a.common b).length : Int) = overlap
  covers : ∀ i, (∃ r ∈ rs, i ∈ r.lines) ↔ first ≤ i ∧ i ≤ last

section

variable {size overlap first last : Int} {rs : List Range}

theorem Slides.fixedWindows (h0 : 0 ≤ overlap) (h1 : overlap < size)
    (h : Slides size (size - overlap) last first rs) : FixedWindows size overlap first last rs := by
  have htiles := h.tiles (by omega) (by omega)
  have hchain := h.overlaps (by omega)
  rw [show size - (size - overlap) = overlap by omega] at hchain
  have hbefore : rs.Pairwise Range.Before := (hchain.imp fun _ _ hab => ⟨hab.first, hab.last⟩).pairwise
  constructor
  case loop => exact fun _ => h
  case nil_iff => exact ⟨fun hnil => absurd hnil h.ne_nil, fun hlt => absurd htiles.le (by omega)⟩
  case start => exact fun k r hr => h.first_eq hr
  case full =>
    intro r hr
    have hlast := h.last_of_mem_dropLast r hr
    rw [Range.length_lines (by omega)]
    omega
  case stop =>
    intro r hr
    simpa [hr] using htiles.getLast?
  case fresh =>
    -- the last line of a window lies behind all windows before it
    rintro before r after rfl
    have hr := htiles.range r (by simp)
    refine ⟨r.last, Range.mem_lines.mpr ⟨hr.2.1, Int.le_refl _⟩, fun q hq hmem => ?_⟩
    have hlt : q.last < r.last := ((List.pairwise_append.mp hbefore).2.2 q hq r List.mem_cons_self).last
    exact Int.not_le.mpr hlt (Range.mem_lines.mp hmem).2
  case shared => exact hchain.imp fun _ _ hab => hab.length_common h0
  case covers =>
    intro i
    simp only [Range.mem_lines]
    exact htiles.covers_iff

theorem fixedWindows_nil (h : last < first) : FixedWindows size overlap first last [] := by
  constructor
  case loop => exact fun hle => absurd h (Int.not_lt.mpr hle)
  case nil_iff => exact ⟨fun _ => h, fun _ => rfl⟩
  case start => simp
  case full => simp
  case stop => simp
  case fresh => simp
  case shared => exact .nil
  case covers =>
    intro i
    simp only [List.not_mem_nil, false_and, exists_false, false_iff]
    omega

end

theorem windows_of_lt (size overlap : Int) {first last : Int} (h : last < first) :
    windows size overlap first last = [] := by
  dsimp only [windows]
  rw [show (last - first + 1).toNat = 0 by omega, windowsFrom]

/-- Sizes and overlaps that make no sense are replaced by the nearest that do. -/
theorem windows_fixedWindows (size overlap first last : Int) :
    FixedWindows (max 1 size) (max 0 (min overlap (max 1 size - 1))) first last
      (windows size overlap first last) := by
  by_cases h : first ≤ last
  · exact (windows_slides size overlap h).fixedWindows (by omega) (by omega)
  · rw [windows_of_lt size overlap (by omega)]
    exact fixedWindows_nil (by omega)

/-! ### Chunks of a fixed size -/

/-- The lines of a chunk. -/
def rangeOf (c : Chunk) : Range := ⟨c.first, c.last⟩

theorem map_rangeOf_plainChunks (source : Source) (ls : List Text) (ps : List Piece) :
    (plainChunks source ls ps).map rangeOf = ps.map (·.toRange) := map_plainChunks (fun _ _ _ => rfl) ps

theorem map_rangeOf_sizedChunks (s : Settings) (path snapshot : Text) (language : Language) (ls : List Text)
    (size overlap : Option Int) (first : Int) (last : Option Int) :
    (sizedChunks s path snapshot language ls size overlap first last).map rangeOf =
      windows (size.getD s.chunkSize) (overlap.getD s.chunkOverlap) first (last.getD ((ls.length : Int) - 1)) := by
  rw [sizedChunks, map_rangeOf_plainChunks, List.map_map]
  exact List.map_id' _

/-- Whatever size and overlap are asked for, the chunks are windows over the lines that are asked for, and every chunk
quotes its lines. -/
theorem sizedChunks_fixedWindows (s : Settings) (path snapshot : Text) (language : Language) (ls : List Text)
    (size overlap : Option Int) (first : Int) (last : Option Int) (hfirst : 0 ≤ first)
    (hlast : last.getD ((ls.length : Int) - 1) < ls.length) :
    FixedWindows (max 1 (size.getD s.chunkSize))
        (max 0 (min (overlap.getD s.chunkOverlap) (max 1 (size.getD s.chunkSize) - 1))) first
        (last.getD ((ls.length : Int) - 1))
        ((sizedChunks s path snapshot language ls size overlap first last).map rangeOf) ∧
      ∀ c ∈ sizedChunks s path snapshot language ls size overlap first last, c.Quotes ls := by
  have hwindows := windows_fixedWindows (size.getD s.chunkSize) (overlap.getD s.chunkOverlap) first
    (last.getD ((ls.length : Int) - 1))
  refine ⟨by rwa [map_rangeOf_sizedChunks], fun c hc => plainChunks_quotes _ ?_ hc⟩
  intro p hp
  obtain ⟨r, hr, rfl⟩ := List.mem_map.mp hp
  by_cases hle : first ≤ last.getD ((ls.length : Int) - 1)
  · have hrange := (windows_tiles _ _ hle).range r hr
    exact ⟨by dsimp only; omega, hrange.2.1, by dsimp only; omega⟩
  · rw [hwindows.nil_iff.mpr (by omega)] at hr
    cases hr

/-- Seven lines. -/
def sevenLines : List Text := ["a", "b", "c", "d", "e", "f", "g"]

/-- The overlap that is asked for is larger than a window, and so every window has one line of its own. -/
theorem sizedChunks_sevenLines :
    (sizedChunks {} "p" "s" .text sevenLines (some 3) (some 9) 1 (some 5)).map rangeOf = [⟨1, 3⟩, ⟨2, 4⟩, ⟨3, 5⟩] ∧
      FixedWindows 3 2 1 5
        ((sizedChunks {} "p" "s" .text sevenLines (some 3) (some 9) 1 (some 5)).map rangeOf) ∧
      ∀ c ∈ sizedChunks {} "p" "s" .text sevenLines (some 3) (some 9) 1 (some 5), c.Quotes sevenLines := by
  refine ⟨?_, sizedChunks_fixedWindows {} "p" "s" .text sevenLines (some 3) (some 9) 1 (some 5) ?_ ?_⟩
  · rw [map_rangeOf_sizedChunks]
    decide
  · decide
  · decide

/-! ### Declarations without boundaries -/

theorem Windowing.slides {isBoundary : Text → Bool} {ls : List Text} {size : Nat} {step last start : Int}
    {rs : List Range} (h : Windowing isBoundary ls size step last start rs) (h1 : 1 ≤ step) (h2 : step ≤ size)
    (hplain : ∀ i, start < i → i ≤ last → ¬ SeenAt isBoundary ls i true) : Slides size step last start rs := by
  induction h with
  | stop hs hend => exact .stop hs (hend.range (by omega) hs).2.2
  | @next start stop rs hs hend hne _ ih =>
    cases hend with
    | rest _ => exact absurd rfl hne
    | boundary hmore hlow hstop hseen _ => exact absurd hseen (hplain stop (by omega) (by omega))
    | full hmore _ =>
      have hnext : max (start + 1) (min (start + step) (start + size - 1 + 1)) = start + step := by omega
      rw [hnext] at ih
      exact .next hmore (ih fun i hi => hplain i (by omega))

theorem largePieces_slides {s : Settings} (hs : s.Valid) {isBoundary : Text → Bool} {ls : List Text} {n : Node}
    (hn : InFile ls.length n.first n.last)
    (hplain : ∀ i, n.first < i → i ≤ n.last → ¬ SeenAt isBoundary ls i true) :
    Slides s.chunkSize (largeStep s) n.last n.first ((largePieces s isBoundary ls n).map (·.toRange)) := by
  have hsize := hs.size
  refine (largePieces_windowing hs isBoundary hn).slides ?_ ?_ hplain
  · exact Int.le_max_left _ _
  · unfold largeStep
    omega

end Cutting

namespace Semantic

open Cutting

/-- A strategy with the sizes of the settings goes on as far from window to window as the plain cutter does. -/
theorem windowNode_slides_of_settings {s : Settings} (hs : s.Valid) {p : SemanticParams}
    (hsize : p.maxSize = s.chunkSize) (hoverlap : p.overlap = s.chunkOverlap) {n : Node} (hn : n.first ≤ n.last) :
    Slides s.chunkSize (largeStep s) n.last n.first ((windowNode p n).map span) := by
  have hmin := hs.size
  have hmax := hs.overlap
  have hstep : p.maxSize - sharedLines p = largeStep s := by
    rw [sharedLines, hsize, hoverlap, largeStep]
    omega
  rw [← hstep, ← hsize]
  exact windowNode_slides (by omega) hn

/-- The settings ask for one strategy along declarations, and its sizes are theirs. -/
theorem exists_semantic_usual (s : Settings) : ∃ p : SemanticParams,
    (∀ q, Strategy.semantic q ∈ Strategy.usual s ↔ q = p) ∧ p.maxSize = s.chunkSize ∧ p.overlap = s.chunkOverlap := by
  refine ⟨{ maxSize := s.chunkSize, overlap := s.chunkOverlap, preferTrees := s.preferTrees }, ?_, rfl, rfl⟩
  intro q
  simp [Strategy.usual]

/-- Both ways to cut a declaration without boundaries behind its first line give the same windows. -/
theorem windowNode_agrees_largePieces {s : Settings} (hs : s.Valid) {isBoundary : Text → Bool} {ls : List Text}
    {n : Node} (hn : InFile ls.length n.first n.last)
    (hplain : ∀ i, n.first < i → i ≤ n.last → ¬ SeenAt isBoundary ls i true) :
    ∃ p, (∀ q, Strategy.semantic q ∈ Strategy.usual s ↔ q = p) ∧
      (windowNode p n).map span = (largePieces s isBoundary ls n).map (·.toRange) ∧
      Slides s.chunkSize (largeStep s) n.last n.first ((windowNode p n).map span) := by
  obtain ⟨p, hp, hsize, hoverlap⟩ := exists_semantic_usual s
  have hnode := windowNode_slides_of_settings hs hsize hoverlap hn.ordered
  exact ⟨p, hp, hnode.unique (largePieces_slides hs hn hplain), hnode⟩

/-- Thirty lines that are all alike. -/
def plainRows : List Text := List.replicate 30 ['x']

theorem windowNode_agrees_plainRows :
    (∀ i, largeDeclaration.first < i → i ≤ largeDeclaration.last → ¬ SeenAt Text.allBlank plainRows i true) ∧
      (largePieces (Settings.clamp 10 5 1 false false 0.3) Text.allBlank plainRows largeDeclaration).map (·.toRange) =
        [⟨1, 10⟩, ⟨9, 18⟩, ⟨17, 26⟩, ⟨25, 28⟩] ∧
      ∃ p, (∀ q, Strategy.semantic q ∈ Strategy.usual (Settings.clamp 10 5 1 false false 0.3) ↔ q = p) ∧
        (windowNode p largeDeclaration).map span =
          (largePieces (Settings.clamp 10 5 1 false false 0.3) Text.allBlank plainRows largeDeclaration).map
            (·.toRange) ∧
        Slides (Settings.clamp 10 5 1 false false 0.3).chunkSize (largeStep (Settings.clamp 10 5 1 false false 0.3))
          largeDeclaration.last largeDeclaration.first ((windowNode p largeDeclaration).map span) := by
  have hplain : ∀ i, largeDeclaration.first < i → i ≤ largeDeclaration.last →
      ¬ SeenAt Text.allBlank plainRows i true := by
    rintro i _ _ ⟨k, line, _, hline, hblank⟩
    obtain rfl := List.eq_of_mem_replicate (List.mem_of_getElem? hline)
    exact absurd hblank (by decide)
  have hn : InFile plainRows.length largeDeclaration.first largeDeclaration.last :=
    ⟨by decide, by decide, by decide⟩
  exact ⟨hplain, by decide +kernel, windowNode_agrees_largePieces (Settings.clamp_valid ..) hn hplain⟩

end Semantic

end SourceChunks
