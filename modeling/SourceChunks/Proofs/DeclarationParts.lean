import Mathlib.Data.List.Chain
import SourceChunks.Proofs.Windows

/-! Long declarations in parts. Splitting at boundaries partitions a declaration, windows over one that is still too
long share a fixed number of lines with their neighbours, and both together leave declarations that are short
enough and have the same lines. -/

namespace SourceChunks

namespace Cutting

/-- Line `i` lies in one of the ranges. -/
theorem Tiles.covers_iff {last start : Int} {rs : List Range} (h : Tiles last start rs) {i : Int} :
    (∃ r ∈ rs, r.first ≤ i ∧ i ≤ r.last) ↔ start ≤ i ∧ i ≤ last := by
  constructor
  · rintro ⟨r, hr, h1, h2⟩
    have := h.range r hr
    omega
  · rintro ⟨h1, h2⟩
    exact h.covers h1 h2

/-- The lines of `a` from the first line of `b` on are those that both have, and there are `count` of them. -/
structure Overlaps (count : Int) (a b : Range) : Prop where
  first : a.first < b.first
  last : a.last < b.last
  shared : a.last - b.first + 1 = count

theorem Slides.overlaps {size step last start : Int} {rs : List Range} (h : Slides size step last start rs)
    (h1 : 1 ≤ step) : rs.IsChain (Overlaps (size - step)) := by
  induction h with
  | stop _ _ => exact .singleton _
  | @next start rs hmore hrest ih =>
    -- the next window begins `step` lines later, and it is full or ends with the last line
    cases hrest with
    | stop _ _ => refine .cons_cons ⟨?_, ?_, ?_⟩ ih <;> dsimp only <;> omega
    | next _ _ => refine .cons_cons ⟨?_, ?_, ?_⟩ ih <;> dsimp only <;> omega

end Cutting

namespace Semantic

open Cutting

section

variable {p : SemanticParams} {isBoundary : Text → Bool} {ls : List Text} {n : Node}

theorem windowStep_eq (hp : 1 ≤ p.maxSize) : windowStep p = p.maxSize - sharedLines p := by
  unfold windowStep sharedLines
  omega

/-- The windows over a declaration are those of a loop that runs until it reaches the last line. -/
theorem windowNode_slides (hp : 1 ≤ p.maxSize) (hn : n.first ≤ n.last) :
    Slides p.maxSize (p.maxSize - sharedLines p) n.last n.first ((windowNode p n).map span) := by
  rw [windowNode, map_span_parts, ← windowStep_eq hp]
  exact ranges_slides hp hn

theorem windowNode_overlaps (hp : 1 ≤ p.maxSize) (hn : n.first ≤ n.last) :
    ((windowNode p n).map span).IsChain (Overlaps (sharedLines p)) := by
  have hstep := windowStep_range hp
  rw [windowStep_eq hp] at hstep
  have hchain := (windowNode_slides hp hn).overlaps hstep.1
  rwa [show p.maxSize - (p.maxSize - sharedLines p) = sharedLines p by omega] at hchain

/-! ### One declaration -/

/-- What a declaration becomes: pieces of at most `size` lines, in order and without a gap. -/
structure Shortened (size : Int) (n : Node) (ms : List Node) : Prop where
  tiles : Tiles n.last n.first (ms.map span)
  size_le : ∀ m ∈ ms, m.lineCount ≤ size

theorem Shortened.size_pos {size : Int} {ms : List Node} (h : Shortened size n ms) : ∀ m ∈ ms, 1 ≤ m.lineCount := by
  intro m hm
  have hle : m.first ≤ m.last := (h.tiles.range (span m) (List.mem_map_of_mem hm)).2.1
  unfold Node.lineCount
  omega

theorem Shortened.covers_iff {size : Int} {ms : List Node} (h : Shortened size n ms) {i : Int} :
    (∃ m ∈ ms, m.first ≤ i ∧ i ≤ m.last) ↔ n.first ≤ i ∧ i ≤ n.last := by
  rw [← h.tiles.covers_iff]
  simp [span]

theorem shortened_self {size : Int} (hn : n.first ≤ n.last) (hsize : n.lineCount ≤ size) : Shortened size n [n] :=
  ⟨.single hn, by simpa using hsize⟩

theorem shortened_windowNode (hp : 1 ≤ p.maxSize) (hn : n.first ≤ n.last) :
    Shortened p.maxSize n (windowNode p n) := by
  have hstep := windowStep_range hp
  rw [windowStep_eq hp] at hstep
  have hslides := windowNode_slides hp hn
  exact ⟨hslides.tiles hstep.1 hstep.2, fun m hm => hslides.size_le (span m) (List.mem_map_of_mem hm)⟩

/-- Parts that are shortened one by one shorten the whole. -/
theorem shortened_flatMap {size : Int} {ms : List Node} {cut : Node → List Node}
    (h : Partitions n.last n.first (ms.map span)) (hcut : ∀ m ∈ ms, Shortened size m (cut m)) :
    Shortened size n (ms.flatMap cut) := by
  constructor
  · rw [List.map_flatMap]
    exact h.tiles_flatMap fun m hm => (hcut m hm).tiles
  · intro k hk
    obtain ⟨m, hm, hk⟩ := List.mem_flatMap.mp hk
    exact (hcut m hm).size_le k hk

theorem optimiseNode_shortened (hp : 1 ≤ p.maxSize) (isBoundary : Text → Bool) (hn : InFile ls.length n.first n.last) :
    Shortened p.maxSize n (optimiseNode p isBoundary ls n) := by
  unfold optimiseNode
  split
  case isTrue hfits =>
    rw [fits, Bool.and_eq_true, decide_eq_true_eq] at hfits
    exact shortened_self hn.ordered hfits.1
  case isFalse =>
    refine shortened_flatMap (splitNode_partitions hn) fun m hm => ?_
    have hm := (mem_splitNode hn hm).2.1
    split
    case isTrue => exact shortened_windowNode hp hm
    case isFalse hle => exact shortened_self hm (by omega)

end

/-! ### All declarations -/

/-- Declarations after the long ones have been cut, against those before. -/
structure Cut (p : SemanticParams) (isBoundary : Text → Bool) (ls : List Text) (ns ms : List Node) : Prop where
  sizes : ∀ m ∈ ms, 1 ≤ m.lineCount ∧ m.lineCount ≤ p.maxSize
  covers_iff : ∀ i : Int, (∃ m ∈ ms, m.first ≤ i ∧ i ≤ m.last) ↔ ∃ n ∈ ns, n.first ≤ i ∧ i ≤ n.last
  pieces : ∃ pieces : List (List Node), ms = pieces.flatten ∧
    List.Forall₂ (fun n piece => Tiles n.last n.first (piece.map span)) ns pieces
  split : ∀ n ∈ ns, Partitions n.last n.first ((splitNode p isBoundary ls n).map span)
  windows : ∀ n : Node, n.first ≤ n.last →
    Slides p.maxSize (p.maxSize - sharedLines p) n.last n.first ((windowNode p n).map span) ∧
      ((windowNode p n).map span).IsChain (Overlaps (sharedLines p))

/-- Whatever the sizes, the limit and the boundaries are, no declaration is longer than allowed after the long ones
have been cut, and no line is gained or lost. -/
theorem optimise_cut {p : SemanticParams} (hp : 1 ≤ p.maxSize) (isBoundary : Text → Bool) {ls : List Text}
    {ns : List Node} (hns : ∀ n ∈ ns, InFile ls.length n.first n.last) :
    Cut p isBoundary ls ns (optimise p isBoundary ls ns) where
  sizes := by
    intro m hm
    obtain ⟨n, hn, hm⟩ := List.mem_flatMap.mp hm
    have h := optimiseNode_shortened hp isBoundary (hns n hn)
    exact ⟨h.size_pos m hm, h.size_le m hm⟩
  covers_iff := by
    intro i
    have hnode (n) (hn : n ∈ ns) := (optimiseNode_shortened hp isBoundary (hns n hn)).covers_iff (i := i)
    constructor
    · rintro ⟨m, hm, hi⟩
      obtain ⟨n, hn, hm⟩ := List.mem_flatMap.mp hm
      exact ⟨n, hn, (hnode n hn).mp ⟨m, hm, hi⟩⟩
    · rintro ⟨n, hn, hi⟩
      obtain ⟨m, hm, hi⟩ := (hnode n hn).mpr hi
      exact ⟨m, List.mem_flatMap.mpr ⟨n, hn, hm⟩, hi⟩
  pieces := by
    refine ⟨ns.map (optimiseNode p isBoundary ls), List.flatMap_def, ?_⟩
    rw [List.forall₂_map_right_iff, List.forall₂_same]
    exact fun n hn => (optimiseNode_shortened hp isBoundary (hns n hn)).tiles
  split := fun n hn => splitNode_partitions (hns n hn)
  windows := fun n hn => ⟨windowNode_slides hp hn, windowNode_overlaps hp hn⟩

/-- Thirty lines of which the tenth is blank. -/
def oneBlank : List Text := List.replicate 9 ['x'] ++ [[]] ++ List.replicate 20 ['x']

/-- A declaration with the blank line near its beginning. -/
def longDeclaration : Node := { kind := .function, name := ['f'], first := 5, last := 29 }

/-- Short windows with as many lines in common as there may be, and limits that are negative. -/
def shortWindows : SemanticParams := { maxSize := 12, minSize := -3, complexityLimit := -1, overlap := 40 }

/-- The declaration is split at the blank line, and the second part is cut into windows that share three lines. -/
theorem optimise_longDeclaration :
    (optimise shortWindows Text.allBlank oneBlank [longDeclaration]).map span = [⟨5, 8⟩, ⟨9, 20⟩, ⟨18, 29⟩] ∧
      Cut shortWindows Text.allBlank oneBlank [longDeclaration]
        (optimise shortWindows Text.allBlank oneBlank [longDeclaration]) := by
  refine ⟨by decide +kernel, optimise_cut (by decide) Text.allBlank ?_⟩
  intro n hn
  obtain rfl := List.mem_singleton.mp hn
  exact ⟨by decide, by decide, by decide⟩

end Semantic

end SourceChunks
