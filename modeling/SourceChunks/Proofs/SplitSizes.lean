import SourceChunks.Proofs.Windows

/-! Sizes of the parts into which a declaration is split at its boundaries. The next split is at the first boundary
that gives a part of an allowed size, so every part but the last one has such a size. The last part is what is left,
and nothing is asked of it: it is too short whenever a split is near the end of the declaration. -/

namespace SourceChunks.Semantic

open Cutting

section

variable {p : SemanticParams} {isBoundary : Text → Bool} {ls : List Text}

theorem rangesBetween_ne_nil (last start : Int) (points : List Int) : rangesBetween last start points ≠ [] := by
  cases points <;> exact List.cons_ne_nil _ _

namespace Splits

variable {last start : Int} {points : List Int}

/-- All parts but the last one have an allowed size. -/
theorem sizes (h : Splits p isBoundary ls last start points) :
    ∀ r ∈ (rangesBetween last start points).dropLast,
      p.minSize ≤ r.last - r.first + 1 ∧ r.last - r.first + 1 ≤ p.maxSize := by
  induction h with
  | stop _ => simp [rangesBetween]
  | @next start point points hsplit _ _ ih =>
    intro r hr
    rw [rangesBetween, List.dropLast_cons_of_ne_nil (rangesBetween_ne_nil last point points)] at hr
    rcases List.mem_cons.mp hr with rfl | hr
    · have hmin := hsplit.min_le
      have hmax := hsplit.le_max
      dsimp only
      omega
    · exact ih r hr

/-- All parts are long enough if and only if every split leaves enough lines behind it. -/
theorem long_iff (h : Splits p isBoundary ls last start points) :
    (∀ r ∈ rangesBetween last start points, p.minSize ≤ r.last - r.first + 1) ↔
      ∀ x ∈ start :: points, x + p.minSize ≤ last + 1 := by
  induction h with
  | stop _ =>
    simp only [rangesBetween, List.forall_mem_singleton]
    omega
  | @next start point points hsplit _ _ ih =>
    have hmin := hsplit.min_le
    have hinside := hsplit.inside
    rw [rangesBetween, List.forall_mem_cons, List.forall_mem_cons, ih]
    dsimp only
    refine and_congr_left fun _ => ?_
    omega

end Splits

theorem length_rangesBetween (last start : Int) (points : List Int) :
    (rangesBetween last start points).length = points.length + 1 := by
  induction points generalizing start with
  | nil => rfl
  | cons point points ih => rw [rangesBetween, List.length_cons, ih, List.length_cons]

/-- The parts of a declaration that is split at its boundaries. -/
structure PartSizes (p : SemanticParams) (isBoundary : Text → Bool) (ls : List Text) (n : Node) (ms : List Node) :
    Prop where
  /-- The splits come one after the other, each as early as possible. -/
  splits : Splits p isBoundary ls n.last n.first (splitPoints p isBoundary ls n)
  spans : ms.map span = rangesBetween n.last n.first (splitPoints p isBoundary ls n)
  /-- Every part but the last one has an allowed size. -/
  inner : ∀ m ∈ ms.dropLast, p.minSize ≤ m.lineCount ∧ m.lineCount ≤ p.maxSize
  /-- If there are several parts, then the last one too is long enough if and only if no split is among the last
  `minSize - 1` lines of the declaration. -/
  long_iff : 1 < ms.length → ((∀ m ∈ ms, p.minSize ≤ m.lineCount) ↔
    ∀ x ∈ splitPoints p isBoundary ls n, x + p.minSize ≤ n.last + 1)

/-- Whatever the parameters and the boundaries are, splitting keeps the shortest size in all parts but the last. -/
theorem splitNode_partSizes (p : SemanticParams) (isBoundary : Text → Bool) {n : Node}
    (hn : InFile ls.length n.first n.last) : PartSizes p isBoundary ls n (splitNode p isBoundary ls n) := by
  have hsplits := splitPoints_splits p isBoundary hn
  have hspans := map_span_splitNode p isBoundary ls n
  refine ⟨hsplits, hspans, ?_, ?_⟩
  · intro m hm
    have hmem : span m ∈ ((splitNode p isBoundary ls n).map span).dropLast := by
      rw [← List.map_dropLast]
      exact List.mem_map_of_mem hm
    rw [hspans] at hmem
    exact hsplits.sizes (span m) hmem
  · intro hseveral
    have hall : (∀ m ∈ splitNode p isBoundary ls n, p.minSize ≤ m.lineCount) ↔
        ∀ r ∈ (splitNode p isBoundary ls n).map span, p.minSize ≤ r.last - r.first + 1 := by
      rw [List.forall_mem_map]
      rfl
    rw [← List.length_map span, hspans, length_rangesBetween] at hseveral
    rw [hall, hspans, hsplits.long_iff, List.forall_mem_cons]
    refine and_iff_right ?_
    -- the first part ends at a split inside the declaration
    generalize splitPoints p isBoundary ls n = points at hsplits hseveral
    cases hsplits with
    | stop _ => exact absurd hseveral (Nat.lt_irrefl 1)
    | next hfirst _ _ =>
      have hmin := hfirst.min_le
      have hinside := hfirst.inside
      omega

end

/-! ### A part that is too short -/

/-- A function with one decision in it and a comment near its end. -/
def lateComment : List Text :=
  ["function f(x) \x7b", "  if (x) \x7b", "    g();", "  \x7d", "  // done", "\x7d"]

/-- The function. -/
def commented : Node := { kind := .function, name := ['f'], first := 0, last := 5 }

/-- Parts of four lines and more, for every function with a decision in it. -/
def fourLines : SemanticParams := { minSize := 4, complexityLimit := 1 }

/-- The function is split at the comment, two lines before its end. -/
theorem splitNode_lateComment :
    InFile lateComment.length commented.first commented.last ∧
      splitPoints fourLines (Recogniser.forLines .javascript).isBoundary lateComment commented = [4] ∧
      PartSizes fourLines (Recogniser.forLines .javascript).isBoundary lateComment commented
        (splitNode fourLines (Recogniser.forLines .javascript).isBoundary lateComment commented) := by
  have hin : InFile lateComment.length commented.first commented.last := ⟨by decide, by decide, by decide⟩
  exact ⟨hin, by decide +kernel, splitNode_partSizes fourLines (Recogniser.forLines .javascript).isBoundary hin⟩

/-- The function is the one declaration of the source. It has too many decisions to stay whole, and one of the two
parts that become of it is shorter than the shortest part. -/
theorem splitNode_lateComment_short :
    1 ≤ fourLines.minSize ∧ fourLines.minSize ≤ fourLines.maxSize ∧
      (Outline.Braces.nodes .javascript lateComment).map span = [span commented] ∧
      fits fourLines lateComment commented = false ∧
      (splitNode fourLines (Recogniser.forLines .javascript).isBoundary lateComment commented).map span =
        [⟨0, 3⟩, ⟨4, 5⟩] ∧
      ¬ ∀ m ∈ splitNode fourLines (Recogniser.forLines .javascript).isBoundary lateComment commented,
        fourLines.minSize ≤ m.lineCount := by
  refine ⟨by decide, by decide, by decide +kernel, by decide +kernel, by decide +kernel, ?_⟩
  decide +kernel

end SourceChunks.Semantic
