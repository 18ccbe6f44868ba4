import Mathlib.Algebra.Ring.Nat
import SourceChunks.Proofs.LinkedPipeline
import SourceChunks.Proofs.Texts

/-! Windows without overlap partition a file. The window at place `k` begins at line `k * size`, joining
the windows gives the file back, and the counts of lines add up over them. -/

namespace SourceChunks

/-! ### Counts of lines -/

namespace LineCounts

/-- The numbers that are counted. -/
def counters : List (LineCounts → Nat) :=
  [LineCounts.total, LineCounts.code, LineCounts.comments, LineCounts.blank, LineCounts.mixed]

theorem counter_add {counter : LineCounts → Nat} (h : counter ∈ counters) (a b : LineCounts) :
    counter (a.add b) = counter a + counter b := by
  simp only [counters, List.mem_cons, List.not_mem_nil, or_false] at h
  rcases h with rfl | rfl | rfl | rfl | rfl <;> rfl

theorem counter_zero {counter : LineCounts → Nat} (h : counter ∈ counters) : counter {} = 0 := by
  simp only [counters, List.mem_cons, List.not_mem_nil, or_false] at h
  rcases h with rfl | rfl | rfl | rfl | rfl <;> rfl

/-- Every number adds up over blocks of lines. -/
theorem counter_ofLines_flatten {counter : LineCounts → Nat} (h : counter ∈ counters)
    (blocks : List (List Text)) :
    counter (ofLines blocks.flatten) = (blocks.map fun b => counter (ofLines b)).sum := by
  induction blocks with
  | nil => exact counter_zero h
  | cons b blocks ih =>
    rw [List.flatten_cons, ofLines_append, counter_add h, ih, List.map_cons, List.sum_cons]

end LineCounts

/-! ### Blocks of lines -/

namespace Cutting

/-- The range at place `k` when `count` lines are cut into ranges of `size` lines. -/
def block (size count k : Nat) : Range :=
  ⟨(k * size : Nat), ((min ((k + 1) * size) count : Nat) : Int) - 1⟩

/-- How many ranges of `size` lines it takes for `count` lines. -/
def blockCount (size count : Nat) : Nat := (count + size - 1) / size

theorem windowsFrom_blocks {size count : Nat} (hs : 1 ≤ size) {fuel k : Nat} (hk : k * size < count)
    (hf : count - k * size ≤ fuel) :
    windowsFrom size size ((count : Int) - 1) fuel (k * size : Nat) =
      (List.range' k (blockCount size (count - k * size))).map (block size count) := by
  induction fuel generalizing k with
  | zero => omega
  | succ fuel ih =>
    have hnext : (k + 1) * size = k * size + size := Nat.succ_mul k size
    have hstop : min (((k * size : Nat) : Int) + size - 1) ((count : Int) - 1) =
        ((min ((k + 1) * size) count : Nat) : Int) - 1 := by omega
    rw [windowsFrom, if_pos (by omega)]
    dsimp only
    rw [hstop]
    split
    case isTrue hlast =>
      have hone : blockCount size (count - k * size) = 1 :=
        Nat.div_eq_of_lt_le (by omega) (by omega)
      rw [hone]
      rfl
    case isFalse hmore =>
      have hcount : blockCount size (count - k * size) = blockCount size (count - (k + 1) * size) + 1 := by
        rw [blockCount, blockCount, ← Nat.add_div_right _ hs]
        congr 1
        omega
      have hstart : ((k * size : Nat) : Int) + size = ((k + 1) * size : Nat) := by omega
      rw [hcount, List.range'_succ, List.map_cons, hstart, ih (by omega) (by omega)]
      rfl

/-- Windows without overlap. -/
theorem windows_eq_blocks {size count : Nat} (hs : 1 ≤ size) (hc : 0 < count) :
    windows size 0 0 ((count : Int) - 1) =
      (List.range (blockCount size count)).map (block size count) := by
  have hsize : max 1 (size : Int) = size := by omega
  have hstep : (size : Int) - max 0 (min 0 ((size : Int) - 1)) = size := by omega
  have hblocks : windowsFrom size size ((count : Int) - 1) count (0 * size : Nat) =
      (List.range' 0 (blockCount size (count - 0 * size))).map (block size count) :=
    windowsFrom_blocks hs (by omega) (by omega)
  rw [Nat.zero_mul, Nat.sub_zero, ← List.range_eq_range'] at hblocks
  dsimp only [windows]
  rw [hsize, hstep, ← hblocks]
  congr 1
  omega

/-- The lines of the block at place `k`. -/
def blockLines (size : Nat) (ls : List Text) (k : Nat) : List Text := (ls.drop (k * size)).take size

theorem mul_lt_of_lt_blockCount {size count k : Nat} (hs : 1 ≤ size) (hk : k < blockCount size count) :
    k * size < count := by
  have hle := (Nat.le_div_iff_mul_le hs).mp (Nat.succ_le_of_lt hk)
  rw [Nat.succ_mul] at hle
  omega

theorem lineRange_block {size : Nat} {ls : List Text} {k : Nat} (hk : k * size < ls.length) :
    lineRange ls (block size ls.length k).first (block size ls.length k).last = blockLines size ls k := by
  have hnext : (k + 1) * size = k * size + size := Nat.succ_mul k size
  dsimp only [lineRange, block, blockLines]
  rw [Int.sub_add_cancel, slice_eq_drop_take ls (Nat.min_le_right _ _), List.take_eq_take_iff,
    List.length_drop]
  omega

theorem blockLines_ne_nil {size : Nat} (hs : 1 ≤ size) {ls : List Text} {k : Nat} (hk : k * size < ls.length) :
    blockLines size ls k ≠ [] := by
  refine List.ne_nil_of_length_pos ?_
  rw [blockLines, List.length_take, List.length_drop]
  omega

theorem blockLines_subset (size : Nat) (ls : List Text) (k : Nat) : blockLines size ls k ⊆ ls := fun _ hl =>
  List.mem_of_mem_drop (List.mem_of_mem_take hl)

/-- The blocks from the one at place `k` on make up the lines from there on. -/
theorem flatten_blockLines_from {size : Nat} {ls : List Text} {k n : Nat} (h : ls.length ≤ (k + n) * size) :
    ((List.range' k n).map (blockLines size ls)).flatten = ls.drop (k * size) := by
  induction n generalizing k with
  | zero => exact (List.drop_eq_nil_of_le h).symm
  | succ n ih =>
    have hnext : (k + 1) * size = k * size + size := Nat.succ_mul k size
    have hrest : ls.length ≤ (k + 1 + n) * size := by rwa [Nat.add_right_comm]
    rw [List.range'_succ, List.map_cons, List.flatten_cons, ih hrest, hnext, ← List.drop_drop]
    exact List.take_append_drop size _

/-- The blocks make up all lines. -/
theorem flatten_blockLines {size : Nat} (hs : 1 ≤ size) (ls : List Text) :
    ((List.range (blockCount size ls.length)).map (blockLines size ls)).flatten = ls := by
  have hcover : ls.length ≤ (0 + blockCount size ls.length) * size := by
    have hmod := Nat.div_add_mod (ls.length + size - 1) size
    have hlt := Nat.mod_lt (ls.length + size - 1) hs
    rw [Nat.mul_comm] at hmod
    rw [Nat.zero_add, blockCount]
    omega
  rw [List.range_eq_range', flatten_blockLines_from hcover, Nat.zero_mul, List.drop_zero]

end Cutting

/-! ### Files in blocks -/

namespace Pipeline

open Cutting

/-- The chunks cut a text into blocks of `size` lines. -/
structure Partition (size : Nat) (content : Text) (cs : List EnrichedChunk) : Prop where
  /-- There are as many chunks as it takes. -/
  count : cs.length = ((Text.lines content).length + size - 1) / size
  /-- The chunk at place `k` begins after `k * size` lines and ends `size` lines later or with the text. -/
  range : ∀ (k : Nat) (c : EnrichedChunk), cs[k]? = some c → c.base.first = (k * size : Nat) ∧
    c.base.last = ((min ((k + 1) * size) (Text.lines content).length : Nat) : Int) - 1
  quotes : ∀ c ∈ cs, c.base.Quotes (Text.lines content)
  /-- The contents joined by newlines are the text. -/
  joined : Text.ofLines (cs.map (·.content)) = content
  /-- In every chunk the total is what its kinds say. -/
  consistent : ∀ c ∈ cs, (c.facets.lineCounts.total : Int) = c.facets.lineCounts.code +
    c.facets.lineCounts.comments + c.facets.lineCounts.blank - c.facets.lineCounts.mixed
  /-- All numbers that are counted add up to those of the text. -/
  added : ∀ counter ∈ LineCounts.counters,
    (cs.map fun c => counter c.facets.lineCounts).sum = counter (.ofText content)

theorem fallbackChunks_consistent {s : Settings} {source : Source} {c : EnrichedChunk}
    (hc : c ∈ fallbackChunks s source) : c.facets.lineCounts.Consistent := by
  obtain ⟨b, _, rfl⟩ := List.mem_map.mp hc
  exact LineCounts.ofLines_consistent (Text.lines b.content)

section Fallback

variable {s : Settings} (hs : 1 ≤ s.fallbackSize) (source : Source)
include hs

/-- What is read off the windows of a file if it depends on their ranges only. -/
theorem map_fallbackChunks {α : Type} {read : EnrichedChunk → α}
    (readRange : Range → α) (h : ∀ imports id (p : Piece),
      read (wrap source (plainChunk source source.lines imports id p)) = readRange p.toRange) :
    (fallbackChunks s source).map read =
      (List.range (blockCount s.fallbackSize source.lines.length)).map fun k =>
        readRange (block s.fallbackSize source.lines.length k) := by
  have hlen : 0 < source.lines.length := List.length_pos_iff.mpr (Text.lines_ne_nil source.content)
  have hread : (fallbackChunks s source).map read = (fixedChunks source s.fallbackSize 0 0
      ((source.lines.length : Int) - 1)).map fun c => read (wrap source c) := List.map_map
  rw [hread, fixedChunks, map_plainChunks h, List.map_map, windows_eq_blocks hs hlen, List.map_map]
  rfl

theorem fallbackChunks_contents :
    (fallbackChunks s source).map (·.content) =
      ((List.range (blockCount s.fallbackSize source.lines.length)).map
        (blockLines s.fallbackSize source.lines)).map Text.ofLines := by
  rw [map_fallbackChunks hs source (fun r => rangeText source.lines r.first r.last) fun _ _ _ => rfl, List.map_map]
  refine List.map_congr_left ?_
  intro k hk
  have hlt := mul_lt_of_lt_blockCount hs (List.mem_range.mp hk)
  exact congrArg Text.ofLines (lineRange_block hlt)

theorem fallbackChunks_counts :
    (fallbackChunks s source).map (·.facets.lineCounts) =
      ((List.range (blockCount s.fallbackSize source.lines.length)).map
        (blockLines s.fallbackSize source.lines)).map LineCounts.ofLines := by
  have hcounts : (fallbackChunks s source).map (·.facets.lineCounts) =
      ((fallbackChunks s source).map (·.content)).map LineCounts.ofText := by
    rw [List.map_map]
    refine List.map_congr_left ?_
    intro c hc
    obtain ⟨b, _, rfl⟩ := List.mem_map.mp hc
    rfl
  rw [hcounts, fallbackChunks_contents hs source, List.map_map]
  refine List.map_congr_left ?_
  intro b hb
  obtain ⟨k, hk, rfl⟩ := List.mem_map.mp hb
  have hlt := mul_lt_of_lt_blockCount hs (List.mem_range.mp hk)
  exact congrArg LineCounts.ofLines
    (Text.lines_ofLines (blockLines_ne_nil hs hlt) (blockLines_subset _ source.lines k))

theorem fallbackChunks_ranges :
    (fallbackChunks s source).map (fun c => (⟨c.base.first, c.base.last⟩ : Range)) =
      (List.range (blockCount s.fallbackSize source.lines.length)).map
        (block s.fallbackSize source.lines.length) :=
  map_fallbackChunks hs source id fun _ _ _ => rfl

theorem fallbackChunks_range {k : Nat} {c : EnrichedChunk} (hc : (fallbackChunks s source)[k]? = some c) :
    (⟨c.base.first, c.base.last⟩ : Range) = block s.fallbackSize source.lines.length k := by
  have hk := congrArg (·[k]?) (fallbackChunks_ranges hs source)
  simp only [List.getElem?_map, hc, Option.map_some] at hk
  obtain ⟨j, hj, hjk⟩ := Option.map_eq_some_iff.mp hk.symm
  obtain ⟨_, rfl⟩ := List.getElem?_eq_some_iff.mp hj
  rw [List.getElem_range] at hjk
  exact hjk.symm

theorem ofLines_fallbackChunks : Text.ofLines ((fallbackChunks s source).map (·.content)) = source.content := by
  rw [fallbackChunks_contents hs source, ← Text.ofLines_flatten, flatten_blockLines hs source.lines]
  · exact Text.ofLines_lines source.content
  · intro b hb
    obtain ⟨k, hk, rfl⟩ := List.mem_map.mp hb
    exact blockLines_ne_nil hs (mul_lt_of_lt_blockCount hs (List.mem_range.mp hk))

theorem sum_fallbackChunks {counter : LineCounts → Nat} (hcounter : counter ∈ LineCounts.counters) :
    ((fallbackChunks s source).map fun c => counter c.facets.lineCounts).sum =
      counter (.ofText source.content) := by
  have hcounts : (fallbackChunks s source).map (fun c => counter c.facets.lineCounts) =
      ((fallbackChunks s source).map (·.facets.lineCounts)).map counter := by
    rw [List.map_map]
    rfl
  rw [hcounts, fallbackChunks_counts hs source, List.map_map]
  refine (LineCounts.counter_ofLines_flatten hcounter _).symm.trans ?_
  rw [flatten_blockLines hs source.lines]
  rfl

end Fallback

/-- The windows of a file for which no strategy gives anything partition it, whatever the settings. -/
theorem fallbackChunks_partition (size overlap fallback : Int) (preferTrees validate : Bool)
    (minConfidence : Float) (source : Source) :
    Partition (Settings.clamp size overlap fallback preferTrees validate minConfidence).fallbackSize source.content
      (fallbackChunks (Settings.clamp size overlap fallback preferTrees validate minConfidence) source) := by
  have hs := (Settings.clamp_valid size overlap fallback preferTrees validate minConfidence).fallback
  generalize Settings.clamp size overlap fallback preferTrees validate minConfidence = s at hs ⊢
  constructor
  case count =>
    have hlen := congrArg List.length (fallbackChunks_ranges hs source)
    rwa [List.length_map, List.length_map, List.length_range] at hlen
  case range =>
    intro k c hc
    have hblock := fallbackChunks_range hs source hc
    exact ⟨congrArg Range.first hblock, congrArg Range.last hblock⟩
  case quotes => exact (fallbackChunks_linked s source).quotes
  case joined => exact ofLines_fallbackChunks hs source
  case consistent =>
    intro c hc
    have hconsistent := fallbackChunks_consistent hc
    unfold LineCounts.Consistent at hconsistent
    omega
  case added => exact fun counter hcounter => sum_fallbackChunks hs source hcounter

end Pipeline

end SourceChunks
