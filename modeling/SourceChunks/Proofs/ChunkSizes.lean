import SourceChunks.Proofs.LargeWindows
import SourceChunks.Proofs.PlainChunks

/-! How long plain chunks are. Windows, sections and batches of declarations have at most the lines of a chunk. Pieces
along declarations may grow later on: lines behind all of them join the last one only if a chunk still holds both, but
a short gap joins the piece behind it even if that takes as many lines more as chunks may share. -/

namespace SourceChunks.Cutting

/-- The range has at most `limit` lines. -/
def Range.Fits (r : Range) (limit : Int) : Prop := r.last - r.first + 1 ≤ limit

theorem Range.Fits.mono {r : Range} {a b : Int} (h : r.Fits a) (hle : a ≤ b) : r.Fits b := Int.le_trans h hle

/-! ### Sources cut by lines -/

section

variable {size : Nat} (hsize : 1 ≤ size)

include hsize

theorem windows_fit (overlap : Int) {first last : Int} (h : first ≤ last) :
    ∀ r ∈ windows size overlap first last, r.Fits size := by
  have hslides := windows_slides size overlap h
  rw [show max 1 (size : Int) = size by omega] at hslides
  exact hslides.size_le

theorem sectionRanges_fit (overlap : Nat) (first last : Int) :
    ∀ r ∈ sectionRanges size overlap first last, r.Fits size := by
  unfold sectionRanges
  split
  case isTrue hlong => exact windows_fit hsize overlap (by omega)
  case isFalse hshort =>
    intro r hr
    obtain rfl := List.mem_singleton.mp hr
    exact Int.not_lt.mp hshort

theorem sectionsFrom_fit (overlap start : Nat) (points : List Nat) :
    ∀ r ∈ sectionsFrom size overlap start points, r.Fits size := by
  fun_induction sectionsFrom size overlap start points with
  | case1 start => simp
  | case2 start point => exact sectionRanges_fit hsize overlap _ _
  | case3 start point next points _ ih => exact ih
  | case4 start point next points _ ih =>
    intro r hr
    rcases List.mem_append.mp hr with hr | hr
    · exact sectionRanges_fit hsize overlap _ _ r hr
    · exact ih r hr

/-- No range of a source that is cut by lines is longer than a chunk. -/
theorem lineRanges_fit (language : Language) (overlap : Nat) {ls : List Text} (hne : ls ≠ []) :
    ∀ r ∈ lineRanges language size overlap ls, r.Fits size := by
  have hlen : 0 < ls.length := List.length_pos_iff.mpr hne
  unfold lineRanges
  split
  · exact sectionsFrom_fit hsize overlap _ _
  · exact windows_fit hsize overlap (by omega)

end

variable {s : Settings} {isBoundary : Text → Bool} {ls : List Text}

/-! ### Pieces of declarations -/

/-- From the first line of the batch to the end of any of its declarations there are at most the lines of a chunk. -/
def BatchFits (s : Settings) (batch : List Node) : Prop :=
  ∀ b ∈ batch.head?, ∀ m ∈ batch, m.last - b.first + 1 ≤ s.chunkSize

namespace BatchFits

variable {batch : List Node} {n : Node}

theorem nil : BatchFits s [] := by
  intro b hb
  cases hb

theorem single (hn : ¬ n.lineCount > s.chunkSize) : BatchFits s [n] := by
  intro b hb m hm
  obtain rfl := Option.some.inj hb
  obtain rfl := List.mem_singleton.mp hm
  exact Int.not_lt.mp hn

/-- A declaration that does not make the batch too long. -/
theorem add (h : BatchFits s batch) (hn : ¬ n.lineCount > s.chunkSize)
    (hfits : ¬ overflows s.chunkSize batch n = true) : BatchFits s (batch ++ [n]) := by
  cases batch with
  | nil => exact single hn
  | cons b batch =>
    intro b' hb m hm
    obtain rfl := Option.some.inj hb
    rcases List.mem_append.mp hm with hm | hm
    · exact h b rfl m hm
    · obtain rfl := List.mem_singleton.mp hm
      rw [overflows, decide_eq_true_eq] at hfits
      omega

/-- The piece of a batch ends with one of its declarations. -/
theorem piece (h : BatchFits s batch) : ∀ p ∈ batchPiece batch, p.Fits s.chunkSize := by
  intro p hp
  obtain ⟨b, rest, rfl, hfirst, _, _, m, hm, hlast⟩ := mem_batchPiece hp
  have hfits := h b rfl m hm
  rw [← hfirst, ← hlast] at hfits
  exact hfits

end BatchFits

/-- Declarations are batched and cut so that no piece is longer than a chunk. -/
theorem piecesFrom_fit (hs : s.Valid) {batch ns : List Node} (hbatch : BatchFits s batch)
    (hns : ∀ n ∈ ns, InFile ls.length n.first n.last) :
    ∀ p ∈ piecesFrom s isBoundary ls batch ns, p.Fits s.chunkSize := by
  induction ns generalizing batch with
  | nil => exact hbatch.piece
  | cons n ns ih =>
    obtain ⟨hn, hns⟩ := List.forall_mem_cons.mp hns
    rw [piecesFrom]
    split
    case isTrue =>
      intro p hp
      rw [List.append_assoc, List.mem_append, List.mem_append] at hp
      rcases hp with hp | hp | hp
      · exact hbatch.piece p hp
      · have hsize := hs.size
        exact (largePieces_windowing hs isBoundary hn).size_le (by omega) p.toRange (List.mem_map_of_mem hp)
      · exact ih .nil hns p hp
    case isFalse hshort =>
      split
      case isTrue =>
        intro p hp
        rcases List.mem_append.mp hp with hp | hp
        · exact hbatch.piece p hp
        · exact ih (.single hshort) hns p hp
      case isFalse hfits => exact ih (hbatch.add hshort hfits) hns

/-! ### Gaps -/

theorem gapPieces_fit (hs : s.Valid) {first last : Int} (h : first ≤ last) :
    ∀ p ∈ gapPieces s.chunkSize first last, p.Fits s.chunkSize := by
  intro p hp
  have hsize := hs.size
  obtain ⟨r, hr, rfl⟩ := List.mem_map.mp hp
  exact windows_fit (by omega) 0 h r hr

/-- A piece that takes in the gap before it has at most the overlap more lines than a chunk. -/
theorem withGap_fit (hs : s.Valid) {cursor : Int} {p : Piece} (hc : 0 ≤ cursor)
    (hp : InFile ls.length p.first p.last) (hfits : p.Fits s.chunkSize) :
    ∀ q ∈ withGap s ls cursor p, q.Fits (s.chunkSize + s.chunkOverlap) := by
  have hmore : (s.chunkSize : Int) ≤ s.chunkSize + s.chunkOverlap := by omega
  rcases withGap_cases (s := s) hc hp with ⟨he, _⟩ | ⟨_, hfolds, he⟩ | ⟨hlt, he⟩
  · rw [he, List.forall_mem_singleton]
    exact hfits.mono hmore
  · rw [foldsIn, Bool.and_eq_true, decide_eq_true_eq, decide_eq_true_eq] at hfolds
    rw [he, List.forall_mem_singleton]
    exact hfolds.2
  · rw [he]
    intro q hq
    rcases List.mem_append.mp hq with hq | hq
    · exact (gapPieces_fit hs (Int.le_sub_one_of_lt hlt) q hq).mono hmore
    · obtain rfl := List.mem_singleton.mp hq
      exact hfits.mono hmore

theorem fillFrom_fit (hs : s.Valid) {cursor : Int} (hc : 0 ≤ cursor) {ps : List Piece}
    (hps : ∀ p ∈ ps, InFile ls.length p.first p.last) (hfits : ∀ p ∈ ps, p.Fits s.chunkSize) :
    ∀ q ∈ (fillFrom s ls cursor ps).1, q.Fits (s.chunkSize + s.chunkOverlap) := by
  induction ps generalizing cursor with
  | nil => simp [fillFrom]
  | cons p ps ih =>
    obtain ⟨hp, hps⟩ := List.forall_mem_cons.mp hps
    obtain ⟨hfit, hfits⟩ := List.forall_mem_cons.mp hfits
    rw [fillFrom_cons]
    intro q hq
    rcases List.mem_append.mp hq with hq | hq
    · exact withGap_fit hs hc hp hfit q hq
    · exact ih (by omega) hps hfits q hq

theorem fillGaps_fit (hs : s.Valid) {ps : List Piece} (hps : ∀ p ∈ ps, InFile ls.length p.first p.last)
    (hfits : ∀ p ∈ ps, p.Fits s.chunkSize) :
    ∀ q ∈ fillGaps s ls ps, q.Fits (s.chunkSize + s.chunkOverlap) := by
  have hmore : (s.chunkSize : Int) ≤ s.chunkSize + s.chunkOverlap := by omega
  have hfilled := fillFrom_fit hs (Int.le_refl 0) hps hfits
  rcases fillGaps_cases (s := s) hps with ⟨he, _⟩ | ⟨_, front, p, hout, hlast, he⟩ | ⟨hlt, he⟩
  · rw [he]
    exact hfilled
  · rw [hout] at hfilled
    rw [he]
    intro q hq
    rcases List.mem_append.mp hq with hq | hq
    · exact hfilled q (List.mem_append_left _ hq)
    · obtain rfl := List.mem_singleton.mp hq
      unfold Range.Fits
      dsimp only
      omega
  · rw [he]
    intro q hq
    rcases List.mem_append.mp hq with hq | hq
    · exact hfilled q hq
    · exact (gapPieces_fit hs (Int.le_sub_one_of_lt hlt) q hq).mono hmore

/-! ### Files -/

/-- Chunks of a file with the given declarations outside all others. -/
structure SizesBounded (s : Settings) (top : List Node) (cs : List Chunk) : Prop where
  /-- No chunk is longer than the lines of a chunk and its overlap. -/
  along : ∀ c ∈ cs, c.last - c.first + 1 ≤ s.chunkSize + s.chunkOverlap
  /-- Where there are no declarations to follow, the overlap does not come on top. -/
  byLines : top = [] → ∀ c ∈ cs, c.last - c.first + 1 ≤ s.chunkSize

theorem linePieces_fit (hs : s.Valid) (language : Language) (hne : ls ≠ []) :
    ∀ p ∈ linePieces s language ls, p.Fits s.chunkSize := by
  intro p hp
  have hsize := hs.size
  obtain ⟨r, hr, rfl⟩ := List.mem_map.mp hp
  exact lineRanges_fit (by omega) language s.chunkOverlap hne r hr

theorem declarationPieces_fit (hs : s.Valid) (isBoundary : Text → Bool) {ns : List Node}
    (h : Outline.Arranged ls.length ns) :
    ∀ p ∈ declarationPieces s isBoundary ls ns, p.Fits (s.chunkSize + s.chunkOverlap) := by
  refine fillGaps_fit hs ?_ (piecesFrom_fit hs .nil h.inFile)
  exact fun p hp => (piecesFrom_range hs h (fun m hm => (h.inFile m hm).nonneg) hp).2

/-- Chunks are as long as the pieces they are made of. -/
theorem plainChunks_fit (source : Source) {ps : List Piece} {limit : Int} (h : ∀ p ∈ ps, p.Fits limit) :
    ∀ c ∈ plainChunks source ls ps, c.last - c.first + 1 ≤ limit := by
  intro c hc
  obtain ⟨id, _, p, hp, rfl⟩ := ChunkId.exists_of_mem_zipWith hc
  exact h p hp

theorem sizesBounded_plainChunks (hs : s.Valid) (source : Source) {top : List Node}
    (ha : Outline.Arranged source.lines.length top) (isBoundary : Text → Bool) :
    SizesBounded s top (plainChunks source source.lines
      (if top.isEmpty then linePieces s source.language source.lines
        else declarationPieces s isBoundary source.lines top)) := by
  cases top with
  | nil =>
    have hfit := linePieces_fit hs source.language (Text.lines_ne_nil source.content)
    exact ⟨plainChunks_fit source fun p hp => (hfit p hp).mono (by omega), fun _ => plainChunks_fit source hfit⟩
  | cons n ns => exact ⟨plainChunks_fit source (declarationPieces_fit hs isBoundary ha), fun h => nomatch h⟩

/-- Without syntax trees every file is cut, and its chunks are bounded by the settings. -/
theorem chunkFile_sizesBounded (reader : SyntaxReader) (size overlap fallback : Int) (validate : Bool)
    (minConfidence : Float) (path content snapshot : Text) :
    ∃ top cs,
      topDeclarations (Recogniser.forLines (Language.detect path content)) (Text.lines content) = .ok top ∧
      chunkFile reader (Settings.clamp size overlap fallback false validate minConfidence) path content snapshot =
        .ok cs ∧
      SizesBounded (Settings.clamp size overlap fallback false validate minConfidence) top cs := by
  have hs := Settings.clamp_valid size overlap fallback false validate minConfidence
  let source : Source := ⟨path, snapshot, Language.detect path content, content⟩
  obtain ⟨top, htop, ha, _⟩ := topDeclarations_spec source.language source.lines
  rw [chunkFile]
  split
  case isTrue => exact ⟨top, [], htop, rfl, by simp, by simp⟩
  case isFalse =>
    refine ⟨top, _, htop, ?_, sizesBounded_plainChunks hs source ha (Recogniser.forLines source.language).isBoundary⟩
    rw [filePieces_of_top reader rfl htop]
    rfl

end SourceChunks.Cutting
