import SourceChunks.Cutting.Plain
import SourceChunks.Proofs.Identities
import SourceChunks.Proofs.Pieces
import SourceChunks.Syntax.Reader

/-! Plain chunks of a file lose none of its text: every line that is not blank is in a chunk, every
chunk quotes its lines, and every declaration outside all others is told by a chunk. -/

namespace SourceChunks

/-- The chunk is a range of the lines, and its content is exactly these lines. -/
structure Chunk.Quotes (c : Chunk) (ls : List Text) : Prop where
  inFile : InFile ls.length c.first c.last
  content : c.content = Text.ofLines ((ls.take (c.last.toNat + 1)).drop c.first.toNat)

theorem Source.chunk_quotes (source : Source) {ls : List Text} (id : Text) {first last : Int}
    (symbols : List Text) (h : InFile ls.length first last) :
    (source.chunk ls id first last symbols).Quotes ls := ⟨h, h.rangeText_eq⟩

theorem Text.lines_ne_nil (t : Text) : Text.lines t ≠ [] := Text.split_ne_nil '\n' t

namespace Cutting

/-! ### Chunks of pieces -/

theorem length_plainIds (source : Source) (ps : List Piece) :
    (ChunkId.allocate [] (ps.map fun p => source.idFor p.first p.last [])).length = ps.length := by
  rw [ChunkId.length_allocate, List.length_map]

theorem plainChunks_ids_nodup (source : Source) (ls : List Text) (ps : List Piece) :
    ((plainChunks source ls ps).map (·.id)).Nodup := by
  unfold plainChunks
  rw [ChunkId.map_zipWith_id (fun _ _ => rfl) (length_plainIds source ps)]
  exact ChunkId.nodup_allocate _ _

/-- What is read off the chunks does not depend on their identities if it can be read off the pieces. -/
theorem map_plainChunks {α : Type} {source : Source} {ls : List Text} {read : Chunk → α} {readPiece : Piece → α}
    (h : ∀ imports id p, read (plainChunk source ls imports id p) = readPiece p) (ps : List Piece) :
    (plainChunks source ls ps).map read = ps.map readPiece := by
  rw [plainChunks, List.zipWith_comm]
  exact ChunkId.map_zipWith_left (fun p id => h _ id p) (length_plainIds source ps).symm

theorem plainChunks_starts (source : Source) (ls : List Text) (ps : List Piece) :
    (plainChunks source ls ps).map (·.first) = ps.map (·.first) := map_plainChunks (fun _ _ _ => rfl) ps

theorem plainChunks_quotes (source : Source) {ls : List Text} {ps : List Piece}
    (h : ∀ p ∈ ps, InFile ls.length p.first p.last) {c : Chunk} (hc : c ∈ plainChunks source ls ps) :
    c.Quotes ls := by
  obtain ⟨id, _, p, hp, rfl⟩ := ChunkId.exists_of_mem_zipWith hc
  exact ⟨h p hp, (h p hp).rangeText_eq⟩

/-- Every piece has a chunk over the same lines, and the names it gives are those of the chunk. -/
theorem exists_plainChunk (source : Source) (ls : List Text) {ps : List Piece} {p : Piece} (hp : p ∈ ps) :
    ∃ c ∈ plainChunks source ls ps, c.first = p.first ∧ c.last = p.last ∧
      ∀ names, p.symbols = some names → c.symbols = names := by
  obtain ⟨id, hc⟩ := ChunkId.exists_mem_zipWith
    (plainChunk source ls (Metrics.dependencies source.content source.language)) (length_plainIds source ps) hp
  refine ⟨_, hc, rfl, rfl, ?_⟩
  intro names hn
  simp only [plainChunk, Source.chunk, hn, Option.getD_some]

/-! ### The two ways to cut a file -/

/-- The declarations along which a file is cut: those outside all others, and none when there is no
telling declarations. -/
def topDeclarations (r : Recogniser) (ls : List Text) : Except Failure (List Node) :=
  if r.isBlocks then .ok [] else (r.nodes ls).map fun ns => ns.filter fun n => n.parent.isNone

/-- The pieces of a file cut by lines. -/
def linePieces (s : Settings) (language : Language) (ls : List Text) : List Piece :=
  (lineRanges language s.chunkSize s.chunkOverlap ls).map fun r => { r with symbols := none }

theorem filePieces_eq (reader : SyntaxReader) (s : Settings) (source : Source) :
    filePieces reader s source =
      (topDeclarations (Recogniser.forLanguage reader s.preferTrees source.language) source.lines).map fun top =>
        if top.isEmpty then linePieces s source.language source.lines
        else declarationPieces s (Recogniser.forLanguage reader s.preferTrees source.language).isBoundary
          source.lines top := by
  unfold filePieces topDeclarations
  dsimp only
  split
  case isTrue => rfl
  case isFalse =>
    cases (Recogniser.forLanguage reader s.preferTrees source.language).nodes source.lines with
    | error f => rfl
    | ok ns =>
      simp only [bind, Except.bind, Except.map]
      split <;> rfl

theorem linePieces_tiles (s : Settings) (language : Language) {ls : List Text} (hne : ls ≠ []) :
    Tiles ((ls.length : Int) - 1) 0 ((linePieces s language ls).map (·.toRange)) := by
  rw [linePieces, List.map_map]
  simp only [Function.comp_def, List.map_id']
  exact lineRanges_tiles language _ _ hne

/-- Declarations are found in order, and with braces they share no lines. -/
theorem topDeclarations_spec (language : Language) (ls : List Text) :
    ∃ top, topDeclarations (Recogniser.forLines language) ls = .ok top ∧ Outline.Arranged ls.length top ∧
      (language ≠ .python → Outline.Braces.Separate 0 ls.length top) := by
  unfold topDeclarations Recogniser.forLines
  split
  case isTrue hp =>
    have ha := (Outline.Indentation.nodes_forward ls).arranged
    exact ⟨_, congrArg Except.ok (Outline.filter_top ha.top), ha, fun hn => absurd hp hn⟩
  case isFalse =>
    split
    case isTrue =>
      have hb := Outline.Braces.nodes_separate language ls
      exact ⟨_, congrArg Except.ok (Outline.filter_top hb.top), hb.arranged, fun _ => hb⟩
    case isFalse =>
      have hnone : Outline.Braces.Separate 0 ls.length [] := .nil (Int.natCast_nonneg _)
      exact ⟨[], rfl, hnone.arranged, fun _ => hnone⟩

/-- The pieces of a file without syntax trees, given the declarations outside all others. -/
theorem filePieces_of_top (reader : SyntaxReader) {s : Settings} (ht : s.preferTrees = false) {source : Source}
    {top : List Node}
    (htop : topDeclarations (Recogniser.forLines source.language) source.lines = .ok top) :
    filePieces reader s source = .ok (if top.isEmpty then linePieces s source.language source.lines
      else declarationPieces s (Recogniser.forLines source.language).isBoundary source.lines top) := by
  have heq : Recogniser.forLanguage reader s.preferTrees source.language = Recogniser.forLines source.language := by
    rw [ht]
    rfl
  rw [filePieces_eq, heq, htop]
  rfl

/-- The pieces of a file, along its declarations or by lines. -/
theorem filePieces_spec (reader : SyntaxReader) {s : Settings} (hs : s.Valid) (ht : s.preferTrees = false)
    (source : Source) :
    ∃ top ps, topDeclarations (Recogniser.forLines source.language) source.lines = .ok top ∧
      filePieces reader s source = .ok ps ∧
      (∀ p ∈ ps, InFile source.lines.length p.first p.last) ∧
      (∀ i : Nat, HasText source.lines i → ∃ p ∈ ps, p.first ≤ i ∧ i ≤ p.last) ∧
      (∀ n ∈ top, ∃ p ∈ ps, p.Shows n) ∧
      ((ps.map (·.first)).Pairwise (· ≤ ·) ↔
        top.IsChain (WindowsBefore s (Recogniser.forLines source.language).isBoundary source.lines)) ∧
      (source.language ≠ .python → (ps.map (·.first)).Pairwise (· ≤ ·)) := by
  obtain ⟨top, htop, ha, hbraces⟩ := topDeclarations_spec source.language source.lines
  have hpieces := filePieces_of_top reader ht htop
  cases top with
  | nil =>
    have ht := linePieces_tiles s source.language (Text.lines_ne_nil source.content)
    refine ⟨[], linePieces s source.language source.lines, htop, hpieces, ?_, ?_, by simp, ?_,
      fun _ => ht.piece_ordered⟩
    · intro p hp
      obtain ⟨h1, h2, h3⟩ := ht.piece_range hp
      exact ⟨h1, h2, Int.lt_of_le_sub_one h3⟩
    · intro i htext
      have := htext.lt_length
      exact ht.piece_covers (Int.natCast_nonneg i) (Int.le_sub_one_of_lt (Int.ofNat_lt.mpr this))
    · exact ⟨fun _ => .nil, fun _ => ht.piece_ordered⟩
  | cons n ns =>
    obtain ⟨hin, hcover, hshow⟩ :=
      declarationPieces_spec (Recogniser.forLines source.language).isBoundary hs ha
    have hiff := declarationPieces_ordered_iff (Recogniser.forLines source.language).isBoundary hs ha
    exact ⟨n :: ns, _, htop, hpieces, hin, hcover, hshow, hiff,
      fun hp => hiff.mpr (isChain_of_separate hs (hbraces hp))⟩

/-! ### Files -/

/-- The chunks keep the text of a file with the given declarations outside all others. -/
structure KeepsText (ls : List Text) (top : List Node) (cs : List Chunk) : Prop where
  /-- Every chunk quotes its lines. -/
  quotes : ∀ c ∈ cs, c.Quotes ls
  /-- Every line that is not blank is in a chunk. -/
  covers : ∀ i : Nat, HasText ls i → ∃ c ∈ cs, c.first ≤ i ∧ i ≤ c.last
  /-- No two chunks have the same identity. -/
  ids : (cs.map (·.id)).Nodup
  /-- Every declaration is named by a chunk that holds its first line. -/
  named : ∀ n ∈ top, ∃ c ∈ cs, n.name ∈ c.symbols ∧ c.first ≤ n.first ∧ n.first ≤ c.last

theorem plainChunks_keepsText (source : Source) {ls : List Text} {top : List Node} {ps : List Piece}
    (hin : ∀ p ∈ ps, InFile ls.length p.first p.last)
    (hcover : ∀ i : Nat, HasText ls i → ∃ p ∈ ps, p.first ≤ i ∧ i ≤ p.last)
    (hshow : ∀ n ∈ top, ∃ p ∈ ps, p.Shows n) : KeepsText ls top (plainChunks source ls ps) where
  quotes := fun c hc => plainChunks_quotes source hin hc
  covers := by
    intro i htext
    obtain ⟨p, hp, hpi⟩ := hcover i htext
    obtain ⟨c, hc, hfirst, hlast, _⟩ := exists_plainChunk source ls hp
    rw [← hfirst, ← hlast] at hpi
    exact ⟨c, hc, hpi⟩
  ids := plainChunks_ids_nodup source ls ps
  named := by
    intro n hn
    obtain ⟨p, hp, ⟨names, hnames, hname⟩, h1, h2⟩ := hshow n hn
    obtain ⟨c, hc, hfirst, hlast, hsymbols⟩ := exists_plainChunk source ls hp
    rw [← hfirst] at h1
    rw [← hlast] at h2
    rw [← hsymbols names hnames] at hname
    exact ⟨c, hc, hname, h1, h2⟩

/-- Cutting a file that is not blank keeps its text. Its chunks begin in order just when no window over
a declaration longer than a chunk begins behind the next declaration, which can only happen where
declarations share lines. -/
theorem chunkFile_keeps_text (reader : SyntaxReader) (size overlap fallback : Int) (validate : Bool)
    (minConfidence : Float) (path content snapshot : Text) (h : Text.allBlank content = false) :
    ∃ top cs,
      topDeclarations (Recogniser.forLines (Language.detect path content)) (Text.lines content) = .ok top ∧
      chunkFile reader (Settings.clamp size overlap fallback false validate minConfidence) path content snapshot =
        .ok cs ∧
      KeepsText (Text.lines content) top cs ∧
      ((cs.map (·.first)).Pairwise (· ≤ ·) ↔
        top.IsChain (WindowsBefore (Settings.clamp size overlap fallback false validate minConfidence)
          (Recogniser.forLines (Language.detect path content)).isBoundary (Text.lines content))) ∧
      (Language.detect path content ≠ .python → (cs.map (·.first)).Pairwise (· ≤ ·)) := by
  have hs := Settings.clamp_valid size overlap fallback false validate minConfidence
  obtain ⟨top, ps, htop, hps, hin, hcover, hshow, hiff, hbraces⟩ :=
    filePieces_spec reader hs rfl ⟨path, snapshot, Language.detect path content, content⟩
  refine ⟨top, plainChunks ⟨path, snapshot, Language.detect path content, content⟩ (Text.lines content) ps,
    htop, ?_, plainChunks_keepsText _ hin hcover hshow, ?_, ?_⟩
  · rw [chunkFile, if_neg (by simp [h]), hps]
    rfl
  · rw [plainChunks_starts]
    exact hiff
  · rw [plainChunks_starts]
    exact hbraces

/-- A class longer than a chunk with a decorator in it that belongs to the next declaration too. -/
def lateDecorator : Text := "class A:\n x\n @d\n #\n #\n #\n #\n #\n #\n #\n #\n def f():"

/-- The second window over the class begins behind the decorator, and so behind the next chunk. -/
theorem chunkFile_lateDecorator_unordered :
    Text.allBlank lateDecorator = false ∧ ∃ top cs,
      topDeclarations (Recogniser.forLines (Language.detect "a.py" lateDecorator)) (Text.lines lateDecorator) =
        .ok top ∧
      chunkFile Grammar.tree (Settings.clamp 10 0 50 false false 0.3) "a.py" lateDecorator "s" = .ok cs ∧
      KeepsText (Text.lines lateDecorator) top cs ∧ cs.map (·.first) = [0, 10, 2] := by
  have hblank : Text.allBlank lateDecorator = false := by decide
  obtain ⟨top, cs, htop, hcs, hkeeps, _⟩ :=
    chunkFile_keeps_text Grammar.tree 10 0 50 false 0.3 "a.py" lateDecorator "s" hblank
  have hstarts : (chunkFile Grammar.tree (Settings.clamp 10 0 50 false false 0.3) "a.py" lateDecorator "s").map
      (fun cs => cs.map (·.first)) = .ok [0, 10, 2] := by decide +kernel
  rw [hcs] at hstarts
  exact ⟨hblank, top, cs, htop, hcs, hkeeps, Except.ok.inj hstarts⟩

end Cutting

end SourceChunks
