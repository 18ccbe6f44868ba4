import SourceChunks.Proofs.ImportFailures
import SourceChunks.Proofs.Texts

/-! Import paths and the files that they mean. The segments of an import path are names without slashes. They mean a
file by whole names if the last one is the stem of the file, if they are the last components of its path, or if
there is one only and it is a directory. The path of the file is looked at as a text too, where a segment can
be found at the end of a longer name. This goes beyond whole names in one way only: a single segment that is a proper tail
of the stem. -/

namespace SourceChunks

/-! ### Segments -/

namespace Imports

theorem not_mem_of_mem_cutLast {d : Char} {pieces : List Text} (h : ∀ p ∈ pieces, d ∉ p) :
    ∀ s ∈ cutLast pieces, d ∉ s := by
  fun_induction cutLast pieces with
  | case1 => exact h
  | case2 p =>
    intro s hs
    obtain rfl := List.mem_singleton.mp hs
    cases hsplit : Text.splitLast? '.' p with
    | none => exact h p List.mem_cons_self
    | some parts =>
      have hp : p = parts.1 ++ '.' :: parts.2 := Text.eq_of_splitLast? hsplit
      intro hd
      exact h p List.mem_cons_self (hp ▸ List.mem_append_left _ hd)
  | case3 p rest _ ih =>
    intro s hs
    rcases List.mem_cons.mp hs with rfl | hs
    · exact h s List.mem_cons_self
    · exact ih (fun q hq => h q (List.mem_cons_of_mem _ hq)) s hs

/-- A segment is a name without slashes. -/
theorem segment_spec {importPath s : Text} (h : s ∈ segments importPath) : s ≠ [] ∧ '/' ∉ s := by
  obtain ⟨hpiece, hcounts⟩ := List.mem_filter.mp h
  constructor
  · rintro rfl
    cases hcounts
  · split at hpiece
    case isTrue => exact not_mem_of_mem_cutLast (fun _ => Text.not_mem_of_mem_split) s hpiece
    case isFalse hslash =>
      intro hmem
      exact hslash (List.contains_iff_mem.mpr (Text.subset_of_mem_split hpiece hmem))

end Imports

/-! ### Stems -/

namespace FilePath

theorem stem_prefix_name (p : FilePath) : p.stem <+: p.name := by
  rw [stem, cutName]
  split
  case h_1 before after hsplit =>
    split
    · exact List.prefix_rfl
    · exact ⟨'.' :: after, (Text.eq_of_splitLast? hsplit).symm⟩
  case h_2 => exact List.prefix_rfl

theorem no_slash_of_mem_parts {t p : Text} (h : p ∈ (ofText t).parts) : '/' ∉ p :=
  Text.not_mem_of_mem_split (List.mem_filter.mp h).1

theorem no_slash_stem (t : Text) : '/' ∉ (ofText t).stem := by
  intro hmem
  have hname : '/' ∈ (ofText t).name := (stem_prefix_name _).subset hmem
  rw [name] at hname
  cases hlast : (ofText t).parts.getLast? with
  | none => simp [hlast] at hname
  | some p =>
    rw [hlast] at hname
    exact no_slash_of_mem_parts (List.mem_of_getLast? hlast) hname

/-- The path without its extension. -/
def bare (p : FilePath) : FilePath := { p with parts := p.directories ++ [p.stem] }

/-- Without its extension a path ends with the stem, before which there is nothing or a slash. -/
theorem text_bare (p : FilePath) : p.bare.text = p.stem ∨ ∃ front, p.bare.text = front ++ '/' :: p.stem := by
  have htext : p.bare.text = p.root ++ Text.join ['/'] (p.directories ++ [p.stem]) := by
    simp [text, bare, root]
  rw [htext]
  by_cases hdirectories : p.directories = []
  · rw [hdirectories, root]
    cases p.slashes with
    | zero => exact .inl rfl
    | succ n =>
      refine .inr ⟨List.replicate n '/', ?_⟩
      rw [List.replicate_succ', List.append_assoc]
      rfl
  · refine .inr ⟨p.root ++ Text.join ['/'] p.directories, ?_⟩
    rw [Text.join_append _ hdirectories (List.cons_ne_nil _ _), List.append_assoc, List.append_assoc]
    simp [Text.join]

theorem stem_suffix_bare (p : FilePath) : p.stem <:+ p.bare.text := by
  rcases p.text_bare with htext | ⟨front, htext⟩
  · exact ⟨[], htext.symm⟩
  · rw [htext]
    exact (List.suffix_cons '/' p.stem).trans (List.suffix_append front _)

/-- A name at the end of the path lies inside the stem. -/
theorem suffix_stem_of_suffix {p : FilePath} {s : Text} (hs : '/' ∉ s) (h : s <:+ p.bare.text) : s <:+ p.stem := by
  rcases p.text_bare with htext | ⟨front, htext⟩
  · exact htext ▸ h
  · exact Text.suffix_of_suffix_separator hs (htext ▸ h)

theorem getLast?_split_bare {p : FilePath} (hstem : '/' ∉ p.stem) :
    (Text.split '/' p.bare.text).getLast? = some p.stem := by
  rcases p.text_bare with htext | ⟨front, htext⟩
  · rw [htext, Text.split_eq_singleton hstem]
    rfl
  · rw [htext, Text.getLast?_split_separator hstem]

end FilePath

/-! ### Files that are meant -/

namespace Imports

/-- The segments mean the file by whole names. -/
def MeansByNames (segments : List Text) (p : FilePath) : Prop :=
  segments.getLast? = some p.stem ∨ segments <:+ p.directories ++ [p.stem] ∨ ∃ d ∈ p.directories, segments = [d]

instance (segments : List Text) (p : FilePath) : Decidable (MeansByNames segments p) :=
  inferInstanceAs (Decidable (_ ∨ _ ∨ _))

/-- The only segment is the end of a stem that is longer. -/
def MeansByTail (segments : List Text) (p : FilePath) : Prop :=
  ∃ s, segments = [s] ∧ s <:+ p.stem ∧ s ≠ p.stem

/-- What the segments can be at the end of the path as a text. -/
theorem cases_of_suffix_bare {segments : List Text} (hne : segments ≠ []) (hslash : ∀ s ∈ segments, '/' ∉ s)
    {p : FilePath} (hstem : '/' ∉ p.stem) (h : Text.join ['/'] segments <:+ p.bare.text) :
    segments.getLast? = some p.stem ∨ ∃ s, segments = [s] ∧ s <:+ p.stem := by
  obtain ⟨front, s, rfl⟩ := (List.eq_nil_or_concat segments).resolve_left hne
  have hs : '/' ∉ s := hslash s (by simp)
  by_cases hfront : front = []
  · subst hfront
    exact .inr ⟨s, rfl, FilePath.suffix_stem_of_suffix hs h⟩
  · -- the last segment stands behind a slash, and so does the stem
    left
    rw [List.concat_eq_append, Text.join_append _ hfront (List.cons_ne_nil _ _)] at h
    obtain ⟨before, hbefore⟩ := h
    have hlast := FilePath.getLast?_split_bare hstem
    rw [← hbefore, Text.join, List.append_assoc, ← List.append_assoc before, List.singleton_append,
      Text.getLast?_split_separator hs] at hlast
    rw [List.concat_eq_append, List.getLast?_concat, hlast]

/-- How an import path is held against the path of a file. -/
def holdsAgainst (segments : List Text) (p : FilePath) : Bool :=
  segments.getLast? == some p.stem || Text.endsWith p.bare.text (Text.join ['/'] segments) ||
    (segments.length == 1 && segments.all fun s => p.directories.contains s)

theorem matchesFile_of_named {file : Text} (h : RelationAnalysis.Named file) (segments : List Text) :
    matchesFile segments file = .ok (holdsAgainst segments (FilePath.ofText (slashed file))) := by
  rw [matchesFile, FilePath.withoutExtension, if_neg (mt List.isEmpty_iff.mp h)]
  rfl

/-- The last components of a path end with its stem. -/
theorem getLast?_of_suffix {segments : List Text} (hne : segments ≠ []) {p : FilePath}
    (h : segments <:+ p.directories ++ [p.stem]) : segments.getLast? = some p.stem := by
  obtain ⟨front, hfront⟩ := h
  have hlast := congrArg List.getLast? hfront
  rw [List.getLast?_append_of_ne_nil _ hne, List.getLast?_concat] at hlast
  exact hlast

theorem holdsAgainst_iff {segments : List Text} (hne : segments ≠ []) (hslash : ∀ s ∈ segments, '/' ∉ s)
    {p : FilePath} (hstem : '/' ∉ p.stem) :
    holdsAgainst segments p = true ↔ MeansByNames segments p ∨ MeansByTail segments p := by
  rw [holdsAgainst, Bool.or_eq_true, Bool.or_eq_true, beq_iff_eq, List.isSuffixOf_iff_suffix, Bool.and_eq_true,
    beq_iff_eq, List.length_eq_one_iff]
  constructor
  · rintro ((hlast | hsuffix) | ⟨⟨d, rfl⟩, hdirectory⟩)
    · exact .inl (.inl hlast)
    · rcases cases_of_suffix_bare hne hslash hstem hsuffix with hlast | ⟨s, rfl, htail⟩
      · exact .inl (.inl hlast)
      · by_cases heq : s = p.stem
        · exact .inl (.inl (congrArg some heq))
        · exact .inr ⟨s, rfl, htail, heq⟩
    · exact .inl (.inr (.inr ⟨d, by simpa using hdirectory, rfl⟩))
  · rintro ((hlast | hsuffix | ⟨d, hd, rfl⟩) | ⟨s, rfl, htail, _⟩)
    · exact .inl (.inl hlast)
    · exact .inl (.inl (getLast?_of_suffix hne hsuffix))
    · exact .inr ⟨⟨d, rfl⟩, by simpa using hd⟩
    · exact .inl (.inr (htail.trans p.stem_suffix_bare))

/-- A proper tail of the stem is no whole name unless it is a directory. -/
theorem meansByNames_tail_iff {s : Text} {p : FilePath} (h : s ≠ p.stem) :
    MeansByNames [s] p ↔ s ∈ p.directories := by
  have hlast : [s].getLast? ≠ some p.stem := fun heq => h (Option.some.inj heq)
  constructor
  · rintro (heq | hsuffix | ⟨d, hd, heq⟩)
    · exact absurd heq hlast
    · exact absurd (getLast?_of_suffix (List.cons_ne_nil _ _) hsuffix) hlast
    · exact List.singleton_inj.mp heq ▸ hd
  · exact fun hs => .inr (.inr ⟨s, hs, rfl⟩)

/-- What holding segments against the path of a file says. -/
structure Resolves (segments : List Text) (file : Text) (p : FilePath) : Prop where
  answers : ∃ answer, matchesFile segments file = .ok answer
  means_iff : matchesFile segments file = .ok true ↔ MeansByNames segments p ∨ MeansByTail segments p
  /-- Only whole names count, unless the one segment is a proper tail of the stem and no directory. -/
  names_only_iff : (matchesFile segments file = .ok true → MeansByNames segments p) ↔
    ¬ ∃ s, segments = [s] ∧ s <:+ p.stem ∧ s ≠ p.stem ∧ s ∉ p.directories

/-- An import path means a file by whole names or by a proper tail of its stem. -/
theorem matchesFile_resolves {importPath file : Text} (hsegments : segments importPath ≠ [])
    (hnamed : RelationAnalysis.Named file) :
    Resolves (segments importPath) file (FilePath.ofText (slashed file)) := by
  have hslash : ∀ s ∈ segments importPath, '/' ∉ s := fun _ hs => (segment_spec hs).2
  have hmatches := matchesFile_of_named hnamed (segments importPath)
  have hiff : matchesFile (segments importPath) file = .ok true ↔
      MeansByNames (segments importPath) (FilePath.ofText (slashed file)) ∨
        MeansByTail (segments importPath) (FilePath.ofText (slashed file)) := by
    rw [hmatches, Except.ok.injEq]
    exact holdsAgainst_iff hsegments hslash (FilePath.no_slash_stem _)
  refine ⟨⟨_, hmatches⟩, hiff, ?_⟩
  rw [hiff]
  constructor
  · rintro h ⟨s, heq, htail, hne, hdirectory⟩
    have hnames := h (.inr ⟨s, heq, htail, hne⟩)
    rw [heq, meansByNames_tail_iff hne] at hnames
    exact hdirectory hnames
  · rintro h (hnames | ⟨s, heq, htail, hne⟩)
    · exact hnames
    · by_contra hnames
      rw [heq, meansByNames_tail_iff hne] at hnames
      exact h ⟨s, heq, htail, hne, hnames⟩

/-- A dotted path and a file deep in a tree, given with backslashes. -/
theorem matchesFile_resolves_dotted :
    segments "com.example.Foo" ≠ [] ∧ RelationAnalysis.Named "src\\com\\example\\Foo.java" ∧
      Resolves (segments "com.example.Foo") "src\\com\\example\\Foo.java"
        (FilePath.ofText (slashed "src\\com\\example\\Foo.java")) ∧
      MeansByNames (segments "com.example.Foo") (FilePath.ofText (slashed "src\\com\\example\\Foo.java")) := by
  have hsegments : segments "com.example.Foo" ≠ [] := by decide
  have hnamed : RelationAnalysis.Named "src\\com\\example\\Foo.java" := by decide
  exact ⟨hsegments, hnamed, matchesFile_resolves hsegments hnamed, by decide⟩

/-- The import of `utils` means a file of another name. -/
theorem matchesFile_longerName :
    matchesFile (segments "utils") "src/myutils.py" = .ok true ∧
      ¬ MeansByNames (segments "utils") (FilePath.ofText (slashed "src/myutils.py")) := by
  decide

end Imports

end SourceChunks
