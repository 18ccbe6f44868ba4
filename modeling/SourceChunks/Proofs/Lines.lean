import SourceChunks.Line.Basic

/-! Lines of a source by index. The end of a declaration is moved up to the last line with text on
it; the text of a range inside the source is the join of exactly its lines. -/

namespace SourceChunks

/-- The line with an index is there and holds more than blanks. -/
def HasText (ls : List Text) (i : Nat) : Prop := Text.allBlank (ls.getD i []) = false

theorem hasText_iff {ls : List Text} {i : Nat} :
    HasText ls i ↔ ∃ line, ls[i]? = some line ∧ Text.allBlank line = false := by
  unfold HasText
  rw [List.getD_eq_getElem?_getD]
  cases h : ls[i]? with
  | none => simp [Text.allBlank]
  | some line => simp

theorem HasText.lt_length {ls : List Text} {i : Nat} (h : HasText ls i) : i < ls.length := by
  obtain ⟨line, hl, _⟩ := hasText_iff.mp h
  exact (List.getElem?_eq_some_iff.mp hl).1

theorem hasText_of_isCodeLine {ls : List Text} {i : Nat} {line : Text} (hline : ls[i]? = some line)
    (h : isCodeLine line = true) : HasText ls i := by
  refine hasText_iff.mpr ⟨line, hline, ?_⟩
  rw [isCodeLine, Bool.and_eq_true, Bool.not_eq_true'] at h
  exact h.1

/-- The number of blanks in front of line `i`. -/
def indentAt (ls : List Text) (i : Nat) : Nat := Text.indent (ls.getD i [])

/-- The lines that are left to read, and the line they start with. -/
theorem getElem?_of_drop_eq_cons {ls rest : List Text} {i : Nat} {line : Text} (h : ls.drop i = line :: rest) :
    ls[i]? = some line ∧ ls.drop (i + 1) = rest := by
  rw [← List.head?_drop, ← List.tail_drop, h]
  exact ⟨rfl, rfl⟩

/-- Line `i` is there, and a test of it gives `answer`. -/
def SeenAt (test : Text → Bool) (ls : List Text) (i : Int) (answer : Bool) : Prop :=
  ∃ (k : Nat) (line : Text), i = k ∧ ls[k]? = some line ∧ test line = answer

/-- A look at a line inside the source. -/
theorem seenAt_lineAt? (test : Text → Bool) {ls : List Text} {i : Int} (h0 : 0 ≤ i) (hlen : i < ls.length) :
    SeenAt test ls i ((lineAt? ls i).any test) := by
  have hi : i.toNat < ls.length := by omega
  refine ⟨i.toNat, ls[i.toNat], (Int.toNat_of_nonneg h0).symm, List.getElem?_eq_getElem hi, ?_⟩
  rw [lineAt?, if_pos h0, List.getElem?_eq_getElem hi, Option.any_some]

/-! ### The last line with text -/

theorem le_lastCodeLine (ls : List Text) (start stop : Nat) : start ≤ lastCodeLine ls start stop := by
  induction stop with
  | zero => exact Nat.le_refl start
  | succ stop ih =>
    rw [lastCodeLine]
    split
    · exact ih
    · exact Nat.le_max_left _ _

theorem lastCodeLine_le (ls : List Text) (start stop : Nat) :
    lastCodeLine ls start stop ≤ max start stop := by
  induction stop with
  | zero => simp [lastCodeLine]
  | succ stop ih =>
    rw [lastCodeLine]
    split
    · omega
    · exact Nat.le_refl _

/-- No line with text lies behind the last one. -/
theorem le_lastCodeLine_of_hasText {ls : List Text} {start stop i : Nat} (hi : HasText ls i)
    (hs : i ≤ stop) : i ≤ lastCodeLine ls start stop := by
  induction stop with
  | zero =>
    have := le_lastCodeLine ls start 0
    omega
  | succ stop ih =>
    rw [lastCodeLine]
    split
    case isTrue h =>
      have hne : i ≠ stop + 1 := by
        intro he
        subst he
        simp [HasText] at hi
        simp [hi] at h
      exact ih (by omega)
    case isFalse => omega

/-- Where the range starts with text it ends with text. -/
theorem hasText_lastCodeLine {ls : List Text} {start stop : Nat} (h : HasText ls start) :
    HasText ls (lastCodeLine ls start stop) := by
  induction stop with
  | zero => exact h
  | succ stop ih =>
    rw [lastCodeLine]
    split
    case isTrue => exact ih
    case isFalse hn =>
      by_cases hs : start ≤ stop
      · rw [Nat.max_eq_right (by omega)]
        simpa [HasText, hs] using hn
      · by_cases he : start = stop + 1
        · rw [he, Nat.max_self, ← he]
          exact h
        · rw [Nat.max_eq_left (by omega)]
          exact h

/-! ### Where a range ends -/

/-- `stop` is the first place behind `i` with a property, or the number of lines if there is none. -/
structure FirstBehind (P : Nat → Prop) (count i stop : Nat) : Prop where
  behind : i < stop
  le : stop ≤ count
  before : ∀ k, i < k → k < stop → ¬ P k
  here : stop < count → P stop

/-- `last` is the last line with text before line `stop`. -/
structure LastText (ls : List Text) (stop last : Nat) : Prop where
  before : last < stop
  text : HasText ls last
  blank : ∀ k, last < k → k < stop → ¬ HasText ls k

/-- A range that starts with text and is ended before line `stop` ends with the last text there. -/
theorem lastText_lastCodeLine {ls : List Text} {start stop : Nat} (h : HasText ls start) (hlt : start < stop) :
    LastText ls stop (lastCodeLine ls start (stop - 1)) := by
  have hle := lastCodeLine_le ls start (stop - 1)
  refine ⟨by omega, hasText_lastCodeLine h, fun k hk hstop htext => ?_⟩
  have hlast : k ≤ lastCodeLine ls start (stop - 1) := le_lastCodeLine_of_hasText htext (by omega)
  omega

/-! ### Marked lines before a header -/

/-- From `first` up to line `i` there are marked lines only, and between them lines that do not count. Unless
it is empty, such a run starts with a marked line. -/
structure Leads (mark counts : Text → Bool) (ls : List Text) (first i : Nat) : Prop where
  le : first ≤ i
  between : ∀ k, first ≤ k → k < i → ∃ line, ls[k]? = some line ∧ (mark line = true ∨ counts line = false)
  begins : first < i → ∃ line, ls[first]? = some line ∧ mark line = true

namespace Leads

variable {mark counts : Text → Bool} {ls : List Text} {first i : Nat} {line : Text}

theorem refl (i : Nat) : Leads mark counts ls i i :=
  ⟨Nat.le_refl i, fun _ h h' => absurd h' (Nat.not_lt_of_le h), fun h => absurd h (Nat.lt_irrefl i)⟩

theorem between_succ (h : Leads mark counts ls first i) (hline : ls[i]? = some line)
    (hkind : mark line = true ∨ counts line = false) {k : Nat} (hk : first ≤ k) (hk' : k < i + 1) :
    ∃ line, ls[k]? = some line ∧ (mark line = true ∨ counts line = false) := by
  rcases Nat.lt_or_eq_of_le (Nat.le_of_lt_succ hk') with hlt | rfl
  · exact h.between k hk hlt
  · exact ⟨line, hline, hkind⟩

theorem of_succ (h : Leads mark counts ls first (i + 1)) (hle : first ≤ i) : Leads mark counts ls first i :=
  ⟨hle, fun k hk hk' => h.between k hk (Nat.lt_succ_of_lt hk'), fun hlt => h.begins (Nat.lt_succ_of_lt hlt)⟩

/-- A line that does not count leaves a run as it is. -/
theorem pass (h : Leads mark counts ls first i) (hlt : first < i) (hline : ls[i]? = some line)
    (hcounts : counts line = false) : Leads mark counts ls first (i + 1) :=
  ⟨Nat.le_succ_of_le h.le, fun _ => h.between_succ hline (.inr hcounts), fun _ => h.begins hlt⟩

/-- A marked line starts a run or goes on with it. -/
theorem extend (h : Leads mark counts ls first i) (hline : ls[i]? = some line) (hmark : mark line = true) :
    Leads mark counts ls first (i + 1) := by
  refine ⟨Nat.le_succ_of_le h.le, fun _ => h.between_succ hline (.inl hmark), fun _ => ?_⟩
  rcases Nat.lt_or_eq_of_le h.le with hlt | rfl
  · exact h.begins hlt
  · exact ⟨line, hline, hmark⟩

end Leads

/-! ### Ranges -/

/-- The range lies inside a source of `count` lines and has at least one line. -/
structure InFile (count : Nat) (first last : Int) : Prop where
  nonneg : 0 ≤ first
  ordered : first ≤ last
  below : last < count

/-- Inside the source the text of a range is the join of its lines. -/
theorem InFile.rangeText_eq {ls : List Text} {first last : Int} (h : InFile ls.length first last) :
    rangeText ls first last = Text.ofLines ((ls.take (last.toNat + 1)).drop first.toNat) := by
  obtain ⟨h0, h1, h2⟩ := h
  have hf : first = (first.toNat : Int) := by omega
  have hl : last + 1 = ((last.toNat + 1 : Nat) : Int) := by omega
  rw [rangeText, lineRange, hl, hf, slice_eq_drop_take ls (by omega), List.drop_take]
  rfl

end SourceChunks
