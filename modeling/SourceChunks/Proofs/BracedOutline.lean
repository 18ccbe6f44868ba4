import SourceChunks.Proofs.Outlines
import SourceChunks.Proofs.Texts

/-! Declarations found by braces, and the lines that gave them their names. What one line does is said once, case
by case; from that it follows for the whole pass that every declaration goes from its annotations, over the
line that declares it, to a line with text. -/

namespace SourceChunks.Outline.Braces

/-- The first thing on the line is an at sign. -/
def isAnnotating (line : Text) : Bool := (Text.trim line).head? == some '@'

theorem hasText_of_isAnnotating {ls : List Text} {i : Nat} {line : Text} (hline : ls[i]? = some line)
    (h : isAnnotating line = true) : HasText ls i := by
  refine hasText_iff.mpr ⟨line, hline, ?_⟩
  rw [Bool.eq_false_iff]
  intro hblank
  simp [isAnnotating, Text.trim, Text.trimLeft_of_allBlank hblank, Text.trimRight] at h

/-! ### One line -/

/-- The depth of braces after a line. -/
def depthAfter (line : Text) (s : State) : Nat := s.depth + line.count '\x7b' - line.count '\x7d'

/-- The declaration that line `i` opens. -/
def opening (i : Nat) (line : Text) (s : State) (header : NodeKind × Text) : Opening :=
  { kind := header.1, name := header.2, first := s.annotation.getD i, indent := Text.indent line, depth := s.depth }

/-- A declaration that ends with its first line: either its braces are closed there, or it has none and ends
with a semicolon. -/
def endsAtOnce (line : Text) (s : State) : Prop :=
  if 0 < line.count '\x7b' then depthAfter line s ≤ s.depth else (Text.trim line).getLast? = some ';'

/-- What line `i` does: the declarations that end, and the state after it. -/
inductive Effect (language : Language) (ls : List Text) (i : Nat) (line : Text) (s : State) :
    List Node → State → Prop where
  /-- A blank line or a comment. -/
  | nothing (hcode : isCodeLine line = false) : Effect language ls i line s [] s
  /-- An annotation outside all declarations. -/
  | annotates (hcode : isCodeLine line = true) (hmark : isAnnotating line = true) (hnone : s.current = none) :
      Effect language ls i line s [] { s with depth := depthAfter line s, annotation := s.annotation.or (some i) }
  /-- A declaration of several lines; it ends the one before it. -/
  | opens (hcode : isCodeLine line = true) (hadmits : s.admits = true) {header : NodeKind × Text}
      (hheader : declaration? language line = some header) (hends : ¬ endsAtOnce line s) :
      Effect language ls i line s (s.closed ls (i - 1))
        { current := some (opening i line s header), depth := depthAfter line s }
  /-- A declaration of one line. -/
  | declares (hcode : isCodeLine line = true) (hadmits : s.admits = true) {header : NodeKind × Text}
      (hheader : declaration? language line = some header) (hends : endsAtOnce line s) :
      Effect language ls i line s (s.closed ls (i - 1) ++ [(opening i line s header).close ls i])
        { depth := depthAfter line s }
  /-- The last line of the open declaration. -/
  | ends (hcode : isCodeLine line = true) (hheader : s.admits = true → declaration? language line = none)
      (hcloses : 0 < line.count '\x7d') (hleft : s.current.any (fun n => depthAfter line s ≤ n.depth) = true) :
      Effect language ls i line s (s.closed ls i) { depth := depthAfter line s }
  /-- Any other line. -/
  | passes (hcode : isCodeLine line = true) (hheader : s.admits = true → declaration? language line = none)
      (hstays : 0 < line.count '\x7d' → s.current.any (fun n => depthAfter line s ≤ n.depth) = false) :
      Effect language ls i line s [] { s with depth := depthAfter line s, annotation := none }

theorem step_effect (language : Language) (ls : List Text) (i : Nat) (line : Text) (s : State) :
    Effect language ls i line s (step language ls i line s).1 (step language ls i line s).2 := by
  unfold step
  split
  case isTrue hcode => exact .nothing (by simpa using hcode)
  case isFalse hcode =>
    have hcode : isCodeLine line = true := by simpa using hcode
    dsimp only
    split
    case isTrue hmark =>
      obtain ⟨hmark, hnone⟩ := Bool.and_eq_true_iff.mp hmark
      exact .annotates hcode hmark (Option.isNone_iff_eq_none.mp hnone)
    case isFalse =>
      split
      case h_1 kind name hsome =>
        rw [Option.ite_none_right_eq_some] at hsome
        by_cases hends : endsAtOnce line s
        · rw [if_pos]
          · exact .declares hcode hsome.1 hsome.2 hends
          · unfold endsAtOnce depthAfter at hends
            split at hends <;> simp_all
        · rw [if_neg]
          · exact .opens hcode hsome.1 hsome.2 hends
          · unfold endsAtOnce depthAfter at hends
            split at hends <;> simp_all
      case h_2 hnone =>
        have hheader : s.admits = true → declaration? language line = none := by
          intro hadmits
          rwa [if_pos hadmits] at hnone
        split
        case isTrue hends =>
          obtain ⟨hcloses, hleft⟩ := Bool.and_eq_true_iff.mp hends
          exact .ends hcode hheader (of_decide_eq_true hcloses) hleft
        case isFalse hends =>
          refine .passes hcode hheader fun hcloses => ?_
          rw [Bool.and_eq_true, not_and, Bool.not_eq_true] at hends
          exact hends (decide_eq_true hcloses)

/-! ### Declared lines -/

/-- Line `i` declares the kind and the name. -/
def DeclaredBy (language : Language) (ls : List Text) (i : Nat) (kind : NodeKind) (name : Text) : Prop :=
  ∃ line, ls[i]? = some line ∧ isCodeLine line = true ∧ declaration? language line = some (kind, name)

/-- The node goes over line `i`, which gave it its name, and only annotations, comments and blank lines come before
that line in it. It begins and ends with text. -/
structure Around (language : Language) (ls : List Text) (n : Node) (i : Nat) : Prop where
  from_first : n.first ≤ i
  to_last : (i : Int) ≤ n.last
  declared : DeclaredBy language ls i n.kind n.name
  before : ∀ k : Nat, n.first ≤ k → k < i →
    ∃ line, ls[k]? = some line ∧ (isAnnotating line = true ∨ isCodeLine line = false)
  first_text : HasText ls n.first.toNat
  last_text : HasText ls n.last.toNat

/-- A declaration that was opened by line `i`, at the first of its annotations. -/
structure OpenedBy (language : Language) (ls : List Text) (n : OpenNode) (i : Nat) : Prop where
  declared : DeclaredBy language ls i n.kind n.name
  leads : Leads isAnnotating isCodeLine ls n.first i

namespace OpenedBy

variable {language : Language} {ls : List Text} {n : OpenNode} {i : Nat}

theorem first_text (h : OpenedBy language ls n i) : HasText ls n.first := by
  rcases Nat.lt_or_eq_of_le h.leads.le with hlt | heq
  · obtain ⟨line, hline, hmark⟩ := h.leads.begins hlt
    exact hasText_of_isAnnotating hline hmark
  · obtain ⟨line, hline, hcode, _⟩ := h.declared
    exact heq ▸ hasText_of_isCodeLine hline hcode

/-- Wherever it is ended from the declaring line on, the declaration is around that line. -/
theorem around_close (h : OpenedBy language ls n i) {stop : Nat} (hi : i ≤ stop) :
    Around language ls (n.close ls stop) i := by
  have htext : HasText ls i := by
    obtain ⟨line, hline, hcode, _⟩ := h.declared
    exact hasText_of_isCodeLine hline hcode
  have hfirst : (n.close ls stop).first = n.first := rfl
  constructor
  case from_first => exact Int.ofNat_le.mpr h.leads.le
  case to_last => exact le_close_last n ls htext hi
  case declared => exact h.declared
  case before =>
    intro k hk
    exact h.leads.between k (Int.ofNat_le.mp hk)
  case first_text => exact h.first_text
  case last_text => exact hasText_lastCodeLine h.first_text

end OpenedBy

/-! ### The pass -/

/-- Before line `i`: the open declaration was opened by an earlier line, and the annotations at hand lead up to
line `i`. -/
structure Tracks (language : Language) (ls : List Text) (i : Nat) (s : State) : Prop where
  current : ∀ n, s.current = some n → ∃ j < i, OpenedBy language ls n.toOpenNode j
  annotations : ∀ d, s.annotation = some d → d < i ∧ Leads isAnnotating isCodeLine ls d i

namespace Tracks

variable {language : Language} {ls : List Text} {i : Nat} {s : State} {line : Text}

theorem closed_around (h : Tracks language ls i s) {stop : Nat} (hstop : i ≤ stop + 1) :
    ∀ n ∈ s.closed ls stop, ∃ j, Around language ls n j := by
  intro n hn
  obtain ⟨o, ho, rfl⟩ := Option.map_eq_some_iff.mp (Option.mem_toList.mp hn)
  obtain ⟨j, hj, hopened⟩ := h.current o ho
  exact ⟨j, hopened.around_close (by omega)⟩

/-- The annotations at hand belong to the declaration of line `i`. -/
theorem openedBy_opening (h : Tracks language ls i s) (hline : ls[i]? = some line) (hcode : isCodeLine line = true)
    {header : NodeKind × Text} (hheader : declaration? language line = some header) :
    OpenedBy language ls (opening i line s header).toOpenNode i := by
  refine ⟨⟨line, hline, hcode, hheader⟩, ?_⟩
  have hfirst : (opening i line s header).first = s.annotation.getD i := rfl
  rw [hfirst]
  cases hs : s.annotation with
  | none => exact .refl i
  | some d => exact (h.annotations d hs).2

theorem current_succ (h : Tracks language ls i s) :
    ∀ n, s.current = some n → ∃ j < i + 1, OpenedBy language ls n.toOpenNode j := by
  intro n hn
  obtain ⟨j, hj, hopened⟩ := h.current n hn
  exact ⟨j, Nat.lt_succ_of_lt hj, hopened⟩

/-- What a line ends is around the line that declared it, and the state after the line is as before the next
one. -/
theorem effect (h : Tracks language ls i s) (hline : ls[i]? = some line) {ended : List Node} {next : State}
    (he : Effect language ls i line s ended next) :
    (∀ n ∈ ended, ∃ j, Around language ls n j) ∧ Tracks language ls (i + 1) next := by
  cases he with
  | nothing hcode =>
    refine ⟨by simp, h.current_succ, ?_⟩
    intro d hd
    obtain ⟨hlt, hleads⟩ := h.annotations d hd
    exact ⟨Nat.lt_succ_of_lt hlt, hleads.pass hlt hline hcode⟩
  | annotates hcode hmark hnone =>
    refine ⟨by simp, h.current_succ, ?_⟩
    intro d hd
    cases hs : s.annotation with
    | none =>
      obtain rfl : i = d := by simpa [hs] using hd
      exact ⟨Nat.lt_succ_self i, (Leads.refl i).extend hline hmark⟩
    | some e =>
      obtain rfl : e = d := by simpa [hs] using hd
      obtain ⟨hlt, hleads⟩ := h.annotations e hs
      exact ⟨Nat.lt_succ_of_lt hlt, hleads.extend hline hmark⟩
  | opens hcode _ hheader _ =>
    refine ⟨h.closed_around (by omega), ?_, by simp⟩
    intro n hn
    obtain rfl := Option.some.inj hn
    exact ⟨i, Nat.lt_succ_self i, h.openedBy_opening hline hcode hheader⟩
  | declares hcode _ hheader _ =>
    refine ⟨?_, by simp, by simp⟩
    intro n hn
    rcases List.mem_append.mp hn with hn | hn
    · exact h.closed_around (by omega) n hn
    · obtain rfl := List.mem_singleton.mp hn
      exact ⟨i, (h.openedBy_opening hline hcode hheader).around_close (Nat.le_refl i)⟩
  | ends _ _ _ _ => exact ⟨h.closed_around (by omega), by simp, by simp⟩
  | passes _ _ _ => exact ⟨by simp, h.current_succ, by simp⟩

theorem nodesFrom_around (h : Tracks language ls i s) {rest : List Text} (hr : ls.drop i = rest) (hi : i ≤ ls.length) :
    ∀ n ∈ nodesFrom language ls i rest s, ∃ j, Around language ls n j := by
  induction rest generalizing i s with
  | nil => exact h.closed_around (by omega)
  | cons line rest ih =>
    obtain ⟨hline, hrest⟩ := getElem?_of_drop_eq_cons hr
    obtain ⟨hended, hnext⟩ := h.effect hline (step_effect language ls i line s)
    intro n hn
    rcases List.mem_append.mp hn with hn | hn
    · exact hended n hn
    · exact ih hnext hrest (List.getElem?_eq_some_iff.mp hline).1 n hn

end Tracks

/-- Declarations of a source in order: inside the source, without a line in common, and each of them around the
line that declares it. -/
structure Outlines (language : Language) (ls : List Text) (ns : List Node) : Prop where
  inFile : ∀ n ∈ ns, 0 ≤ n.first ∧ n.first ≤ n.last ∧ n.last < ls.length
  apart : ns.Pairwise fun a b => a.last < b.first
  around : ∀ n ∈ ns, ∃ i, Around language ls n i

/-- Whether the braces match or not, the declarations found by them are an outline of the source. -/
theorem nodes_outlines (language : Language) (ls : List Text) : Outlines language ls (nodes language ls) where
  inFile := (nodes_separate language ls).range
  apart := (nodes_separate language ls).apart
  around := by
    have hstart : Tracks language ls 0 {} := ⟨by simp, by simp⟩
    exact hstart.nodesFrom_around List.drop_zero (Nat.zero_le _)

end SourceChunks.Outline.Braces
