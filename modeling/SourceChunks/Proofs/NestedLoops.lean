import SourceChunks.Proofs.Headers
import SourceChunks.Proofs.Lines
import SourceChunks.Quality.Loops

/-! Loops inside loops, told from the indentation of the lines alone: a loop lies in another one if all code from
the other one on, up to and with the loop itself, is indented deeper than the other one. While the lines are read,
the stack holds the indents of just those loops that the lines so far have not left, so that a loop is counted once
if there is one around it, however many there are. -/

namespace SourceChunks

namespace Quality

open Pattern

/-! ### Lines -/

/-- Line `i` is neither blank nor a comment. -/
def CodeAt (ls : List Text) (i : Nat) : Prop := isIndentedCode (ls.getD i []) = true

/-- Line `i` begins with a loop. -/
def LoopAt (ls : List Text) (i : Nat) : Prop := isLoopLine (ls.getD i []) = true

/-- Line `i` lies in the body of the loop of line `j`. -/
structure LoopAround (ls : List Text) (j i : Nat) : Prop where
  lt : j < i
  loop : LoopAt ls j
  deeper : ∀ k, j < k → k ≤ i → CodeAt ls k → indentAt ls j < indentAt ls k

/-- Line `i` is a loop in the body of another one. -/
def InnerLoop (ls : List Text) (i : Nat) : Prop := LoopAt ls i ∧ ∃ j, LoopAround ls j i

instance (ls : List Text) (i : Nat) : Decidable (CodeAt ls i) := inferInstanceAs (Decidable (_ = true))

instance (ls : List Text) (i : Nat) : Decidable (LoopAt ls i) := inferInstanceAs (Decidable (_ = true))

instance (ls : List Text) (j i : Nat) : Decidable (LoopAround ls j i) :=
  decidable_of_iff (j < i ∧ LoopAt ls j ∧ ∀ k ≤ i, j < k → CodeAt ls k → indentAt ls j < indentAt ls k)
    ⟨fun ⟨hlt, hloop, hdeeper⟩ => ⟨hlt, hloop, fun k hj hk => hdeeper k hk hj⟩,
      fun h => ⟨h.lt, h.loop, fun k hk hj => h.deeper k hj hk⟩⟩

instance (ls : List Text) (i : Nat) : Decidable (InnerLoop ls i) :=
  decidable_of_iff (LoopAt ls i ∧ ∃ j < i, LoopAround ls j i)
    (and_congr_right fun _ => ⟨fun ⟨j, _, h⟩ => ⟨j, h⟩, fun ⟨j, h⟩ => ⟨j, h.lt, h⟩⟩)

/-- A loop begins with a letter of its first word. -/
theorem head?_trimLeft_of_isLoopLine {line : Text} (h : isLoopLine line = true) :
    ∃ x ∈ ['a', 'f', 'w'], (Text.trimLeft line).head? = some x := by
  rw [isLoopLine, matchStart?, Option.isSome_map, isSome_matchAt?_iff] at h
  have hasync : Spells (opt (lit "async" ++ gap)) _ := ((spells_lit "async").append (spells_someOf isBlank)).opt
  have hword : Spells (oneOf ["for", "while"]) _ := (spells_lit "for").alt (spells_lit "while")
  have hfront : Spells (blanks ++ opt (lit "async" ++ gap) ++ oneOf ["for", "while"]) _ :=
    ((spells_manyOf isBlank).append hasync).append hword
  obtain ⟨d, m, hm, -⟩ := h
  obtain ⟨_, ⟨_, word, rfl, ⟨indent, first, rfl, hindent, hfirst⟩, hword⟩, hpass⟩ := (hfront _ _).mp hm
  have hline : line = indent ++ (first ++ (word ++ m.rest)) := hpass.rest.trans (by simp only [List.append_assoc])
  have hhead : ∃ x ∈ ['a', 'f', 'w'], (first ++ (word ++ m.rest)).head? = some x := by
    rcases hfirst with ⟨_, _, rfl, rfl, -⟩ | rfl
    · exact ⟨'a', by decide, rfl⟩
    · rcases hword with rfl | rfl
      · exact ⟨'f', by decide, rfl⟩
      · exact ⟨'w', by decide, rfl⟩
  obtain ⟨x, hx, hhead⟩ := hhead
  have hletter : isBlank x = false := by
    simp only [List.mem_cons, List.not_mem_nil, or_false] at hx
    rcases hx with rfl | rfl | rfl <;> rfl
  refine ⟨x, hx, ?_⟩
  rw [hline, Text.trimLeft_append_of_stop hindent, hhead]
  rw [hhead, Option.any_some, hletter]

theorem isIndentedCode_of_isLoopLine {line : Text} (h : isLoopLine line = true) : isIndentedCode line = true := by
  obtain ⟨x, hx, hhead⟩ := head?_trimLeft_of_isLoopLine h
  have hne : x ≠ '#' := by
    rintro rfl
    simp at hx
  simp [isIndentedCode, Text.allBlank_of_head?_trimLeft hhead, Text.head?_trim, hhead, hne]

theorem LoopAt.codeAt {ls : List Text} {i : Nat} (h : LoopAt ls i) : CodeAt ls i := isIndentedCode_of_isLoopLine h

/-! ### Open loops -/

/-- The loop of line `j` is open before line `i` is read: no code since then has left it. -/
structure OpenBefore (ls : List Text) (j i : Nat) : Prop where
  lt : j < i
  loop : LoopAt ls j
  deeper : ∀ k, j < k → k < i → CodeAt ls k → indentAt ls j < indentAt ls k

section

variable {ls : List Text} {i j : Nat}

/-- A line lies in a loop that was open before it unless it leaves the loop. -/
theorem loopAround_iff : LoopAround ls j i ↔ OpenBefore ls j i ∧ (CodeAt ls i → indentAt ls j < indentAt ls i) := by
  constructor
  · rintro ⟨hlt, hloop, hdeeper⟩
    exact ⟨⟨hlt, hloop, fun k hj hk => hdeeper k hj (Nat.le_of_lt hk)⟩, hdeeper i hlt (Nat.le_refl i)⟩
  · rintro ⟨⟨hlt, hloop, hdeeper⟩, hi⟩
    refine ⟨hlt, hloop, fun k hj hk => ?_⟩
    rcases Nat.lt_or_eq_of_le hk with hk | rfl
    · exact hdeeper k hj hk
    · exact hi

/-- After a line the loops around it are open, and the one that it begins. -/
theorem openBefore_succ_iff : OpenBefore ls j (i + 1) ↔ LoopAround ls j i ∨ (j = i ∧ LoopAt ls i) := by
  constructor
  · rintro ⟨hlt, hloop, hdeeper⟩
    rcases Nat.lt_succ_iff_lt_or_eq.mp hlt with hlt | rfl
    · exact .inl ⟨hlt, hloop, fun k hj hk => hdeeper k hj (Nat.lt_succ_of_le hk)⟩
    · exact .inr ⟨rfl, hloop⟩
  · rintro (⟨hlt, hloop, hdeeper⟩ | ⟨rfl, hloop⟩)
    · exact ⟨Nat.lt_succ_of_lt hlt, hloop, fun k hj hk => hdeeper k hj (Nat.le_of_lt_succ hk)⟩
    · exact ⟨Nat.lt_succ_self j, hloop, fun k hj hk => by omega⟩

end

/-! ### The stack -/

/-- The stack holds the indents of the loops open before line `i`, the deepest first. -/
structure Stacked (ls : List Text) (i : Nat) (stack : List Nat) : Prop where
  sorted : stack.Pairwise (· > ·)
  mem_iff : ∀ n, n ∈ stack ↔ ∃ j, OpenBefore ls j i ∧ indentAt ls j = n

/-- Leaving the loops on top that are not to the left of a line leaves all of them. -/
theorem mem_dropWhile_iff {stack : List Nat} (h : stack.Pairwise (· > ·)) (indent n : Nat) :
    n ∈ (stack.dropWhile fun l => indent ≤ l) ↔ n ∈ stack ∧ n < indent := by
  induction stack with
  | nil => simp
  | cons l stack ih =>
    obtain ⟨hl, hstack⟩ := List.pairwise_cons.mp h
    by_cases hle : indent ≤ l
    · rw [List.dropWhile_cons_of_pos (by simpa using hle), ih hstack, List.mem_cons]
      constructor
      · exact fun ⟨hn, hlt⟩ => ⟨.inr hn, hlt⟩
      · rintro ⟨rfl | hn, hlt⟩
        · omega
        · exact ⟨hn, hlt⟩
    · rw [List.dropWhile_cons_of_neg (by simpa using hle)]
      refine ⟨fun hn => ⟨hn, ?_⟩, And.left⟩
      rcases List.mem_cons.mp hn with rfl | hn
      · omega
      · have := hl n hn
        omega

theorem nestedFrom_line (ls : List Text) (i : Nat) (stack : List Nat) (rest : List Text) :
    nestedFrom stack (ls.getD i [] :: rest) =
      if CodeAt ls i then
        if LoopAt ls i then
          (if (stack.dropWhile fun l => indentAt ls i ≤ l).isEmpty then 0 else 1) +
            nestedFrom (indentAt ls i :: stack.dropWhile fun l => indentAt ls i ≤ l) rest
        else nestedFrom (stack.dropWhile fun l => indentAt ls i ≤ l) rest
      else nestedFrom stack rest := by
  rw [nestedFrom]
  rfl

namespace Stacked

variable {ls : List Text} {i : Nat} {stack : List Nat}

theorem start (ls : List Text) : Stacked ls 0 [] where
  sorted := .nil
  mem_iff := by
    intro n
    refine ⟨fun h => absurd h List.not_mem_nil, ?_⟩
    rintro ⟨j, hopen, -⟩
    exact absurd hopen.lt (Nat.not_lt_zero j)

/-- A line without code leaves the stack as it is. -/
theorem skip (h : Stacked ls i stack) (hcode : ¬ CodeAt ls i) : Stacked ls (i + 1) stack where
  sorted := h.sorted
  mem_iff := by
    intro n
    rw [h.mem_iff]
    refine exists_congr fun j => and_congr_left fun _ => ?_
    rw [openBefore_succ_iff, loopAround_iff]
    constructor
    · exact fun hopen => .inl ⟨hopen, fun hc => absurd hc hcode⟩
    · rintro (⟨hopen, -⟩ | ⟨-, hloop⟩)
      · exact hopen
      · exact absurd hloop.codeAt hcode

/-- Once a code line has left the loops that it leaves, the stack holds the loops around it. -/
theorem mem_left_iff (h : Stacked ls i stack) (hcode : CodeAt ls i) (n : Nat) :
    n ∈ (stack.dropWhile fun l => indentAt ls i ≤ l) ↔ ∃ j, LoopAround ls j i ∧ indentAt ls j = n := by
  rw [mem_dropWhile_iff h.sorted, h.mem_iff]
  constructor
  · rintro ⟨⟨j, hopen, rfl⟩, hlt⟩
    exact ⟨j, loopAround_iff.mpr ⟨hopen, fun _ => hlt⟩, rfl⟩
  · rintro ⟨j, haround, rfl⟩
    obtain ⟨hopen, hdeeper⟩ := loopAround_iff.mp haround
    exact ⟨⟨j, hopen, rfl⟩, hdeeper hcode⟩

theorem sorted_left (h : Stacked ls i stack) : (stack.dropWhile fun l => indentAt ls i ≤ l).Pairwise (· > ·) :=
  h.sorted.sublist (List.dropWhile_sublist _)

/-- A code line that is not a loop. -/
theorem leave (h : Stacked ls i stack) (hcode : CodeAt ls i) (hloop : ¬ LoopAt ls i) :
    Stacked ls (i + 1) (stack.dropWhile fun l => indentAt ls i ≤ l) where
  sorted := h.sorted_left
  mem_iff := by
    intro n
    rw [h.mem_left_iff hcode]
    simp only [openBefore_succ_iff, hloop, and_false, or_false]

/-- A loop goes on top of the loops around it. -/
theorem enter (h : Stacked ls i stack) (hloop : LoopAt ls i) :
    Stacked ls (i + 1) (indentAt ls i :: stack.dropWhile fun l => indentAt ls i ≤ l) where
  sorted := by
    refine List.pairwise_cons.mpr ⟨fun n hn => ?_, h.sorted_left⟩
    exact ((mem_dropWhile_iff h.sorted _ n).mp hn).2
  mem_iff := by
    intro n
    rw [List.mem_cons, h.mem_left_iff hloop.codeAt]
    simp only [openBefore_succ_iff]
    constructor
    · rintro (rfl | ⟨j, haround, rfl⟩)
      · exact ⟨i, .inr ⟨rfl, hloop⟩, rfl⟩
      · exact ⟨j, .inl haround, rfl⟩
    · rintro ⟨j, haround | ⟨rfl, -⟩, rfl⟩
      · exact .inr ⟨j, haround, rfl⟩
      · exact .inl rfl

/-- Something is left on the stack just when the line lies in a loop. -/
theorem isEmpty_left_iff (h : Stacked ls i stack) (hcode : CodeAt ls i) :
    (stack.dropWhile fun l => indentAt ls i ≤ l).isEmpty = true ↔ ¬ ∃ j, LoopAround ls j i := by
  rw [List.isEmpty_iff, List.eq_nil_iff_forall_not_mem]
  simp only [h.mem_left_iff hcode, not_exists, not_and]
  exact ⟨fun hnone j haround => hnone _ j haround rfl, fun hnone n j haround _ => hnone j haround⟩

/-- From any line on, the pass counts the inner loops among the lines that are left. -/
theorem nestedFrom_eq (h : Stacked ls i stack) {rest : List Text} (hrest : ls.drop i = rest) :
    nestedFrom stack rest = (List.range' i rest.length).countP (InnerLoop ls ·) := by
  induction rest generalizing i stack with
  | nil => rfl
  | cons line rest ih =>
    obtain ⟨hline, hnext⟩ := getElem?_of_drop_eq_cons hrest
    obtain rfl : ls.getD i [] = line := by simp [hline]
    rw [nestedFrom_line, List.length_cons, List.range'_succ, List.countP_cons]
    by_cases hcode : CodeAt ls i
    · rw [if_pos hcode]
      by_cases hloop : LoopAt ls i
      · have hinner : InnerLoop ls i ↔ ¬ (stack.dropWhile fun l => indentAt ls i ≤ l).isEmpty = true := by
          rw [h.isEmpty_left_iff hcode, not_not, InnerLoop, and_iff_right hloop]
        rw [if_pos hloop, ih (h.enter hloop) hnext, Nat.add_comm]
        simp only [decide_eq_true_eq, hinner, ite_not]
      · have hinner : ¬ InnerLoop ls i := fun hin => hloop hin.1
        rw [if_neg hloop, ih (h.leave hcode hloop) hnext]
        simp [hinner]
    · have hinner : ¬ InnerLoop ls i := fun hin => hcode hin.1.codeAt
      rw [if_neg hcode, ih (h.skip hcode) hnext]
      simp [hinner]

end Stacked

/-- The loops counted by one pass are the loops in the body of another one. -/
theorem nestedLoopCount_innerLoops (content : Text) :
    nestedLoopCount content .python =
      (List.range (Text.lines content).length).countP (InnerLoop (Text.lines content) ·) := by
  rw [nestedLoopCount, if_pos rfl, (Stacked.start (Text.lines content)).nestedFrom_eq List.drop_zero,
    List.range_eq_range']

end Quality

end SourceChunks
