import SourceChunks.Outline.Indentation
import SourceChunks.Proofs.Matching
import SourceChunks.Proofs.Texts

/-! Lines that declare a function or a class of an indented language. What a header is made of is said for its text:
blanks, a keyword, more blanks, and a name that goes as far as it can. The matcher finds a declaration on a line
exactly when the line is made so, and there is only one way to read it. -/

namespace SourceChunks

namespace Pattern

/-! ### Spelling -/

/-- Wherever it stands, the pattern passes the texts of `L` and no others. -/
def Spells (p : Pattern) (L : Text → Prop) : Prop :=
  ∀ c d : Cursor, p.Reads c d ↔ ∃ w, L w ∧ c.Passes w d

theorem spells_lit (s : String) : Spells (lit s) (· = s.toList) := by
  intro c d
  simp [lit, reads_ofChars_iff]

theorem unlabelled_lit (s : String) : (lit s).Unlabelled := by
  rw [lit]
  induction s.toList with
  | nil => trivial
  | cons x xs ih =>
    cases xs with
    | nil => trivial
    | cons y ys => exact ⟨trivial, ih⟩

theorem spells_manyOf (p : Char → Bool) : Spells (manyOf p) fun w => w.all p = true := by
  intro c d
  simp [manyOf, Reads, and_comm]

theorem spells_someOf (p : Char → Bool) : Spells (someOf p) fun w => w ≠ [] ∧ w.all p = true := by
  intro c d
  simp only [someOf, Reads, Nat.one_le_iff_ne_zero, ne_eq, List.length_eq_zero_iff, Option.mem_def, reduceCtorEq,
    false_imp_iff, implies_true, and_true]
  exact exists_congr fun w => by tauto

section

variable {p q : Pattern} {K L : Text → Prop}

theorem Spells.append (hp : Spells p K) (hq : Spells q L) : Spells (p ++ q) fun w => ∃ a b, w = a ++ b ∧ K a ∧ L b := by
  intro c d
  show (∃ m, p.Reads c m ∧ q.Reads m d) ↔ _
  constructor
  · rintro ⟨m, hm, hd⟩
    obtain ⟨a, ha, hca⟩ := (hp _ _).mp hm
    obtain ⟨b, hb, hmb⟩ := (hq _ _).mp hd
    exact ⟨a ++ b, ⟨a, b, rfl, ha, hb⟩, hca.trans hmb⟩
  · rintro ⟨_, ⟨a, b, rfl, ha, hb⟩, h⟩
    obtain ⟨m, hm, hd⟩ := Cursor.Passes.append_iff.mp h
    exact ⟨m, (hp _ _).mpr ⟨a, ha, hm⟩, (hq _ _).mpr ⟨b, hb, hd⟩⟩

theorem Spells.opt (hp : Spells p L) : Spells (opt p) fun w => L w ∨ w = [] := by
  intro c d
  show (p.Reads c d ∨ d = c) ↔ _
  rw [hp]
  constructor
  · rintro (⟨w, hw, h⟩ | rfl)
    · exact ⟨w, .inl hw, h⟩
    · exact ⟨[], .inr rfl, .refl d⟩
  · rintro ⟨w, hw | rfl, h⟩
    · exact .inl ⟨w, hw, h⟩
    · exact .inr h.eq_of_nil

theorem Spells.alt (hp : Spells p K) (hq : Spells q L) : Spells (.alt p q) fun w => K w ∨ L w := by
  intro c d
  show (p.Reads c d ∨ q.Reads c d) ↔ _
  rw [hp, hq]
  simp only [or_and_right, exists_or]

/-- The same texts said in another way. -/
theorem Spells.congr (hp : Spells p K) (h : ∀ w, K w ↔ L w) : Spells p L := by
  intro c d
  rw [hp]
  simp only [h]

end

/-! ### A captured name -/

theorem wordOr_nil : wordOr [] = isWordChar := by
  funext x
  simp [wordOr]

/-- The name that is captured goes on as long as there are word characters. -/
theorem matchAt?_capture_plainName (label : Nat) (c : Cursor) {x : Char} {xs : Text} (hc : c.rest = x :: xs)
    (hx : letterOr "_" x = true) :
    ∃ d, (capture label plainName).matchAt? c = some (d, [⟨label, x :: xs, (xs.takeWhile isWordChar).length + 1⟩]) := by
  obtain ⟨d, hoffset, hrun⟩ := run?_nameOf [] hc hx
  have hlength : d.offset - c.offset = (xs.takeWhile isWordChar).length + 1 := by
    rw [hoffset, wordOr_nil]
    omega
  refine ⟨d, hrun _ _ _ ?_⟩
  rw [hc, hlength]

theorem reads_capture_plainName {label : Nat} {c : Cursor} :
    (∃ d, (capture label plainName).Reads c d) ↔ ∃ x xs, c.rest = x :: xs ∧ letterOr "_" x = true := by
  constructor
  · rintro ⟨d, m, ⟨x, hx, hpass⟩, _⟩
    exact ⟨x, m.rest, hpass.rest, hx⟩
  · rintro ⟨x, xs, hc, hx⟩
    obtain ⟨d, hd⟩ := matchAt?_capture_plainName label c hc hx
    exact isSome_matchAt?_iff.mp (by rw [hd]; rfl)

section

variable {front : Pattern} {L : Text → Prop} {t : Text}

/-- A name is captured where a front and the beginning of a name stand. -/
theorem isSome_matchStart?_named (hfront : Spells front L) {before xs : Text} {x : Char} (hbefore : L before)
    (hx : letterOr "_" x = true) :
    ((front ++ capture 1 plainName).matchStart? (before ++ x :: xs)).isSome = true := by
  rw [matchStart?, Option.isSome_map, isSome_matchAt?_iff]
  obtain ⟨m, hm, hrest⟩ := Cursor.exists_passes_start before (x :: xs)
  obtain ⟨d, hd⟩ := reads_capture_plainName.mpr ⟨x, xs, hrest, hx⟩
  exact ⟨d, m, (hfront _ _).mpr ⟨before, hbefore, hm⟩, hd⟩

/-- The captured name. -/
theorem get_matchStart?_named (hfront : Spells front L) (hplain : front.Unlabelled) {m : Match}
    (h : (front ++ capture 1 plainName).matchStart? t = some m) :
    ∃ before x xs, t = before ++ x :: xs ∧ L before ∧ letterOr "_" x = true ∧
      m.get 1 = x :: xs.takeWhile isWordChar := by
  obtain ⟨o, ho, rfl⟩ := Option.map_eq_some_iff.mp h
  obtain ⟨c, hc, hname⟩ := run?_hands hplain (ho : front.run? (.start t) [] _ = some o)
  have hname : (capture 1 plainName).matchAt? c = some o := hname
  obtain ⟨before, hbefore, hpass⟩ := (hfront _ _).mp hc
  obtain ⟨x, xs, hrest, hx⟩ := reads_capture_plainName.mp (isSome_matchAt?_iff.mp (by rw [hname]; rfl))
  obtain ⟨d, hd⟩ := matchAt?_capture_plainName 1 c hrest hx
  obtain rfl : (d, _) = o := Option.some.inj (hd.symm.trans hname)
  refine ⟨before, x, xs, hrest ▸ hpass.rest, hbefore, hx, ?_⟩
  have htake : xs.take (xs.takeWhile isWordChar).length = xs.takeWhile isWordChar :=
    (List.prefix_iff_eq_take.mp (List.takeWhile_prefix _)).symm
  simp [toMatch, Match.get, Match.get?, Captures.get?, htake]

end

end Pattern

namespace Outline.Indentation

open Pattern

/-! ### Headers -/

/-- At least one blank, and nothing else. -/
def Gap (w : Text) : Prop := w ≠ [] ∧ w.all isBlank = true

/-- The words that tell what is declared. -/
inductive Keyword : NodeKind → Text → Prop where
  | function : Keyword .function "def".toList
  | async {gap : Text} (h : Gap gap) : Keyword .function ("async".toList ++ gap ++ "def".toList)
  | class_ : Keyword .class_ "class".toList

/-- What stands before a declared name. -/
def Front (kind : NodeKind) (w : Text) : Prop :=
  ∃ indent keyword gap, w = indent ++ keyword ++ gap ∧ indent.all isBlank = true ∧ Keyword kind keyword ∧ Gap gap

/-- A letter or an underscore, and then word characters. -/
def IsName : Text → Prop
  | [] => False
  | x :: xs => (x.isAlpha = true ∨ x = '_') ∧ xs.all isWordChar = true

/-- The line declares `name`. The name is not cut short. -/
def Heads (line : Text) (kind : NodeKind) (name : Text) : Prop :=
  ∃ front rest, line = front ++ name ++ rest ∧ Front kind front ∧ IsName name ∧ rest.head?.any isWordChar = false

theorem spells_functionFront : Spells (blanks ++ opt (lit "async" ++ gap) ++ lit "def" ++ gap) (Front .function) := by
  refine ((((spells_manyOf isBlank).append ((spells_lit "async").append (spells_someOf isBlank)).opt).append
    (spells_lit "def")).append (spells_someOf isBlank)).congr fun w => ?_
  constructor
  · rintro ⟨_, gap, rfl, ⟨_, _, rfl, ⟨indent, _, rfl, hindent, ⟨_, between, rfl, rfl, hbetween⟩ | rfl⟩, rfl⟩, hgap⟩
    · exact ⟨indent, _, gap, by simp, hindent, .async hbetween, hgap⟩
    · exact ⟨indent, _, gap, by simp, hindent, .function, hgap⟩
  · rintro ⟨indent, keyword, gap, rfl, hindent, hkeyword, hgap⟩
    cases hkeyword with
    | function => exact ⟨_, gap, rfl, ⟨_, _, rfl, ⟨indent, [], by simp, hindent, .inr rfl⟩, rfl⟩, hgap⟩
    | @async between hbetween =>
      exact ⟨_, gap, rfl, ⟨_, _, by simp, ⟨indent, _, rfl, hindent, .inl ⟨_, between, rfl, rfl, hbetween⟩⟩, rfl⟩, hgap⟩

theorem spells_classFront : Spells (blanks ++ lit "class" ++ gap) (Front .class_) := by
  refine (((spells_manyOf isBlank).append (spells_lit "class")).append (spells_someOf isBlank)).congr fun w => ?_
  constructor
  · rintro ⟨_, gap, rfl, ⟨indent, _, rfl, hindent, rfl⟩, hgap⟩
    exact ⟨indent, _, gap, rfl, hindent, .class_, hgap⟩
  · rintro ⟨indent, _, gap, rfl, hindent, ⟨⟩, hgap⟩
    exact ⟨_, gap, rfl, ⟨indent, _, rfl, hindent, rfl⟩, hgap⟩

theorem unlabelled_functionFront : (blanks ++ opt (lit "async" ++ gap) ++ lit "def" ++ gap).Unlabelled :=
  ⟨⟨⟨trivial, ⟨unlabelled_lit _, trivial⟩, trivial⟩, unlabelled_lit _⟩, trivial⟩

theorem unlabelled_classFront : (blanks ++ lit "class" ++ gap).Unlabelled :=
  ⟨⟨trivial, unlabelled_lit _⟩, trivial⟩

/-! ### Only one reading -/

theorem IsName.all_isWordChar {name : Text} (h : IsName name) : name.all isWordChar = true := by
  cases name with
  | nil => rfl
  | cons x xs =>
    obtain ⟨hx, hxs⟩ := h
    have hword : isWordChar x = true := by
      rcases hx with halpha | rfl
      · exact isWordChar_of_isAlpha halpha
      · decide
    rw [List.all_cons, hword, hxs, Bool.and_self]

theorem IsName.head?_not_blank {name : Text} (h : IsName name) (rest : Text) :
    (name ++ rest).head?.any isBlank = false := by
  have hall := h.all_isWordChar
  cases name with
  | nil => exact h.elim
  | cons x xs =>
    rw [List.all_cons, Bool.and_eq_true] at hall
    by_contra hblank
    have hx : isBlank x = true := by simpa using hblank
    rw [not_isWordChar_of_isBlank hx] at hall
    cases hall.1

theorem Keyword.head?_not_blank {kind : NodeKind} {keyword : Text} (h : Keyword kind keyword) (rest : Text) :
    (keyword ++ rest).head?.any isBlank = false := by
  cases h <;> rfl

/-- What is declared and where the name begins does not depend on how the words are read. -/
theorem Keyword.unique {kind kind' : NodeKind} {keyword keyword' gap gap' back back' : Text}
    (h : Keyword kind keyword) (h' : Keyword kind' keyword') (hgap : Gap gap) (hgap' : Gap gap')
    (hback : back.head?.any isBlank = false) (hback' : back'.head?.any isBlank = false)
    (heq : keyword ++ (gap ++ back) = keyword' ++ (gap' ++ back')) : kind = kind' ∧ back = back' := by
  cases h with
  | function =>
    cases h' with
    | function => exact ⟨rfl, (Text.cut_unique (List.append_cancel_left heq) hgap.2 hgap'.2 hback hback').2⟩
    | async => simp at heq
    | class_ => simp at heq
  | async hbetween =>
    cases h' with
    | function => simp at heq
    | async hbetween' =>
      rw [List.append_assoc, List.append_assoc, List.append_assoc, List.append_assoc] at heq
      have hdef := Text.cut_unique (List.append_cancel_left heq) hbetween.2 hbetween'.2 rfl rfl
      exact ⟨rfl, (Text.cut_unique (List.append_cancel_left hdef.2) hgap.2 hgap'.2 hback hback').2⟩
    | class_ => simp at heq
  | class_ =>
    cases h' with
    | function => simp at heq
    | async => simp at heq
    | class_ => exact ⟨rfl, (Text.cut_unique (List.append_cancel_left heq) hgap.2 hgap'.2 hback hback').2⟩

/-- A line declares one thing at most. -/
theorem Heads.unique {line : Text} {kind kind' : NodeKind} {name name' : Text} (h : Heads line kind name)
    (h' : Heads line kind' name') : kind = kind' ∧ name = name' := by
  obtain ⟨_, rest, rfl, ⟨indent, keyword, gap, rfl, hindent, hkeyword, hgap⟩, hname, hrest⟩ := h
  obtain ⟨_, rest', heq, ⟨indent', keyword', gap', rfl, hindent', hkeyword', hgap'⟩, hname', hrest'⟩ := h'
  simp only [List.append_assoc] at heq
  have hwords := (Text.cut_unique heq hindent hindent' (hkeyword.head?_not_blank _) (hkeyword'.head?_not_blank _)).2
  obtain ⟨hkind, hback⟩ :=
    hkeyword.unique hkeyword' hgap hgap' (hname.head?_not_blank _) (hname'.head?_not_blank _) hwords
  exact ⟨hkind, (Text.cut_unique hback hname.all_isWordChar hname'.all_isWordChar hrest hrest').1⟩

/-! ### The matcher finds the headers -/

theorem isName_cons {x : Char} {xs : Text} (hx : letterOr "_" x = true) : IsName (x :: xs.takeWhile isWordChar) := by
  refine ⟨?_, List.all_takeWhile⟩
  simpa [letterOr] using hx

/-- A front and a captured name make a header. -/
theorem heads_of_matchStart? {front : Pattern} {kind : NodeKind} (hfront : Spells front (Front kind))
    (hplain : front.Unlabelled) {line : Text} {m : Match}
    (h : (front ++ capture 1 plainName).matchStart? line = some m) : Heads line kind (m.get 1) := by
  obtain ⟨before, x, xs, rfl, hbefore, hx, hname⟩ := get_matchStart?_named hfront hplain h
  rw [hname]
  refine ⟨before, xs.dropWhile isWordChar, ?_, hbefore, isName_cons hx, Text.head?_dropWhile isWordChar xs⟩
  rw [List.append_assoc, List.cons_append, List.takeWhile_append_dropWhile]

theorem isSome_matchStart?_of_heads {front : Pattern} {kind : NodeKind} (hfront : Spells front (Front kind))
    {line name : Text} (h : Heads line kind name) :
    ((front ++ capture 1 plainName).matchStart? line).isSome = true := by
  obtain ⟨before, rest, rfl, hbefore, hname, _⟩ := h
  cases name with
  | nil => exact hname.elim
  | cons x xs =>
    have hx : letterOr "_" x = true := by simpa [letterOr] using hname.1
    rw [List.append_assoc, List.cons_append]
    exact isSome_matchStart?_named hfront hbefore hx

/-- What is found on a line is what it declares. -/
theorem header?_eq_some_iff {line name : Text} {kind : NodeKind} :
    header? line = some (kind, name) ↔ Heads line kind name := by
  have hsound : ∀ {kind name}, header? line = some (kind, name) → Heads line kind name := by
    intro kind name h
    rcases Option.or_eq_some_iff.mp h with h | ⟨_, h⟩
    · obtain ⟨m, hm, heq⟩ := Option.map_eq_some_iff.mp h
      obtain ⟨rfl, rfl⟩ := Prod.mk.inj heq
      exact heads_of_matchStart? spells_functionFront unlabelled_functionFront hm
    · obtain ⟨m, hm, heq⟩ := Option.map_eq_some_iff.mp h
      obtain ⟨rfl, rfl⟩ := Prod.mk.inj heq
      exact heads_of_matchStart? spells_classFront unlabelled_classFront hm
  refine ⟨hsound, fun h => ?_⟩
  have hsome : (header? line).isSome = true := by
    rw [header?, Option.isSome_or, Option.isSome_map, Option.isSome_map, Bool.or_eq_true]
    obtain ⟨_, _, _, ⟨_, _, _, _, _, hkeyword, _⟩, _⟩ := id h
    cases hkeyword with
    | function => exact .inl (isSome_matchStart?_of_heads spells_functionFront h)
    | async => exact .inl (isSome_matchStart?_of_heads spells_functionFront h)
    | class_ => exact .inr (isSome_matchStart?_of_heads spells_classFront h)
  obtain ⟨⟨kind', name'⟩, hfound⟩ := Option.isSome_iff_exists.mp hsome
  obtain ⟨rfl, rfl⟩ := (hsound hfound).unique h
  exact hfound

/-! ### What a line begins with -/

section

variable {line : Text} {x : Char}

theorem counts_of_head? (h : (Text.trimLeft line).head? = some x) (hx : x ≠ '#') : counts line = true := by
  have htext : Text.allBlank line = false := Text.allBlank_of_head?_trimLeft h
  simp [counts, htext, h, hx]

theorem isCodeLine_of_head? (h : (Text.trimLeft line).head? = some x) (hx : x ∉ ['/', '#', '*']) :
    isCodeLine line = true := by
  have htext : Text.allBlank line = false := Text.allBlank_of_head?_trimLeft h
  obtain ⟨xs, hxs⟩ : ∃ xs, Text.trimLeft line = x :: xs := List.head?_eq_some_iff.mp h
  have hcomment : isCommentLine line = false := by
    rw [isCommentLine, hxs]
    simp only [List.mem_cons, List.not_mem_nil, or_false, not_or] at hx
    simp [Text.startsWithAny, commentMarks, List.isPrefixOf, Ne.symm hx.1, Ne.symm hx.2.1, Ne.symm hx.2.2]
  rw [isCodeLine, htext, hcomment]
  rfl

end

/-- A header begins with a letter of its keyword. -/
theorem Heads.head?_trimLeft {line : Text} {kind : NodeKind} {name : Text} (h : Heads line kind name) :
    ∃ x ∈ ['d', 'a', 'c'], (Text.trimLeft line).head? = some x := by
  obtain ⟨_, rest, rfl, ⟨indent, keyword, gap, rfl, hindent, hkeyword, _⟩, _⟩ := h
  simp only [List.append_assoc]
  rw [Text.trimLeft_append_of_stop hindent (hkeyword.head?_not_blank _)]
  cases hkeyword with
  | function => exact ⟨'d', by decide, rfl⟩
  | async => exact ⟨'a', by decide, rfl⟩
  | class_ => exact ⟨'c', by decide, rfl⟩

theorem Heads.counts {line : Text} {kind : NodeKind} {name : Text} (h : Heads line kind name) :
    counts line = true := by
  obtain ⟨x, hx, hhead⟩ := h.head?_trimLeft
  refine counts_of_head? hhead ?_
  rintro rfl
  simp at hx

theorem Heads.isCodeLine {line : Text} {kind : NodeKind} {name : Text} (h : Heads line kind name) :
    isCodeLine line = true := by
  obtain ⟨x, hx, hhead⟩ := h.head?_trimLeft
  refine isCodeLine_of_head? hhead ?_
  simp only [List.mem_cons, List.not_mem_nil, or_false] at hx
  rcases hx with rfl | rfl | rfl <;> decide

/-- A decorator is an at sign with a word behind it. -/
theorem isDecorator_iff {line : Text} :
    isDecorator line = true ↔
      ∃ indent x rest, line = indent ++ '@' :: x :: rest ∧ indent.all isBlank = true ∧ isWordChar x = true := by
  have hspells := ((spells_manyOf isBlank).append (spells_lit "@")).append (spells_someOf isWordChar)
  rw [isDecorator, matchStart?, Option.isSome_map, isSome_matchAt?_iff]
  constructor
  · rintro ⟨d, hd⟩
    obtain ⟨_, ⟨_, word, rfl, ⟨indent, _, rfl, hindent, rfl⟩, hne, hword⟩, hpass⟩ := (hspells _ _).mp hd
    obtain ⟨x, xs, rfl⟩ := List.exists_cons_of_ne_nil hne
    rw [List.all_cons, Bool.and_eq_true] at hword
    refine ⟨indent, x, xs ++ d.rest, ?_, hindent, hword.1⟩
    have hrest : line = _ := hpass.rest
    simpa using hrest
  · rintro ⟨indent, x, rest, rfl, hindent, hx⟩
    have hline : indent ++ '@' :: x :: rest = indent ++ "@".toList ++ [x] ++ rest := by simp
    obtain ⟨d, hd, _⟩ := Cursor.exists_passes_start (indent ++ "@".toList ++ [x]) rest
    rw [hline]
    exact ⟨d, (hspells _ _).mpr ⟨_, ⟨_, [x], rfl, ⟨indent, _, rfl, hindent, rfl⟩, by simp, by simp [hx]⟩, hd⟩⟩

theorem head?_trimLeft_of_isDecorator {line : Text} (h : isDecorator line = true) :
    (Text.trimLeft line).head? = some '@' := by
  obtain ⟨indent, x, rest, rfl, hindent, _⟩ := isDecorator_iff.mp h
  rw [Text.trimLeft_append_of_stop hindent rfl]
  rfl

theorem counts_of_isDecorator {line : Text} (h : isDecorator line = true) : counts line = true :=
  counts_of_head? (head?_trimLeft_of_isDecorator h) (by decide)

/-- No header is a decorator. -/
theorem Heads.isDecorator {line : Text} {kind : NodeKind} {name : Text} (h : Heads line kind name) :
    isDecorator line = false := by
  obtain ⟨x, hx, hhead⟩ := h.head?_trimLeft
  by_contra hdecorator
  rw [Bool.not_eq_false] at hdecorator
  rw [head?_trimLeft_of_isDecorator hdecorator] at hhead
  obtain rfl := Option.some.inj hhead
  simp at hx

end Outline.Indentation

end SourceChunks
