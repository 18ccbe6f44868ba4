import SourceChunks.Proofs.IndentedOutline

/-! How far the declarations of an indented source reach. A declaration begins with its decorators and ends
before the next header or the next line that is not indented deeper than its own header, whichever comes first. Only
decorators can belong to two declarations: those of a header that stand deeper than the header before them, as
those of a method in a class do. -/

namespace SourceChunks.Outline.Indentation

/-- Line `i` is neither blank nor a comment. -/
def CountsAt (ls : List Text) (i : Nat) : Prop := counts (ls.getD i []) = true

/-- Line `i` declares something. -/
def HeaderAt (ls : List Text) (i : Nat) : Prop := (header? (ls.getD i [])).isSome = true

/-- Line `k` ends the declaration of the header in line `i`, if that is still open. -/
def EndsAt (ls : List Text) (i k : Nat) : Prop := CountsAt ls k ∧ (HeaderAt ls k ∨ indentAt ls k ≤ indentAt ls i)

/-- The decorators before the header in line `j` begin where the declaration of the header in line `i` is still
open: all lines behind line `i` through the first decorator are indented deeper than line `i`. -/
def DecoratesInside (ls : List Text) (i j : Nat) : Prop :=
  ∃ d, Begins ls d j ∧ d < j ∧ ∀ k, i < k → k ≤ d → CountsAt ls k → indentAt ls i < indentAt ls k

/-- The declaration is that of a header: it begins with the decorators before it and ends with the last text
before the line that ends it. -/
structure Spans (ls : List Text) (n : Node) (h : Declared) : Prop extends DeclaredBy ls n h where
  last : ∃ last stop : Nat,
    n.last = last ∧ FirstBehind (EndsAt ls h.line) ls.length h.line stop ∧ LastText ls stop last

/-! ### Where a declaration ends -/

/-- Before line `i` the declaration of the header is still open. -/
structure StaysOpen (ls : List Text) (i : Nat) (n : OpenNode) (h : Declared) : Prop where
  indent : n.indent = indentAt ls h.line
  before : h.line < i
  inside : ∀ k, h.line < k → k < i → ¬ EndsAt ls h.line k

/-- The end of a declaration, counted from its header. -/
def EndsBefore (ls : List Text) (n : Node) (h : Declared) : Prop :=
  ∃ stop, FirstBehind (EndsAt ls h.line) ls.length h.line stop ∧ n.last = lastCodeLine ls n.first.toNat (stop - 1)

/-- The state before line `i`: `pending` is the header of the open declaration. -/
def Stands (ls : List Text) (i : Nat) (s : State) (pending : Option Declared) : Prop :=
  Option.Rel (StaysOpen ls i) s.current pending

namespace StaysOpen

variable {ls : List Text} {i : Nat} {n : OpenNode} {h : Declared}

theorem next (hn : StaysOpen ls i n h) (hends : ¬ EndsAt ls h.line i) : StaysOpen ls (i + 1) n h where
  indent := hn.indent
  before := Nat.lt_succ_of_lt hn.before
  inside := by
    intro k hk hki
    rcases Nat.lt_succ_iff_lt_or_eq.mp hki with hlt | rfl
    · exact hn.inside k hk hlt
    · exact hends

theorem close (hn : StaysOpen ls i n h) (hi : i ≤ ls.length) (hends : i < ls.length → EndsAt ls h.line i) :
    EndsBefore ls (n.close ls (i - 1)) h :=
  ⟨i, ⟨hn.before, hi, hn.inside, hends⟩, rfl⟩

end StaysOpen

namespace Stands

variable {ls : List Text} {i : Nat} {s : State} {pending : Option Declared} {line : Text}

theorem closed (h : Stands ls i s pending) (hi : i ≤ ls.length)
    (hends : i < ls.length → ∀ n g, s.current = some n → StaysOpen ls i n g → EndsAt ls g.line i) :
    List.Forall₂ (EndsBefore ls) (s.closed ls (i - 1)) pending.toList := by
  unfold Stands at h
  unfold State.closed
  cases hc : s.current with
  | none =>
    rw [hc] at h
    cases h
    exact .nil
  | some n =>
    rw [hc] at h
    cases h with
    | some hn => exact .cons (hn.close hi fun hlt => hends hlt n _ hc hn) .nil

theorem next (h : Stands ls i s pending)
    (hends : ∀ n g, s.current = some n → StaysOpen ls i n g → ¬ EndsAt ls g.line i) :
    Option.Rel (StaysOpen ls (i + 1)) s.current pending := by
  unfold Stands at h
  cases hc : s.current with
  | none =>
    rw [hc] at h
    cases h
    exact .none
  | some n =>
    rw [hc] at h
    cases h with
    | some hn => exact .some (hn.next (hends n _ hc hn))

/-- Without a header the indentation of a line decides whether it ends the open declaration. -/
theorem endsAt_iff (hcounts : CountsAt ls i) (hheader : ¬ HeaderAt ls i) {n : OpenNode} {g : Declared}
    (hc : s.current = some n) (hn : StaysOpen ls i n g) :
    EndsAt ls g.line i ↔ s.leaves (ls.getD i []) = true := by
  have hindent : Text.indent (ls.getD i []) = indentAt ls i := rfl
  simp only [EndsAt, hcounts, hheader, true_and, false_or, State.leaves, hc, Option.any_some, hn.indent, hindent,
    decide_eq_true_eq]

theorem step {ended : List Node} {next : State} (hi : i < ls.length) (hline : ls[i]? = some line)
    (he : Effect ls i line s ended next) (h : Stands ls i s pending) :
    ∃ done pending', pending.toList ++ (declaredAt i line).toList = done ++ pending'.toList ∧
      List.Forall₂ (EndsBefore ls) ended done ∧ Stands ls (i + 1) next pending' := by
  obtain rfl : ls.getD i [] = line := by simp [hline]
  cases he with
  | nothing hcounts =>
    refine ⟨[], pending, ?_, .nil, h.next fun n g _ _ hends => ?_⟩
    · rw [declaredAt_of_not_counts hcounts, Option.toList_none, List.append_nil, List.nil_append]
    · rw [hends.1] at hcounts
      cases hcounts
  | @declares hcounts header hheader =>
    have hat : HeaderAt ls i := Option.isSome_iff_exists.mpr ⟨header, hheader⟩
    refine ⟨pending.toList, some ⟨i, header.1, header.2⟩, ?_, ?_, .some ⟨rfl, Nat.lt_succ_self i, ?_⟩⟩
    · rw [declaredAt, hheader]
      rfl
    · exact h.closed (Nat.le_of_lt hi) fun _ _ _ _ _ => ⟨hcounts, .inl hat⟩
    · intro k hk hki
      simp only at hk
      omega
  | leaves hcounts hheader hleaves =>
    have hnot : ¬ HeaderAt ls i := by rw [HeaderAt, hheader]; simp
    refine ⟨pending.toList, none, ?_, ?_, .none⟩
    · rw [declaredAt, hheader]
      rfl
    · exact h.closed (Nat.le_of_lt hi) fun _ n g hc hn => (endsAt_iff hcounts hnot hc hn).mpr hleaves
  | passes hcounts hheader hleaves =>
    have hnot : ¬ HeaderAt ls i := by rw [HeaderAt, hheader]; simp
    refine ⟨[], pending, ?_, .nil, h.next fun n g hc hn hends => ?_⟩
    · rw [declaredAt, hheader, Option.map_none, Option.toList_none, List.append_nil, List.nil_append]
    · rw [(endsAt_iff hcounts hnot hc hn).mp hends] at hleaves
      cases hleaves

theorem carries (ls : List Text) : Carries ls (Stands ls) (EndsBefore ls) where
  start := .none
  step := Stands.step
  finish := fun h => h.closed (Nat.le_refl _) fun hlt => absurd hlt (Nat.lt_irrefl _)

end Stands

/-! ### Headers by line -/

section

variable {ls : List Text} {hs : List Declared} {i j m d : Nat}

theorem headerAt_iff : HeaderAt ls i ↔ ∃ line kind name, ls[i]? = some line ∧ Heads line kind name := by
  unfold HeaderAt
  cases hline : ls[i]? with
  | none =>
    have hempty : header? [] = none := by decide
    simp [hline, hempty]
  | some line => simp [hline, Option.isSome_iff_exists, header?_eq_some_iff]

theorem HeaderAt.countsAt (h : HeaderAt ls i) : CountsAt ls i := by
  obtain ⟨line, kind, name, hline, hheads⟩ := headerAt_iff.mp h
  simpa [CountsAt, hline] using hheads.counts

theorem Listed.headerAt_iff (hl : Listed ls hs) : HeaderAt ls m ↔ ∃ h ∈ hs, h.line = m := by
  rw [Indentation.headerAt_iff]
  constructor
  · rintro ⟨line, kind, name, hline, hheads⟩
    exact ⟨⟨m, kind, name⟩, (hl.complete _).mpr ⟨line, hline, hheads⟩, rfl⟩
  · rintro ⟨h, hh, rfl⟩
    obtain ⟨line, hline, hheads⟩ := (hl.complete h).mp hh
    exact ⟨line, h.kind, h.name, hline, hheads⟩

theorem Listed.line_lt (hl : Listed ls hs) {k l : Nat} {g h : Declared} (hkl : k < l) (hg : hs[k]? = some g)
    (hh : hs[l]? = some h) : g.line < h.line := by
  obtain ⟨hk, rfl⟩ := List.getElem?_eq_some_iff.mp hg
  obtain ⟨hl', rfl⟩ := List.getElem?_eq_some_iff.mp hh
  exact List.pairwise_iff_getElem.mp hl.ordered k l hk hl' hkl

/-- Between two headers that follow each other there is none. -/
theorem Listed.not_headerAt_between (hl : Listed ls hs) {k : Nat} {g h : Declared} (hg : hs[k]? = some g)
    (hh : hs[k + 1]? = some h) (h1 : g.line < m) (h2 : m < h.line) : ¬ HeaderAt ls m := by
  intro hm
  obtain ⟨c, hc, rfl⟩ := hl.headerAt_iff.mp hm
  obtain ⟨x, hx⟩ := List.mem_iff_getElem?.mp hc
  rcases Nat.lt_trichotomy x k with hlt | rfl | hgt
  · have := hl.line_lt hlt hx hg
    omega
  · simp_all
  · rcases Nat.lt_or_eq_of_le (Nat.succ_le_of_lt hgt) with hlt | rfl
    · have := hl.line_lt hlt hh hx
      omega
    · simp_all

/-- Decorators that lead to a header stand behind all headers before it. -/
theorem Begins.headerAt_lt (h : Begins ls d j) (hm : HeaderAt ls m) (hmj : m < j) : m < d := by
  by_contra hle
  obtain ⟨line, hline, hkind⟩ := h.leads.between m (by omega) hmj
  obtain ⟨line', kind, name, hline', hheads⟩ := headerAt_iff.mp hm
  obtain rfl : line = line' := by simpa [hline] using hline'
  simp [hheads.isDecorator, hheads.counts] at hkind

theorem Begins.hasText (h : Begins ls d j) (hj : HeaderAt ls j) : HasText ls d := by
  rcases Nat.lt_or_eq_of_le h.leads.le with hlt | rfl
  · obtain ⟨line, hline, hdecorator⟩ := h.leads.begins hlt
    exact hasText_of_counts hline (counts_of_isDecorator hdecorator)
  · obtain ⟨line, _, _, hline, hheads⟩ := headerAt_iff.mp hj
    exact hasText_of_counts hline hheads.counts

end

/-! ### Two declarations -/

theorem spans_of_endsBefore {ls : List Text} {n : Node} {h : Declared} (hat : HeaderAt ls h.line)
    (hd : DeclaredBy ls n h) (he : EndsBefore ls n h) : Spans ls n h := by
  obtain ⟨first, hfirst, hbegins⟩ := hd.first
  obtain ⟨stop, hstop, hlast⟩ := he
  have hlt : first < stop := Nat.lt_of_le_of_lt hbegins.leads.le hstop.behind
  refine ⟨hd, lastCodeLine ls first (stop - 1), stop, ?_, hstop, lastText_lastCodeLine (hbegins.hasText hat) hlt⟩
  simpa [hfirst] using hlast

namespace Spans

variable {ls : List Text} {a b : Node} {g h : Declared}

/-- A declaration ends before the next header. -/
theorem last_lt (ha : Spans ls a g) (hh : HeaderAt ls h.line) (hlt : g.line < h.line) : a.last < h.line := by
  obtain ⟨last, stop, hlast, hstop, htext⟩ := ha.last
  have hle : stop ≤ h.line := by
    by_contra hgt
    exact hstop.before h.line hlt (by omega) ⟨hh.countsAt, .inl hh⟩
  have := htext.before
  omega

/-- Lines of two declarations are decorators of the later one, or comments and blank lines between them. -/
theorem shared (ha : Spans ls a g) (hb : Spans ls b h) (hh : HeaderAt ls h.line) (hlt : g.line < h.line) (m : Nat)
    (hbm : b.first ≤ m) (hma : m ≤ a.last) :
    ∃ line, ls[m]? = some line ∧ (isDecorator line = true ∨ counts line = false) := by
  obtain ⟨first, hfirst, hbegins⟩ := hb.first
  have := ha.last_lt hh hlt
  exact hbegins.leads.between m (by omega) (by omega)

theorem decoratesInside_of_share (ha : Spans ls a g) (hb : Spans ls b h) (hh : HeaderAt ls h.line)
    (hlt : g.line < h.line) (hshare : b.first ≤ a.last) : DecoratesInside ls g.line h.line := by
  obtain ⟨first, hfirst, hbegins⟩ := hb.first
  obtain ⟨last, stop, hlast, hstop, htext⟩ := ha.last
  have hbefore := ha.last_lt hh hlt
  refine ⟨first, hbegins, by omega, fun k hk hkd hcounts => ?_⟩
  by_contra hindent
  have hend : EndsAt ls g.line k := ⟨hcounts, .inr (by omega)⟩
  have hlast' := htext.before
  exact hstop.before k hk (by omega) hend

theorem share_of_decoratesInside (ha : Spans ls a g) (hb : Spans ls b h) (hh : HeaderAt ls h.line)
    (hnone : ∀ m, g.line < m → m < h.line → ¬ HeaderAt ls m) (hin : DecoratesInside ls g.line h.line) :
    b.first ≤ a.last := by
  obtain ⟨d, hbegins, hdj, hdeeper⟩ := hin
  obtain ⟨first, hfirst, hbegins'⟩ := hb.first
  obtain rfl : d = first := Nat.le_antisymm (hbegins.least _ hbegins'.leads) (hbegins'.least _ hbegins.leads)
  obtain ⟨last, stop, hlast, hstop, htext⟩ := ha.last
  -- the first decorator comes before the end of the earlier declaration, and it is text
  have hd : d < stop := by
    by_contra hle
    have hj : HasText ls d := hbegins.hasText hh
    obtain ⟨hcounts, hheader | hindent⟩ := hstop.here (by have := hj.lt_length; omega)
    · exact hnone stop hstop.behind (by omega) hheader
    · have := hdeeper stop hstop.behind (by omega) hcounts
      omega
  have hle : d ≤ last := by
    by_contra hgt
    exact htext.blank d (by omega) hd (hbegins.hasText hh)
  omega

end Spans

/-! ### All declarations -/

/-- The declarations of an indented source against its headers: in order, inside the source, and with a line in
common only where the decorators of one begin inside the one before it. -/
structure Extents (ls : List Text) (ns : List Node) (hs : List Declared) : Prop where
  headers : Listed ls hs
  spans : List.Forall₂ (Spans ls) ns hs
  inFile : ∀ n ∈ ns, InFile ls.length n.first n.last
  forward : ns.Pairwise fun a b => a.first < b.first ∧ a.last < b.last
  share_iff : ∀ {k a b g h}, ns[k]? = some a → ns[k + 1]? = some b → hs[k]? = some g → hs[k + 1]? = some h →
    (b.first ≤ a.last ↔ DecoratesInside ls g.line h.line)
  distant : ∀ {k l : Nat} {a b}, k + 1 < l → ns[k]? = some a → ns[l]? = some b → a.last < b.first
  shared : ns.Pairwise fun a b => ∀ m : Nat, b.first ≤ (m : Int) → (m : Int) ≤ a.last →
    ∃ line, ls[m]? = some line ∧ (isDecorator line = true ∨ counts line = false)
  apart_iff : (ns.Pairwise fun a b => a.last < b.first) ↔
    ∀ {k g h}, hs[k]? = some g → hs[k + 1]? = some h → ¬ DecoratesInside ls g.line h.line

section

variable {ls : List Text} {ns : List Node} {hs : List Declared}

theorem spans_get (hspans : List.Forall₂ (Spans ls) ns hs) {k : Nat} {n : Node} {h : Declared} (hn : ns[k]? = some n)
    (hh : hs[k]? = some h) : Spans ls n h := by
  obtain ⟨hk, rfl⟩ := List.getElem?_eq_some_iff.mp hn
  obtain ⟨hk', rfl⟩ := List.getElem?_eq_some_iff.mp hh
  exact hspans.get hk hk'

/-- What holds of two declarations by their headers holds of all pairs in order. -/
theorem pairwise_of_spans {R : Node → Node → Prop} (hl : Listed ls hs) (hspans : List.Forall₂ (Spans ls) ns hs)
    (hR : ∀ {k l : Nat} {a b g h}, k < l → ns[k]? = some a → ns[l]? = some b → hs[k]? = some g → hs[l]? = some h →
      Spans ls a g → Spans ls b h → HeaderAt ls h.line → g.line < h.line → R a b) : ns.Pairwise R := by
  rw [List.pairwise_iff_getElem]
  intro k l hk hl' hkl
  have hlength := hspans.length_eq
  have hg := List.getElem?_eq_getElem (l := hs) (i := k) (by omega)
  have hh := List.getElem?_eq_getElem (l := hs) (i := l) (by omega)
  have ha := List.getElem?_eq_getElem hk
  have hb := List.getElem?_eq_getElem hl'
  exact hR hkl ha hb hg hh (spans_get hspans ha hg) (spans_get hspans hb hh)
    (hl.headerAt_iff.mpr ⟨_, List.mem_of_getElem? hh, rfl⟩) (hl.line_lt hkl hg hh)

theorem share_iff (hl : Listed ls hs) (hspans : List.Forall₂ (Spans ls) ns hs) {k : Nat} {a b : Node} {g h : Declared}
    (ha : ns[k]? = some a) (hb : ns[k + 1]? = some b) (hg : hs[k]? = some g) (hh : hs[k + 1]? = some h) :
    b.first ≤ a.last ↔ DecoratesInside ls g.line h.line := by
  have hsa := spans_get hspans ha hg
  have hsb := spans_get hspans hb hh
  have hat : HeaderAt ls h.line := hl.headerAt_iff.mpr ⟨h, List.mem_of_getElem? hh, rfl⟩
  have hlt : g.line < h.line := hl.line_lt (Nat.lt_succ_self k) hg hh
  constructor
  · exact hsa.decoratesInside_of_share hsb hat hlt
  · exact hsa.share_of_decoratesInside hsb hat fun m h1 h2 => hl.not_headerAt_between hg hh h1 h2

/-- A declaration that is not the next one begins behind the next header, and so behind the end. -/
theorem last_lt_first (hl : Listed ls hs) (hspans : List.Forall₂ (Spans ls) ns hs) {k l : Nat} {a b : Node}
    (hkl : k + 1 < l) (ha : ns[k]? = some a) (hb : ns[l]? = some b) : a.last < b.first := by
  have hlt : l < hs.length := hspans.length_eq ▸ (List.getElem?_eq_some_iff.mp hb).1
  have hg := List.getElem?_eq_getElem (l := hs) (i := k) (by omega)
  have hc := List.getElem?_eq_getElem (l := hs) (i := k + 1) (by omega)
  have hh := List.getElem?_eq_getElem hlt
  have hat : HeaderAt ls hs[k + 1].line := hl.headerAt_iff.mpr ⟨_, List.getElem_mem _, rfl⟩
  obtain ⟨first, hfirst, hbegins⟩ := (spans_get hspans hb hh).first
  have hbehind := hbegins.headerAt_lt hat (hl.line_lt hkl hc hh)
  have hbefore := (spans_get hspans ha hg).last_lt hat (hl.line_lt (Nat.lt_succ_self k) hg hc)
  omega

theorem apart_iff (hl : Listed ls hs) (hspans : List.Forall₂ (Spans ls) ns hs) :
    (ns.Pairwise fun a b => a.last < b.first) ↔
      ∀ {k g h}, hs[k]? = some g → hs[k + 1]? = some h → ¬ DecoratesInside ls g.line h.line := by
  have hlength := hspans.length_eq
  constructor
  · intro happart k g h hg hh hin
    have hk : k + 1 < ns.length := hlength ▸ (List.getElem?_eq_some_iff.mp hh).1
    have ha := List.getElem?_eq_getElem (l := ns) (i := k) (by omega)
    have hshare := (share_iff hl hspans ha (List.getElem?_eq_getElem hk) hg hh).mpr hin
    have := List.pairwise_iff_getElem.mp happart k (k + 1) (by omega) hk (Nat.lt_succ_self k)
    omega
  · intro hnone
    refine pairwise_of_spans hl hspans ?_
    intro k l a b g h hkl ha hb hg hh _ _ _ _
    rcases Nat.lt_or_eq_of_le (Nat.succ_le_of_lt hkl) with hfar | rfl
    · exact last_lt_first hl hspans hfar ha hb
    · have := mt (share_iff hl hspans ha hb hg hh).mp (hnone hg hh)
      omega

end

theorem nodes_spans (ls : List Text) : List.Forall₂ (Spans ls) (nodes ls) (declaredFrom 0 ls) := by
  have hdeclared := nodes_declaredBy ls
  have hends := (Stands.carries ls).nodes
  rw [List.forall₂_iff_get] at hdeclared hends ⊢
  refine ⟨hdeclared.1, fun k h1 h2 => ?_⟩
  have hat : HeaderAt ls ((declaredFrom 0 ls).get ⟨k, h2⟩).line :=
    (listed_declaredFrom ls).headerAt_iff.mpr ⟨_, List.get_mem _ _, rfl⟩
  exact spans_of_endsBefore hat (hdeclared.2 k h1 h2) (hends.2 k h1 h2)

/-- The declarations of an indented source are in order and inside the source, one a header, and two of them have a
line in common if and only if one follows the other and its decorators begin inside it. All the lines they share
are decorators, comments and blank lines before the later header. -/
theorem nodes_extents (ls : List Text) : ∃ hs, Extents ls (nodes ls) hs := by
  have hl := listed_declaredFrom ls
  have hspans := nodes_spans ls
  have harranged := (nodes_forward ls).arranged
  refine ⟨declaredFrom 0 ls, hl, hspans, harranged.inFile, harranged.forward, share_iff hl hspans,
    last_lt_first hl hspans, ?_, apart_iff hl hspans⟩
  refine pairwise_of_spans hl hspans ?_
  intro k l a b g h _ _ _ _ _ hsa hsb hat hlt
  exact hsa.shared hsb hat hlt

/-- A class whose only method has a decorator. -/
def decoratedMethod : List Text :=
  ["class A:".toList, "    @property".toList, "    def f(self):".toList, "        pass".toList]

/-- The decorator of a method is the last line of the class and the first line of the method. -/
theorem nodes_decoratedMethod_share :
    (nodes decoratedMethod).map (fun n => (n.first, n.last)) = [(0, 1), (1, 3)] ∧
      ¬ (nodes decoratedMethod).Pairwise fun a b => a.last < b.first := by
  decide +kernel

end SourceChunks.Outline.Indentation
