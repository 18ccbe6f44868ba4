import Mathlib.Tactic.ByContra
import SourceChunks.Proofs.ScopePass

/-! The scopes of an indented source, told from the indentation of its lines alone. While the lines are read, the
stack holds just the scopes whose header all code lines since then are indented deeper than. So the parent of a
scope is the last header that is still to the left of everything behind it, and a scope ends before the first
code line that comes back to its header or goes further left. -/

namespace SourceChunks.ScopeTree

/-- Line `i` is neither blank nor a comment. -/
def CodeAt (ls : List Text) (i : Nat) : Prop := isCodeLine (ls.getD i []) = true

/-- Line `i` opens a scope. -/
def OpensAt (ls : List Text) (i : Nat) : Prop :=
  CodeAt ls i ∧ (Scope.header? (ls.getD i []) .python).isSome = true

/-- Every code line behind line `j` and before line `stop` is indented deeper than line `j`. -/
def DeeperUpTo (ls : List Text) (j stop : Nat) : Prop :=
  ∀ k, j < k → k < stop → CodeAt ls k → indentAt ls j < indentAt ls k

/-- Line `j` opens a scope before line `i`, and all code lines behind it through line `i` are indented deeper. -/
structure Encloses (ls : List Text) (j i : Nat) : Prop where
  lt : j < i
  opens : OpensAt ls j
  deeper : ∀ k, j < k → k ≤ i → CodeAt ls k → indentAt ls j < indentAt ls k

/-- `j` is the last line that encloses line `i`. -/
structure Innermost (ls : List Text) (j i : Nat) : Prop where
  encloses : Encloses ls j i
  latest : ∀ j', Encloses ls j' i → j' ≤ j

/-- A code line that is not indented deeper than line `i`. -/
def LeavesAt (ls : List Text) (i k : Nat) : Prop := CodeAt ls k ∧ indentAt ls k ≤ indentAt ls i

/-- The scopes of a source as its indentation has them: one for every line that opens a scope, in the order of
these lines. -/
structure NestsByIndent (ls : List Text) (t : ScopeTree) : Prop where
  opens : ∀ i, OpensAt ls i ↔ ∃ h s, t.get? h = some s ∧ s.first = i
  ordered : ∀ {a b s r}, t.get? a = some s → t.get? b = some r → (a < b ↔ s.first < r.first)
  header : ∀ {h s}, t.get? h = some s →
    Scope.header? (ls.getD s.first []) .python = some (s.kind, s.name) ∧ s.indent = indentAt ls s.first
  parent : ∀ {h s}, t.get? h = some s → ∀ p,
    s.parent = some p ↔ ∃ q, t.get? p = some q ∧ Innermost ls q.first s.first
  root : ∀ {h s}, t.get? h = some s → (s.parent = none ↔ ∀ j, ¬ Encloses ls j s.first)
  last : ∀ {h s}, t.get? h = some s →
    ∃ stop, FirstBehind (LeavesAt ls s.first) ls.length s.first stop ∧ LastText ls stop s.last

theorem CodeAt.hasText {ls : List Text} {i : Nat} (h : CodeAt ls i) : HasText ls i := by
  simp only [CodeAt, isCodeLine, Bool.and_eq_true, Bool.not_eq_true'] at h
  exact h.1

/-! ### Before a line -/

/-- A scope whose lines are all before line `i`: it was left at line `i` or earlier. -/
def LeftBy (ls : List Text) (i : Nat) (s : Scope) : Prop :=
  ∃ stop ≤ i, FirstBehind (LeavesAt ls s.first) ls.length s.first stop ∧ LastText ls stop s.last

/-- What is known of a scope from the lines before it: its header and the scope around it. -/
structure Placed (ls : List Text) (t : ScopeTree) (s : Scope) : Prop where
  opens : OpensAt ls s.first
  header : Scope.header? (ls.getD s.first []) .python = some (s.kind, s.name)
  indent : s.indent = indentAt ls s.first
  parent : ∀ p q, s.parent = some p → t.get? p = some q → Innermost ls q.first s.first
  root : s.parent = none → ∀ j, ¬ Encloses ls j s.first

/-- Before line `i` is read: the open scopes are not left yet, the others are, and no line that opens a scope has
been passed over. -/
structure Nests (ls : List Text) (i : Nat) (t : ScopeTree) (stack : List Nat) : Prop where
  progress : Progress ls i t stack
  placed : ∀ {h s}, t.get? h = some s → Placed ls t s
  found : ∀ j < i, OpensAt ls j → ∃ h s, t.get? h = some s ∧ s.first = j
  inside : ∀ {h s}, t.get? h = some s → h ∈ stack → DeeperUpTo ls s.first i
  left : ∀ {h s}, t.get? h = some s → h ∉ stack → LeftBy ls i s

namespace Progress

variable {ls : List Text} {i : Nat} {t : ScopeTree} {stack : List Nat}

theorem first_lt_bound (hp : Progress ls i t stack) {h : Nat} {s : Scope} (hs : t.get? h = some s) : s.first < i :=
  Nat.lt_of_le_of_lt (hp.first_le_last hs) (hp.last_lt hs)

theorem lt_iff_first_lt (hp : Progress ls i t stack) {a b : Nat} {s r : Scope} (hs : t.get? a = some s)
    (hr : t.get? b = some r) : a < b ↔ s.first < r.first := by
  refine ⟨hp.first_lt hs hr, fun hlt => ?_⟩
  by_contra hab
  rcases Nat.lt_or_eq_of_le (Nat.le_of_not_lt hab) with hba | rfl
  · have := hp.first_lt hr hs hba
    omega
  · simp_all

theorem indent_lt_of_ancestor (hp : Progress ls i t stack) {a b : Nat} (hab : t.Ancestor a b) {s r : Scope}
    (hs : t.get? a = some s) (hr : t.get? b = some r) : s.indent < r.indent := by
  induction hab generalizing r with
  | single hpar =>
    obtain ⟨o, ho, hop⟩ := hpar
    obtain ⟨q, hq, _, hlt, _⟩ := hp.parent ho hop
    simp_all
  | tail _ hpar ih =>
    obtain ⟨o, ho, hop⟩ := hpar
    obtain ⟨q, hq, _, hlt, _⟩ := hp.parent ho hop
    have := ih hq
    simp_all
    omega

/-- The top of the stack is the youngest of the open scopes, and the one indented deepest. -/
theorem le_top (hp : Progress ls i t stack) {h top : Nat} (htop : stack.head? = some top) (hh : h ∈ stack)
    {s r : Scope} (hs : t.get? h = some s) (hr : t.get? top = some r) : h ≤ top ∧ s.indent ≤ r.indent := by
  obtain ⟨rest, rfl⟩ := List.head?_eq_some_iff.mp htop
  rcases List.mem_cons.mp hh with rfl | hrest
  · simp_all
  · have hanc := hp.chain.ancestor h hrest
    exact ⟨Nat.le_of_lt (hp.ancestor_lt hanc), Nat.le_of_lt (hp.indent_lt_of_ancestor hanc hs hr)⟩

end Progress

namespace Placed

variable {ls : List Text} {t : ScopeTree} {s : Scope}

theorem close (hp : Placed ls t s) (stop : Nat) {h k : Nat} {r : Scope} (hr : t.get? h = some r) :
    Placed ls (close ls stop t h) (closing ls stop h r k s) where
  opens := hp.opens
  header := hp.header
  indent := hp.indent
  parent := by
    intro p q hsp hq
    obtain ⟨o, ho, rfl⟩ := exists_of_get?_close hr hq
    exact hp.parent p o hsp ho
  root := hp.root

theorem add (hp : Placed ls t s) (hparent : ∀ p, s.parent = some p → p < t.size) (r : Scope) :
    Placed ls (t.add r) s where
  opens := hp.opens
  header := hp.header
  indent := hp.indent
  parent := by
    intro p q hsp hq
    have hlt := hparent p hsp
    rcases get?_add_cases hq with ⟨rfl, _⟩ | hq
    · omega
    · exact hp.parent p q hsp hq
  root := hp.root

end Placed

theorem LeftBy.mono {ls : List Text} {i j : Nat} {s : Scope} (h : LeftBy ls i s) (hij : i ≤ j) : LeftBy ls j s := by
  obtain ⟨stop, hstop, hfirst⟩ := h
  exact ⟨stop, by omega, hfirst⟩

namespace Nests

variable {ls : List Text} {i : Nat} {t : ScopeTree} {stack : List Nat}

theorem empty (ls : List Text) : Nests ls 0 {} [] where
  progress := .empty ls
  placed := by simp [get?]
  found := by simp
  inside := by simp
  left := by simp [get?]

/-! ### Leaving scopes -/

/-- The innermost open scope ends before line `i` if that is the first line to leave it. -/
theorem close {h : Nat} {rest : List Nat} (hn : Nests ls i t (h :: rest)) {s : Scope} (hs : t.get? h = some s)
    (hstop : FirstBehind (LeavesAt ls s.first) ls.length s.first i) : Nests ls i (close ls (i - 1) t h) rest := by
  have hlt := hstop.behind
  constructor
  case progress => exact hn.progress.close (by omega) (by omega)
  case placed =>
    intro k q hq
    obtain ⟨o, ho, rfl⟩ := exists_of_get?_close hs hq
    exact (hn.placed ho).close (i - 1) hs
  case found =>
    intro j hj hopens
    obtain ⟨k, o, ho, hfirst⟩ := hn.found j hj hopens
    exact ⟨k, _, get?_close_of_some hs ho, hfirst⟩
  case inside =>
    intro k q hq hk
    obtain ⟨o, ho, rfl⟩ := exists_of_get?_close hs hq
    exact hn.inside (s := o) ho (List.mem_cons_of_mem h hk)
  case left =>
    intro k q hq hk
    obtain ⟨o, ho, rfl⟩ := exists_of_get?_close hs hq
    by_cases hkh : k = h
    · subst hkh
      obtain rfl : o = s := by simpa [hs] using ho.symm
      have hmax : max o.first (i - 1) = i - 1 := by omega
      refine ⟨i, Nat.le_refl i, hstop, ?_⟩
      simpa [closing, hmax] using lastText_lastCodeLine (hn.progress.first_text hs) hlt
    · have hleft := hn.left ho (by simp [hkh, hk])
      simpa [LeftBy, closing, hkh] using hleft

/-- Scopes are closed from the top of the stack as long as line `i`, or the end of the source, leaves them. -/
theorem closeWhile (hn : Nests ls i t stack) (hi : i ≤ ls.length) (leaves : Scope → Bool)
    (hleaves : ∀ s, s.indent = indentAt ls s.first → leaves s = true → i < ls.length → LeavesAt ls s.first i) :
    Nests ls i (closeWhile leaves ls (i - 1) stack t).2 (closeWhile leaves ls (i - 1) stack t).1 := by
  induction stack generalizing t with
  | nil => exact hn
  | cons h rest ih =>
    obtain ⟨⟨s, hs, _⟩, _⟩ := hn.progress.chain
    rw [ScopeTree.closeWhile, hs, Option.any_some]
    by_cases hl : leaves s = true
    · rw [if_pos hl]
      apply ih
      refine hn.close hs ⟨hn.progress.first_lt_bound hs, hi, ?_, hleaves s (hn.placed hs).indent hl⟩
      rintro k hk hki ⟨hcode, hle⟩
      have := hn.inside hs (by simp) k hk hki hcode
      omega
    · rw [if_neg hl]
      exact hn

/-- A code line leaves the scopes that are not to its left, and these only. -/
theorem leaveByIndent {s : State} (hn : Nests ls i s.tree s.stack) (hi : i < ls.length) (hcode : CodeAt ls i) :
    Nests ls i (leaveByIndent ls i (indentAt ls i) s).tree (leaveByIndent ls i (indentAt ls i) s).stack ∧
      ∀ h ∈ (leaveByIndent ls i (indentAt ls i) s).stack, ∀ q,
        (leaveByIndent ls i (indentAt ls i) s).tree.get? h = some q → indentAt ls q.first < indentAt ls i := by
  have hnext : Nests ls i (ScopeTree.leaveByIndent ls i (indentAt ls i) s).tree
      (ScopeTree.leaveByIndent ls i (indentAt ls i) s).stack := by
    apply hn.closeWhile (Nat.le_of_lt hi) fun o => indentAt ls i ≤ o.indent
    intro o ho hleaves _
    rw [decide_eq_true_eq, ho] at hleaves
    exact ⟨hcode, hleaves⟩
  refine ⟨hnext, fun h hh q hq => ?_⟩
  have htop := (hn.progress.leaveByIndent (indentAt ls i)).2
  generalize ScopeTree.leaveByIndent ls i (indentAt ls i) s = r at hnext htop hh hq
  cases hstack : r.stack with
  | nil => simp [hstack] at hh
  | cons top rest =>
    obtain ⟨⟨o, ho, _⟩, _⟩ := hstack ▸ hnext.progress.chain
    have hle := (hnext.progress.le_top (by simp [hstack]) hh hq ho).2
    have hlt := htop top (by simp [hstack]) o ho
    rw [← (hnext.placed hq).indent]
    omega

/-! ### One line -/

/-- A line that opens no scope and leaves none. -/
theorem next (hn : Nests ls i t stack) (hopens : ¬ OpensAt ls i)
    (hdeeper : CodeAt ls i → ∀ h ∈ stack, ∀ q, t.get? h = some q → indentAt ls q.first < indentAt ls i) :
    Nests ls (i + 1) t stack where
  progress := hn.progress.mono (Nat.le_succ i)
  placed := hn.placed
  found := by
    intro j hj hj'
    rcases Nat.lt_succ_iff_lt_or_eq.mp hj with hlt | rfl
    · exact hn.found j hlt hj'
    · exact absurd hj' hopens
  inside := by
    intro h s hs hh k hk hki hcode
    rcases Nat.lt_succ_iff_lt_or_eq.mp hki with hlt | rfl
    · exact hn.inside hs hh k hk hlt hcode
    · exact hdeeper hcode h hh s hs
  left := fun hs hh => (hn.left hs hh).mono (Nat.le_succ i)

/-- Once a line has left the scopes that it leaves, the open ones are those that enclose it. -/
theorem encloses_iff (hn : Nests ls i t stack) (hi : i < ls.length)
    (hdeeper : ∀ h ∈ stack, ∀ q, t.get? h = some q → indentAt ls q.first < indentAt ls i) (j : Nat) :
    Encloses ls j i ↔ ∃ h ∈ stack, ∃ s, t.get? h = some s ∧ s.first = j := by
  constructor
  · intro henc
    obtain ⟨h, s, hs, rfl⟩ := hn.found j henc.lt henc.opens
    refine ⟨h, ?_, s, hs, rfl⟩
    by_contra hh
    obtain ⟨stop, hstop, hfirst, _⟩ := hn.left hs hh
    obtain ⟨hcode, hle⟩ := hfirst.here (by omega)
    have := henc.deeper stop hfirst.behind hstop hcode
    omega
  · rintro ⟨h, hh, s, hs, rfl⟩
    refine ⟨hn.progress.first_lt_bound hs, (hn.placed hs).opens, fun k hk hki hcode => ?_⟩
    rcases Nat.lt_or_eq_of_le hki with hlt | rfl
    · exact hn.inside hs hh k hk hlt hcode
    · exact hdeeper h hh s hs

/-- The scope that line `i` opens lies right inside the last one that encloses the line. -/
theorem placed_opened {s : State} (hn : Nests ls i s.tree s.stack) (hi : i < ls.length)
    (hdeeper : ∀ h ∈ s.stack, ∀ q, s.tree.get? h = some q → indentAt ls q.first < indentAt ls i) (hcode : CodeAt ls i)
    {header : NodeKind × Text} (hheader : Scope.header? (ls.getD i []) .python = some header) :
    Placed ls s.tree (opened s i (indentAt ls i) header) where
  opens := ⟨hcode, Option.isSome_iff_exists.mpr ⟨header, hheader⟩⟩
  header := hheader
  indent := rfl
  parent := by
    intro p q hp hq
    have htop : s.stack.head? = some p := hp
    refine ⟨(hn.encloses_iff hi hdeeper _).mpr ⟨p, List.mem_of_head? htop, q, hq, rfl⟩, fun j henc => ?_⟩
    obtain ⟨h, hh, r, hr, rfl⟩ := (hn.encloses_iff hi hdeeper j).mp henc
    have hle := (hn.progress.le_top htop hh hr hq).1
    rcases Nat.lt_or_eq_of_le hle with hlt | rfl
    · exact Nat.le_of_lt (hn.progress.first_lt hr hq hlt)
    · simp_all
  root := by
    intro hnone j henc
    have hempty : s.stack = [] := List.head?_eq_none_iff.mp hnone
    obtain ⟨h, hh, _⟩ := (hn.encloses_iff hi hdeeper j).mp henc
    simp [hempty] at hh

theorem opened {s : State} (hn : Nests ls i s.tree s.stack) (hi : i < ls.length)
    (hdeeper : ∀ h ∈ s.stack, ∀ q, s.tree.get? h = some q → indentAt ls q.first < indentAt ls i) (hcode : CodeAt ls i)
    {header : NodeKind × Text} (hheader : Scope.header? (ls.getD i []) .python = some header) :
    Nests ls (i + 1) (s.tree.add (opened s i (indentAt ls i) header)) (s.tree.size :: s.stack) := by
  have hprogress : Progress ls (i + 1) (s.tree.add (ScopeTree.opened s i (indentAt ls i) header))
      (s.tree.size :: s.stack) := by
    apply hn.progress.opened hcode.hasText
    intro h hh q hq
    rw [(hn.placed hq).indent]
    exact hdeeper h (List.mem_of_head? hh) q hq
  constructor
  case progress => exact hprogress
  case placed =>
    intro h q hq
    have hlt : ∀ p, q.parent = some p → p < h := fun p hp => hprogress.parent_lt ⟨q, hq, hp⟩
    rcases get?_add_cases hq with ⟨rfl, rfl⟩ | hold
    · exact (hn.placed_opened hi hdeeper hcode hheader).add hlt _
    · have hsize := get?_lt hold
      exact (hn.placed hold).add (fun p hp => Nat.lt_trans (hlt p hp) hsize) _
  case found =>
    intro j hj hopens
    rcases Nat.lt_succ_iff_lt_or_eq.mp hj with hlt | rfl
    · obtain ⟨h, q, hq, hfirst⟩ := hn.found j hlt hopens
      exact ⟨h, q, get?_add_of_some _ hq, hfirst⟩
    · exact ⟨s.tree.size, _, by rw [get?_add, if_pos rfl], rfl⟩
  case inside =>
    intro h q hq hh k hk hki hk'
    rcases get?_add_cases hq with ⟨rfl, rfl⟩ | hold
    · have hfirst : (ScopeTree.opened s i (indentAt ls i) header).first = i := rfl
      omega
    · have hsize := get?_lt hold
      have hmem : h ∈ s.stack := (List.mem_cons.mp hh).resolve_left (by omega)
      rcases Nat.lt_succ_iff_lt_or_eq.mp hki with hlt | rfl
      · exact hn.inside hold hmem k hk hlt hk'
      · exact hdeeper h hmem q hold
  case left =>
    intro h q hq hh
    rw [List.mem_cons, not_or] at hh
    rcases get?_add_cases hq with ⟨rfl, _⟩ | hq
    · exact absurd rfl hh.1
    · exact (hn.left hq hh.2).mono (Nat.le_succ i)

theorem step {s : State} (hn : Nests ls i s.tree s.stack) {line : Text} (hline : ls[i]? = some line) :
    Nests ls (i + 1) (step .python ls i line s).tree (step .python ls i line s).stack := by
  have hi : i < ls.length := (List.getElem?_eq_some_iff.mp hline).1
  obtain rfl : ls.getD i [] = line := by simp [hline]
  unfold ScopeTree.step
  by_cases hcode : CodeAt ls i
  · obtain ⟨hleft, hdeeper⟩ := hn.leaveByIndent hi hcode
    rw [if_neg (by simpa [CodeAt] using hcode), if_pos rfl]
    unfold indentedStep
    cases hheader : Scope.header? (ls.getD i []) .python with
    | none =>
      refine hleft.next (fun hopens => ?_) fun _ => hdeeper
      rw [OpensAt, hheader] at hopens
      simp at hopens
    | some header => exact hleft.opened hi hdeeper hcode hheader
  · rw [if_pos (by simpa [CodeAt] using hcode)]
    exact hn.next (fun hopens => hcode hopens.1) fun h => absurd h hcode

theorem runFrom {s : State} (hn : Nests ls i s.tree s.stack) {rest : List Text} (hrest : ls.drop i = rest)
    (hi : i ≤ ls.length) :
    Nests ls ls.length (runFrom .python ls i rest s).tree (runFrom .python ls i rest s).stack := by
  induction rest generalizing i s with
  | nil =>
    obtain rfl : i = ls.length := Nat.le_antisymm hi (List.drop_eq_nil_iff.mp hrest)
    exact hn
  | cons line rest ih =>
    obtain ⟨hline, hrest⟩ := getElem?_of_drop_eq_cons hrest
    exact ih (hn.step hline) hrest (List.getElem?_eq_some_iff.mp hline).1

/-- At the end of the source all scopes are closed. -/
theorem ofLines (ls : List Text) : Nests ls ls.length (ofLines .python ls) [] := by
  have hrun := (empty ls).runFrom (s := {}) List.drop_zero (Nat.zero_le _)
  have hclosed := hrun.closeWhile (Nat.le_refl _) (fun _ => true) fun _ _ _ hlt => absurd hlt (Nat.lt_irrefl _)
  rwa [hrun.progress.closeAll (Nat.le_refl _) hrun.progress.last_stop] at hclosed

theorem nestsByIndent (hn : Nests ls ls.length t []) : NestsByIndent ls t where
  opens := by
    intro i
    constructor
    · intro hopens
      exact hn.found i hopens.1.hasText.lt_length hopens
    · rintro ⟨h, s, hs, rfl⟩
      exact (hn.placed hs).opens
  ordered := hn.progress.lt_iff_first_lt
  header := fun hs => ⟨(hn.placed hs).header, (hn.placed hs).indent⟩
  parent := by
    intro h s hs p
    constructor
    · intro hp
      obtain ⟨q, hq, _⟩ := hn.progress.parent hs hp
      exact ⟨q, hq, (hn.placed hs).parent p q hp hq⟩
    · rintro ⟨q, hq, hin⟩
      cases hp : s.parent with
      | none => exact absurd hin.encloses ((hn.placed hs).root hp q.first)
      | some p' =>
        -- both are the last line that encloses the header
        obtain ⟨q', hq', _⟩ := hn.progress.parent hs hp
        have hin' := (hn.placed hs).parent p' q' hp hq'
        have h1 := hin.latest _ hin'.encloses
        have h2 := hin'.latest _ hin.encloses
        have h3 := hn.progress.lt_iff_first_lt hq hq'
        have h4 := hn.progress.lt_iff_first_lt hq' hq
        simp only [Option.some.injEq]
        omega
  root := by
    intro h s hs
    refine ⟨(hn.placed hs).root, fun hnone => ?_⟩
    cases hp : s.parent with
    | none => rfl
    | some p =>
      obtain ⟨q, hq, _⟩ := hn.progress.parent hs hp
      exact absurd ((hn.placed hs).parent p q hp hq).encloses (hnone q.first)
  last := by
    intro h s hs
    obtain ⟨stop, _, hstop⟩ := hn.left hs List.not_mem_nil
    exact ⟨stop, hstop⟩

end Nests

/-- One pass with a stack of open scopes finds the scopes that the indentation of the lines makes. -/
theorem ofLines_nestsByIndent (ls : List Text) : NestsByIndent ls (ofLines .python ls) :=
  (Nests.ofLines ls).nestsByIndent

end SourceChunks.ScopeTree
