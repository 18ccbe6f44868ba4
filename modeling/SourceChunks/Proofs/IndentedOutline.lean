import Mathlib.Data.List.Forall2
import SourceChunks.Proofs.Distinct
import SourceChunks.Proofs.Headers
import SourceChunks.Proofs.Outlines
import SourceChunks.Proofs.ScopePass

/-! Two ways to read an indented source. One keeps a single declaration open and ends it at the next header, the
other keeps the open ones on a stack; they skip different comments, and only the first one counts
decorators. Both are compared with the list of all headers of the source, and so they agree. -/

namespace SourceChunks

namespace Outline.Indentation

/-! ### Where a declaration begins -/

/-- `first` is where the decorators right before line `i` begin; without decorators it is `i` itself. -/
structure Begins (ls : List Text) (first i : Nat) : Prop where
  leads : Leads isDecorator counts ls first i
  least : ∀ d, Leads isDecorator counts ls d i → first ≤ d

namespace Begins

variable {ls : List Text} {first i : Nat} {line : Text} {decorators : Option Nat}

theorem zero (ls : List Text) : Begins ls 0 0 := ⟨.refl 0, fun _ _ => Nat.zero_le _⟩

/-- Behind a line that is no decorator and counts, no decorators lead on. -/
theorem stop (hline : ls[i]? = some line) (hcounts : counts line = true) (hno : isDecorator line = false) :
    Begins ls (i + 1) (i + 1) := by
  refine ⟨.refl _, fun d hd => ?_⟩
  by_contra hlt
  obtain ⟨line', hline', hkind⟩ := hd.between i (by omega) (Nat.lt_succ_self i)
  obtain rfl := Option.some.inj (hline.symm.trans hline')
  simp [hcounts, hno] at hkind

theorem extend (h : Begins ls first i) (hline : ls[i]? = some line) (hdecorator : isDecorator line = true) :
    Begins ls first (i + 1) := by
  refine ⟨h.leads.extend hline hdecorator, fun d hd => ?_⟩
  rcases Nat.lt_or_ge i d with hlt | hle
  · exact Nat.le_trans h.leads.le (Nat.le_of_lt hlt)
  · exact h.least d (hd.of_succ hle)

/-- A line that does not count leaves the decorators seen so far as they are. -/
theorem pass (h : Begins ls (decorators.getD i) i) (hbefore : ∀ d, decorators = some d → d < i)
    (hline : ls[i]? = some line) (hcounts : counts line = false) :
    Begins ls (decorators.getD (i + 1)) (i + 1) := by
  have hno : isDecorator line = false := by
    by_contra hdecorator
    rw [counts_of_isDecorator (by simpa using hdecorator)] at hcounts
    cases hcounts
  cases decorators with
  | none =>
    refine ⟨.refl _, fun d hd => ?_⟩
    by_contra hlt
    -- A run from here or from before would begin with this line, or be one that led to it.
    have hd' := hd.of_succ (Nat.le_of_lt_succ (Nat.lt_of_not_le hlt))
    have hi : i ≤ d := h.least d hd'
    obtain rfl : d = i := Nat.le_antisymm hd'.le hi
    obtain ⟨line', hline', hmark⟩ := hd.begins (Nat.lt_succ_self d)
    obtain rfl := Option.some.inj (hline.symm.trans hline')
    simp [hno] at hmark
  | some first =>
    have hlt : first < i := hbefore first rfl
    refine ⟨h.leads.pass hlt hline hcounts, fun d hd => ?_⟩
    rcases Nat.lt_or_ge i d with hlt' | hle
    · exact Nat.le_of_lt (Nat.lt_trans hlt hlt')
    · exact h.least d (hd.of_succ hle)

end Begins

/-! ### The headers of a source -/

/-- A line and what it declares. -/
structure Declared where
  line : Nat
  kind : NodeKind
  name : Text

/-- What line `i` declares, if anything. -/
def declaredAt (i : Nat) (line : Text) : Option Declared := (header? line).map fun h => ⟨i, h.1, h.2⟩

/-- What the lines from `i` on declare. -/
def declaredFrom : (i : Nat) → List Text → List Declared
  | _, [] => []
  | i, line :: rest => (declaredAt i line).toList ++ declaredFrom (i + 1) rest

/-- All headers of the source and nothing else, in the order of their lines. -/
structure Listed (ls : List Text) (hs : List Declared) : Prop where
  ordered : hs.Pairwise fun h h' => h.line < h'.line
  complete : ∀ h, h ∈ hs ↔ ∃ line, ls[h.line]? = some line ∧ Heads line h.kind h.name

theorem declaredAt_eq_some_iff {i : Nat} {line : Text} {h : Declared} :
    declaredAt i line = some h ↔ h.line = i ∧ Heads line h.kind h.name := by
  rw [← header?_eq_some_iff, declaredAt, Option.map_eq_some_iff]
  constructor
  · rintro ⟨⟨kind, name⟩, hheader, rfl⟩
    exact ⟨rfl, hheader⟩
  · rintro ⟨rfl, hheader⟩
    exact ⟨_, hheader, rfl⟩

theorem mem_declaredFrom {i : Nat} {rest : List Text} {h : Declared} :
    h ∈ declaredFrom i rest ↔ ∃ k line, h.line = i + k ∧ rest[k]? = some line ∧ Heads line h.kind h.name := by
  induction rest generalizing i with
  | nil => simp [declaredFrom]
  | cons line rest ih =>
    rw [declaredFrom, List.mem_append, Option.mem_toList, declaredAt_eq_some_iff, ih]
    constructor
    · rintro (⟨hi, hheads⟩ | ⟨k, line', hk, hline', hheads⟩)
      · exact ⟨0, line, hi, rfl, hheads⟩
      · exact ⟨k + 1, line', by omega, hline', hheads⟩
    · rintro ⟨k, line', hk, hline', hheads⟩
      cases k with
      | zero =>
        obtain rfl := Option.some.inj hline'
        exact .inl ⟨hk, hheads⟩
      | succ k => exact .inr ⟨k, line', by omega, hline', hheads⟩

theorem declaredFrom_ordered (i : Nat) (rest : List Text) :
    (declaredFrom i rest).Pairwise fun h h' => h.line < h'.line := by
  induction rest generalizing i with
  | nil => exact .nil
  | cons line rest ih =>
    refine List.pairwise_append.mpr ⟨?_, ih (i + 1), fun h hh h' hh' => ?_⟩
    · cases declaredAt i line <;> simp
    · obtain ⟨hi, _⟩ := declaredAt_eq_some_iff.mp (Option.mem_toList.mp hh)
      obtain ⟨k, _, hk, _⟩ := mem_declaredFrom.mp hh'
      omega

theorem listed_declaredFrom (ls : List Text) : Listed ls (declaredFrom 0 ls) where
  ordered := declaredFrom_ordered 0 ls
  complete h := by
    rw [mem_declaredFrom]
    constructor
    · rintro ⟨k, line, hk, hline, hheads⟩
      rw [Nat.zero_add] at hk
      exact ⟨line, hk ▸ hline, hheads⟩
    · rintro ⟨line, hline, hheads⟩
      exact ⟨h.line, line, (Nat.zero_add _).symm, hline, hheads⟩

/-- A line without a header declares nothing. -/
theorem declaredAt_eq_none {i : Nat} {line : Text} (h : ∀ kind name, ¬ Heads line kind name) :
    declaredAt i line = none := by
  rw [Option.eq_none_iff_forall_not_mem]
  intro d hd
  exact h d.kind d.name (declaredAt_eq_some_iff.mp hd).2

theorem declaredAt_of_not_counts {i : Nat} {line : Text} (h : counts line = false) : declaredAt i line = none := by
  refine declaredAt_eq_none fun kind name hheads => ?_
  simp [hheads.counts] at h

/-! ### One declaration at a time -/

/-- An invariant of the pass that ties declarations to their headers by `R`. It says what is open before a line, and
which header opened it. -/
structure Carries (ls : List Text) (Inv : Nat → State → Option Declared → Prop) (R : Node → Declared → Prop) :
    Prop where
  start : Inv 0 {} none
  step : ∀ {i line s pending ended next}, i < ls.length → ls[i]? = some line → Effect ls i line s ended next →
    Inv i s pending → ∃ done pending', pending.toList ++ (declaredAt i line).toList = done ++ pending'.toList ∧
      List.Forall₂ R ended done ∧ Inv (i + 1) next pending'
  finish : ∀ {s pending}, Inv ls.length s pending → List.Forall₂ R (s.closed ls (ls.length - 1)) pending.toList

namespace Carries

variable {ls : List Text} {Inv : Nat → State → Option Declared → Prop} {R : Node → Declared → Prop}

theorem nodesFrom (hc : Carries ls Inv R) {i : Nat} {s : State} {pending : Option Declared} {rest : List Text}
    (h : Inv i s pending) (hrest : ls.drop i = rest) (hi : i ≤ ls.length) :
    List.Forall₂ R (nodesFrom ls i rest s) (pending.toList ++ declaredFrom i rest) := by
  induction rest generalizing i s pending with
  | nil =>
    obtain rfl : i = ls.length := Nat.le_antisymm hi (List.drop_eq_nil_iff.mp hrest)
    rw [declaredFrom, List.append_nil]
    exact hc.finish h
  | cons line rest ih =>
    obtain ⟨hline, hrest⟩ := getElem?_of_drop_eq_cons hrest
    have hlt : i < ls.length := (List.getElem?_eq_some_iff.mp hline).1
    obtain ⟨done, pending', hsplit, hdone, hnext⟩ := hc.step hlt hline (step_effect ls i line s) h
    rw [declaredFrom, ← List.append_assoc, hsplit, List.append_assoc]
    exact List.rel_append hdone (ih hnext hrest hlt)

/-- The whole pass gives one declaration for each header. -/
theorem nodes (hc : Carries ls Inv R) : List.Forall₂ R (nodes ls) (declaredFrom 0 ls) :=
  hc.nodesFrom hc.start List.drop_zero (Nat.zero_le _)

end Carries

/-- The open declaration is that of a header. -/
structure OpenedBy (ls : List Text) (n : OpenNode) (h : Declared) : Prop where
  kind : n.kind = h.kind
  name : n.name = h.name
  first : Begins ls n.first h.line

/-- The declaration is that of a header: it begins with the decorators before it. -/
structure DeclaredBy (ls : List Text) (n : Node) (h : Declared) : Prop where
  kind : n.kind = h.kind
  name : n.name = h.name
  first : ∃ first : Nat, n.first = first ∧ Begins ls first h.line

theorem OpenedBy.close {ls : List Text} {n : OpenNode} {h : Declared} (hn : OpenedBy ls n h) (stop : Nat) :
    DeclaredBy ls (n.close ls stop) h :=
  ⟨hn.kind, hn.name, n.first, rfl, hn.first⟩

/-- The state before line `i`: `pending` is the header of the open declaration. -/
structure Follows (ls : List Text) (i : Nat) (s : State) (pending : Option Declared) : Prop where
  current : List.Forall₂ (OpenedBy ls) s.current.toList pending.toList
  before : ∀ d, s.decorators = some d → d < i
  run : Begins ls (s.decorators.getD i) i

namespace Follows

variable {ls : List Text} {i : Nat} {s : State} {pending : Option Declared} {line : Text}

theorem start (ls : List Text) : Follows ls 0 {} none where
  current := .nil
  before _ h := nomatch h
  run := .zero ls

theorem closed (h : Follows ls i s pending) (stop : Nat) :
    List.Forall₂ (DeclaredBy ls) (s.closed ls stop) pending.toList := by
  rw [State.closed, Option.toList_map, List.forall₂_map_left_iff]
  exact h.current.imp fun _ _ hn => hn.close stop

/-- The decorators seen behind a line that counts and declares nothing. -/
theorem run_succ (h : Follows ls i s pending) (hline : ls[i]? = some line) (hcounts : counts line = true) :
    Begins ls ((decoratorsAfter i line s).getD (i + 1)) (i + 1) := by
  unfold decoratorsAfter
  by_cases hdecorator : isDecorator line = true
  · have hfirst : (s.decorators.or (some i)).getD (i + 1) = s.decorators.getD i := by
      cases s.decorators <;> rfl
    rw [if_pos hdecorator, hfirst]
    exact h.run.extend hline hdecorator
  · rw [if_neg hdecorator]
    exact .stop hline hcounts (by simpa using hdecorator)

theorem before_succ (h : Follows ls i s pending) (line : Text) :
    ∀ d, decoratorsAfter i line s = some d → d < i + 1 := by
  intro d hd
  rcases decorators_next hd with hold | rfl
  · exact Nat.lt_succ_of_lt (h.before d hold)
  · exact Nat.lt_succ_self d

/-- One line: what ends was declared before, and what is open then was declared last. -/
theorem step (h : Follows ls i s pending) (hline : ls[i]? = some line) {ended : List Node} {next : State}
    (he : Effect ls i line s ended next) :
    ∃ done pending', pending.toList ++ (declaredAt i line).toList = done ++ pending'.toList ∧
      List.Forall₂ (DeclaredBy ls) ended done ∧ Follows ls (i + 1) next pending' := by
  cases he with
  | nothing hcounts =>
    rw [declaredAt_of_not_counts hcounts, Option.toList_none, List.append_nil]
    refine ⟨[], pending, rfl, .nil, h.current, fun d hd => Nat.lt_succ_of_lt (h.before d hd), ?_⟩
    exact h.run.pass h.before hline hcounts
  | @declares hcounts header hheader =>
    rw [declaredAt, hheader]
    refine ⟨pending.toList, some ⟨i, header.1, header.2⟩, rfl, h.closed (i - 1), ?_, ?_, ?_⟩
    · exact .cons ⟨rfl, rfl, h.run⟩ .nil
    · exact fun _ hd => nomatch hd
    · exact .stop hline hcounts (header?_eq_some_iff.mp hheader).isDecorator
  | leaves hcounts hheader _ =>
    rw [declaredAt, hheader, Option.map_none, Option.toList_none, List.append_nil]
    exact ⟨pending.toList, none, (List.append_nil _).symm, h.closed (i - 1), .nil, h.before_succ line,
      h.run_succ hline hcounts⟩
  | passes hcounts hheader _ =>
    rw [declaredAt, hheader, Option.map_none, Option.toList_none, List.append_nil]
    exact ⟨[], pending, rfl, .nil, h.current, h.before_succ line, h.run_succ hline hcounts⟩

theorem carries (ls : List Text) : Carries ls (Follows ls) (DeclaredBy ls) where
  start := .start ls
  step := fun _ hline he h => h.step hline he
  finish := fun h => h.closed (ls.length - 1)

end Follows

theorem nodes_declaredBy (ls : List Text) : List.Forall₂ (DeclaredBy ls) (nodes ls) (declaredFrom 0 ls) :=
  (Follows.carries ls).nodes

theorem map_nodes (ls : List Text) :
    (nodes ls).map (fun n => (n.kind, n.name)) = (declaredFrom 0 ls).map fun h => (h.kind, h.name) := by
  rw [← List.forall₂_eq_eq_eq, List.forall₂_map_left_iff, List.forall₂_map_right_iff]
  exact (nodes_declaredBy ls).imp fun _ _ hn => Prod.ext hn.kind hn.name

theorem mem_declaredNames {ls : List Text} {name : Text} :
    name ∈ declaredNames ls ↔ ∃ line ∈ ls, ∃ kind, Heads line kind name := by
  simp [declaredNames, mem_distinct, header?_eq_some_iff]

end Outline.Indentation

/-! ### Scopes on a stack -/

open Outline.Indentation in
/-- Scopes look for a class before they look for a function and outlines the other way round, but no line is both. -/
theorem Scope.header?_python (line : Text) : Scope.header? line .python = Outline.Indentation.header? line := by
  cases hclass : classHeader.matchStart? line with
  | none => rw [header?, Outline.Indentation.header?, hclass, Option.map_none, Option.none_or, Option.or_none]
  | some m =>
    have hheads : Heads line .class_ (m.get 1) := heads_of_matchStart? spells_classFront unlabelled_classFront hclass
    rw [header?_eq_some_iff.mpr hheads, header?, hclass, Option.map_some, Option.some_or]

namespace ScopeTree

open Outline.Indentation

/-- The header that a scope was opened by. -/
def opener (s : Scope) : Declared := ⟨s.first, s.kind, s.name⟩

/-- The headers of the scopes by number. -/
def openers (t : ScopeTree) : List Declared := t.scopes.map opener

theorem openers_close (ls : List Text) (stop : Nat) (t : ScopeTree) (h : Nat) :
    (close ls stop t h).openers = t.openers := by
  cases hs : t.get? h with
  | none => rw [close, hs]
  | some s =>
    refine List.ext_getElem? fun k => ?_
    have hget := get?_close ls stop hs k
    rw [get?, get?] at hget
    rw [openers, openers, List.getElem?_map, List.getElem?_map, hget, Option.map_map]
    rfl

theorem openers_closeWhile (leaves : Scope → Bool) (ls : List Text) (stop : Nat) (stack : List Nat) (t : ScopeTree) :
    (closeWhile leaves ls stop stack t).2.openers = t.openers := by
  induction stack generalizing t with
  | nil => rfl
  | cons h stack ih =>
    rw [closeWhile]
    split
    · rw [ih, openers_close]
    · rfl

theorem openers_add (t : ScopeTree) (s : Scope) : (t.add s).openers = t.openers ++ [opener s] := by
  rw [openers, add, List.map_append]
  rfl

/-- A line adds its own header; whether it is skipped as a comment makes no difference. -/
theorem openers_step (ls : List Text) (i : Nat) (line : Text) (s : State) :
    (step .python ls i line s).tree.openers = s.tree.openers ++ (declaredAt i line).toList := by
  have hleave (indent : Nat) : (leaveByIndent ls i indent s).tree.openers = s.tree.openers :=
    openers_closeWhile _ ls (i - 1) s.stack s.tree
  unfold step
  by_cases hcode : isCodeLine line = true
  · rw [if_neg (by simp [hcode]), if_pos rfl, indentedStep]
    rw [Scope.header?_python, declaredAt]
    cases header? line with
    | none =>
      rw [Option.map_none, Option.toList_none, List.append_nil]
      exact hleave _
    | some header =>
      dsimp only
      rw [openers_add, hleave]
      rfl
  · have hdeclared : declaredAt i line = none := declaredAt_eq_none fun _ _ hheads => hcode hheads.isCodeLine
    rw [if_pos (by simpa using hcode), hdeclared, Option.toList_none, List.append_nil]

theorem openers_runFrom (ls : List Text) (i : Nat) (rest : List Text) (s : State) :
    (runFrom .python ls i rest s).tree.openers = s.tree.openers ++ declaredFrom i rest := by
  induction rest generalizing i s with
  | nil => rw [runFrom, declaredFrom, List.append_nil]
  | cons line rest ih => rw [runFrom, ih, openers_step, declaredFrom, List.append_assoc]

theorem openers_ofLines (ls : List Text) : (ofLines .python ls).openers = declaredFrom 0 ls := by
  rw [ofLines, openers_closeWhile, openers_runFrom]
  rfl

end ScopeTree

/-! ### Agreement -/

namespace Outline.Indentation

/-- Declarations and scopes of one source, and the headers that both come from. -/
structure Agree (ls : List Text) (ns : List Node) (scopes : List Scope) (hs : List Declared) : Prop where
  headers : Listed ls hs
  same : ns.map (fun n => (n.kind, n.name)) = scopes.map fun s => (s.kind, s.name)
  declarations : List.Forall₂ (DeclaredBy ls) ns hs
  scopes : List.Forall₂ (fun s h => s.kind = h.kind ∧ s.name = h.name ∧ s.first = h.line) scopes hs
  named : ∀ n ∈ ns, n.name ∈ declaredNames ls

/-- Both passes find what the headers declare, each header once and in order. -/
theorem nodes_agree_scopes (ls : List Text) : ∃ hs, Agree ls (nodes ls) (ScopeTree.ofLines .python ls).scopes hs := by
  have hscopes : (ScopeTree.ofLines .python ls).scopes.map ScopeTree.opener = declaredFrom 0 ls :=
    ScopeTree.openers_ofLines ls
  refine ⟨declaredFrom 0 ls, listed_declaredFrom ls, ?_, nodes_declaredBy ls, ?_, ?_⟩
  · rw [map_nodes, ← hscopes, List.map_map]
    rfl
  · rw [← hscopes, List.forall₂_map_right_iff, List.forall₂_same]
    exact fun s _ => ⟨rfl, rfl, rfl⟩
  · intro n hn
    have hpair : (n.kind, n.name) ∈ (declaredFrom 0 ls).map fun h => (h.kind, h.name) :=
      map_nodes ls ▸ List.mem_map_of_mem hn
    obtain ⟨h, hh, heq⟩ := List.mem_map.mp hpair
    obtain ⟨line, hline, hheads⟩ := ((listed_declaredFrom ls).complete h).mp hh
    have hname : h.name = n.name := (Prod.mk.inj heq).2
    exact mem_declaredNames.mpr ⟨line, List.mem_of_getElem? hline, h.kind, hname ▸ hheads⟩

end Outline.Indentation

end SourceChunks
