import Mathlib.Data.List.Nodup
import Mathlib.Tactic.Choose
import SourceChunks.Proofs.TreePlaces
import SourceChunks.Syntax.Declared

/-! The search for declarations in a syntax tree, told from the tree alone. A place is reported if a declaration
stands there and every declaration above it lets the search pass: a class, an interface or an enumeration does, and
a decorated one passes it on into its definition, which is not reported once more. What is reported names the
innermost reported place above it as its parent. -/

namespace SourceChunks.SyntaxTree

variable {g : Grammar} {outer : Option Text} {t : SyntaxTree}

/-! ### One tree -/

theorem declaredAll_eq (ts : List SyntaxTree) : declaredAll g outer ts = ts.flatMap (declared g outer) := by
  induction ts with
  | nil => rw [declaredAll, List.flatMap_nil]
  | cons t ts ih => rw [declaredAll, ih, List.flatMap_cons]

theorem declaredInside_eq (ts : List SyntaxTree) :
    declaredInside g outer ts =
      ((ts.find? (·.role == .definition)).map fun d => d.children.flatMap (declared g outer)).getD [] := by
  induction ts with
  | nil => rw [declaredInside, List.find?_nil, Option.map_none, Option.getD_none]
  | cons t ts ih =>
    obtain ⟨kind, role, text, start, stop, children⟩ := t
    rw [declaredInside, ih, declaredAll_eq, List.find?_cons]
    cases role with
    | definition => rfl
    | name | body | part => rfl

theorem definition_of_ne (h : t.kind ≠ .decoratedDefinition) : t.definition = t := if_neg h

/-- A decorated declaration with members has a definition. -/
theorem find?_definition (hkind : t.kind = .decoratedDefinition) (hmembers : t.definition.kind.isContainer = true) :
    t.children.find? (·.role == .definition) = some t.definition := by
  have hdef : t.definition = (t.child? .definition).getD t := if_pos hkind
  rw [hdef] at hmembers ⊢
  cases hchild : t.child? .definition with
  | some d => exact hchild
  | none => simp [hchild, hkind, SyntaxKind.isContainer] at hmembers

/-- The search at a tree: a declaration is reported and its members are searched under its name, and anything else
is passed through. -/
theorem declared_eq (g : Grammar) (outer : Option Text) (t : SyntaxTree) :
    declared g outer t =
      if g.reports t.kind then
        t.toNode g outer ::
          if t.definition.kind.isContainer then
            t.definition.children.flatMap (declared g (some t.nameOrLine))
          else []
      else t.children.flatMap (declared g outer) := by
  obtain ⟨kind, role, text, start, stop, children⟩ := t
  rw [declared]
  generalize ht : node kind role text start stop children = t
  obtain rfl : t.kind = kind := ht ▸ rfl
  obtain rfl : t.children = children := ht ▸ rfl
  by_cases hreports : g.reports t.kind = true
  · rw [if_pos hreports, if_pos hreports]
    by_cases hmembers : t.definition.kind.isContainer = true
    · rw [if_pos hmembers, if_neg (by simp [hmembers])]
      by_cases hkind : t.kind = .decoratedDefinition
      · rw [if_pos hkind, declaredInside_eq, find?_definition hkind hmembers, Option.map_some, Option.getD_some]
      · rw [if_neg hkind, declaredAll_eq, definition_of_ne hkind]
    · rw [if_neg hmembers, if_pos (by simp [hmembers])]
  · rw [if_neg hreports, if_neg hreports, declaredAll_eq]

theorem sizeOf_lt_of_mem_children {c : SyntaxTree} (h : c ∈ t.children) : sizeOf c < sizeOf t := by
  obtain ⟨kind, role, text, start, stop, children⟩ := t
  have hlt : sizeOf c < sizeOf children := List.sizeOf_lt_of_mem h
  simp only [node.sizeOf_spec]
  omega

/-! ### Reported places -/

/-- The tree lets the search through its child `i` to the place `rest` below that child. A declaration does so only
if it has members, and a decorated one only inside its definition. -/
def Passes (g : Grammar) (t : SyntaxTree) (i : Nat) (rest : List Nat) : Prop :=
  g.reports t.kind = true → t.definition.kind.isContainer = true ∧
    (t.kind = .decoratedDefinition → t.children.findIdx? (·.role == .definition) = some i ∧ rest ≠ [])

/-- A declaration stands at place `p`, and everything above lets the search pass. -/
structure Reported (g : Grammar) (t : SyntaxTree) (p : List Nat) : Prop where
  declares : ∃ u, t.at? p = some u ∧ g.reports u.kind = true
  passes : ∀ q i r v, p = q ++ i :: r → t.at? q = some v → v.Passes g i r

theorem reported_nil_iff : Reported g t [] ↔ g.reports t.kind = true := by
  constructor
  · rintro ⟨⟨u, hu, hreports⟩, -⟩
    rwa [Option.some.inj hu]
  · intro h
    exact ⟨⟨t, rfl, h⟩, fun q i r v hp => absurd hp (by simp)⟩

theorem reported_cons_iff {i : Nat} {p : List Nat} :
    Reported g t (i :: p) ↔ t.Passes g i p ∧ ∃ c, t.children[i]? = some c ∧ Reported g c p := by
  constructor
  · rintro ⟨⟨u, hu, hreports⟩, hpasses⟩
    obtain ⟨c, hc, hu⟩ := at?_cons_eq_some_iff.mp hu
    refine ⟨hpasses [] i p t rfl rfl, c, hc, ⟨u, hu, hreports⟩, ?_⟩
    rintro q j r v rfl hv
    exact hpasses (i :: q) j r v rfl (at?_cons_eq_some_iff.mpr ⟨c, hc, hv⟩)
  · rintro ⟨hpass, c, hc, ⟨u, hu, hreports⟩, hpasses⟩
    refine ⟨⟨u, at?_cons_eq_some_iff.mpr ⟨c, hc, hu⟩, hreports⟩, ?_⟩
    intro q j r v hp hv
    cases q with
    | nil =>
      obtain ⟨rfl, rfl⟩ := List.cons.inj hp
      obtain rfl := Option.some.inj hv
      exact hpass
    | cons k q =>
      obtain ⟨rfl, rfl⟩ := List.cons.inj hp
      obtain ⟨d, hd, hv⟩ := at?_cons_eq_some_iff.mp hv
      obtain rfl := Option.some.inj (hc.symm.trans hd)
      exact hpasses q j r v rfl hv

/-- The place is below a child and reported there. -/
def BelowChild (g : Grammar) (t : SyntaxTree) (p : List Nat) : Prop :=
  ∃ i q c, p = i :: q ∧ t.children[i]? = some c ∧ Reported g c q

/-- Where the search passes everywhere, what is reported of the children is reported of the tree. -/
theorem reported_iff_of_passes (h : ∀ i r, t.Passes g i r) {p : List Nat} :
    Reported g t p ↔ (p = [] ∧ g.reports t.kind = true) ∨ BelowChild g t p := by
  cases p with
  | nil => simp [reported_nil_iff, BelowChild]
  | cons i p => simp [reported_cons_iff, BelowChild, h]

/-- Nothing is reported below a declaration without members. -/
theorem reported_iff_of_not_members (hreports : g.reports t.kind = true)
    (h : ¬ t.definition.kind.isContainer = true) {p : List Nat} : Reported g t p ↔ p = [] := by
  cases p with
  | nil => simp [reported_nil_iff, hreports]
  | cons i p =>
    rw [reported_cons_iff]
    simp only [List.cons_ne_nil, iff_false, not_and]
    exact fun hpass => absurd (hpass hreports).1 h

/-- Below a decorated declaration what is reported are the members of its definition. -/
theorem reported_iff_of_decorated (hreports : g.reports t.kind = true) (hkind : t.kind = .decoratedDefinition)
    (hmembers : t.definition.kind.isContainer = true) {k : Nat}
    (hk : t.children.findIdx? (·.role == .definition) = some k) (hd : t.children[k]? = some t.definition)
    {p : List Nat} : Reported g t p ↔ p = [] ∨ ∃ q, p = k :: q ∧ BelowChild g t.definition q := by
  have hplain : t.definition.kind ≠ .decoratedDefinition := fun h => by simp [h, SyntaxKind.isContainer] at hmembers
  have hpasses (i : Nat) (r : List Nat) : t.definition.Passes g i r := by
    intro _
    rw [definition_of_ne hplain]
    exact ⟨hmembers, fun h => absurd h hplain⟩
  cases p with
  | nil => simp [reported_nil_iff, hreports]
  | cons i p =>
    rw [reported_cons_iff]
    constructor
    · rintro ⟨hpass, c, hc, hreported⟩
      obtain ⟨hi, hne⟩ := (hpass hreports).2 hkind
      obtain rfl := Option.some.inj (hk.symm.trans hi)
      obtain rfl := Option.some.inj (hd.symm.trans hc)
      rcases (reported_iff_of_passes hpasses).mp hreported with ⟨rfl, -⟩ | hbelow
      · exact absurd rfl hne
      · exact .inr ⟨p, rfl, hbelow⟩
    · rintro (h | ⟨q, h, hbelow⟩)
      · exact absurd h (List.cons_ne_nil i p)
      · obtain ⟨rfl, rfl⟩ := List.cons.inj h
        refine ⟨fun _ => ⟨hmembers, fun _ => ⟨hk, ?_⟩⟩, t.definition, hd,
          (reported_iff_of_passes hpasses).mpr (.inr hbelow)⟩
        obtain ⟨j, r, c, rfl, -⟩ := hbelow
        exact List.cons_ne_nil j r

/-! ### Sites -/

/-- A declaration found in a tree: its place, what stands there, and the name of its parent. -/
structure Site where
  path : List Nat
  tree : SyntaxTree
  parent : Option Text

namespace Site

/-- What is reported of a site. -/
def toNode (g : Grammar) (s : Site) : Node := s.tree.toNode g s.parent

/-- The site seen from one place higher. -/
def under (i : Nat) (s : Site) : Site := { s with path := i :: s.path }

@[simp] theorem path_under (i : Nat) (s : Site) : (s.under i).path = i :: s.path := rfl

@[simp] theorem toNode_under (g : Grammar) (i : Nat) (s : Site) : (s.under i).toNode g = s.toNode g := rfl

end Site

theorem map_toNode_under (i : Nat) (sites : List Site) :
    (sites.map (Site.under i)).map (·.toNode g) = sites.map (·.toNode g) := by
  rw [List.map_map]
  rfl

/-- `r` is the innermost of the sites above `s`. -/
structure Innermost (sites : List Site) (r s : Site) : Prop where
  mem : r ∈ sites
  above : Above r.path s.path
  innermost : ∀ q ∈ sites, Above q.path s.path → q.path <+: r.path

/-- The parent of `s` is named after the innermost site above it, and is `outer` if no site is above it. -/
def Named (outer : Option Text) (sites : List Site) (s : Site) : Prop :=
  (s.parent = outer ∧ ∀ r ∈ sites, ¬ Above r.path s.path) ∨
    ∃ r, Innermost sites r s ∧ s.parent = some r.tree.nameOrLine

/-- Seen from one place higher a site has the same parent, if nothing else comes above it. -/
theorem Named.under {sites sites' : List Site} {s : Site} (h : Named outer sites s) (i : Nat)
    (hmem : ∀ r ∈ sites, r.under i ∈ sites')
    (habove : ∀ r' ∈ sites', Above r'.path (s.under i).path → ∃ r ∈ sites, r' = r.under i) :
    Named outer sites' (s.under i) := by
  rcases h with ⟨hparent, hnone⟩ | ⟨r, ⟨hr, hrs, hinner⟩, hparent⟩
  · refine .inl ⟨hparent, fun r' hr' hab => ?_⟩
    obtain ⟨r, hr, rfl⟩ := habove r' hr' hab
    exact hnone r hr (above_cons_iff.mp hab).2
  · refine .inr ⟨r.under i, ⟨hmem r hr, above_cons_iff.mpr ⟨rfl, hrs⟩, fun q' hq' hab => ?_⟩, hparent⟩
    obtain ⟨q, hq, rfl⟩ := habove q' hq' hab
    exact List.cons_prefix_cons.mpr ⟨rfl, hinner q hq (above_cons_iff.mp hab).2⟩

/-- The sites of a tree at the places where `P` holds. -/
structure Lists (outer : Option Text) (t : SyntaxTree) (P : List Nat → Prop) (sites : List Site) : Prop where
  located : ∀ s ∈ sites, t.at? s.path = some s.tree
  nodup : (sites.map Site.path).Nodup
  mem_iff : ∀ p, p ∈ sites.map Site.path ↔ P p
  named : ∀ s ∈ sites, Named outer sites s

namespace Lists

variable {P Q : List Nat → Prop} {sites : List Site}

theorem nil (outer : Option Text) (t : SyntaxTree) : Lists outer t (fun _ => False) [] :=
  ⟨by simp, by simp, by simp, by simp⟩

theorem congr (h : Lists outer t P sites) (hPQ : ∀ p, P p ↔ Q p) : Lists outer t Q sites :=
  ⟨h.located, h.nodup, fun p => (h.mem_iff p).trans (hPQ p), h.named⟩

theorem of_mem (h : Lists outer t P sites) {s : Site} (hs : s ∈ sites) : P s.path :=
  (h.mem_iff s.path).mp (List.mem_map_of_mem hs)

/-- The sites of a child, seen from its parent. -/
theorem under {d : SyntaxTree} {k : Nat} (hk : t.children[k]? = some d) (h : Lists outer d P sites) :
    Lists outer t (fun p => ∃ q, p = k :: q ∧ P q) (sites.map (Site.under k)) where
  located := by
    intro s hs
    obtain ⟨r, hr, rfl⟩ := List.mem_map.mp hs
    exact at?_cons_eq_some_iff.mpr ⟨d, hk, h.located r hr⟩
  nodup := by
    have hpaths : (sites.map (Site.under k)).map Site.path = (sites.map Site.path).map (k :: ·) := by simp
    rw [hpaths]
    exact h.nodup.map (List.cons_injective)
  mem_iff := by
    intro p
    rw [List.map_map, List.mem_map]
    constructor
    · rintro ⟨s, hs, rfl⟩
      exact ⟨s.path, rfl, h.of_mem hs⟩
    · rintro ⟨q, rfl, hq⟩
      obtain ⟨s, hs, rfl⟩ := List.mem_map.mp ((h.mem_iff q).mpr hq)
      exact ⟨s, hs, rfl⟩
  named := by
    intro s hs
    obtain ⟨r, hr, rfl⟩ := List.mem_map.mp hs
    refine (h.named r hr).under k (fun q hq => List.mem_map_of_mem hq) fun q' hq' _ => ?_
    obtain ⟨q, hq, rfl⟩ := List.mem_map.mp hq'
    exact ⟨q, hq, rfl⟩

/-- A declaration and what is found below it under its name. -/
theorem root (h : Lists (some t.nameOrLine) t P sites) (hP : ∀ p, P p → p ≠ []) (outer : Option Text) :
    Lists outer t (fun p => p = [] ∨ P p) (⟨[], t, outer⟩ :: sites) where
  located := by
    intro s hs
    rcases List.mem_cons.mp hs with rfl | hs
    · rfl
    · exact h.located s hs
  nodup := by
    rw [List.map_cons, List.nodup_cons, h.mem_iff]
    exact ⟨fun hnil => hP [] hnil rfl, h.nodup⟩
  mem_iff := by
    intro p
    rw [List.map_cons, List.mem_cons, h.mem_iff]
  named := by
    intro s hs
    rcases List.mem_cons.mp hs with rfl | hs
    · exact .inl ⟨rfl, fun r _ => not_above_nil r.path⟩
    obtain ⟨i, p, hpath⟩ := List.exists_cons_of_ne_nil (hP s.path (h.of_mem hs))
    rcases h.named s hs with ⟨hparent, hnone⟩ | ⟨r, ⟨hr, hrs, hinner⟩, hparent⟩
    · refine .inr ⟨⟨[], t, outer⟩, ⟨List.mem_cons_self, hpath ▸ above_nil_cons i p, fun q hq hab => ?_⟩, hparent⟩
      rcases List.mem_cons.mp hq with rfl | hq
      · exact List.prefix_rfl
      · exact absurd hab (hnone q hq)
    · refine .inr ⟨r, ⟨List.mem_cons_of_mem _ hr, hrs, fun q hq hab => ?_⟩, hparent⟩
      rcases List.mem_cons.mp hq with rfl | hq
      · exact List.nil_prefix
      · exact hinner q hq hab

end Lists

/-! ### All children -/

/-- The sites of several trees, each seen from their parent. -/
def gather (f : SyntaxTree → List Site) (ts : List SyntaxTree) : List Site :=
  ts.zipIdx.flatMap fun c => (f c.1).map (Site.under c.2)

section Gather

variable {f : SyntaxTree → List Site} {ts : List SyntaxTree}

theorem mem_gather {s : Site} : s ∈ gather f ts ↔ ∃ i c, ts[i]? = some c ∧ ∃ r ∈ f c, s = r.under i := by
  simp only [gather, List.mem_flatMap, List.mem_map, Prod.exists, List.mk_mem_zipIdx_iff_getElem?]
  constructor
  · rintro ⟨c, i, hc, r, hr, rfl⟩
    exact ⟨i, c, hc, r, hr, rfl⟩
  · rintro ⟨i, c, hc, r, hr, rfl⟩
    exact ⟨c, i, hc, r, hr, rfl⟩

theorem map_toNode_gather (h : ∀ c ∈ ts, declared g outer c = (f c).map (·.toNode g)) :
    (gather f ts).map (·.toNode g) = ts.flatMap (declared g outer) := by
  have hone : ∀ c ∈ ts.zipIdx, ((f c.1).map (Site.under c.2)).map (·.toNode g) = declared g outer c.1 := by
    intro c hc
    rw [map_toNode_under, h c.1 (List.fst_mem_of_mem_zipIdx hc)]
  rw [gather, List.map_flatMap, List.flatMap_congr hone]
  conv_rhs => rw [← List.zipIdx_map_fst 0 ts, List.flatMap_map]

theorem nodup_paths_gather (h : ∀ c ∈ ts, ((f c).map Site.path).Nodup) : ((gather f ts).map Site.path).Nodup := by
  rw [gather, List.map_flatMap, List.nodup_flatMap]
  constructor
  · intro c hc
    have hpaths : ((f c.1).map (Site.under c.2)).map Site.path = ((f c.1).map Site.path).map (c.2 :: ·) := by simp
    rw [hpaths]
    exact (h c.1 (List.fst_mem_of_mem_zipIdx hc)).map List.cons_injective
  · have hindices : (ts.zipIdx.map Prod.snd).Nodup := by
      rw [List.zipIdx_map_snd]
      exact List.nodup_range'
    refine (List.pairwise_map.mp hindices).imp ?_
    rintro ⟨c, i⟩ ⟨d, j⟩ hij p hp hp'
    obtain ⟨r, hr, rfl⟩ := List.mem_map.mp hp
    obtain ⟨r', hr', he⟩ := List.mem_map.mp hp'
    obtain ⟨q, -, rfl⟩ := List.mem_map.mp hr
    obtain ⟨q', -, rfl⟩ := List.mem_map.mp hr'
    exact hij (List.cons.inj he).1.symm

/-- The sites of all children, seen from their parent. -/
theorem Lists.gather (h : ∀ c ∈ t.children, Lists outer c (Reported g c) (f c)) :
    Lists outer t (BelowChild g t) (gather f t.children) where
  located := by
    intro s hs
    obtain ⟨i, c, hc, r, hr, rfl⟩ := mem_gather.mp hs
    exact at?_cons_eq_some_iff.mpr ⟨c, hc, (h c (List.mem_of_getElem? hc)).located r hr⟩
  nodup := nodup_paths_gather fun c hc => (h c hc).nodup
  mem_iff := by
    intro p
    rw [List.mem_map]
    constructor
    · rintro ⟨s, hs, rfl⟩
      obtain ⟨i, c, hc, r, hr, rfl⟩ := mem_gather.mp hs
      exact ⟨i, r.path, c, rfl, hc, (h c (List.mem_of_getElem? hc)).of_mem hr⟩
    · rintro ⟨i, q, c, rfl, hc, hq⟩
      obtain ⟨r, hr, rfl⟩ := List.mem_map.mp (((h c (List.mem_of_getElem? hc)).mem_iff q).mpr hq)
      exact ⟨r.under i, mem_gather.mpr ⟨i, c, hc, r, hr, rfl⟩, rfl⟩
  named := by
    intro s hs
    obtain ⟨i, c, hc, r, hr, rfl⟩ := mem_gather.mp hs
    refine ((h c (List.mem_of_getElem? hc)).named r hr).under i
      (fun q hq => mem_gather.mpr ⟨i, c, hc, q, hq, rfl⟩) fun q' hq' hab => ?_
    obtain ⟨j, d, hd, q, hq, rfl⟩ := mem_gather.mp hq'
    -- only what is found below the same child can be above
    obtain rfl := (above_cons_iff.mp hab).1
    obtain rfl := Option.some.inj (hc.symm.trans hd)
    exact ⟨q, hq, rfl⟩

end Gather

/-- The search reports the sites of a tree. -/
structure Finds (g : Grammar) (outer : Option Text) (t : SyntaxTree) (sites : List Site) : Prop where
  nodes : declared g outer t = sites.map (·.toNode g)
  lists : Lists outer t (Reported g t) sites

/-- The search of all children reports the sites below them. -/
structure FindsBelow (g : Grammar) (outer : Option Text) (t : SyntaxTree) (sites : List Site) : Prop where
  nodes : t.children.flatMap (declared g outer) = sites.map (·.toNode g)
  lists : Lists outer t (BelowChild g t) sites

theorem exists_findsBelow (h : ∀ c ∈ t.children, ∃ sites, Finds g outer c sites) :
    ∃ sites, FindsBelow g outer t sites := by
  choose! f hf using h
  exact ⟨gather f t.children, (map_toNode_gather fun c hc => (hf c hc).nodes).symm,
    .gather fun c hc => (hf c hc).lists⟩

namespace FindsBelow

variable {sites : List Site}

/-- What is no declaration is passed through. -/
theorem through (h : FindsBelow g outer t sites) (hreports : ¬ g.reports t.kind = true) : Finds g outer t sites where
  nodes := by rw [declared_eq, if_neg hreports, h.nodes]
  lists := by
    refine h.lists.congr fun p => ?_
    rw [reported_iff_of_passes fun _ _ h => absurd h hreports]
    simp [hreports]

/-- A declaration with members that is not decorated. -/
theorem members (h : FindsBelow g (some t.nameOrLine) t sites) (hreports : g.reports t.kind = true)
    (hmembers : t.definition.kind.isContainer = true) (hkind : t.kind ≠ .decoratedDefinition)
    (outer : Option Text) : Finds g outer t (⟨[], t, outer⟩ :: sites) where
  nodes := by
    rw [declared_eq, if_pos hreports, if_pos hmembers, definition_of_ne hkind, h.nodes]
    rfl
  lists := by
    refine (h.lists.root ?_ outer).congr fun p => ?_
    · rintro p ⟨i, q, c, rfl, -⟩
      exact List.cons_ne_nil i q
    · rw [reported_iff_of_passes fun _ _ _ => ⟨hmembers, fun h => absurd h hkind⟩]
      simp [hreports]

/-- A decorated declaration with members: they are found below its definition, one place deeper. -/
theorem decorated (h : FindsBelow g (some t.nameOrLine) t.definition sites) (hreports : g.reports t.kind = true)
    (hmembers : t.definition.kind.isContainer = true) (hkind : t.kind = .decoratedDefinition) {k : Nat}
    (hk : t.children.findIdx? (·.role == .definition) = some k) (hd : t.children[k]? = some t.definition)
    (outer : Option Text) : Finds g outer t (⟨[], t, outer⟩ :: sites.map (Site.under k)) where
  nodes := by
    rw [declared_eq, if_pos hreports, if_pos hmembers, h.nodes, List.map_cons, map_toNode_under]
    rfl
  lists := by
    refine ((h.lists.under hd).root ?_ outer).congr fun p => ?_
    · rintro p ⟨q, rfl, -⟩
      exact List.cons_ne_nil k q
    · exact (reported_iff_of_decorated hreports hkind hmembers hk hd).symm

end FindsBelow

/-- A declaration without members. -/
theorem finds_alone (hreports : g.reports t.kind = true) (hmembers : ¬ t.definition.kind.isContainer = true)
    (outer : Option Text) : Finds g outer t [⟨[], t, outer⟩] where
  nodes := by
    rw [declared_eq, if_pos hreports, if_neg hmembers]
    rfl
  lists := by
    refine ((Lists.nil _ t).root (fun _ h => h.elim) outer).congr fun p => ?_
    rw [reported_iff_of_not_members hreports hmembers, or_false]

/-- Every search reports declarations at sites. By induction on the size of the tree, since the members of a
decorated class are its grandchildren. -/
theorem exists_finds (g : Grammar) (outer : Option Text) (t : SyntaxTree) : ∃ sites, Finds g outer t sites := by
  induction hn : sizeOf t using Nat.strongRecOn generalizing t outer with
  | ind n ih =>
    have hbelow (outer : Option Text) (u : SyntaxTree) (hu : sizeOf u ≤ n) : ∃ sites, FindsBelow g outer u sites :=
      exists_findsBelow fun c hc =>
        ih (sizeOf c) (Nat.lt_of_lt_of_le (sizeOf_lt_of_mem_children hc) hu) outer c rfl
    by_cases hreports : g.reports t.kind = true
    case neg =>
      obtain ⟨sites, h⟩ := hbelow outer t (Nat.le_of_eq hn)
      exact ⟨sites, h.through hreports⟩
    by_cases hmembers : t.definition.kind.isContainer = true
    case neg => exact ⟨_, finds_alone hreports hmembers outer⟩
    by_cases hkind : t.kind = .decoratedDefinition
    case neg =>
      obtain ⟨sites, h⟩ := hbelow (some t.nameOrLine) t (Nat.le_of_eq hn)
      exact ⟨_, h.members hreports hmembers hkind outer⟩
    case pos =>
      have hfind := find?_definition hkind hmembers
      rw [List.find?_eq_bind_findIdx?_getElem?] at hfind
      obtain ⟨k, hk, hd⟩ := Option.bind_eq_some_iff.mp hfind
      have hlt := sizeOf_lt_of_mem_children (List.mem_of_getElem? hd)
      obtain ⟨sites, h⟩ := hbelow (some t.nameOrLine) t.definition (hn ▸ Nat.le_of_lt hlt)
      exact ⟨_, h.decorated hreports hmembers hkind hk hd outer⟩

/-! ### The report -/

/-- By first line, then by last line. -/
def InLineOrder (a b : Node) : Prop := a.first < b.first ∨ a.first = b.first ∧ a.last ≤ b.last

theorem nodeOrder_iff {a b : Node} : nodeOrder a b = true ↔ InLineOrder a b := by simp [nodeOrder, InLineOrder]

theorem nodes_inLineOrder (g : Grammar) (t : SyntaxTree) : (t.nodes g).Pairwise InLineOrder := by
  have htrans (a b c : Node) (hab : nodeOrder a b = true) (hbc : nodeOrder b c = true) : nodeOrder a c = true := by
    simp only [nodeOrder_iff, InLineOrder] at *
    omega
  have htotal (a b : Node) : (nodeOrder a b || nodeOrder b a) = true := by
    simp only [Bool.or_eq_true, nodeOrder_iff, InLineOrder]
    omega
  exact (List.pairwise_mergeSort htrans htotal (declared g none t)).imp nodeOrder_iff.mp

/-- A class, an interface or an enumeration with the given name, around the lines of `n`. -/
structure Owns (name : Text) (owner n : Node) : Prop where
  kind : owner.kind ∈ [NodeKind.class_, .interface, .enum]
  name : owner.name = name
  first : owner.first ≤ n.first
  last : n.last ≤ owner.last

/-- What the declarations of a tree are, told by their places in it. -/
structure Reporting (g : Grammar) (t : SyntaxTree) (sites : List Site) : Prop where
  located : ∀ s ∈ sites, t.at? s.path = some s.tree
  once : (sites.map Site.path).Nodup
  mem_iff : ∀ p, p ∈ sites.map Site.path ↔ Reported g t p
  outermost : ∀ p u, t.at? p = some u → g.reports u.kind = true →
    (∀ q v, Above q p → t.at? q = some v → ¬ g.reports v.kind = true) → p ∈ sites.map Site.path
  members : ∀ r ∈ sites, ∀ s ∈ sites, Above r.path s.path → r.tree.definition.kind.isContainer = true
  undecorated : ∀ p d i, t.at? p = some d → d.kind = .decoratedDefinition → g.reports d.kind = true →
    p ++ [i] ∉ sites.map Site.path
  parentless : ∀ s ∈ sites, s.parent = none ↔ ∀ r ∈ sites, ¬ Above r.path s.path
  apart : ∀ r ∈ sites, ∀ s ∈ sites, r.parent = none → s.parent = none → r.path ≠ s.path → r.tree.Apart s.tree
  owned : ∀ s ∈ sites, ∀ name, s.parent = some name →
    ∃ r, Innermost sites r s ∧ Owns name (r.toNode g) (s.toNode g)

theorem kind_toNode_of_isContainer {s : Site} (h : s.tree.definition.kind.isContainer = true) :
    (s.toNode g).kind ∈ [NodeKind.class_, .interface, .enum] := by
  have hkind : s.tree.definition.kind.nodeKind ∈ [NodeKind.class_, .interface, .enum] := by
    generalize s.tree.definition.kind = k at h
    cases k <;> simp_all [SyntaxKind.isContainer, SyntaxKind.nodeKind]
  have hne : s.tree.definition.kind.nodeKind ≠ .function := by
    intro he
    simp [he] at hkind
  simpa [Site.toNode, SyntaxTree.toNode, hne] using hkind

namespace Lists

variable {sites : List Site}

theorem perm {P : List Nat → Prop} {sites' : List Site} (h : Lists outer t P sites) (hp : sites.Perm sites') :
    Lists outer t P sites' where
  located := fun s hs => h.located s (hp.mem_iff.mpr hs)
  nodup := (hp.map Site.path).nodup_iff.mp h.nodup
  mem_iff := fun p => (hp.map Site.path).mem_iff.symm.trans (h.mem_iff p)
  named := by
    intro s hs
    rcases h.named s (hp.mem_iff.mpr hs) with ⟨hparent, hnone⟩ | ⟨r, ⟨hr, hrs, hinner⟩, hparent⟩
    · exact .inl ⟨hparent, fun r hr => hnone r (hp.mem_iff.mpr hr)⟩
    · exact .inr ⟨r, ⟨hp.mem_iff.mp hr, hrs, fun q hq => hinner q (hp.mem_iff.mpr hq)⟩, hparent⟩

/-- A site without a parent has no site above it. -/
theorem parentless (h : Lists none t (Reported g t) sites) {s : Site} (hs : s ∈ sites) :
    s.parent = none ↔ ∀ r ∈ sites, ¬ Above r.path s.path := by
  rcases h.named s hs with ⟨hparent, hnone⟩ | ⟨r, hinner, hparent⟩
  · exact ⟨fun _ => hnone, fun _ => hparent⟩
  · constructor
    · intro hnone
      rw [hparent] at hnone
      cases hnone
    · exact fun hnone => absurd hinner.above (hnone r hinner.mem)

/-- What has a site below it has members. -/
theorem members (h : Lists outer t (Reported g t) sites) {r s : Site} (hr : r ∈ sites) (hs : s ∈ sites)
    (hrs : Above r.path s.path) : r.tree.definition.kind.isContainer = true := by
  obtain ⟨i, q, hpath⟩ := hrs
  obtain ⟨u, hu, hreports⟩ := (h.of_mem hr).declares
  obtain rfl := Option.some.inj (hu.symm.trans (h.located r hr))
  exact ((h.of_mem hs).passes r.path i q r.tree hpath hu hreports).1

theorem reporting (h : Lists none t (Reported g t) sites) (hnested : t.Nested) : Reporting g t sites where
  located := h.located
  once := h.nodup
  mem_iff := h.mem_iff
  outermost := by
    intro p u hu hreports hnone
    refine (h.mem_iff p).mpr ⟨⟨u, hu, hreports⟩, ?_⟩
    intro q i r v hp hv hv'
    exact absurd hv' (hnone q v ⟨i, r, hp⟩ hv)
  members := fun _ hr _ hs => h.members hr hs
  undecorated := by
    intro p d i hd hkind hreports hmem
    have hpass := ((h.mem_iff _).mp hmem).passes p i [] d rfl hd hreports
    exact (hpass.2 hkind).2 rfl
  parentless := fun _ hs => h.parentless hs
  apart := by
    intro r hr s hs hrp hsp hne
    exact hnested.apart (h.located r hr) (h.located s hs) hne ((h.parentless hs).mp hsp r hr)
      ((h.parentless hr).mp hrp s hs)
  owned := by
    intro s hs name hname
    rcases h.named s hs with ⟨hparent, -⟩ | ⟨r, hinner, hparent⟩
    · rw [hparent] at hname
      cases hname
    · have hwithin := hnested.within_of_above (h.located r hinner.mem) (h.located s hs) hinner.above
      refine ⟨r, hinner, kind_toNode_of_isContainer (h.members hinner.mem hs hinner.above), ?_, ?_, ?_⟩
      · exact Option.some.inj (hparent.symm.trans hname)
      · exact Int.ofNat_le.mpr hwithin.firstRow
      · exact Int.ofNat_le.mpr hwithin.lastRow

end Lists

/-- In a tree whose children lie inside their parents without overlapping, the search reports every place at most
once and exactly the places that it can pass to, and the declarations come in the order of their lines. -/
theorem nodes_reporting (g : Grammar) (t : SyntaxTree) (h : t.Nested) :
    (t.nodes g).Pairwise InLineOrder ∧ ∃ sites, t.nodes g = sites.map (·.toNode g) ∧ Reporting g t sites := by
  obtain ⟨sites, hfinds⟩ := exists_finds g none t
  have hperm := List.mergeSort_perm sites fun r s => nodeOrder (r.toNode g) (s.toNode g)
  refine ⟨nodes_inLineOrder g t, _, ?_, (hfinds.lists.perm hperm.symm).reporting h⟩
  rw [nodes, hfinds.nodes]
  exact (List.map_mergeSort (f := Site.toNode g) fun _ _ _ _ => rfl).symm

/-- A decorated class with a method, and a function behind it. -/
def decoratedClass : SyntaxTree :=
  .node .other .part [] ⟨0, 0, 0⟩ ⟨55, 4, 13⟩
    [.node .decoratedDefinition .part [] ⟨0, 0, 0⟩ ⟨41, 3, 12⟩
      [.node .decorator .part "@d" ⟨0, 0, 0⟩ ⟨2, 0, 2⟩ [],
        .node .classDefinition .definition [] ⟨3, 1, 0⟩ ⟨41, 3, 12⟩
          [.node .token .name "A" ⟨9, 1, 6⟩ ⟨10, 1, 7⟩ [],
            .node .block .body [] ⟨16, 2, 4⟩ ⟨41, 3, 12⟩
              [.node .functionDefinition .part [] ⟨16, 2, 4⟩ ⟨41, 3, 12⟩
                [.node .token .name "f" ⟨20, 2, 8⟩ ⟨21, 2, 9⟩ []]]]],
      .node .functionDefinition .part [] ⟨42, 4, 0⟩ ⟨55, 4, 13⟩
        [.node .token .name "g" ⟨46, 4, 4⟩ ⟨47, 4, 5⟩ []]]

theorem nodes_reporting_decoratedClass :
    decoratedClass.Nested ∧
      (decoratedClass.nodes .python).map (fun n => (n.kind, n.name, n.parent)) =
        [(.class_, ['A'], none), (.method, ['f'], some ['A']), (.function, ['g'], none)] ∧
      (decoratedClass.nodes .python).Pairwise InLineOrder ∧
      ∃ sites, decoratedClass.nodes .python = sites.map (·.toNode .python) ∧
        Reporting .python decoratedClass sites := by
  have hnested : decoratedClass.Nested := by
    have hnode (k r x s e cs) : (node k r x s e cs).Nested ↔
        (∀ c ∈ cs, c.Within (node k r x s e cs)) ∧ cs.Pairwise Apart ∧ ∀ c ∈ cs, c.Nested := nested_iff
    simp only [decoratedClass, hnode, List.forall_mem_cons, List.pairwise_cons]
    simp only [List.not_mem_nil, false_implies, implies_true, List.Pairwise.nil, and_true]
    decide
  have hsorted : decoratedClass.nodes .python = declared .python none decoratedClass :=
    List.mergeSort_of_pairwise (by decide +kernel)
  refine ⟨hnested, ?_, nodes_reporting .python decoratedClass hnested⟩
  rw [hsorted]
  decide +kernel

end SourceChunks.SyntaxTree
