import SourceChunks.Proofs.Linked

/-! Declarations that are tied see a part of each other. Both grow toward the other one by half of the distance
between them, a half line rounded up, so that together they close the gap unless the radius stops them. -/

namespace SourceChunks

/-! ### Comparing doubles -/

namespace Double

open Float.Model

/-- Comparing the other way round turns the answer round, and none stays none. -/
theorem compare_swap (a b : UnpackedFloat) : b.compare a = (a.compare b).map Ordering.swap := by
  cases a with
  | notANumber => cases b <;> rfl
  | infinity s =>
    cases b with
    | infinity t => cases s <;> cases t <;> rfl
    | _ => cases s <;> rfl
  | zero s =>
    cases b with
    | infinity t => cases t <;> rfl
    | finite t => cases t <;> rfl
    | _ => rfl
  | finite s m e =>
    cases b with
    | infinity t => cases t <;> rfl
    | zero t => cases s <;> rfl
    | notANumber => rfl
    | finite t m' e' =>
      have hswap : (compare e' e).then (compare m' m) = ((compare e e').then (compare m m')).swap := by
        rw [Ordering.swap_then, Int.compare_swap, Nat.compare_swap]
      cases s with
      | negative =>
        cases t with
        | negative => exact congrArg (fun order => some order.swap) hswap
        | positive => rfl
      | positive =>
        cases t with
        | negative => rfl
        | positive => exact congrArg some hswap

theorem not_le_of_lt {a b : Float} (h : a < b) : ¬ b ≤ a := by
  intro hle
  have hlt : (a.toModel.unpack.compare b.toModel.unpack == some .lt) = true := of_decide_eq_true h
  have hcompare : (b.toModel.unpack.compare a.toModel.unpack).any Ordering.isLE = true := of_decide_eq_true hle
  rw [compare_swap, eq_of_beq hlt] at hcompare
  cases hcompare

end Double

/-- The tie joins the places `i` and `j`, in one direction or the other. -/
def Tie.Joins (t : Tie) (i j : Nat) : Prop := (t.source = i ∧ t.target = j) ∨ (t.source = j ∧ t.target = i)

theorem Tie.Joins.symm {t : Tie} {i j : Nat} (h : t.Joins i j) : t.Joins j i := Or.symm h

namespace ContextAware

variable {p : ContextParams} {count : Nat} {ns : List Node} {ts : List Tie}

/-! ### Growth -/

/-- The declarations at the other ends of the strong ties of the one at `i`. -/
def partners (p : ContextParams) (ns : List Node) (ts : List Tie) (i : Nat) : List Node :=
  ts.filterMap fun t => (partner? p i t).bind fun j => ns[j]?

theorem partner?_of_joins {t : Tie} {i j : Nat} (h : t.Joins i j) (hs : p.threshold < t.strength) :
    partner? p i t = some j := by
  rw [partner?, if_neg (Double.not_le_of_lt hs)]
  rcases h with ⟨rfl, rfl⟩ | ⟨rfl, rfl⟩
  · rw [if_pos rfl]
  · split
    case isTrue heq => rw [heq]
    case isFalse => rw [if_pos rfl]

theorem mem_partners {t : Tie} {i j : Nat} {m : Node} (ht : t ∈ ts) (h : t.Joins i j)
    (hs : p.threshold < t.strength) (hm : ns[j]? = some m) : m ∈ partners p ns ts i := by
  refine List.mem_filterMap.mpr ⟨t, ht, ?_⟩
  rw [partner?_of_joins h hs]
  exact hm

theorem widening_le (p : ContextParams) (distance : Int) : widening p distance ≤ 2 * max 0 p.radius := by
  unfold widening
  split <;> omega

theorem widening_of_near {distance : Int} (h0 : 0 < distance) (h : distance < 20) (hr : distance ≤ 2 * p.radius) :
    widening p distance = distance := by
  rw [widening, if_pos (by simp [h0, h])]
  omega

/-- However many ties there are, no more than the radius is added. -/
theorem wholeLines_largest_le (ms : List Node) (distance : Node → Int) :
    wholeLines (largest (ms.map fun m => widening p (distance m))) ≤ max 0 p.radius := by
  have hle : largest (ms.map fun m => widening p (distance m)) ≤ 2 * max 0 p.radius := by
    refine largest_le_iff.mpr ⟨by omega, ?_⟩
    rw [List.forall_mem_map]
    exact fun m _ => widening_le p (distance m)
  unfold wholeLines
  omega

/-- A near declaration adds at least half of its distance. -/
theorem le_wholeLines_largest {ms : List Node} {m : Node} (hm : m ∈ ms) (distance : Node → Int)
    (h0 : 0 < distance m) (h : distance m < 20) (hr : distance m ≤ 2 * p.radius) :
    distance m ≤ 2 * wholeLines (largest (ms.map fun m => widening p (distance m))) := by
  have hle : widening p (distance m) ≤ largest (ms.map fun m => widening p (distance m)) :=
    le_largest (List.mem_map_of_mem hm)
  rw [widening_of_near h0 h hr] at hle
  unfold wholeLines
  omega

/-! ### Ranges -/

/-- The range holds the declaration, lies inside the source and is at most `radius` lines longer on either side. -/
structure Widens (count : Nat) (radius : Int) (n : Node) (range : Int × Int) : Prop where
  inFile : InFile count range.1 range.2
  first : range.1 ≤ n.first
  last : n.last ≤ range.2
  before : n.first - range.1 ≤ max 0 radius
  after : range.2 - n.last ≤ max 0 radius

theorem bounds_widens (p : ContextParams) (ns : List Node) (ts : List Tie) (i : Nat) {n : Node}
    (hn : InFile count n.first n.last) : Widens count p.radius n (bounds p count ns ts i n) := by
  have hin := bounds_inFile p ns ts i hn
  obtain ⟨h0, h1, h2⟩ := hn
  have hbefore : 0 ≤ (overlap p ns ts i n).1 := wholeLines_largest_nonneg _
  have hafter : 0 ≤ (overlap p ns ts i n).2 := wholeLines_largest_nonneg _
  have hbefore' : (overlap p ns ts i n).1 ≤ max 0 p.radius := wholeLines_largest_le _ fun m => n.first - m.last
  have hafter' : (overlap p ns ts i n).2 ≤ max 0 p.radius := wholeLines_largest_le _ fun m => m.first - n.last
  refine ⟨hin, ?_, ?_, ?_, ?_⟩ <;> dsimp only [bounds] <;> omega

/-- Two ranges have a line in common. -/
def Meet (a b : Int × Int) : Prop := ∃ line, a.1 ≤ line ∧ line ≤ a.2 ∧ b.1 ≤ line ∧ line ≤ b.2

/-- A strong tie over a short distance makes the ranges at its ends meet. -/
theorem bounds_meet {i j : Nat} {a b : Node} (ha : ns[i]? = some a) (hb : ns[j]? = some b)
    (hain : InFile count a.first a.last) (hbin : InFile count b.first b.last) (hlt : a.last < b.first)
    (hnear : b.first - a.last < 20) (hradius : b.first - a.last ≤ 2 * p.radius) {t : Tie} (ht : t ∈ ts)
    (hjoins : t.Joins i j) (hstrong : p.threshold < t.strength) :
    Meet (bounds p count ns ts i a) (bounds p count ns ts j b) := by
  have hafter : b.first - a.last ≤ 2 * (overlap p ns ts i a).2 :=
    le_wholeLines_largest (mem_partners ht hjoins hstrong hb) (fun m => m.first - a.last) (by omega) hnear hradius
  have hbefore : b.first - a.last ≤ 2 * (overlap p ns ts j b).1 :=
    le_wholeLines_largest (mem_partners ht hjoins.symm hstrong ha) (fun m => b.first - m.last) (by omega) hnear
      hradius
  have hwa := bounds_widens p ns ts i hain
  have hwb := bounds_widens p ns ts j hbin
  -- the later range begins no later than the earlier one ends, also where the source ends between them
  have hcross : (bounds p count ns ts j b).1 ≤ (bounds p count ns ts i a).2 := by
    have h1 := hain.nonneg
    have h2 := hain.ordered
    have h3 := hbin.ordered
    have h4 := hbin.below
    dsimp only [bounds]
    omega
  refine ⟨max (bounds p count ns ts i a).1 (bounds p count ns ts j b).1, ?_, ?_, ?_, ?_⟩
  · exact Int.le_max_left _ _
  · exact Int.max_le.mpr ⟨hwa.inFile.ordered, hcross⟩
  · exact Int.le_max_right _ _
  · have h1 := hwa.first
    have h2 := hain.ordered
    have h3 := hbin.ordered
    have h4 := hwb.last
    exact Int.max_le.mpr ⟨by omega, hwb.inFile.ordered⟩

/-- Ranges of the declarations: each is widened by at most the radius, and where a strong tie joins two declarations
over fewer than 20 lines, and over at most twice the radius, their ranges share a line. -/
structure SharesContext (p : ContextParams) (count : Nat) (ns : List Node) (ts : List Tie)
    (ranges : List (Int × Int)) : Prop where
  length_eq : ranges.length = ns.length
  widens : ∀ (i : Nat) (n : Node) (r : Int × Int), ns[i]? = some n → ranges[i]? = some r → Widens count p.radius n r
  meets : ∀ (i j : Nat) (a b : Node) (q r : Int × Int), ns[i]? = some a → ns[j]? = some b →
    ranges[i]? = some q → ranges[j]? = some r → a.last < b.first → b.first - a.last < 20 →
    b.first - a.last ≤ 2 * p.radius → (∃ t ∈ ts, t.Joins i j ∧ p.threshold < t.strength) → Meet q r

theorem bounds_shareContext (hns : ∀ n ∈ ns, InFile count n.first n.last) :
    SharesContext p count ns ts (ns.zipIdx.map fun n => bounds p count ns ts n.2 n.1) := by
  have hrange {i : Nat} {n : Node} {r : Int × Int} (hn : ns[i]? = some n)
      (hr : (ns.zipIdx.map fun n => bounds p count ns ts n.2 n.1)[i]? = some r) : r = bounds p count ns ts i n := by
    rw [List.getElem?_map, List.getElem?_zipIdx, hn, Nat.zero_add] at hr
    exact (Option.some.inj hr).symm
  constructor
  case length_eq => rw [List.length_map, List.length_zipIdx]
  case widens =>
    intro i n r hn hr
    rw [hrange hn hr]
    exact bounds_widens p ns ts i (hns n (List.mem_of_getElem? hn))
  case meets =>
    rintro i j a b q r ha hb hq hr hlt hnear hradius ⟨t, ht, hjoins, hstrong⟩
    rw [hrange ha hq, hrange hb hr]
    exact bounds_meet ha hb (hns a (List.mem_of_getElem? ha)) (hns b (List.mem_of_getElem? hb)) hlt hnear hradius ht
      hjoins hstrong

/-- Whatever ties there are between the declarations, their chunks have such ranges. -/
theorem drafts_shareContext (p : ContextParams) (source : Source) {ls : List Text} {found : List ContextNode}
    (hfound : ∀ n ∈ found, InFile ls.length n.node.first n.node.last) (ts : List Tie) (ids : List Text) :
    SharesContext p ls.length (found.map (·.node)) ts ((Draft.chunks source ls (found.zipIdx.map fun n =>
      draft p source ls (found.map (·.node)) ts ids n.2 n.1)).map fun c => (c.base.first, c.base.last)) := by
  have hranges := ranges_drafts p source ls found ts ids
  have hshare : SharesContext p ls.length (found.map (·.node)) ts _ :=
    bounds_shareContext (List.forall_mem_map.mpr hfound)
  rw [List.zipIdx_map, List.map_map] at hshare
  rw [hranges]
  exact hshare

/-- A source of nine lines. -/
def nineLines : Source := ⟨"a.js", "s", .javascript, List.replicate 8 '\n'⟩

/-- Two functions with four lines between them. -/
def twoFunctions : List ContextNode :=
  [⟨{ kind := .function, name := ['f'], first := 0, last := 2 }, [], [], [], none⟩,
    ⟨{ kind := .function, name := ['g'], first := 7, last := 8 }, [], [], [], none⟩]

/-- A strong tie from the second one to the first one. -/
def backward : Tie := ⟨1, 0, 0.8, .calls⟩

/-- Half of an odd distance is rounded up for both, so that they share two lines. -/
theorem drafts_shareContext_twoFunctions :
    (∀ n ∈ twoFunctions, InFile nineLines.lines.length n.node.first n.node.last) ∧
      ({} : ContextParams).threshold < backward.strength ∧ ∃ ranges : List (Int × Int),
        (Draft.chunks nineLines nineLines.lines (twoFunctions.zipIdx.map fun n => draft {} nineLines nineLines.lines
          (twoFunctions.map (·.node)) [backward] [] n.2 n.1)).map (fun c => (c.base.first, c.base.last)) = ranges ∧
        ranges = [(0, 5), (4, 8)] ∧
        SharesContext {} nineLines.lines.length (twoFunctions.map (·.node)) [backward] ranges := by
  have hin : ∀ n ∈ twoFunctions, InFile nineLines.lines.length n.node.first n.node.last := by
    intro n hn
    rcases List.mem_pair.mp hn with rfl | rfl <;> exact ⟨by decide, by decide, by decide⟩
  refine ⟨hin, by decide +kernel, _, rfl, ?_, drafts_shareContext {} nineLines hin [backward] []⟩
  rw [ranges_drafts]
  decide +kernel

end ContextAware

end SourceChunks
