import Mathlib.Data.List.DropRight
import Mathlib.Data.List.TakeDrop
import Mathlib.Data.List.TakeWhile
import SourceChunks.Text.Basic

/-! Texts cut into pieces. No piece holds the character that the text was cut at, and pieces without it are what
comes of cutting their join. Characters of a class in front of a text can be cut off in one way only. -/

namespace SourceChunks.Text

theorem join_append (separator : Text) {ps qs : List Text} (hp : ps ≠ []) (hq : qs ≠ []) :
    join separator (ps ++ qs) = join separator ps ++ separator ++ join separator qs := by
  induction ps with
  | nil => exact absurd rfl hp
  | cons p ps ih =>
    cases ps with
    | nil =>
      cases qs with
      | nil => exact absurd rfl hq
      | cons q qs => rfl
    | cons r ps =>
      have htail := ih (List.cons_ne_nil r ps)
      rw [List.cons_append] at htail
      rw [List.cons_append, List.cons_append, join_cons_cons, htail, join_cons_cons]
      simp only [List.append_assoc]

/-- Blocks of lines joined one by one and then with each other. -/
theorem ofLines_flatten {blocks : List (List Text)} (h : ∀ b ∈ blocks, b ≠ []) :
    ofLines blocks.flatten = ofLines (blocks.map ofLines) := by
  induction blocks with
  | nil => rfl
  | cons b blocks ih =>
    have hb : b ≠ [] := h b List.mem_cons_self
    have hrest := ih fun b' hb' => h b' (List.mem_cons_of_mem _ hb')
    cases blocks with
    | nil => simp [ofLines, join]
    | cons b' blocks =>
      have hflat : (b' :: blocks).flatten ≠ [] := by
        simp [h b' (List.mem_cons_of_mem _ List.mem_cons_self)]
      unfold ofLines at hrest ⊢
      rw [List.flatten_cons, join_append _ hb hflat, hrest]
      rfl

/-- A piece does not hold the character that was split at. -/
theorem not_mem_of_mem_split {d : Char} {t piece : Text} (h : piece ∈ split d t) : d ∉ piece := by
  induction t generalizing piece with
  | nil =>
    obtain rfl := List.mem_singleton.mp h
    exact List.not_mem_nil
  | cons c cs ih =>
    rw [split] at h
    split at h
    case isTrue =>
      rcases List.mem_cons.mp h with rfl | h
      · exact List.not_mem_nil
      · exact ih h
    case isFalse hc =>
      split at h
      case h_1 hnil => exact absurd hnil (split_ne_nil d cs)
      case h_2 p ps hps =>
        rcases List.mem_cons.mp h with rfl | h
        · have hp := ih (hps ▸ List.mem_cons_self : p ∈ split d cs)
          simp [hp, Ne.symm hc]
        · exact ih (hps ▸ List.mem_cons_of_mem _ h)

theorem split_append_cons {d : Char} {p : Text} (h : d ∉ p) (t : Text) :
    split d (p ++ d :: t) = p :: split d t := by
  induction p with
  | nil => simp [split]
  | cons c cs ih =>
    rw [List.mem_cons, not_or] at h
    rw [List.cons_append, split, if_neg (Ne.symm h.1), ih h.2]

/-- A text is split at a separator as the parts on both sides of it are. -/
theorem split_append_separator (d : Char) (p t : Text) : split d (p ++ d :: t) = split d p ++ split d t := by
  induction p with
  | nil => simp [split]
  | cons c cs ih =>
    rw [List.cons_append, split, split, ih]
    split
    case isTrue => rfl
    case isFalse =>
      obtain ⟨q, qs, hcs⟩ := List.exists_cons_of_ne_nil (split_ne_nil d cs)
      rw [hcs]
      rfl

/-- The characters of a piece are those of the text. -/
theorem subset_of_mem_split {d : Char} {t piece : Text} (h : piece ∈ split d t) : piece ⊆ t := by
  induction t generalizing piece with
  | nil =>
    obtain rfl := List.mem_singleton.mp h
    exact List.Subset.refl _
  | cons c cs ih =>
    rw [split] at h
    split at h
    case isTrue =>
      rcases List.mem_cons.mp h with rfl | h
      · exact List.nil_subset _
      · exact List.Subset.trans (ih h) (List.subset_cons_self c cs)
    case isFalse =>
      split at h
      case h_1 hnil => exact absurd hnil (split_ne_nil d cs)
      case h_2 p ps hps =>
        rcases List.mem_cons.mp h with rfl | h
        · exact List.cons_subset_cons c (ih (hps ▸ List.mem_cons_self))
        · exact List.Subset.trans (ih (hps ▸ List.mem_cons_of_mem _ h)) (List.subset_cons_self c cs)

theorem split_eq_singleton {d : Char} {p : Text} (h : d ∉ p) : split d p = [p] := by
  induction p with
  | nil => rfl
  | cons c cs ih =>
    rw [List.mem_cons, not_or] at h
    rw [split, if_neg (Ne.symm h.1), ih h.2]

/-- Splitting at the character that was joined with gives the pieces back. -/
theorem split_join {d : Char} {ps : List Text} (hne : ps ≠ []) (h : ∀ p ∈ ps, d ∉ p) :
    split d (join [d] ps) = ps := by
  induction ps with
  | nil => exact absurd rfl hne
  | cons p ps ih =>
    have hp := h p List.mem_cons_self
    cases ps with
    | nil => exact split_eq_singleton hp
    | cons q qs =>
      have hrest := ih (List.cons_ne_nil q qs) fun p' hp' => h p' (List.mem_cons_of_mem _ hp')
      rw [join_cons_cons, List.append_assoc, List.singleton_append, split_append_cons hp, hrest]

/-- Some lines of a text are the lines of the text that they make up. -/
theorem lines_ofLines {t : Text} {ls : List Text} (hne : ls ≠ []) (h : ls ⊆ lines t) :
    lines (ofLines ls) = ls :=
  split_join hne fun _ hl => not_mem_of_mem_split (h hl)

/-! ### Ends of texts -/

/-- A tail without the separator does not reach back over one. -/
theorem suffix_of_suffix_separator {d : Char} {a p t : Text} (ha : d ∉ a) (h : a <:+ p ++ d :: t) : a <:+ t := by
  rcases List.suffix_or_suffix_of_suffix h (List.suffix_append p (d :: t)) with hinside | hover
  · rcases List.suffix_cons_iff.mp hinside with rfl | hinside
    · exact absurd List.mem_cons_self ha
    · exact hinside
  · exact absurd (hover.subset List.mem_cons_self) ha

/-- What comes after the last separator. -/
theorem getLast?_split_separator {d : Char} {t : Text} (ht : d ∉ t) (p : Text) :
    (split d (p ++ d :: t)).getLast? = some t := by
  rw [split_append_separator, split_eq_singleton ht, List.getLast?_concat]

/-- A text that is cut at its last `d` is put together again around it. -/
theorem eq_of_splitLast? {d : Char} {t before after : Text} (h : splitLast? d t = some (before, after)) :
    t = before ++ d :: after := by
  rw [splitLast?, List.span_eq_takeWhile_dropWhile] at h
  split at h
  case h_1 => cases h
  case h_2 tail x front hspan =>
    obtain ⟨htail, hfront⟩ := Prod.mk.inj hspan
    obtain ⟨rfl, rfl⟩ := Prod.mk.inj (Option.some.inj h)
    have hx : x = d := by
      have hhead := List.head_dropWhile_not (· != d) (l := t.reverse) (by simp [hfront])
      simpa [hfront] using hhead
    have hreverse : t.reverse = tail ++ d :: front := by
      rw [← hx, ← htail, ← hfront, List.takeWhile_append_dropWhile]
    rw [← List.reverse_reverse t, hreverse]
    simp

/-! ### Characters of a class in front -/

section

variable {p : Char → Bool} {front front' back back' : Text}

theorem takeWhile_append_of_stop (hfront : front.all p = true) (hback : back.head?.any p = false) :
    (front ++ back).takeWhile p = front := by
  have hstop : back.takeWhile p = [] := by
    cases back with
    | nil => rfl
    | cons x xs => exact List.takeWhile_cons_of_neg (by simpa using hback)
  rw [List.takeWhile_append_of_pos (List.all_eq_true.mp hfront), hstop, List.append_nil]

/-- A text is cut in one way only into characters of a class and what follows them. -/
theorem cut_unique (h : front ++ back = front' ++ back') (hfront : front.all p = true)
    (hfront' : front'.all p = true) (hback : back.head?.any p = false) (hback' : back'.head?.any p = false) :
    front = front' ∧ back = back' := by
  have heq : front = front' := by
    rw [← takeWhile_append_of_stop hfront hback, h, takeWhile_append_of_stop hfront' hback']
  subst heq
  exact ⟨rfl, List.append_cancel_left h⟩

theorem head?_dropWhile (p : Char → Bool) (t : Text) : (t.dropWhile p).head?.any p = false := by
  cases hdrop : t.dropWhile p with
  | nil => rfl
  | cons x xs =>
    have hx := List.head_dropWhile_not p (l := t) (by simp [hdrop])
    simpa [hdrop] using hx

end

theorem trimLeft_append_of_stop {indent back : Text} (hindent : indent.all isBlank = true)
    (hback : back.head?.any isBlank = false) : trimLeft (indent ++ back) = back := by
  have hcut := cut_unique List.takeWhile_append_dropWhile List.all_takeWhile hindent
    (head?_dropWhile isBlank (indent ++ back)) hback
  exact hcut.2

theorem trimLeft_of_allBlank {t : Text} (h : allBlank t = true) : trimLeft t = [] :=
  List.dropWhile_eq_nil_iff.mpr (List.all_eq_true.mp h)

theorem allBlank_of_head?_trimLeft {t : Text} {x : Char} (h : (trimLeft t).head? = some x) : allBlank t = false := by
  rw [Bool.eq_false_iff]
  intro hblank
  rw [trimLeft_of_allBlank hblank] at h
  cases h

/-- Blanks at the end of a text do not change what it begins with. -/
theorem head?_trim (t : Text) : (trim t).head? = (trimLeft t).head? := by
  have hprefix : trim t <+: trimLeft t := List.rdropWhile_prefix isBlank (trimLeft t)
  cases htrim : trim t with
  | cons x xs =>
    obtain ⟨back, hback⟩ := hprefix
    rw [← hback, htrim, List.cons_append, List.head?_cons, List.head?_cons]
  | nil =>
    have hblank : ∀ x ∈ trimLeft t, isBlank x = true := List.rdropWhile_eq_nil_iff.mp htrim
    cases hleft : trimLeft t with
    | nil => rfl
    | cons x xs =>
      have hx : ((trimLeft t).head?).any isBlank = false := head?_dropWhile isBlank t
      rw [hleft, List.head?_cons, Option.any_some, hblank x (hleft ▸ List.mem_cons_self)] at hx
      cases hx

end SourceChunks.Text
