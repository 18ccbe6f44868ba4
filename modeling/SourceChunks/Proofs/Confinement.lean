import Mathlib.Data.List.Infix
import SourceChunks.Proofs.Texts
import SourceChunks.Store.Basic

/-! Requests to a directory of snapshots. A path names a place by a walk over its pieces, from the directory it
is seen from or from the root; resolving it comes to the same place at once. Whatever a request holds, the
answer is a place at or below the directory of its snapshot, which is below the directory of all
snapshots, and a request that names such a place is answered. -/

namespace SourceChunks

namespace FilePath

/-! ### Normal form -/

/-- A name that leads one directory down. -/
structure Component (c : Text) : Prop where
  ne_nil : c ≠ []
  ne_dot : c ≠ ['.']
  ne_dots : c ≠ ['.', '.']
  no_slash : '/' ∉ c

/-- The components of an absolute path with nothing left to work off. -/
def Normal (place : List Text) : Prop := ∀ c ∈ place, Component c

theorem significant_of_normal {place : List Text} (h : Normal place) : significant place = place := by
  refine List.filter_eq_self.mpr fun c hc => ?_
  simp [(h c hc).ne_nil, (h c hc).ne_dot]

/-- Written as an absolute path, a place in normal form reads back as it is. -/
theorem ofText_text_of_normal {place : List Text} (h : Normal place) : ofText (text ⟨1, place⟩) = ⟨1, place⟩ := by
  have htext : text ⟨1, place⟩ = '/' :: Text.join ['/'] place := rfl
  have hpieces : significant (Text.split '/' (Text.join ['/'] place)) = place := by
    by_cases hnil : place = []
    · rw [hnil]
      rfl
    · rw [Text.split_join hnil fun c hc => (h c hc).no_slash, significant_of_normal h]
  have hlead : (Text.join ['/'] place).takeWhile (· == '/') = [] := by
    cases place with
    | nil => rfl
    | cons c cs =>
      obtain ⟨x, xs, rfl⟩ := List.exists_cons_of_ne_nil (h c List.mem_cons_self).ne_nil
      have hx : x ≠ '/' := fun hx => (h _ List.mem_cons_self).no_slash (hx ▸ List.mem_cons_self)
      cases cs <;> simp [Text.join, hx]
  have hparts : significant (Text.split '/' ('/' :: Text.join ['/'] place)) = place := by
    rw [Text.split, if_pos rfl]
    exact hpieces
  rw [htext, ofText, hparts, List.takeWhile_cons_of_pos (by rfl), hlead]
  rfl

/-! ### Walks -/

/-- From one place over the pieces of a path to another place. An empty piece or a dot stays, two dots lead to the
directory above, of which the root has none, and any other piece leads down. -/
inductive Walks : (here pieces there : List Text) → Prop where
  | done (here : List Text) : Walks here [] here
  | stay {here pieces there : List Text} {p : Text} (hp : p = [] ∨ p = ['.']) (h : Walks here pieces there) :
      Walks here (p :: pieces) there
  | up {here pieces there : List Text} (h : Walks here.dropLast pieces there) :
      Walks here (['.', '.'] :: pieces) there
  | down {here pieces there : List Text} {c : Text} (hc : Component c) (h : Walks (here ++ [c]) pieces there) :
      Walks here (c :: pieces) there

/-- The text names the place, seen from the directory `base`. -/
def Names (base : List Text) (t : Text) (place : List Text) : Prop :=
  Walks (if t.head? = some '/' then [] else base) (Text.split '/' t) place

theorem normal_nil : Normal [] := fun _ h => absurd h List.not_mem_nil

/-- A walk from a place in normal form ends at one. -/
theorem Walks.normal {here pieces there : List Text} (h : Walks here pieces there) (hn : Normal here) :
    Normal there := by
  induction h with
  | done here => exact hn
  | stay _ _ ih => exact ih hn
  | up _ ih => exact ih fun c hc => hn c (List.mem_of_mem_dropLast hc)
  | down hc _ ih =>
    refine ih fun c' hc' => ?_
    rcases List.mem_append.mp hc' with hmem | hmem
    · exact hn c' hmem
    · exact List.mem_singleton.mp hmem ▸ hc

theorem Names.normal {base place : List Text} {t : Text} (h : Names base t place) (hbase : Normal base) :
    Normal place := by
  refine Walks.normal h ?_
  split
  case isTrue => exact normal_nil
  case isFalse => exact hbase

/-! ### Resolving -/

/-- One component worked off. -/
def enter (done : List Text) (p : Text) : List Text := if p == "..".toList then done.dropLast else done ++ [p]

theorem normalise_eq_foldl (parts : List Text) : normalise parts = parts.foldl enter [] := rfl

theorem foldl_enter_of_normal {place : List Text} (h : Normal place) (here : List Text) :
    place.foldl enter here = here ++ place := by
  induction place generalizing here with
  | nil => rw [List.foldl_nil, List.append_nil]
  | cons c cs ih =>
    have hc : enter here c = here ++ [c] := if_neg (by simpa using (h c List.mem_cons_self).ne_dots)
    rw [List.foldl_cons, hc, ih fun x hx => h x (List.mem_cons_of_mem _ hx), List.append_assoc,
      List.singleton_append]

/-- A walk works off the pieces that count. -/
theorem walks_iff {here pieces there : List Text} (hslash : ∀ p ∈ pieces, '/' ∉ p) :
    Walks here pieces there ↔ there = (significant pieces).foldl enter here := by
  induction pieces generalizing here with
  | nil =>
    constructor
    · rintro ⟨⟩
      rfl
    · rintro rfl
      exact .done _
  | cons p pieces ih =>
    have htail : ∀ q ∈ pieces, '/' ∉ q := fun q hq => hslash q (List.mem_cons_of_mem _ hq)
    by_cases hstay : p = [] ∨ p = ['.']
    · have hskip : significant (p :: pieces) = significant pieces := by
        rcases hstay with rfl | rfl <;> rfl
      rw [hskip, ← ih htail]
      constructor
      · intro h
        cases h with
        | stay _ h => exact h
        | up => simp at hstay
        | down hc => exact absurd hstay (not_or.mpr ⟨hc.ne_nil, hc.ne_dot⟩)
      · exact .stay hstay
    · have hkeep : significant (p :: pieces) = p :: significant pieces := by
        simp only [not_or] at hstay
        simp [significant, hstay]
      rw [hkeep, List.foldl_cons]
      by_cases hup : p = ['.', '.']
      · subst hup
        have henter : enter here ['.', '.'] = here.dropLast := rfl
        rw [henter, ← ih htail]
        constructor
        · intro h
          cases h with
          | stay hp => exact absurd hp hstay
          | up h => exact h
          | down hc => exact absurd rfl hc.ne_dots
        · exact .up
      · have henter : enter here p = here ++ [p] := if_neg (by simpa using hup)
        rw [henter, ← ih htail]
        constructor
        · intro h
          cases h with
          | stay hp => exact absurd hp hstay
          | up => exact absurd rfl hup
          | down _ h => exact h
        · rw [not_or] at hstay
          exact .down ⟨hstay.1, hstay.2, hup, hslash p List.mem_cons_self⟩

theorem slashes_eq_zero_iff (t : Text) : (ofText t).slashes = 0 ↔ t.head? ≠ some '/' := by
  have hslashes : (ofText t).slashes = 0 ↔ (t.takeWhile (· == '/')).length = 0 := by
    simp only [ofText]
    split <;> omega
  rw [hslashes]
  cases t with
  | nil => simp
  | cons x xs => by_cases hx : x = '/' <;> simp [hx]

/-- Resolving a path comes to the place that it names. -/
theorem names_iff {base place : List Text} {t : Text} (hbase : Normal base) :
    Names base t place ↔ place = resolve base t := by
  rw [Names, walks_iff fun _ => Text.not_mem_of_mem_split]
  have hparts : (ofText t).parts = significant (Text.split '/' t) := rfl
  rw [resolve, normalise_eq_foldl, hparts]
  by_cases habsolute : t.head? = some '/'
  · have hslashes : (ofText t).slashes ≠ 0 := fun h => (slashes_eq_zero_iff t).mp h habsolute
    rw [if_pos habsolute, if_neg hslashes]
  · have hslashes : (ofText t).slashes = 0 := (slashes_eq_zero_iff t).mpr habsolute
    rw [if_neg habsolute, if_pos hslashes, List.foldl_append, foldl_enter_of_normal hbase, List.nil_append]

end FilePath

/-! ### Requests -/

namespace Directory

open FilePath

theorem checkName_of_not_mem {name : Text} (h : '\x00' ∉ name) : checkName name = .ok () := by
  unfold checkName
  rw [if_neg (by simpa using h)]

theorem isBelow_iff {root path : List Text} : isBelow root path = true ↔ root <+: path ∧ root ≠ path := by
  simp [isBelow]

/-- The place `place`, seen from the directory `root` of a snapshot, is inside the storage. -/
def Inside (storage root place : List Text) : Prop := storage <+: root ∧ storage ≠ root ∧ root <+: place

/-- A request without null characters is answered if its place is inside, and refused with a warning if not. -/
theorem resolve_cases (d : Directory) {snapshot path : Text} (hs : '\x00' ∉ snapshot) (hp : '\x00' ∉ path) :
    (Inside d.root (d.snapshotRoot snapshot) (FilePath.resolve (d.snapshotRoot snapshot) (relative path)) ∧
      d.resolve snapshot path = .ok (some (FilePath.resolve (d.snapshotRoot snapshot) (relative path)), [])) ∨
    (¬ Inside d.root (d.snapshotRoot snapshot) (FilePath.resolve (d.snapshotRoot snapshot) (relative path)) ∧
      ∃ entry, d.resolve snapshot path = .ok (none, [entry])) := by
  unfold resolve
  rw [checkName_of_not_mem hs, checkName_of_not_mem hp]
  by_cases hbelow : isBelow d.root (d.snapshotRoot snapshot) = true
  · obtain ⟨hle, hne⟩ := isBelow_iff.mp hbelow
    by_cases hplace : (d.snapshotRoot snapshot).isPrefixOf
        (FilePath.resolve (d.snapshotRoot snapshot) (relative path)) = true
    · refine .inl ⟨⟨hle, hne, List.isPrefixOf_iff_prefix.mp hplace⟩, ?_⟩
      simp [hbelow, hplace, bind, Except.bind, pure, Except.pure]
    · refine .inr ⟨fun h => hplace (List.isPrefixOf_iff_prefix.mpr h.2.2), ?_⟩
      simp [hbelow, hplace, bind, Except.bind, pure, Except.pure]
  · refine .inr ⟨fun h => hbelow (isBelow_iff.mpr ⟨h.1, h.2.1⟩), ?_⟩
    simp [hbelow, bind, Except.bind, pure, Except.pure]

/-- What a directory answers to a request: the place that the request names, or nothing. -/
structure Confined (d : Directory) (snapshot path : Text) (answer : Option (List Text)) (root place : List Text) :
    Prop where
  root_named : Names d.root snapshot root
  place_named : Names root (relative path) place
  inside : ∀ found, answer = some found →
    found = place ∧ Normal found ∧ root <+: found ∧ d.root <+: root ∧ d.root ≠ root
  absolute : ∀ found, answer = some found → FilePath.ofText (FilePath.text ⟨1, found⟩) = ⟨1, found⟩
  refused : answer = none → ¬ (d.root <+: root ∧ d.root ≠ root) ∨ ¬ root <+: place

/-- Whatever the storage directory `storage`, seen from the working directory, and whatever the request, the answer
stays inside the snapshot, and only a request that leaves it is refused. -/
theorem resolve_confined {d : Directory} {home storage : Text} {working : List Text} (hhome : Names [] home working)
    (hroot : Names working storage d.root) {snapshot path : Text} (hs : '\x00' ∉ snapshot) (hp : '\x00' ∉ path) :
    ∃ answer log root place, d.resolve snapshot path = .ok (answer, log) ∧
      Confined d snapshot path answer root place := by
  have hbase : Normal d.root := hroot.normal (hhome.normal normal_nil)
  have hsnapshot : Names d.root snapshot (d.snapshotRoot snapshot) := (names_iff hbase).mpr rfl
  have hnormal := hsnapshot.normal hbase
  have hplace : Names (d.snapshotRoot snapshot) (relative path)
      (FilePath.resolve (d.snapshotRoot snapshot) (relative path)) := (names_iff hnormal).mpr rfl
  rcases d.resolve_cases hs hp with ⟨⟨hle, hne, hinside⟩, hanswer⟩ | ⟨houtside, entry, hanswer⟩
  · refine ⟨_, _, _, _, hanswer, hsnapshot, hplace, ?_, ?_, ?_⟩
    · rintro found ⟨⟩
      exact ⟨rfl, hplace.normal hnormal, hinside, hle, hne⟩
    · rintro found ⟨⟩
      exact ofText_text_of_normal (hplace.normal hnormal)
    · rintro ⟨⟩
  · refine ⟨_, _, _, _, hanswer, hsnapshot, hplace, ?_, ?_, ?_⟩
    · rintro found ⟨⟩
    · rintro found ⟨⟩
    · intro _
      rw [Inside, ← and_assoc, not_and_or] at houtside
      exact houtside

/-- A storage reached by climbing, and a request that climbs inside its snapshot. -/
theorem resolve_confined_climbing :
    Names [] "/srv".toList ["srv".toList] ∧
    Names ["srv".toList] "old/../store".toList ["srv".toList, "store".toList] ∧
    '\x00' ∉ "./s1".toList ∧ '\x00' ∉ "//lib/../main.py".toList ∧
    ∃ answer log root place,
      resolve ⟨["srv".toList, "store".toList], "utf-8".toList, []⟩ "./s1".toList "//lib/../main.py".toList =
        .ok (answer, log) ∧
      Confined ⟨["srv".toList, "store".toList], "utf-8".toList, []⟩ "./s1".toList "//lib/../main.py".toList
        answer root place := by
  have hhome : Names [] "/srv".toList ["srv".toList] := (names_iff normal_nil).mpr (by decide)
  have hroot : Names ["srv".toList] "old/../store".toList ["srv".toList, "store".toList] :=
    (names_iff (hhome.normal normal_nil)).mpr (by decide)
  exact ⟨hhome, hroot, by decide, by decide, resolve_confined hhome hroot (by decide) (by decide)⟩

end Directory

end SourceChunks
