import SourceChunks.Text.Blank
import SourceChunks.Text.Lowercase

/-! Texts as lists of code points: every length and offset counts code points. Splitting at a
character and joining with it again are inverse to each other; a file is the join of its lines. -/

namespace SourceChunks

/-- A text is the list of its code points. -/
abbrev Text := List Char

instance : Coe String Text := ⟨String.toList⟩

namespace Text

abbrev str (t : Text) : String := String.ofList t

/-! ### Splitting and joining -/

/-- The pieces between occurrences of `d`; there is always at least one. -/
def split (d : Char) : Text → List Text
  | [] => [[]]
  | c :: cs =>
    if c = d then [] :: split d cs
    else match split d cs with
      | [] => [[c]]
      | piece :: pieces => (c :: piece) :: pieces

def join (separator : Text) : List Text → Text
  | [] => []
  | [piece] => piece
  | piece :: next :: pieces => piece ++ separator ++ join separator (next :: pieces)

/-- The lines of a text, cut at newlines only. -/
def lines (t : Text) : List Text := split '\n' t

def ofLines (ls : List Text) : Text := join ['\n'] ls

theorem split_ne_nil (d : Char) (t : Text) : split d t ≠ [] := by
  cases t with
  | nil => simp [split]
  | cons c cs =>
    simp only [split]
    split
    · simp
    · split <;> simp

theorem join_cons_cons (s p : Text) (q : Text) (ps : List Text) :
    join s (p :: q :: ps) = p ++ s ++ join s (q :: ps) := rfl

/-- Joining with the character that was split at gives the text back. -/
theorem join_split (d : Char) (t : Text) : join [d] (split d t) = t := by
  induction t with
  | nil => rfl
  | cons c cs ih =>
    simp only [split]
    split
    case isTrue h =>
      subst h
      cases hs : split c cs with
      | nil => exact absurd hs (split_ne_nil c cs)
      | cons p ps =>
        rw [join_cons_cons, ← hs, ih]
        rfl
    case isFalse =>
      split
      case h_1 hs => exact absurd hs (split_ne_nil d cs)
      case h_2 p ps hs =>
        rw [hs] at ih
        cases ps with
        | nil => simpa [join] using ih
        | cons q qs => simpa [join] using ih

theorem ofLines_lines (t : Text) : ofLines (lines t) = t := join_split '\n' t

/-! ### Blanks at the ends -/

def trimLeft (t : Text) : Text := t.dropWhile isBlank

def trimRight (t : Text) : Text := (t.reverse.dropWhile isBlank).reverse

def trim (t : Text) : Text := trimRight (trimLeft t)

def allBlank (t : Text) : Bool := t.all isBlank

def indent (t : Text) : Nat := (t.takeWhile isBlank).length

/-! ### Searching -/

abbrev startsWith (t front : Text) : Bool := front.isPrefixOf t

abbrev endsWith (t tail : Text) : Bool := tail.isSuffixOf t

def startsWithAny (t : Text) (fronts : List Text) : Bool := fronts.any (startsWith t)

/-- The offset of the first occurrence of `part`, counted from `offset`. -/
def findFrom (part : Text) : (offset : Nat) → Text → Option Nat
  | offset, [] => if part.isEmpty then some offset else none
  | offset, c :: cs =>
    if part.isPrefixOf (c :: cs) then some offset else findFrom part (offset + 1) cs

def find? (t part : Text) : Option Nat := findFrom part 0 t

def has (t part : Text) : Bool := (t.find? part).isSome

def hasAny (t : Text) (parts : List Text) : Bool := parts.any (has t)

def replaceChar (old new : Char) (t : Text) : Text := t.map fun c => if c = old then new else c

def eraseChar (c : Char) (t : Text) : Text := t.filter (· != c)

/-- The part before the last `d` and the part after it. -/
def splitLast? (d : Char) (t : Text) : Option (Text × Text) :=
  match t.reverse.span (· != d) with
  | (_, []) => none
  | (after, _ :: before) => some (before.reverse, after.reverse)

/-- The order of code points: the first difference decides, and a text comes after its beginnings. -/
def le : Text → Text → Bool
  | [], _ => true
  | _ :: _, [] => false
  | a :: as, b :: bs => if a = b then le as bs else a < b

/-! ### Numbers in decimal -/

def ofNat (n : Nat) : Text := Nat.toDigits 10 n

def ofInt : Int → Text
  | .ofNat n => ofNat n
  | .negSucc n => '-' :: ofNat (n + 1)

end Text

/-! ### Slices -/

/-- A bound of a slice: negative bounds count from the end, and all are kept within the list. -/
def sliceBound (length : Nat) (i : Int) : Nat :=
  if i < 0 then (i + length).toNat else min i.toNat length

/-- The elements from `start` up to but not including `stop`; negative bounds count from the end. -/
def slice {α : Type} (xs : List α) (start stop : Int) : List α :=
  let a := sliceBound xs.length start
  let b := sliceBound xs.length stop
  (xs.drop a).take (b - a)

/-- Between bounds inside the list a slice is a drop and a take. -/
theorem slice_eq_drop_take {α : Type} (xs : List α) {a b : Nat} (hb : b ≤ xs.length) :
    slice xs a b = (xs.drop a).take (b - a) := by
  have hs : ∀ n : Nat, sliceBound xs.length (n : Int) = min n xs.length := by
    intro n
    have : ¬ (n : Int) < 0 := by omega
    simp [sliceBound, this]
  simp only [slice, hs]
  by_cases h : a ≤ xs.length
  · simp [Nat.min_eq_left h, Nat.min_eq_left hb]
  · have h1 : xs.drop a = [] := List.drop_eq_nil_of_le (by omega)
    have h2 : xs.drop (min a xs.length) = [] := List.drop_eq_nil_of_le (by omega)
    simp [h1, h2]

/-- The lines from `first` through `last`. -/
def lineRange (ls : List Text) (first last : Int) : List Text := slice ls first (last + 1)

def rangeText (ls : List Text) (first last : Int) : Text := Text.ofLines (lineRange ls first last)

/-! ### Distinct elements -/

def addNew {α : Type} [BEq α] (seen : List α) (x : α) : List α :=
  if seen.contains x then seen else seen ++ [x]

/-- The list without repetitions: every element stands where it first occurred. -/
def distinct {α : Type} [BEq α] (xs : List α) : List α := xs.foldl addNew []

def total (ns : List Nat) : Nat := ns.foldr (· + ·) 0

end SourceChunks
