import SourceChunks.Pattern.Basic

/-! Searching a text for a pattern: the first match, all matches from left to right without
overlap, and the text without them. -/

namespace SourceChunks

structure Match where
  start : Nat
  stop : Nat
  text : Text
  captures : Captures

def Match.get? (m : Match) (label : Nat) : Option Text := m.captures.get? label

/-- The captured text of a label, empty when it took no part in the match. -/
def Match.get (m : Match) (label : Nat) : Text := (m.get? label).getD []

namespace Pattern

def toMatch (c : Cursor) (o : Outcome) : Match :=
  ⟨c.offset, o.1.offset, c.rest.take (o.1.offset - c.offset), o.2⟩

/-- The match at the start of the text. -/
def matchStart? (p : Pattern) (t : Text) : Option Match :=
  (p.matchAt? (.start t)).map (toMatch (.start t))

def searchFrom (p : Pattern) : (offset : Nat) → (before : Option Char) → Text → Option Match
  | offset, before, [] =>
    let c : Cursor := ⟨offset, before, []⟩
    (p.matchAt? c).map (toMatch c)
  | offset, before, x :: xs =>
    let c : Cursor := ⟨offset, before, x :: xs⟩
    match p.matchAt? c with
    | some o => some (toMatch c o)
    | none => searchFrom p (offset + 1) (some x) xs

def search? (p : Pattern) (t : Text) : Option Match := searchFrom p 0 none t

def occursIn (p : Pattern) (t : Text) : Bool := (p.search? t).isSome

/-- All matches from a place on, after `skip` more characters that belong to an earlier match. -/
def scanFrom (p : Pattern) : (skip offset : Nat) → (before : Option Char) → Text → List Match
  | skip, offset, before, [] =>
    if skip = 0 then
      let c : Cursor := ⟨offset, before, []⟩
      ((p.matchAt? c).map (toMatch c)).toList
    else []
  | skip, offset, before, x :: xs =>
    if skip = 0 then
      let c : Cursor := ⟨offset, before, x :: xs⟩
      match p.matchAt? c with
      | some o => toMatch c o :: scanFrom p (o.1.offset - offset - 1) (offset + 1) (some x) xs
      | none => scanFrom p 0 (offset + 1) (some x) xs
    else scanFrom p (skip - 1) (offset + 1) (some x) xs

/-- All matches in the text, from left to right without overlap. -/
def scan (p : Pattern) (t : Text) : List Match := scanFrom p 0 0 none t

def count (p : Pattern) (t : Text) : Nat := (p.scan t).length

def erase (p : Pattern) (t : Text) : Text :=
  let ms := p.scan t
  (t.zipIdx.filter fun ci => !ms.any fun m => m.start ≤ ci.2 && ci.2 < m.stop).map (·.1)

end Pattern

end SourceChunks
