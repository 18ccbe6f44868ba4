import SourceChunks.Text.Basic
import SourceChunks.Text.WordChar

/-! Patterns over texts and their backtracking matcher. A pattern is data; matching tries the
alternatives in order and gives the first outcome that the rest of the pattern accepts, so greedy
and reluctant repetition differ only in the order in which lengths are tried. -/

namespace SourceChunks

/-- A place in a text: how many characters precede it, the one just before, and all that follow. -/
structure Cursor where
  offset : Nat
  before : Option Char
  rest : Text

namespace Cursor

def start (t : Text) : Cursor := ⟨0, none, t⟩

def advance (c : Cursor) : Cursor :=
  match c.rest with
  | [] => c
  | x :: xs => ⟨c.offset + 1, some x, xs⟩

/-- The cursors reached by passing `0, 1, 2, …` characters of the class, as far as they go. -/
def stopsFrom (p : Char → Bool) : (offset : Nat) → (before : Option Char) → Text → List Cursor
  | offset, before, [] => [⟨offset, before, []⟩]
  | offset, before, x :: xs =>
    ⟨offset, before, x :: xs⟩ :: if p x then stopsFrom p (offset + 1) (some x) xs else []

def stops (p : Char → Bool) (c : Cursor) : List Cursor := stopsFrom p c.offset c.before c.rest

end Cursor

/-- A captured part: its label, the text from its start on, and its length. -/
structure Capture where
  label : Nat
  from_ : Text
  length : Nat

/-- Captures with the latest first. -/
abbrev Captures := List Capture

def Captures.get? (cs : Captures) (label : Nat) : Option Text :=
  (cs.find? (·.label == label)).map fun c => c.from_.take c.length

/-- Whether a repetition tries more before fewer, or fewer before more. -/
inductive Appetite where
  | greedy | reluctant
  deriving DecidableEq, Repr

/-- The stops or tries in the order of preference. -/
def Appetite.order {α : Type} : Appetite → List α → List α
  | .greedy, xs => xs.reverse
  | .reluctant, xs => xs

inductive Pattern where
  | empty
  | one (p : Char → Bool)
  | seq (p q : Pattern)
  /-- The first pattern, or else the second. -/
  | alt (p q : Pattern)
  /-- Characters of a class, at least `least` and at most `most` of them. -/
  | run (p : Char → Bool) (least : Nat) (most : Option Nat) (appetite : Appetite)
  /-- Repetitions of a pattern, each of which has to pass at least one character. -/
  | many (p : Pattern) (least : Nat) (most : Option Nat) (appetite : Appetite)
  | capture (label : Nat) (p : Pattern)
  /-- A condition on what stands before and after, passing nothing. -/
  | here (test : Option Char → Text → Bool)
  /-- Succeeds, passing nothing, where the pattern does not match. -/
  | notAhead (p : Pattern)

namespace Pattern

/-- Where a match ended and what it captured. -/
abbrev Outcome := Cursor × Captures

/-- What is left to match: it accepts an outcome or asks for the next one. -/
abbrev Next := Cursor → Captures → Option Outcome

/-- Repeats `body`. Every repetition passes a character, so the characters left are fuel enough. -/
def repeatFrom (body : Cursor → Captures → Next → Option Outcome) (appetite : Appetite) :
    (fuel least : Nat) → (most : Option Nat) → Cursor → Captures → Next → Option Outcome
  | 0, least, _, c, s, next => if least = 0 then next c s else none
  | fuel + 1, least, most, c, s, next =>
    let again := fun (_ : Unit) =>
      if most = some 0 then none
      else body c s fun c' s' =>
        if c.offset < c'.offset then
          repeatFrom body appetite fuel (least - 1) (most.map (· - 1)) c' s' next
        else none
    if 0 < least then again ()
    else match appetite with
      | .greedy => again () <|> next c s
      | .reluctant => next c s <|> again ()

/-- Matches at a cursor and hands each outcome, in order of preference, to `next`. -/
def run? : Pattern → Cursor → Captures → Next → Option Outcome
  | .empty, c, s, next => next c s
  | .one p, c, s, next =>
    match c.rest with
    | [] => none
    | x :: xs => if p x then next ⟨c.offset + 1, some x, xs⟩ s else none
  | .seq p q, c, s, next => run? p c s fun c' s' => run? q c' s' next
  | .alt p q, c, s, next => run? p c s next <|> run? q c s next
  | .run p least most appetite, c, s, next =>
    let stops := match most with
      | none => c.stops p
      | some n => (c.stops p).take (n + 1)
    (appetite.order (stops.drop least)).findSome? fun c' => next c' s
  | .many p least most appetite, c, s, next =>
    repeatFrom (fun c' s' next' => run? p c' s' next') appetite c.rest.length least most c s next
  | .capture label p, c, s, next =>
    run? p c s fun c' s' => next c' (⟨label, c.rest, c'.offset - c.offset⟩ :: s')
  | .here test, c, s, next => if test c.before c.rest then next c s else none
  | .notAhead p, c, s, next =>
    match run? p c s fun c' s' => some (c', s') with
    | some _ => none
    | none => next c s

def matchAt? (p : Pattern) (c : Cursor) : Option Outcome := p.run? c [] fun c' s => some (c', s)

end Pattern

end SourceChunks
