import SourceChunks.Syntax.Tree

/-! Rules of syntax as data, and the reader that follows them. A rule either passes some of the text
and says what trees it found there, or does not apply. Of two alternatives the first that applies is
taken, a repetition goes on as long as it can, and a token passes the space in front of it, so that
what has been read always ends with a token. -/

namespace SourceChunks

/-- A place in a source, with the trees found before it, the latest first. -/
structure SyntaxPlace where
  rest : Text
  mark : Mark
  trees : List SyntaxTree

namespace SyntaxPlace

def pass (s : SyntaxPlace) (n : Nat) : SyntaxPlace :=
  { s with rest := s.rest.drop n, mark := s.mark.after (s.rest.take n) }

def upTo (s later : SyntaxPlace) : Text := s.rest.take (later.mark.offset - s.mark.offset)

end SyntaxPlace

/-- A rule whose parts are named by `σ`. -/
inductive Rule (σ : Type) where
  | nothing
  /-- Passes as many characters as a measure says. -/
  | lexeme (length? : Text → Option Nat)
  | space
  | seq (first second : Rule σ)
  | alt (first second : Rule σ)
  | many (each : Rule σ)
  /-- Passes nothing, where the rule applies. -/
  | ahead (r : Rule σ)
  | notAhead (r : Rule σ)
  | part (p : σ)
  /-- A tree with what is found inside as its children. -/
  | node (kind : SyntaxKind) (role : SyntaxRole) (inside : Rule σ)
  /-- A tree with the text that was passed, and no children. -/
  | leaf (role : SyntaxRole) (inside : Rule σ)

/-- Rules for named parts, and how much space stands at the front of a text. -/
structure Rulebook (σ : Type) where
  space : Text → Nat
  rule : σ → Rule σ

namespace Rulebook

variable {σ : Type}

def skip (book : Rulebook σ) (s : SyntaxPlace) : SyntaxPlace := s.pass (book.space s.rest)

/-- Follows a rule. Every step takes one from the fuel. -/
def read (book : Rulebook σ) : (fuel : Nat) → Rule σ → SyntaxPlace → Option SyntaxPlace
  | 0, _, _ => none
  | _ + 1, .nothing, s => some s
  | _ + 1, .lexeme length?, s => (length? s.rest).map s.pass
  | _ + 1, .space, s => some (book.skip s)
  | fuel + 1, .seq first second, s =>
    match book.read fuel first s with
    | some s' => book.read fuel second s'
    | none => none
  | fuel + 1, .alt first second, s =>
    match book.read fuel first s with
    | some s' => some s'
    | none => book.read fuel second s
  | fuel + 1, .many each, s =>
    match book.read fuel each s with
    | some s' => if s.mark.offset < s'.mark.offset then book.read fuel (.many each) s' else some s
    | none => some s
  | fuel + 1, .ahead r, s =>
    match book.read fuel r s with
    | some _ => some s
    | none => none
  | fuel + 1, .notAhead r, s =>
    match book.read fuel r s with
    | some _ => none
    | none => some s
  | fuel + 1, .part p, s => book.read fuel (book.rule p) s
  | fuel + 1, .node kind role inside, s =>
    let start := book.skip s
    (book.read fuel inside { start with trees := [] }).map fun s' =>
      { s' with trees := .node kind role [] start.mark s'.mark s'.trees.reverse :: s.trees }
  | fuel + 1, .leaf role inside, s =>
    let start := book.skip s
    (book.read fuel inside start).map fun s' =>
      { s' with trees := .node .token role (start.upTo s') start.mark s'.mark [] :: s.trees }

/-- Fuel enough for a text. A repetition passes a character with every turn, and no rule names
itself more than a bounded number of parts away without passing one. -/
def fuelFor (t : Text) : Nat := 512 * t.length + 4096

/-- The trees that a part finds in a text. A byte order mark at its start does not count. -/
def trees (book : Rulebook σ) (p : σ) (t : Text) : List SyntaxTree :=
  let start : SyntaxPlace := ⟨t, .zero, []⟩
  let start := if t.head?.any (·.toNat == 0xfeff) then start.pass 1 else start
  match book.read (fuelFor t) (.part p) start with
  | some s => s.trees.reverse
  | none => []

end Rulebook

/-! ### Building rules -/

namespace Rule

variable {σ : Type}

instance : Append (Rule σ) := ⟨.seq⟩

instance : OrElse (Rule σ) := ⟨fun r s => .alt r (s ())⟩

def opt (r : Rule σ) : Rule σ := r <|> .nothing

def some (r : Rule σ) : Rule σ := r ++ .many r

def separated (r separator : Rule σ) : Rule σ := r ++ .many (separator ++ r)

def choice : List (Rule σ) → Rule σ
  | [] => .lexeme fun _ => none
  | [r] => r
  | r :: rs => .alt r (choice rs)

def token (length? : Text → Option Nat) : Rule σ := .space ++ .lexeme length?

def here (test : Text → Bool) : Rule σ := .lexeme fun t => if test t then Option.some 0 else none

def lengthOf (s : String) (t : Text) : Option Nat :=
  if Text.startsWith t s.toList then Option.some s.length else none

/-- The given characters, with nothing before them. -/
def raw (s : String) : Rule σ := .lexeme (lengthOf s)

def sign (s : String) : Rule σ := token (lengthOf s)

end Rule

end SourceChunks
