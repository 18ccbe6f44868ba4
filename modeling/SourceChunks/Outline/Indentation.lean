import SourceChunks.Outline.Node
import SourceChunks.Pattern.Building
import SourceChunks.Pattern.Scan

/-! Declarations of indented languages. A declaration lasts until a line that is indented no deeper
than itself, or until the next declaration; decorators before it belong to it. -/

namespace SourceChunks.Outline.Indentation

open Pattern

def functionHeader : Pattern :=
  blanks ++ opt (lit "async" ++ gap) ++ lit "def" ++ gap ++ capture 1 plainName

def classHeader : Pattern := blanks ++ lit "class" ++ gap ++ capture 1 plainName

def decorator : Pattern := blanks ++ lit "@" ++ wordRun

def header? (line : Text) : Option (NodeKind × Text) :=
  ((functionHeader.matchStart? line).map fun m => (NodeKind.function, m.get 1)).or
    ((classHeader.matchStart? line).map fun m => (NodeKind.class_, m.get 1))

def isDecorator (line : Text) : Bool := (decorator.matchStart? line).isSome

/-- Neither blank nor a comment of these languages. -/
def counts (line : Text) : Bool := !Text.allBlank line && (Text.trimLeft line).head? != some '#'

structure State where
  current : Option OpenNode := none
  /-- Where an unbroken run of decorators began. -/
  decorators : Option Nat := none

def State.closed (s : State) (ls : List Text) (stop : Nat) : List Node :=
  (s.current.map fun n => n.close ls stop).toList

def State.leaves (s : State) (line : Text) : Bool := s.current.any fun n => Text.indent line ≤ n.indent

/-- One line: the declarations that end, and the state after it. -/
def step (ls : List Text) (i : Nat) (line : Text) (s : State) : List Node × State :=
  if !counts line then ([], s)
  else match header? line with
    | some (kind, name) =>
      (s.closed ls (i - 1),
        { current := some { kind := kind, name := name, first := s.decorators.getD i,
                            indent := Text.indent line } })
    | none =>
      let decorators := if isDecorator line then s.decorators.or (some i) else none
      if s.leaves line then (s.closed ls (i - 1), { decorators := decorators })
      else ([], { s with decorators := decorators })

def nodesFrom (ls : List Text) : (i : Nat) → List Text → State → List Node
  | _, [], s => s.closed ls (ls.length - 1)
  | i, line :: rest, s =>
    let (ended, next) := step ls i line s
    ended ++ nodesFrom ls (i + 1) rest next

def nodes (ls : List Text) : List Node := nodesFrom ls 0 ls {}

/-- Every declared name, nested ones included. -/
def declaredNames (ls : List Text) : List Text := distinct (ls.filterMap fun l => (header? l).map (·.2))

end SourceChunks.Outline.Indentation
