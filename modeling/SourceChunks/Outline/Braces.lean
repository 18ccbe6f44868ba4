import SourceChunks.Outline.Declarations
import SourceChunks.Outline.Node

/-! Declarations of languages with braces, found in one pass that keeps the depth of braces. A
declaration lasts until the depth falls back to where it began, or until the next declaration at
that depth; annotations before it belong to it. -/

namespace SourceChunks.Outline.Braces

/-- An open declaration and the depth at which it began. -/
structure Opening extends OpenNode where
  depth : Nat

structure State where
  current : Option Opening := none
  depth : Nat := 0
  /-- Where an unbroken run of annotations began. -/
  annotation : Option Nat := none

def State.closed (s : State) (ls : List Text) (stop : Nat) : List Node :=
  (s.current.map fun n => n.close ls stop).toList

/-- A declaration is looked for outside all others and where the current one may end. -/
def State.admits (s : State) : Bool := s.current.all fun n => s.depth ≤ n.depth

/-- One line: the declarations that end, and the state after it. -/
def step (language : Language) (ls : List Text) (i : Nat) (line : Text) (s : State) : List Node × State :=
  if !isCodeLine line then ([], s)
  else
    let opens := line.count '\x7b'
    let closes := line.count '\x7d'
    let depth := s.depth + opens - closes
    if (Text.trim line).head? == some '@' && s.current.isNone then
      ([], { s with depth := depth, annotation := s.annotation.or (some i) })
    else match if s.admits then declaration? language line else none with
      | some (kind, name) =>
        let node : Opening :=
          { kind := kind, name := name, first := s.annotation.getD i, indent := Text.indent line,
            depth := s.depth }
        let ends :=
          if 0 < opens then depth ≤ s.depth else (Text.trim line).getLast? == some ';'
        if ends then (s.closed ls (i - 1) ++ [node.close ls i], { depth := depth })
        else (s.closed ls (i - 1), { current := some node, depth := depth })
      | none =>
        if 0 < closes && s.current.any (fun n => depth ≤ n.depth) then
          (s.closed ls i, { depth := depth })
        else ([], { s with depth := depth, annotation := none })

def nodesFrom (language : Language) (ls : List Text) : (i : Nat) → List Text → State → List Node
  | _, [], s => s.closed ls (ls.length - 1)
  | i, line :: rest, s =>
    let (ended, next) := step language ls i line s
    ended ++ nodesFrom language ls (i + 1) rest next

def nodes (language : Language) (ls : List Text) : List Node := nodesFrom language ls 0 ls {}

/-- Every name declared on a line of its own, members included. -/
def declaredNames (language : Language) (ls : List Text) : List Text :=
  distinct (ls.filterMap fun line =>
    if isCommentLine line then none
    else match declaration? language line with
      | some (_, name) => some name
      | none => member? line)

end SourceChunks.Outline.Braces
