import SourceChunks.Outline.Node
import SourceChunks.Scope.Header

/-! Nested scopes of a source, found in one pass that keeps the open scopes on a stack. Scopes are
numbered in the order in which they open and refer to each other by number. -/

namespace SourceChunks

structure Scope where
  kind : NodeKind
  name : Text
  first : Nat
  last : Nat
  indent : Nat
  level : Nat
  /-- The depth of braces before its first line. -/
  depth : Nat
  parent : Option Nat
  children : List Nat := []

structure ScopeTree where
  scopes : List Scope := []
  roots : List Nat := []

namespace ScopeTree

def get? (t : ScopeTree) (h : Nat) : Option Scope := t.scopes[h]?

def size (t : ScopeTree) : Nat := t.scopes.length

def add (t : ScopeTree) (s : Scope) : ScopeTree := { t with scopes := t.scopes ++ [s] }

/-- The scope put below its parent, or among the roots. -/
def attach (t : ScopeTree) (h : Nat) (s : Scope) : ScopeTree :=
  match s.parent with
  | none => { t with roots := t.roots ++ [h] }
  | some p =>
    { t with scopes := t.scopes.modify p fun parent => { parent with children := parent.children ++ [h] } }

/-- The scope ended at `stop`, less the blank lines there, and put in its place. -/
def close (ls : List Text) (stop : Nat) (t : ScopeTree) (h : Nat) : ScopeTree :=
  match t.get? h with
  | none => t
  | some s =>
    let ended := { s with last := lastCodeLine ls s.first (max s.first stop) }
    attach { t with scopes := t.scopes.set h ended } h ended

/-- Closes scopes from the top of the stack as long as they are left. -/
def closeWhile (leaves : Scope → Bool) (ls : List Text) (stop : Nat) :
    (stack : List Nat) → ScopeTree → List Nat × ScopeTree
  | [], t => ([], t)
  | h :: stack, t =>
    if (t.get? h).any leaves then closeWhile leaves ls stop stack (close ls stop t h)
    else (h :: stack, t)

/-! ### One pass -/

structure State where
  tree : ScopeTree := {}
  /-- The open scopes, the innermost first. -/
  stack : List Nat := []
  depth : Nat := 0

def opened (s : State) (i indent : Nat) (header : NodeKind × Text) : Scope :=
  { kind := header.1, name := header.2, first := i, last := i, indent := indent,
    level := s.stack.length, depth := s.depth, parent := s.stack.head? }

/-- The scopes that a line leaves by its indentation are closed before it. -/
def leaveByIndent (ls : List Text) (i indent : Nat) (s : State) : State :=
  let (stack, tree) := closeWhile (fun o => indent ≤ o.indent) ls (i - 1) s.stack s.tree
  { s with tree := tree, stack := stack }

def indentedStep (ls : List Text) (i : Nat) (line : Text) (s : State) : State :=
  let indent := Text.indent line
  let s := leaveByIndent ls i indent s
  match Scope.header? line .python with
  | some header => { s with tree := s.tree.add (opened s i indent header), stack := s.tree.size :: s.stack }
  | none => s

/-- One line of a language with braces. A header closes the scopes that it does not lie in; its own
scope ends at once when the line closes all braces it opens. -/
def bracedStep (language : Language) (ls : List Text) (i : Nat) (line : Text) (s : State) : State :=
  let indent := Text.indent line
  let opens := line.count '\x7b'
  let closes := line.count '\x7d'
  let depth := s.depth + opens - closes
  match Scope.header? line language with
  | some header =>
    let s := leaveByIndent ls i indent s
    let h := s.tree.size
    let tree := s.tree.add (opened s i indent header)
    if 0 < opens && depth ≤ s.depth then { tree := close ls i tree h, stack := s.stack, depth := depth }
    else { tree := tree, stack := h :: s.stack, depth := depth }
  | none =>
    if 0 < closes then
      let (stack, tree) := closeWhile (fun o => depth ≤ o.depth) ls i s.stack s.tree
      { tree := tree, stack := stack, depth := depth }
    else { s with depth := depth }

/-- One line; blank lines and comments change nothing. -/
def step (language : Language) (ls : List Text) (i : Nat) (line : Text) (s : State) : State :=
  if !isCodeLine line then s
  else if language = .python then indentedStep ls i line s
  else bracedStep language ls i line s

def runFrom (language : Language) (ls : List Text) : (i : Nat) → List Text → State → State
  | _, [], s => s
  | i, line :: rest, s => runFrom language ls (i + 1) rest (step language ls i line s)

/-- The scopes of a source; those still open end with the last line. -/
def ofLines (language : Language) (ls : List Text) : ScopeTree :=
  let s := runFrom language ls 0 ls {}
  (closeWhile (fun _ => true) ls (ls.length - 1) s.stack s.tree).2

/-! ### Order -/

def byFirstLine (t : ScopeTree) (hs : List Nat) : List Nat :=
  hs.mergeSort fun a b => ((t.get? a).map (·.first)).getD 0 ≤ ((t.get? b).map (·.first)).getD 0

/-- A scope and everything below it, parents before children. -/
def visit (t : ScopeTree) : (fuel h : Nat) → List Nat
  | 0, h => [h]
  | fuel + 1, h =>
    h :: (t.byFirstLine (((t.get? h).map (·.children)).getD [])).flatMap (visit t fuel)

/-- All scopes, parents before children and children in source order. A path down the tree is no
longer than the number of scopes. -/
def flatten (t : ScopeTree) : List Nat := (t.byFirstLine t.roots).flatMap (visit t t.size)

end ScopeTree

end SourceChunks
