import SourceChunks.Syntax.LogicalLine

/-! The syntax of Python as far as definitions go. A definition has the deeper lines after it as its
body, or the rest of its own line. A body ends with its last token, or with the comments right after
it that are as deep as the body. -/

namespace SourceChunks.Indented

open LogicalLine

/-! ### Tokens outside brackets -/

/-- How many brackets are open, and outside of them how many lambdas wait for their colon. -/
structure Nesting where
  brackets : Nat
  lambdas : Nat

namespace Nesting

def zero : Nesting := ⟨0, 0⟩

/-- Neither in brackets nor among the parameters of a lambda. -/
def isOuter (n : Nesting) : Bool := n.brackets = 0 && n.lambdas = 0

def after (n : Nesting) (t : Token) : Nesting :=
  match t.kind with
  | .opening => { n with brackets := n.brackets + 1 }
  | .closing => { n with brackets := n.brackets - 1 }
  | _ =>
    if n.brackets = 0 && t.isWord "lambda" then { n with lambdas := n.lambdas + 1 }
    else if n.brackets = 0 && t.isSymbol ":" then { n with lambdas := n.lambdas - 1 }
    else n

end Nesting

/-- Tokens cut at the outer ones with a property. -/
def cutAt (p : Token → Bool) (n : Nesting) : List Token → List (List Token)
  | [] => [[]]
  | t :: ts =>
    let parts := cutAt p (n.after t) ts
    if n.isOuter && p t then [] :: parts
    else match parts with
      | part :: more => (t :: part) :: more
      | [] => [[t]]

def afterColon (n : Nesting) : List Token → List Token
  | [] => []
  | t :: ts => if n.isOuter && t.isSymbol ":" then ts else afterColon (n.after t) ts

/-! ### Simple statements -/

def statementWords : List String :=
  ["return", "pass", "raise", "assert", "del", "import", "from", "global", "nonlocal", "break",
    "continue", "yield", "if", "elif", "else", "for", "while", "try", "except", "finally", "with",
    "def", "class"]

/-- Words after which an expression goes on. -/
def operatorWords : List String := ["and", "or", "in", "is", "if", "else", "for", "as"]

/-- The tokens start with a value that cannot go on from a name before it. -/
def startsValue (tokens : List Token) : Bool :=
  match tokens with
  | [] => false
  | t :: ts =>
    match t.kind with
    | .string | .number => true
    | .word => if t.isWord "not" then !ts.head?.any (·.isWord "in") else !t.isWordOf operatorWords
    | .opening => t.text == ['{']
    | .symbol => t.isSymbol "~" || t.isSymbol "..."
    | _ => false

/-- A statement that is known by its first words: also one that prints or runs what stands after its
word, without parentheses. -/
def isWordStatement (tokens : List Token) : Bool :=
  match tokens with
  | [] => false
  | t :: ts =>
    t.isWordOf statementWords ||
      (t.isWord "async" && ts.head?.any (·.isWordOf ["def", "for", "with"])) ||
      (t.isWord "print" && (startsValue ts || ts.head?.any (·.isSymbol ">>"))) ||
      (t.isWord "exec" && startsValue ts)

/-- The strings that are whole members of an expression list. -/
def wholeStrings (tokens : List Token) : List Token :=
  (cutAt (·.isSymbol ",") .zero tokens).filterMap fun part =>
    match part with
    | [t] => if t.kind = .string then some t else none
    | _ => none

/-- Symbols that end with an equals sign and compare, or name a value in passing. -/
def comparingSymbols : List Text := ["==", "!=", "<=", ">=", ":="]

/-- The token gives a value or a type to what stands before it. -/
def assigns (t : Token) : Bool :=
  t.kind = .symbol && (t.text == [':'] || (t.text.getLast? == some '=' && !comparingSymbols.contains t.text))

def isAssignment (tokens : List Token) : Bool := (cutAt assigns .zero tokens).length > 1

/-- A simple statement: the strings in it are those that are members of its expression list. -/
def simpleStatement (tokens : List Token) : Option SyntaxTree := do
  let first ← tokens.head?
  let last ← tokens.getLast?
  if isWordStatement tokens then return .node .other .part [] first.start last.stop []
  else
    let strings := if isAssignment tokens then [] else wholeStrings tokens
    return .node .expressionStatement .part [] first.start last.stop
      (strings.map fun t => .node .string .part t.text t.start t.stop [])

def simpleStatements (tokens : List Token) : List SyntaxTree :=
  (cutAt (·.isSymbol ";") .zero tokens).filterMap simpleStatement

/-! ### Definitions -/

def header? (l : LogicalLine) : Option (SyntaxKind × Token) :=
  let tokens := if l.tokens.head?.any (·.isWord "async") then l.tokens.tail else l.tokens
  match tokens with
  | t :: name :: _ =>
    if t.isWord "def" then some (.functionDefinition, name)
    else if t.isWord "class" then some (.classDefinition, name)
    else none
  | _ => none

def blockStop (inner : List LogicalLine) (default : Mark) : Mark :=
  match inner, inner.getLast? with
  | first :: _, some last =>
    match (last.comments.takeWhile fun c => first.indent ≤ c.indent).getLast? with
    | some c => c.stop
    | none => last.tokenStop
  | _, _ => default

def definition (kind : SyntaxKind) (name : Token) (role : SyntaxRole) (l : LogicalLine)
    (inner : List LogicalLine) (body : List SyntaxTree) : SyntaxTree :=
  let stop := blockStop inner l.tokenStop
  let statements := if inner.isEmpty then simpleStatements (afterColon .zero l.tokens) else body
  .node kind role [] l.start stop
    [name.toTree .name, .node .block .body [] l.start stop statements]

/-- A decorator: its line from the sign on. -/
def decorator (source : Text) (l : LogicalLine) : SyntaxTree :=
  .node .decorator .part (slice source l.start.offset l.stop.offset) l.start l.stop []

/-- The statements that a line starts, with the decorators before it and the lines below it. -/
def statement (decorators : List SyntaxTree) (l : LogicalLine) (inner : List LogicalLine)
    (body : List SyntaxTree) : List SyntaxTree :=
  match header? l, decorators with
  | some (kind, name), [] => [definition kind name .part l inner body]
  | some (kind, name), d :: _ =>
    let definition := definition kind name .definition l inner body
    [.node .decoratedDefinition .part [] d.start definition.stop (decorators ++ [definition])]
  | none, _ =>
    if inner.isEmpty then simpleStatements l.tokens
    else [.node .other .part [] l.start (blockStop inner l.tokenStop) body]

def statementsFrom (source : Text) (indent : Nat) (decorators : List SyntaxTree) :
    List LogicalLine → List SyntaxTree
  | [] => []
  | l :: rest =>
    if l.startsWithSymbol "@" then
      statementsFrom source indent (decorators ++ [decorator source l]) rest
    else
      let inner := l.below indent rest
      let innerIndent := (inner.head?.map (·.indent)).getD indent
      statement decorators l inner (statementsFrom source innerIndent [] inner) ++
        statementsFrom source indent [] (rest.drop inner.length)
termination_by lines => lines.length
decreasing_by
  · simp
  · exact Nat.lt_succ_of_le (isPrefix_below indent l rest).length_le
  · exact Nat.lt_succ_of_le (List.drop_suffix _ rest).length_le

def statements (source : Text) : List SyntaxTree := statementsFrom source 0 [] (LogicalLine.ofText source)

end SourceChunks.Indented
