import SourceChunks.Language.Basic
import SourceChunks.Outline.Node
import SourceChunks.Syntax.Tree

/-! The declarations of a syntax tree. The outermost declarations are reported; below a reported
one the search goes on only if it is a class, an interface or an enumeration, and what is found
there names it as its parent. -/

namespace SourceChunks

/-- The languages with a syntax reader. -/
inductive Grammar where
  | python | javascript | java
  deriving DecidableEq, Repr

namespace Grammar

def language : Grammar → Language
  | python => .python
  | javascript => .javascript
  | java => .java

def all : List Grammar := [python, javascript, java]

def ofLanguage? (l : Language) : Option Grammar := all.find? fun g => g.language == l

def reports : Grammar → SyntaxKind → Bool
  | python, .functionDefinition | python, .classDefinition | python, .decoratedDefinition => true
  | javascript, .functionDeclaration | javascript, .generatorFunctionDeclaration
  | javascript, .classDeclaration | javascript, .methodDefinition => true
  | java, .methodDeclaration | java, .constructorDeclaration | java, .classDeclaration
  | java, .interfaceDeclaration | java, .enumDeclaration | java, .annotationTypeDeclaration => true
  | _, _ => false

end Grammar

namespace SyntaxKind

def nodeKind : SyntaxKind → NodeKind
  | methodDefinition | methodDeclaration | constructorDeclaration => .method
  | classDefinition | classDeclaration => .class_
  | interfaceDeclaration | annotationTypeDeclaration => .interface
  | enumDeclaration => .enum
  | _ => .function

/-- The kinds whose members are reported too. -/
def isContainer : SyntaxKind → Bool
  | classDefinition | classDeclaration | interfaceDeclaration | enumDeclaration => true
  | _ => false

end SyntaxKind

namespace SyntaxTree

/-- The definition under decorators, or the tree itself. -/
def definition (t : SyntaxTree) : SyntaxTree :=
  if t.kind = .decoratedDefinition then (t.child? .definition).getD t else t

/-- The declared name, unless it is missing or empty. -/
def name? (t : SyntaxTree) : Option Text :=
  (t.definition.child? .name).bind fun n => if n.text.isEmpty then none else some n.text

/-- The declared name, or one made from the line. -/
def nameOrLine (t : SyntaxTree) : Text := t.name?.getD ("anonymous_" ++ Text.ofNat t.start.row)

/-! ### Details -/

/-- A string literal without its quotes, unless a letter stands before them. -/
def unquote (t : Text) : Text :=
  if Text.startsWithAny t ["\"\"\"", "'''"] then slice t 3 (-3)
  else if Text.startsWithAny t ["\"", "'"] then slice t 1 (-1)
  else t

/-- The text that documents a definition: a string that is its first statement. -/
def docstring? (t : SyntaxTree) : Option Text := do
  let body ← t.child? .body
  let first ← body.children.head?
  guard (first.kind = .expressionStatement)
  let literal ← first.children.find? (·.kind = .string)
  let doc := Text.trim (unquote literal.text)
  guard (!doc.isEmpty)
  return doc

def modifierWords : List Text :=
  ["public", "private", "protected", "static", "final", "abstract", "synchronized"]

def modifierTexts (t : SyntaxTree) : List Text :=
  (t.children.filter (·.kind = .modifiers)).flatMap fun m =>
    (m.children.map text).filter modifierWords.contains

def detail (key : String) (value : Value) : List (Text × Value) := [(key.toList, value)]

def detailIf (condition : Bool) (key : String) (value : Value) : List (Text × Value) :=
  if condition then detail key value else []

def details (t : SyntaxTree) : Grammar → List (Text × Value)
  | .python =>
    let d := t.definition
    detail "node_type" (.text t.kind.tag) ++ detail "definition_type" (.text d.kind.tag) ++
      detailIf (t.kind = .decoratedDefinition) "decorators"
        (.texts ((t.children.filter (·.kind = .decorator)).map text)) ++
      detailIf t.name?.isSome "name" (.optText t.name?) ++
      detailIf d.docstring?.isSome "docstring" (.optText d.docstring?)
  | .javascript =>
    detail "node_type" (.text t.kind.tag) ++
      detailIf t.name?.isSome "name" (.optText t.name?) ++
      detailIf (t.children.head?.any fun c => c.text == "async".toList) "is_async" (.bool true) ++
      detailIf (t.kind = .generatorFunctionDeclaration) "is_generator" (.bool true)
  | .java =>
    detail "node_type" (.text t.kind.tag) ++
      detailIf t.name?.isSome "name" (.optText t.name?) ++
      detailIf (!t.modifierTexts.isEmpty) "modifiers" (.texts t.modifierTexts)

/-! ### The search -/

def toNode (g : Grammar) (parent : Option Text) (t : SyntaxTree) : Node :=
  let kind := t.definition.kind.nodeKind
  { kind := if parent.isSome && kind = .function then .method else kind
    name := t.nameOrLine, first := t.start.row, last := t.stop.row, indent := t.start.column
    parent := parent, details := t.details g }

mutual

def declared (g : Grammar) (parent : Option Text) : SyntaxTree → List Node
  | node kind role text start stop children =>
    let t := node kind role text start stop children
    if g.reports kind then
      t.toNode g parent ::
        if !t.definition.kind.isContainer then []
        else if kind = .decoratedDefinition then declaredInside g (some t.nameOrLine) children
        else declaredAll g (some t.nameOrLine) children
    else declaredAll g parent children

def declaredAll (g : Grammar) (parent : Option Text) : List SyntaxTree → List Node
  | [] => []
  | t :: ts => declared g parent t ++ declaredAll g parent ts

/-- The declarations inside the definition among the children of a decorated one. -/
def declaredInside (g : Grammar) (parent : Option Text) : List SyntaxTree → List Node
  | [] => []
  | node _ role _ _ _ children :: ts =>
    if role = .definition then declaredAll g parent children else declaredInside g parent ts

end

/-- By first line, then by last line. -/
def nodeOrder (a b : Node) : Bool := a.first < b.first || (a.first == b.first && a.last ≤ b.last)

def nodes (g : Grammar) (t : SyntaxTree) : List Node := (declared g none t).mergeSort nodeOrder

end SyntaxTree

/-- How a source becomes a tree. Nothing is asked of it. -/
abbrev SyntaxReader := Grammar → Text → SyntaxTree

def Grammar.nodes (g : Grammar) (reader : SyntaxReader) (ls : List Text) : List Node :=
  (reader g (Text.ofLines ls)).nodes g

end SourceChunks
