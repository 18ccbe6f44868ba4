import SourceChunks.Text.Basic

/-! Syntax trees, as far as declarations need them: kinds, roles, spans and children in order. -/

namespace SourceChunks

/-- A place in a source: characters before it, lines before it, and bytes before it on its line. -/
structure Mark where
  offset : Nat
  row : Nat
  column : Nat
  deriving DecidableEq, Repr

namespace Mark

def zero : Mark := ⟨0, 0, 0⟩

def next (m : Mark) (c : Char) : Mark :=
  if c = '\n' then ⟨m.offset + 1, m.row + 1, 0⟩ else ⟨m.offset + 1, m.row, m.column + c.utf8Size⟩

def after (m : Mark) (t : Text) : Mark := t.foldl next m

end Mark

inductive SyntaxKind where
  | functionDefinition | classDefinition | decoratedDefinition | decorator | block
  | expressionStatement | string
  | functionDeclaration | generatorFunctionDeclaration | classDeclaration | methodDefinition
  | methodDeclaration | constructorDeclaration | interfaceDeclaration | enumDeclaration
  | annotationTypeDeclaration | modifiers
  | token
  | other
  deriving DecidableEq, Repr

def SyntaxKind.tag : SyntaxKind → Text
  | functionDefinition => "function_definition"
  | classDefinition => "class_definition"
  | decoratedDefinition => "decorated_definition"
  | decorator => "decorator"
  | block => "block"
  | expressionStatement => "expression_statement"
  | string => "string"
  | functionDeclaration => "function_declaration"
  | generatorFunctionDeclaration => "generator_function_declaration"
  | classDeclaration => "class_declaration"
  | methodDefinition => "method_definition"
  | methodDeclaration => "method_declaration"
  | constructorDeclaration => "constructor_declaration"
  | interfaceDeclaration => "interface_declaration"
  | enumDeclaration => "enum_declaration"
  | annotationTypeDeclaration => "annotation_type_declaration"
  | modifiers => "modifiers"
  | token => "token"
  | other => "other"

/-- What a child is to its parent. -/
inductive SyntaxRole where
  | name | body | definition | part
  deriving DecidableEq, Repr

inductive SyntaxTree where
  | node (kind : SyntaxKind) (role : SyntaxRole) (text : Text) (start stop : Mark)
      (children : List SyntaxTree)

namespace SyntaxTree

def kind : SyntaxTree → SyntaxKind
  | node k _ _ _ _ _ => k

def role : SyntaxTree → SyntaxRole
  | node _ r _ _ _ _ => r

def text : SyntaxTree → Text
  | node _ _ t _ _ _ => t

def start : SyntaxTree → Mark
  | node _ _ _ s _ _ => s

def stop : SyntaxTree → Mark
  | node _ _ _ _ e _ => e

def children : SyntaxTree → List SyntaxTree
  | node _ _ _ _ _ cs => cs

def child? (t : SyntaxTree) (r : SyntaxRole) : Option SyntaxTree := t.children.find? (·.role == r)

end SyntaxTree

end SourceChunks
