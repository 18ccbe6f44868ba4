import SourceChunks.Outline.Declarations
import SourceChunks.Outline.Indentation

/-! Lines that open a scope which may hold further scopes. -/

namespace SourceChunks.Scope

open Pattern

def scriptClass : Pattern := wordEdge ++ lit "class" ++ gap ++ capture 1 dollarName

def scriptFunction : Pattern :=
  wordEdge ++ lit "function" ++ wordEdge ++ blanks ++ opt (lit "*") ++ blanks ++ capture 1 dollarName

/-- A variable bound to an arrow function with parameters in brackets. -/
def scriptArrow : Pattern :=
  oneOf ["const", "let", "var"] ++ gap ++ capture 1 dollarName ++ blanks ++ lit "=" ++ blanks ++
    opt (lit "async" ++ gap) ++ lit "(" ++ manyOf (butNot ")") ++ lit ")" ++ blanks ++ lit "=>"

/-- Signs that a line is no method header. -/
def notMethod : Pattern := lit "=" <|> wholeWord ["function", "class", "if", "for", "while"]

def typedInterface : Pattern := wordEdge ++ lit "interface" ++ gap ++ capture 1 plainName

def typedClass : Pattern := wordEdge ++ oneOf ["class", "record", "enum"] ++ gap ++ capture 1 plainName

/-- The first pattern that occurs in the line, with the captured name. -/
def firstOf (signs : List (Pattern × NodeKind)) (line : Text) : Option (NodeKind × Text) :=
  signs.findSome? fun s => (s.1.search? line).map fun m => (s.2, m.get 1)

def header? (line : Text) : Language → Option (NodeKind × Text)
  | .python =>
    ((Outline.Indentation.classHeader.matchStart? line).map fun m => (NodeKind.class_, m.get 1)).or
      ((Outline.Indentation.functionHeader.matchStart? line).map fun m => (NodeKind.function, m.get 1))
  | .javascript | .typescript =>
    (firstOf [(scriptClass, .class_), (scriptFunction, .function), (scriptArrow, .function)] line).or
      (if notMethod.occursIn line then none else (Outline.member? line).map fun name => (.method, name))
  | .java | .csharp =>
    (firstOf [(typedInterface, .interface), (typedClass, .class_)] line).or
      ((Outline.member? line).map fun name => (.method, name))
  | _ => none

end SourceChunks.Scope
