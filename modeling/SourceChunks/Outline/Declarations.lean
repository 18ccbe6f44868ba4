import SourceChunks.Kind.Semantic
import SourceChunks.Language.Basic
import SourceChunks.Pattern.Building
import SourceChunks.Pattern.Scan

/-! How declarations begin in languages with braces. For every language there is a list of forms,
tried in order on the beginning of a line; each captures the declared name. -/

namespace SourceChunks.Outline

open Pattern

structure Form where
  pattern : Pattern
  kind : NodeKind

/-- Any number of the given words, each followed by blanks. -/
def modifiers (words : List String) : Pattern := star (oneOf words ++ gap)

def optWord (word : String) : Pattern := opt (lit word ++ gap)

def wordName : Pattern := capture 1 wordRun

/-! ### Script languages -/

def scriptName : Pattern := capture 1 dollarName

def scriptForms : List Form := [
  ⟨blanks ++ optWord "export" ++ optWord "default" ++ optWord "async" ++ lit "function" ++ blanks ++
    opt (lit "*") ++ blanks ++ scriptName, .function⟩,
  ⟨blanks ++ optWord "export" ++ oneOf ["const", "let", "var"] ++ gap ++ scriptName ++ blanks ++ lit "=" ++
    blanks ++ optWord "async" ++ (lit "(" ++ manyOf (butNot ")") ++ lit ")" <|> dollarName) ++ blanks ++
    lit "=>", .function⟩,
  ⟨blanks ++ optWord "export" ++ optWord "default" ++ optWord "abstract" ++ lit "class" ++ gap ++ scriptName,
    .class_⟩]

def typedScriptForms : List Form := scriptForms ++ [
  ⟨blanks ++ optWord "export" ++ lit "interface" ++ gap ++ scriptName, .interface⟩,
  ⟨blanks ++ optWord "export" ++ lit "type" ++ gap ++ scriptName ++ blanks ++
    opt (lit "<" ++ manyOf (butNot ">") ++ lit ">") ++ blanks ++ lit "=", .type⟩,
  ⟨blanks ++ optWord "export" ++ optWord "const" ++ lit "enum" ++ gap ++ scriptName, .enum⟩]

/-! ### Class-based languages -/

def classModifiers : Pattern :=
  modifiers ["public", "private", "protected", "internal", "abstract", "final", "static", "sealed",
    "partial", "data", "open", "inner", "readonly"]

/-- A keyword after any modifiers, then the name. -/
def modified (keyword : String) (kind : NodeKind) : Form :=
  ⟨blanks ++ classModifiers ++ lit keyword ++ gap ++ wordName, kind⟩

def javaForms : List Form := [
  modified "class" .class_,
  ⟨blanks ++ classModifiers ++ opt (lit "@") ++ lit "interface" ++ gap ++ wordName, .interface⟩,
  modified "enum" .enum,
  modified "record" .class_]

def csharpForms : List Form := javaForms ++ [modified "struct" .class_]

def kotlinForms : List Form := javaForms ++ [
  modified "object" .class_,
  ⟨blanks ++ modifiers ["public", "private", "internal", "suspend", "inline", "override"] ++ lit "fun" ++
    gap ++ opt (lit "<" ++ someOf (butNot ">") ++ lit ">" ++ blanks) ++ opt (wordRun ++ lit ".") ++ wordName,
    .function⟩]

def scalaForms : List Form := [
  ⟨blanks ++ modifiers ["case", "abstract", "final", "sealed", "private", "protected"] ++ lit "class" ++
    gap ++ wordName, .class_⟩,
  ⟨blanks ++ optWord "case" ++ lit "object" ++ gap ++ wordName, .class_⟩,
  ⟨blanks ++ optWord "sealed" ++ lit "trait" ++ gap ++ wordName, .interface⟩,
  ⟨blanks ++ modifiers ["override", "private", "protected"] ++ lit "def" ++ gap ++ wordName, .function⟩]

/-! ### Systems languages -/

def goForms : List Form := [
  ⟨lit "func" ++ gap ++ opt (lit "(" ++ manyOf (butNot ")") ++ lit ")" ++ blanks) ++ wordName, .function⟩,
  ⟨lit "type" ++ gap ++ wordName ++ gap ++ lit "struct" ++ wordEdge, .class_⟩,
  ⟨lit "type" ++ gap ++ wordName ++ gap ++ lit "interface" ++ wordEdge, .interface⟩]

/-- `pub`, perhaps with a scope in parentheses. -/
def visibility : Pattern :=
  opt (lit "pub" ++ opt (lit "(" ++ manyOf (butNot ")") ++ lit ")") ++ gap)

def rustForms : List Form := [
  ⟨blanks ++ visibility ++ optWord "async" ++ optWord "unsafe" ++ optWord "const" ++ lit "fn" ++ gap ++ wordName,
    .function⟩,
  ⟨blanks ++ visibility ++ lit "struct" ++ gap ++ wordName, .class_⟩,
  ⟨blanks ++ visibility ++ lit "enum" ++ gap ++ wordName, .enum⟩,
  ⟨blanks ++ visibility ++ lit "trait" ++ gap ++ wordName, .interface⟩,
  ⟨blanks ++ lit "impl" ++ opt (lit "<" ++ manyOf (butNot ">") ++ lit ">") ++ gap ++
    opt (someOf (wordOr ":<>") ++ gap ++ lit "for" ++ gap) ++ wordName, .class_⟩]

def tildeName : Pattern := nameOf "_~" "~"

/-- A function header: no statement keyword in front, a name before parentheses, and nothing after
them but qualifiers and perhaps an opening brace. -/
def cFunction : Form :=
  ⟨.notAhead (blanks ++
      oneOf ["if", "for", "while", "switch", "return", "else", "do", "case", "sizeof"] ++ wordEdge) ++
    fewestOf (fun c => wordOr "*&:<>,~" c || isBlank c) ++ wordEdge ++
    capture 1 (tildeName ++ star (lit "::" ++ tildeName)) ++ blanks ++ lit "(" ++
    manyOf (butNot ";\x7b\x7d") ++ lit ")" ++ blanks ++ opt (lit "const" ++ blanks) ++
    opt (lit "noexcept" ++ blanks) ++ opt (lit "\x7b") ++ blanks ++ textEnd, .function⟩

def noSemicolon : Pattern := manyOf (butNot ";") ++ textEnd

def cForms : List Form := [
  ⟨blanks ++ optWord "typedef" ++ oneOf ["struct", "union", "enum"] ++ gap ++ wordName ++ noSemicolon, .class_⟩,
  cFunction]

def cppForms : List Form := [
  ⟨blanks ++ opt (lit "template" ++ blanks ++ lit "<" ++ manyOf (butNot ">") ++ lit ">" ++ blanks) ++
    oneOf ["class", "struct"] ++ gap ++ wordName ++ noSemicolon, .class_⟩,
  ⟨blanks ++ lit "enum" ++ gap ++ optWord "class" ++ wordName ++ noSemicolon, .enum⟩,
  cFunction]

/-! ### The rest -/

def phpForms : List Form := [
  ⟨blanks ++ modifiers ["public", "private", "protected", "static", "abstract", "final"] ++ lit "function" ++
    gap ++ wordName, .function⟩,
  ⟨blanks ++ opt (oneOf ["abstract", "final"] ++ gap) ++ lit "class" ++ gap ++ wordName, .class_⟩,
  ⟨blanks ++ lit "interface" ++ gap ++ wordName, .interface⟩,
  ⟨blanks ++ lit "trait" ++ gap ++ wordName, .class_⟩]

def swiftForms : List Form := [
  ⟨blanks ++ star ((oneOf ["public", "private", "internal", "open", "fileprivate", "static", "final",
      "override"] <|> lit "@" ++ wordRun) ++ gap) ++ lit "func" ++ gap ++ wordName, .function⟩,
  ⟨blanks ++ modifiers ["public", "private", "internal", "open", "final"] ++
    oneOf ["class", "struct", "extension"] ++ gap ++ wordName, .class_⟩,
  ⟨blanks ++ modifiers ["public", "private", "internal"] ++ lit "protocol" ++ gap ++ wordName, .interface⟩,
  ⟨blanks ++ modifiers ["public", "private", "internal"] ++ lit "enum" ++ gap ++ wordName, .enum⟩]

/-- The forms of a language. Where it has none of its own, those of a script. -/
def forms : Language → List Form
  | .javascript => scriptForms
  | .typescript => typedScriptForms
  | .java => javaForms
  | .csharp => csharpForms
  | .kotlin => kotlinForms
  | .scala => scalaForms
  | .go => goForms
  | .rust => rustForms
  | .c => cForms
  | .cpp => cppForms
  | .php => phpForms
  | .swift => swiftForms
  | _ => scriptForms

/-- What the line declares: the first form that fits, and the captured name. -/
def declaration? (language : Language) (line : Text) : Option (NodeKind × Text) :=
  (forms language).findSome? fun f => (f.pattern.matchStart? line).map fun m => (f.kind, m.get 1)

/-! ### Members -/

/-- A member of a class: modifiers, perhaps a type, a name, parameters and an opening brace. -/
def memberHeader : Pattern :=
  blanks ++ modifiers ["public", "private", "protected", "internal", "static", "final", "abstract",
      "synchronized", "async", "override", "virtual"] ++
    opt (someOf (wordOr "<>[],.?") ++ gap) ++ capture 1 dollarName ++ blanks ++ lit "(" ++
    manyOf (butNot ")") ++ lit ")" ++ blanks ++
    opt (lit "throws" ++ gap ++ someOf (fun c => wordOr ".," c || isBlank c)) ++ lit "\x7b"

/-- Words that look like the name of a member and are not. -/
def controlWords : List Text :=
  ["if", "for", "while", "switch", "catch", "return", "function", "else", "do", "try", "with", "new"]

def member? (line : Text) : Option Text :=
  (memberHeader.matchStart? line).bind fun m =>
    if controlWords.contains (m.get 1) then none else some (m.get 1)

end SourceChunks.Outline
