import SourceChunks.Syntax.Script.Lexical

/-! The syntax of JavaScript, with markup inside expressions. Operators are not ordered by strength,
since a declaration is found between any two of them alike. A statement ends with a semicolon or where
a line end stands for one, and the second is looked for before anything else that could follow. -/

namespace SourceChunks.Script

open Rule

inductive Place where
  /-- In a statement, which a line end may finish. -/
  | statement
  /-- Between brackets. -/
  | inner
  /-- In the head of a loop, where `in` is not an operator. -/
  | head
  deriving DecidableEq, Repr

inductive Part where
  | program | statement | block
  /-- A declaration; `bare` when the word `async` could be a statement here. -/
  | declaration (bare : Bool)
  | bindings (p : Place)
  | importing | exporting | loop
  | expression (p : Place)
  | assignment (p : Place)
  | operand (p : Place)
  | tail (p : Place)
  | trailer (p : Place)
  | primary (p : Place)
  | arrowBody (p : Place)
  | group | array | object | property | template
  | decorator | classTail | member
  | markup | markupBody | markupValue

/-! ### Tokens -/

def word (w : String) : Rule Part := token (word? w)

def wordOf (ws : List String) : Rule Part := choice (ws.map word)

def operator (o : String) : Rule Part := token (operator? [o.toList])

def name : Rule Part := token name?

def anyName : Rule Part := token anyName?

def string : Rule Part := token string?

/-- Comments of the markup kind, which stand only where no value has just ended. -/
def markupComments : Rule Part := .space ++ .many (token markupComment?)

def semicolon : Rule Part := sign ";" <|> here (endsStatement true) <|> here (endsStatement false)

def Place.goesOn : Place → Rule Part
  | .statement => .notAhead (here (endsStatement true))
  | _ => .nothing

def nameLeaf : Rule Part := .leaf .name name

/-- What follows makes a value of what stands before. -/
def joined : Rule Part := token (operator? joiningOperators) <|> wordOf ["in", "instanceof"]

/-- Braces that start like an object, with a name and a colon. -/
def labelBrace : Rule Part := .ahead (sign "\x7b" ++ anyName ++ sign ":")

/-! ### Functions and classes -/

def functionTail : Rule Part := .part .group ++ .part .block

def asyncLeaf (bare : Bool) : Rule Part :=
  opt (.leaf .part (word "async") ++ if bare then Place.statement.goesOn else .nothing)

def functionDeclaration (bare : Bool) : Rule Part :=
  .node .functionDeclaration .part (asyncLeaf bare ++ word "function" ++ nameLeaf ++ functionTail)

def generatorDeclaration (bare : Bool) : Rule Part :=
  .node .generatorFunctionDeclaration .part
    (asyncLeaf bare ++ word "function" ++ sign "*" ++ nameLeaf ++ functionTail)

def classDeclaration : Rule Part :=
  .node .classDeclaration .part
    (.many (.part .decorator) ++ word "class" ++ nameLeaf ++ .part .classTail)

def functionExpression : Rule Part := word "function" ++ opt (sign "*") ++ opt name ++ functionTail

def classExpression : Rule Part :=
  .many (.part .decorator) ++ word "class" ++ opt name ++ .part .classTail

/-- The word before it is a member of its own. -/
def memberEnds : Rule Part :=
  here (endsStatement false) <|> sign "(" <|> operator "=" <|> sign ";" <|> sign "\x7d"

def propertyEnds : Rule Part := sign "(" <|> sign ":" <|> sign "," <|> operator "=" <|> sign "\x7d"

/-- A word that says more about a method, unless it is a member of its own. -/
def modifier (w : String) (ends : Rule Part) : Rule Part := .leaf .part (word w) ++ .notAhead ends

def methodWords (ends : Rule Part) : Rule Part :=
  opt (.leaf .part (token staticGet?) <|> modifier "static" ends) ++ opt (modifier "async" ends) ++
    opt (modifier "get" ends <|> modifier "set" ends <|> .leaf .part (sign "*"))

def propertyName : Rule Part :=
  anyName <|> token hiddenName? <|> string <|> token number? <|>
    sign "[" ++ .part (.assignment .inner) ++ sign "]"

def method (ends : Rule Part) : Rule Part :=
  .node .methodDefinition .part
    (.many (.part .decorator) ++ methodWords ends ++ .leaf .name propertyName ++ functionTail)

def field : Rule Part :=
  .many (.part .decorator) ++ opt (word "static" ++ .notAhead memberEnds) ++
    opt (word "accessor" ++ .notAhead memberEnds) ++ propertyName ++
    opt (operator "=" ++ .part (.assignment .statement)) ++ semicolon

/-! ### Statements -/

/-- What a name is bound to: a name or a pattern. -/
def target : Rule Part := .part .array <|> .part .object <|> name

def parens : Rule Part := sign "(" ++ .part (.expression .inner) ++ sign ")"

def variableWord : Rule Part :=
  wordOf ["var", "const"] <|>
    (word "let" <|> word "using" <|> word "await" ++ word "using") ++ Place.statement.goesOn ++ .ahead target

def ifStatement : Rule Part :=
  word "if" ++ parens ++ .part .statement ++ opt (word "else" ++ .part .statement)

def switchStatement : Rule Part :=
  word "switch" ++ parens ++ sign "\x7b" ++
    .many ((word "case" ++ .part (.expression .inner) <|> word "default") ++ sign ":" ++
      .many (.part .statement)) ++ sign "\x7d"

def whileStatement : Rule Part := wordOf ["while", "with"] ++ parens ++ .part .statement

def doStatement : Rule Part :=
  word "do" ++ .part .statement ++ word "while" ++ parens ++ opt semicolon

def tryStatement : Rule Part :=
  word "try" ++ .part .block ++
    opt (word "catch" ++ opt (sign "(" ++ target ++ sign ")") ++ .part .block) ++
    opt (word "finally" ++ .part .block)

/-- A statement of one word, which may have a name or a value after it on its line. -/
def wordStatement : Rule Part :=
  (wordOf ["break", "continue"] ++ opt (.notAhead (here (endsStatement false)) ++ name) <|>
    word "debugger" <|>
    word "return" ++ opt (.notAhead (here (endsStatement false)) ++ .part (.expression .statement)) <|>
    word "throw" ++ .part (.expression .statement)) ++ semicolon

def expressionStatement : Rule Part := .part (.expression .statement) ++ semicolon

def collectionHead : Rule Part :=
  (variableWord ++ target ++ opt (operator "=" ++ .part (.assignment .head)) <|> .part (.operand .head)) ++
    wordOf ["in", "of"] ++ .part (.expression .inner)

def conditionHead : Rule Part :=
  opt (.part (.bindings .inner) <|> .part (.expression .inner)) ++ sign ";" ++
    opt (.part (.expression .inner)) ++ sign ";" ++ opt (.part (.expression .inner))

/-! ### Modules -/

def moduleName : Rule Part := anyName <|> string

def specifiers : Rule Part :=
  sign "\x7b" ++ .many (moduleName ++ opt (word "as" ++ moduleName) ++ opt (sign ",")) ++ sign "\x7d"

/-- The module that names come from. -/
def source : Rule Part :=
  word "from" ++ string ++ opt (Place.statement.goesOn ++ wordOf ["with", "assert"] ++ .part .object)

def importClause : Rule Part :=
  let names := specifiers <|> sign "*" ++ word "as" ++ name
  names <|> name ++ opt (sign "," ++ names)

/-! ### Expressions -/

def lead : Rule Part :=
  wordOf ["typeof", "void", "delete", "await"] <|> word "new" ++ .notAhead (sign ".") <|>
    choice (leadOperators.map sign)

def arrow (p : Place) : Rule Part := operator "=>" ++ .part (.arrowBody p)

def subscript : Rule Part := sign "[" ++ .part (.expression .inner) ++ sign "]"

/-- Items between commas, where an item may be missing. -/
def items (item : Rule Part) : Rule Part := opt item ++ .many (sign "," ++ opt item)

/-- A value, or three points and a value. -/
def spreadable : Rule Part := opt (sign "...") ++ .part (.assignment .inner)

/-! ### The rules -/

def rule : Part → Rule Part
  | .program =>
    opt (.lexeme interpreterLine?) ++
      .many (.part .statement <|> string <|> .part .template <|> anyName <|> token fun t => t.head?.map fun _ => 1)
  | .statement =>
    markupComments ++
      (sign ";" <|>
        labelBrace ++ expressionStatement <|>
        .part .block <|> .part (.declaration true) <|> .part .importing <|> .part .exporting <|> ifStatement <|>
        switchStatement <|> .part .loop <|> whileStatement <|> doStatement <|> tryStatement <|> wordStatement <|>
        name ++ sign ":" ++ .part .statement <|> expressionStatement)
  | .block => sign "\x7b" ++ .many (.part .statement) ++ markupComments ++ sign "\x7d"
  | .declaration bare =>
    (generatorDeclaration bare <|> functionDeclaration bare <|> classDeclaration) ++ .notAhead joined <|>
      .part (.bindings .statement) ++ semicolon
  | .bindings p =>
    variableWord ++ separated (target ++ opt (operator "=" ++ .part (.assignment p))) (sign ",")
  | .importing =>
    word "import" ++ (string ++ opt (Place.statement.goesOn ++ wordOf ["with", "assert"] ++ .part .object) <|>
      importClause ++ source) ++ semicolon
  | .exporting =>
    .many (.part .decorator) ++ word "export" ++
      (word "default" ++ (.part (.declaration true) <|> .part (.assignment .statement) ++ semicolon) <|>
        sign "*" ++ opt (word "as" ++ moduleName) ++ source ++ semicolon <|>
        specifiers ++ opt source ++ semicolon <|>
        .part (.declaration false))
  | .loop =>
    word "for" ++ opt (word "await") ++ sign "(" ++ (collectionHead ++ sign ")" <|> conditionHead ++ sign ")") ++
      .part .statement
  | .expression p => separated (.part (.assignment p)) (sign ",")
  | .assignment p => .part (.operand p) ++ .many (.part (.tail p))
  | .operand p =>
    .many lead ++
      (word "yield" ++ opt (p.goesOn ++ opt (sign "*") ++ .part (.assignment p)) <|>
        .part (.primary p) ++ .many (.part (.trailer p)))
  | .tail p =>
    let words := if p = .head then ["instanceof"] else ["in", "instanceof"]
    p.goesOn ++
      ((token (operator? binaryOperators) <|> wordOf words) ++ .part (.operand p) <|>
        operator "?" ++ .part (.assignment .inner) ++ sign ":" ++ .part (.assignment p) <|>
        token (operator? assignmentOperators) ++ .part (.assignment p))
  | .trailer p =>
    p.goesOn ++
      (operator "." ++ (anyName <|> token hiddenName?) <|>
        operator "?." ++ (anyName <|> token hiddenName? <|> subscript <|> .part .group <|> .part .template) <|>
        subscript <|> .part .group <|> .part .template <|> operator "++" <|> operator "--")
  | .primary p =>
    word "async" ++ p.goesOn ++ (functionExpression <|> (token valueName? <|> .part .group) ++ arrow p) <|>
      token valueName? ++ opt (arrow p) <|>
      functionExpression <|> classExpression <|> .part .group ++ opt (arrow p) <|> .part .array <|> .part .object <|>
      string <|> .part .template <|> token number? <|> token regex? <|> .part .markup <|> token hiddenName? <|>
      word "new" ++ sign "." ++ name <|> wordOf ["this", "super", "null", "true", "false", "import"]
  | .arrowBody p => labelBrace ++ .part (.assignment p) <|> .part .block <|> .part (.assignment p)
  | .group => sign "(" ++ items spreadable ++ sign ")"
  | .array => sign "[" ++ items spreadable ++ sign "]"
  | .object => sign "\x7b" ++ items (.part .property) ++ sign "\x7d"
  | .property =>
    sign "..." ++ .part (.assignment .inner) <|> method propertyEnds <|>
      propertyName ++ sign ":" ++ .part (.assignment .inner) <|>
      anyName ++ opt (operator "=" ++ .part (.assignment .inner))
  | .template =>
    sign "`" ++ .many (.lexeme templateChars? <|> raw "$\x7b" ++ .part (.expression .inner) ++ sign "\x7d") ++ raw "`"
  | .decorator =>
    .node .other .part (sign "@" ++
      (parens <|> anyName ++ .many (operator "." ++ (anyName <|> token hiddenName?)) ++ opt (.part .group)))
  | .classTail =>
    opt (word "extends" ++ .part (.assignment .inner)) ++ sign "\x7b" ++ .many (.part .member) ++
      markupComments ++ sign "\x7d"
  | .member =>
    markupComments ++
      (sign ";" <|> word "static" ++ .part .block <|> method memberEnds ++ opt (sign ";") <|> field)
  | .markup =>
    sign "<" ++
      (.part .markupBody <|>
        separated (token markupName?) (sign ":" <|> sign ".") ++
          .many (.part .markupValue <|>
            separated (token markupName?) (sign ":") ++
              opt (sign "=" ++ (token markupString? <|> .part .markupValue <|> .part .markup))) ++
          (sign "/" ++ sign ">" <|> .part .markupBody))
  | .markupBody =>
    sign ">" ++ .many (.lexeme markupText? <|> .part .markupValue <|> .part .markup) ++
      sign "<" ++ sign "/" ++ opt (separated (token markupName?) (sign ":" <|> sign ".")) ++ sign ">"
  | .markupValue => sign "\x7b" ++ opt (opt (sign "...") ++ .part (.expression .inner)) ++ sign "\x7d"

def rulebook : Rulebook Part := ⟨spaceLength, rule⟩

def declarations (t : Text) : List SyntaxTree := rulebook.trees .program t

end SourceChunks.Script
