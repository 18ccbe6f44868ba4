import SourceChunks.Syntax.Typed.Lexical

/-! The syntax of Java. A declaration starts with its modifiers. A record is no declaration of its
own, and neither is a class without a name, but both are searched. Operators are not ordered by
strength, since a declaration is found between any two of them alike. -/

namespace SourceChunks.Typed

open Rule

inductive Part where
  | program | statement | block
  | type | typeArguments | typeParameters | dimensions | marker | elementValue
  | parameters | pattern | arrayValue
  | typeDeclaration | classBody | member | enumBody | markerBody | moduleBody
  /-- An expression, in which a lambda may stand or not. -/
  | expression (lambdas : Bool)
  | operand (lambdas : Bool)
  | tail (lambdas : Bool)
  | trailer
  | primary (lambdas : Bool)
  | creation | switchBlock | string

/-! ### Tokens -/

def word (w : String) : Rule Part := token (word? w)

def wordOf (ws : List String) : Rule Part := choice (ws.map word)

def operator (o : String) : Rule Part := token (operator? [o.toList])

def name : Rule Part := token name?

def nameLeaf : Rule Part := .leaf .name name

def list (r : Rule Part) : Rule Part := separated r (sign ",")

/-- None or more between brackets, with commas between them and at their end. -/
def group (opening : String) (r : Rule Part) (closing : String) : Rule Part :=
  sign opening ++ opt (list r) ++ opt (sign ",") ++ sign closing

def value : Rule Part := .part (.expression true)

def parens : Rule Part := sign "(" ++ value ++ sign ")"

def arguments : Rule Part := group "(" value ")"

def path : Rule Part := separated name (sign ".")

/-! ### Modifiers -/

def modifierWords : List String :=
  ["public", "protected", "private", "abstract", "static", "final", "strictfp", "default",
    "synchronized", "native", "transient", "volatile", "sealed"]

def modifierWord : Rule Part := wordOf modifierWords <|> sign "non-sealed"

/-- Modifiers, each word of them a leaf. -/
def modifiers : Rule Part :=
  opt (.node .modifiers .part (Rule.some (.part .marker <|> .leaf .part modifierWord)))

/-- Modifiers of something that is not reported. -/
def plainModifiers : Rule Part := .many (.part .marker <|> modifierWord)

/-! ### Types -/

/-- The names of a type, with what each is given. -/
def simpleType : Rule Part :=
  wordOf ["void", "byte", "short", "int", "long", "char", "float", "double", "boolean"] <|>
    separated (.many (.part .marker) ++ name ++ opt (.part .typeArguments)) (operator ".")

def types : Rule Part := list (.part .type)

/-- The types that a type builds on, and those that may build on it. -/
def heritage : Rule Part := .many (wordOf ["extends", "implements", "permits"] ++ types)

def declarators : Rule Part :=
  .part .type ++ list (name ++ .part .dimensions ++ opt (operator "=" ++ (.part .arrayValue <|> value)))

/-! ### Members -/

/-- What follows the name of a method or a constructor. -/
def signature : Rule Part := .part .parameters ++ .part .dimensions ++ opt (word "throws" ++ types)

def method : Rule Part :=
  .node .methodDeclaration .part
    (modifiers ++ opt (.part .typeParameters ++ .many (.part .marker)) ++ .part .type ++ nameLeaf ++
      signature ++ (.part .block <|> sign ";"))

def constructor : Rule Part :=
  .node .constructorDeclaration .part
    (modifiers ++ opt (.part .typeParameters) ++ nameLeaf ++ signature ++ .part .block)

/-- The constructor of a record that repeats no parameters, or a block. -/
def compactConstructor : Rule Part := plainModifiers ++ opt name ++ .part .block

def enumConstant : Rule Part := plainModifiers ++ name ++ opt arguments ++ opt (.part .classBody)

/-! ### Statements -/

def reportedType (kind : SyntaxKind) (first : Rule Part) (body : Part) : Rule Part :=
  .node kind .part (modifiers ++ first ++ nameLeaf ++ opt (.part .typeParameters) ++ heritage ++ .part body)

/-- A record, which is not reported. -/
def record : Rule Part :=
  .node .other .part
    (plainModifiers ++ word "record" ++ name ++ opt (.part .typeParameters) ++ .part .parameters ++
      heritage ++ .part .classBody)

def markerType : Rule Part := sign "@" ++ word "interface"

def ifStatement : Rule Part := word "if" ++ parens ++ .part .statement ++ opt (word "else" ++ .part .statement)

def loopHead : Rule Part :=
  plainModifiers ++ .part .type ++ name ++ .part .dimensions ++ operator ":" ++ value ++ sign ")" <|>
    opt (plainModifiers ++ declarators <|> list value) ++ sign ";" ++ opt value ++ sign ";" ++ opt (list value) ++ sign ")"

def forStatement : Rule Part := word "for" ++ sign "(" ++ loopHead ++ .part .statement

def whileStatement : Rule Part := word "while" ++ parens ++ .part .statement

def doStatement : Rule Part := word "do" ++ .part .statement ++ word "while" ++ parens ++ sign ";"

def resources : Rule Part :=
  sign "(" ++ separated (plainModifiers ++ declarators <|> value) (sign ";") ++ opt (sign ";") ++ sign ")"

def catchClause : Rule Part :=
  word "catch" ++ sign "(" ++ plainModifiers ++ separated (.part .type) (operator "|") ++ name ++ sign ")" ++ .part .block

def tryStatement : Rule Part :=
  word "try" ++ opt resources ++ .part .block ++ .many catchClause ++ opt (word "finally" ++ .part .block)

def wordStatement : Rule Part :=
  (wordOf ["break", "continue"] ++ opt name <|> word "return" ++ opt value <|> wordOf ["throw", "yield"] ++ value <|>
    word "assert" ++ value ++ opt (operator ":" ++ value)) ++ sign ";"

def moduleStatement : Rule Part :=
  word "import" ++ opt (word "static") ++ path ++ opt (sign "." ++ sign "*") ++ sign ";" <|>
    .many (.part .marker) ++
      (word "package" ++ path ++ sign ";" <|> opt (word "open") ++ word "module" ++ path ++ .part .moduleBody)

/-! ### Expressions -/

/-- A type in parentheses before a value. After the name of a class, a sign is an operator. -/
def cast : Rule Part :=
  sign "(" ++
    (wordOf ["byte", "short", "int", "long", "char", "float", "double", "boolean"] ++ sign ")" <|>
      separated (.part .type) (operator "&") ++ sign ")" ++ .notAhead (sign "+" <|> sign "-"))

def lambdaParameters : Rule Part := name <|> .part .parameters <|> group "(" name ")"

def lambda : Rule Part := lambdaParameters ++ operator "->" ++ (.part .block <|> value)

/-- What a case stands for: the names of a pattern or values, with a condition. -/
def caseLabel : Rule Part :=
  let guard := opt (word "when" ++ .part (.expression false))
  let ends := Rule.ahead (operator ":" <|> operator "->")
  .part .pattern ++ guard ++ ends <|> list (word "default" <|> .part (.expression false)) ++ guard ++ ends

def switchExpression : Rule Part := word "switch" ++ parens ++ .part .switchBlock

/-! ### The rules -/

def rule : Part → Rule Part
  | .program =>
    .many (.part .typeDeclaration <|> .notAhead (word "yield") ++ method <|> .part .statement <|> .part .string <|> token anyName? <|>
      token fun t => t.head?.map fun _ => 1)
  | .statement =>
    sign ";" <|> .part .block <|> .part .typeDeclaration <|> moduleStatement <|> ifStatement <|> forStatement <|>
      whileStatement <|> doStatement <|> tryStatement <|> switchExpression <|>
      word "synchronized" ++ parens ++ .part .block <|> wordStatement <|>
      name ++ operator ":" ++ .part .statement <|>
      plainModifiers ++ declarators ++ sign ";" <|> value ++ sign ";"
  | .block => sign "\x7b" ++ .many (.part .statement) ++ sign "\x7d"
  | .type => .many (.part .marker) ++ simpleType ++ .part .dimensions
  | .typeArguments =>
    group "<" (.many (.part .marker) ++ sign "?" ++ opt (wordOf ["extends", "super"] ++ .part .type) <|> .part .type) ">"
  | .typeParameters =>
    group "<" (.many (.part .marker) ++ name ++ opt (word "extends" ++ separated (.part .type) (operator "&"))) ">"
  | .dimensions => .many (.many (.part .marker) ++ sign "[" ++ sign "]")
  | .marker => sign "@" ++ .notAhead (word "interface") ++ path ++ opt (group "(" (.part .elementValue) ")")
  | .elementValue =>
    opt (name ++ operator "=") ++
      (.part .marker <|> group "\x7b" (.part .elementValue) "\x7d" <|> value)
  | .parameters =>
    group "("
      (plainModifiers ++ .part .type ++
        (.many (name ++ sign ".") ++ word "this" <|>
          opt (.many (.part .marker) ++ sign "...") ++ .many (.part .marker) ++ name ++ .part .dimensions)) ")"
  | .pattern =>
    plainModifiers ++ .part .type ++ (group "(" (.part .pattern <|> name) ")" <|> name)
  | .arrayValue => group "\x7b" (.part .arrayValue <|> value) "\x7d"
  | .typeDeclaration =>
    reportedType .classDeclaration (word "class") .classBody <|>
      reportedType .interfaceDeclaration (word "interface") .classBody <|>
      reportedType .enumDeclaration (word "enum") .enumBody <|>
      reportedType .annotationTypeDeclaration markerType .markerBody <|> record
  | .classBody => sign "\x7b" ++ .many (.part .member) ++ sign "\x7d"
  | .member =>
    sign ";" <|> .part .typeDeclaration <|> compactConstructor <|> constructor <|> method <|>
      plainModifiers ++ declarators ++ sign ";"
  | .enumBody =>
    sign "\x7b" ++ opt (list enumConstant) ++ opt (sign ",") ++ opt (sign ";" ++ .many (.part .member)) ++ sign "\x7d"
  | .markerBody =>
    sign "\x7b" ++
      .many (sign ";" <|> .part .typeDeclaration <|>
        plainModifiers ++ .part .type ++ name ++ sign "(" ++ sign ")" ++ .part .dimensions ++
          opt (word "default" ++ .part .elementValue) ++ sign ";" <|>
        plainModifiers ++ declarators ++ sign ";") ++ sign "\x7d"
  | .moduleBody =>
    sign "\x7b" ++
      .many (wordOf ["requires", "exports", "opens", "uses", "provides"] ++
        .many (wordOf ["static", "transitive", "to", "with"] <|> sign "," <|> path) ++ sign ";") ++ sign "\x7d"
  | .expression lambdas => .part (.operand lambdas) ++ .many (.part (.tail lambdas))
  | .operand lambdas =>
    .many (choice (["++", "--", "+", "-", "!", "~"].map sign)) ++
      (cast ++ .part (.operand lambdas) <|> .part (.primary lambdas) ++ .many (.part .trailer))
  | .tail lambdas =>
    token (operator? binaryOperators) ++ .part (.operand lambdas) <|>
      word "instanceof" ++ plainModifiers ++ (.part .pattern <|> .part .type) <|>
      sign "?" ++ value ++ operator ":" ++ .part (.expression lambdas)
  | .trailer =>
    sign "." ++ (.part .string <|> .part .creation <|> opt (.part .typeArguments) ++ (name <|> wordOf ["this", "super", "class"])) <|>
      operator "::" ++ opt (.part .typeArguments) ++ (word "new" <|> name) <|>
      sign "[" ++ value ++ sign "]" <|> arguments <|> operator "++" <|> operator "--"
  | .primary lambdas =>
    (if lambdas then lambda <|> .part .creation else .part .creation) <|> switchExpression <|>
      .part .type ++ (.ahead (operator "::") <|> sign "." ++ word "class") <|>
      opt (.part .typeArguments) ++ wordOf ["this", "super"] <|> name <|>
      wordOf ["true", "false", "null"] <|> parens <|> .part .string <|> token character? <|> token number?
  | .creation =>
    word "new" ++ opt (.part .typeArguments) ++ .many (.part .marker) ++ simpleType ++
      (arguments ++ opt (.part .classBody) <|>
        Rule.some (.many (.part .marker) ++ sign "[" ++ opt value ++ sign "]") ++ opt (.part .arrayValue))
  | .switchBlock =>
    sign "\x7b" ++
      .many ((word "case" ++ caseLabel <|> word "default") ++
        (operator ":" ++ .many (.part .statement) <|> operator "->" ++ (.part .block <|> wordStatement <|> value ++ sign ";"))) ++
      sign "\x7d"
  | .string =>
    let inside (quote : String) : Rule Part :=
      .many (.lexeme (stringChars? quote) <|> raw "\\\x7b" ++ value ++ sign "\x7d") ++ raw quote
    sign "\"\"\"" ++ inside "\"\"\"" <|> sign "\"" ++ inside "\""

def rulebook : Rulebook Part := ⟨spaceLength, rule⟩

def declarations (t : Text) : List SyntaxTree := rulebook.trees .program t

end SourceChunks.Typed
