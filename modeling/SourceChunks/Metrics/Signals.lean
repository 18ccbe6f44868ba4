import SourceChunks.Metrics.Complexity

/-! Signs in a text: design patterns it names, smells, and security concerns. -/

namespace SourceChunks.Metrics

open Pattern

/-! ### Test paths -/

/-- A part of a path that names tests or specifications. -/
def testPart : Pattern :=
  (textStart <|> anyOf "/\\._-") ++
    (lit "test" ++ opt (lit "s") <|> lit "spec" ++ opt (lit "s") <|> lit "__tests__") ++
    (anyOf "/\\._-" <|> textEnd)

def isTestPath (path : Text) : Bool := testPart.occursIn (lowercase path)

/-! ### Design patterns -/

def designPatterns (content : Text) : List Text :=
  let lower := lowercase content
  let has := Text.has lower
  [(("Singleton" : Text), has "singleton" || (has "instance" && has "static")),
    ("Factory", has "factory" || has "create"),
    ("Observer", has "observer" || has "notify"),
    ("Strategy", has "strategy" || has "algorithm"),
    ("Decorator", has "decorator" || has "wrapper"),
    ("Adapter", has "adapter" || has "convert"),
    ("Builder", has "builder" || has "build")].filterMap fun s => if s.2 then some s.1 else none

/-! ### Smells -/

/-- A pair of parentheses around at least fifty characters. -/
def longParameterList : Pattern := lit "(" ++ .run (butNot ")") 50 none .greedy ++ lit ")"

def deadCodeMark : Pattern := wholeWord ["TODO", "FIXME", "HACK", "XXX"]

def codeSmells (content : Text) : List Text :=
  let ls := Text.lines content
  [(("Long Method" : Text), decide (ls.length > 50)),
    ("Long Parameter List", longParameterList.occursIn content),
    ("Duplicate Code", decide (duplicateLineCount ls 10 > 0)),
    ("Large Class", Text.has content "class " && decide (ls.length > 200)),
    ("Dead Code", deadCodeMark.occursIn content)].filterMap fun s => if s.2 then some s.1 else none

/-! ### Security -/

def queryWords : List String := ["select", "insert", "update", "delete"]

/-- Traces of texts put together from parts. -/
def concatenationMarks : List Text :=
  ["\" + ", "' + ", "+ \"", "+ '", "\" +", "' +", "`$\x7b", "f\"", "f'", "\" %", "' %", ".format("]

def hasQueryConcatenation (content : Text) : Bool :=
  (wholeWord queryWords).occursIn (lowercase content) && Text.hasAny content concatenationMarks

def quoteMarks : Text := "\"'"

def quotedText : Pattern := anyOf quoteMarks ++ someOf (butNot quoteMarks) ++ anyOf quoteMarks

def secretWord : Pattern := oneOfAnyCase ["password", "secret", "token", "key"]

/-- A secret written into the text: a declaration, or a name with a value. -/
def credentials : Pattern :=
  oneOfAnyCase ["const", "let", "var"] ++ gap ++ secretWord ++ blanks ++ lit "=" ++ blanks ++ quotedText <|>
    secretWord ++ blanks ++ anyOf ":=" ++ blanks ++ quotedText

def evalCall : Pattern := wordEdge ++ lit "eval" ++ blanks ++ lit "("

def securityConcerns (content : Text) : List Text :=
  let lower := lowercase content
  [(("SQL Injection Risk" : Text), hasQueryConcatenation content),
    ("XSS Risk", Text.has lower "innerhtml" || evalCall.occursIn lower),
    ("Hardcoded Credentials", credentials.occursIn content),
    ("Weak Random Number Generation", Text.hasAny lower ["math.random", "random.random"]),
    ("Path Traversal Risk", Text.hasAny content ["../", "..\\"])].filterMap
      fun s => if s.2 then some s.1 else none

end SourceChunks.Metrics
