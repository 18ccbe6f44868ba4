import SourceChunks.Context.Domain
import SourceChunks.Metrics.Dependencies
import SourceChunks.Outline.Node

/-! Signs of context in lines of source: imports, calls, assignments and classes; and what a
declaration depends on and refers to. -/

namespace SourceChunks.Contextual

open Pattern

def call : Pattern := capture 1 dollarName ++ blanks ++ lit "("

/-! ### Signs in lines -/

def importSigns : Language → List Pattern
  | .javascript | .typescript => [
      textStart ++ blanks ++ lit "import" ++ gap,
      textStart ++ blanks ++ lit "from" ++ gap ++ manyOf onLine ++ lit "import",
      lit "require" ++ blanks ++ lit "(",
      textStart ++ blanks ++ lit "export" ++ gap]
  | .python => [
      textStart ++ blanks ++ lit "import" ++ gap,
      textStart ++ blanks ++ lit "from" ++ gap ++ manyOf onLine ++ lit "import"]
  | .java | .csharp => [
      textStart ++ blanks ++ lit "import" ++ gap,
      textStart ++ blanks ++ lit "using" ++ gap]
  | .go => [textStart ++ blanks ++ lit "import" ++ gap]
  | _ => [textStart ++ blanks ++ lit "#include", textStart ++ blanks ++ lit "import"]

def assignmentSigns : Language → List Pattern
  | .javascript | .typescript => [
      oneOf ["const", "let", "var"] ++ gap ++ dollarName ++ blanks ++ lit "=",
      dollarName ++ blanks ++ lit "=" ++ blanks ++ .one (butNot "=")]
  | .python => [textStart ++ blanks ++ plainName ++ blanks ++ lit "="]
  | .java | .csharp => [
      opt (oneOf ["public", "private", "protected"]) ++ blanks ++ opt (lit "static") ++ blanks ++ wordRun ++
        gap ++ plainName ++ blanks ++ lit "="]
  | _ => [plainName ++ blanks ++ lit "="]

def classSigns : Language → List Pattern
  | .javascript | .typescript => [
      oneOf ["class", "interface"] ++ gap ++ dollarName,
      oneOf ["extends", "implements"] ++ gap ++ dollarName]
  | .python => [
      textStart ++ blanks ++ lit "class" ++ gap ++ plainName,
      lit "class" ++ gap ++ plainName ++ lit "(" ++ manyOf (butNot ")") ++ lit ")"]
  | .java | .csharp => [
      oneOf ["class", "interface"] ++ gap ++ plainName,
      oneOf ["extends", "implements"] ++ gap ++ plainName]
  | _ => [lit "class" ++ gap ++ plainName]

def shows (signs : List Pattern) (line : Text) : Bool := signs.any (·.occursIn line)

/-- How many of imports, calls, assignments and classes occur. -/
def signalCount (ls : List Text) (language : Language) : Nat :=
  [importSigns language, [call], assignmentSigns language, classSigns language].countP
    fun signs => ls.any (shows signs)

/-! ### Dependencies and references -/

def quotes : Text := "'\""

def quotedName : Pattern := anyOf quotes ++ capture 1 (someOf (butNot quotes)) ++ anyOf quotes

def notBlank (c : Char) : Bool := !isBlank c

/-- Names after the keywords of an import, in the order in which they are tried. -/
def importNames : Language → List Pattern
  | .javascript | .typescript => [
      lit "from" ++ gap ++ quotedName,
      lit "require" ++ blanks ++ lit "(" ++ blanks ++ quotedName ++ blanks ++ lit ")"]
  | .python => [
      (lit "from" ++ gap ++ capture 1 (someOf notBlank) ++ gap ++ lit "import") <|>
        (lit "import" ++ gap ++ capture 1 (someOf notBlank))]
  | .java => [lit "import" ++ gap ++ capture 1 (someOf (butNot ";")) ++ lit ";"]
  | _ => []

def dependencyName (line : Text) (language : Language) : Option Text :=
  let name := (importNames language).findSome? fun p => (p.search? line).map (·.get 1)
  if language = .java then name.map Text.trim else name

def dependencies (content : Text) (language : Language) : List Text :=
  distinct ((Text.lines content).filterMap fun l =>
    if shows (importSigns language) l then (dependencyName l language).filter (!·.isEmpty) else none)

def builtinCalls : Language → List Text
  | .javascript | .typescript =>
    ["console", "setTimeout", "setInterval", "parseInt", "parseFloat", "isNaN", "isFinite"]
  | .python => ["print", "len", "range", "str", "int", "float", "list", "dict", "set", "tuple"]
  | .java => ["System", "String", "Integer", "Double", "Boolean", "Math"]
  | _ => []

def references (content : Text) (language : Language) : List Text :=
  let names := (call.scan content).map (·.get 1)
  distinct (names.filter fun n => !(builtinCalls language).contains n)

end SourceChunks.Contextual
