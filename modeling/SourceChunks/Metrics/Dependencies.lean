import SourceChunks.Language.Basic
import SourceChunks.Pattern.Building
import SourceChunks.Pattern.Scan

/-! The modules that a text imports, in order of first appearance. -/

namespace SourceChunks.Metrics

open Pattern

def quotes : Text := "'\""

def quotedPart : Pattern := anyOf quotes ++ capture 1 (someOf (butNot quotes)) ++ anyOf quotes

/-- `import … from "x"`. -/
def importFrom : Pattern :=
  lit "import" ++ gap ++ fewestOf (butNot ";") ++ gap ++ lit "from" ++ gap ++ quotedPart

/-- `import "x"` at the start of a line. -/
def importBare : Pattern := lineStart ++ blanks ++ lit "import" ++ gap ++ quotedPart

def requireCall : Pattern := lit "require" ++ blanks ++ lit "(" ++ blanks ++ quotedPart ++ blanks ++ lit ")"

def fromImport : Pattern :=
  lineStart ++ blanks ++ lit "from" ++ gap ++ capture 1 (someOf fun c => !isBlank c) ++ gap ++
    lit "import" ++ wordEdge

def dotted : Pattern := someOf (wordOr ".")

/-- `import x, y`. -/
def importList : Pattern :=
  lineStart ++ blanks ++ lit "import" ++ gap ++
    capture 1 (dotted ++ star (blanks ++ lit "," ++ blanks ++ dotted))

def importStatement : Pattern :=
  lit "import" ++ gap ++ opt (lit "static" ++ gap) ++
    capture 1 (someOf fun c => c != ';' && !isBlank c) ++ blanks ++ lit ";"

/-- A quoted path at the start of a line, perhaps after `import` and a name. -/
def importPath : Pattern :=
  lineStart ++ blanks ++ opt (lit "import" ++ gap) ++ opt (wordRun ++ gap) ++ lit "\"" ++
    capture 1 (someOf (wordOr "./-")) ++ lit "\""

def includeLine : Pattern :=
  lineStart ++ blanks ++ lit "#include" ++ gap ++ anyOf "<\"" ++ capture 1 (someOf (butNot ">\"")) ++
    anyOf ">\""

def usingLine : Pattern := lineStart ++ blanks ++ lit "using" ++ gap ++ capture 1 dotted ++ blanks ++ lit ";"

def captured (p : Pattern) (content : Text) : List Text := (p.scan content).map (·.get 1)

def topLevel (t : Text) : Text := t.takeWhile (· != '.')

/-- The imported names as they are written, with repetitions. -/
def importedNames (content : Text) : Language → List Text
  | .javascript | .typescript =>
    captured importFrom content ++ captured importBare content ++ captured requireCall content
  | .python =>
    (captured fromImport content).map (fun m => if m.head? == some '.' then m else topLevel m) ++
      (captured importList content).flatMap fun names =>
        (Text.split ',' names).map fun m => topLevel (Text.trim m)
  | .java | .kotlin | .scala => captured importStatement content
  | .go => if Text.has content "import" then captured importPath content else []
  | .c | .cpp => captured includeLine content
  | .csharp => captured usingLine content
  | _ => []

def dependencies (content : Text) (language : Language) : List Text :=
  distinct (((importedNames content language).map Text.trim).filter (· != []))

end SourceChunks.Metrics
