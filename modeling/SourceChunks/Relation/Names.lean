import SourceChunks.Pattern.Building
import SourceChunks.Pattern.Scan

/-! Names in a text: identifiers and words, calls and other uses of a given name, and the bases that
classes and interfaces name. -/

namespace SourceChunks.Names

open Pattern

def inName : Char → Bool := wordOr "$"

def identifiers (content : Text) : List Text := distinct ((dollarName.scan content).map (·.text))

def words (content : Text) : List Text := distinct ((wordRun.scan (lowercase content)).map (·.text))

/-- The name before an opening bracket. -/
def callOf (name : Text) : Pattern := notAfter inName ++ ofChars name ++ blanks ++ lit "("

/-- The name as a whole, not before an opening bracket. -/
def useOf (name : Text) : Pattern :=
  notAfter inName ++ ofChars name ++ notBefore inName ++ .notAhead (blanks ++ lit "(")

/-! ### Bases -/

/-- A dotted name with arguments in angle brackets. -/
def baseName : Pattern :=
  someOf (wordOr "$.") ++ opt (blanks ++ lit "<" ++ manyOf (butNot ">\x7b") ++ lit ">")

def clause (keyword : String) : Pattern :=
  wordEdge ++ lit keyword ++ gap ++ capture 1 (baseName ++ star (blanks ++ lit "," ++ blanks ++ baseName))

/-- The bases in brackets after the name of a class. -/
def bracketedBases : Pattern :=
  lineStart ++ blanks ++ lit "class" ++ gap ++ wordRun ++ blanks ++ lit "(" ++
    capture 1 (manyOf (butNot ")")) ++ lit ")"

def angleArguments : Pattern := lit "<" ++ manyOf (butNot ">") ++ lit ">"

inductive Inheritance where
  | extends_ | implements
  deriving DecidableEq, Repr

def Inheritance.tag : Inheritance → Text
  | .extends_ => "extends"
  | .implements => "implements"

/-- A base named in a text, and where its clause starts. -/
structure Base where
  keyword : Inheritance
  name : Text
  offset : Nat
  deriving DecidableEq, Repr

def lastPart (t : Text) : Text := ((Text.split '.' t).getLast?).getD []

def clauseNames (t : Text) : List Text :=
  ((Text.split ',' (angleArguments.erase t)).map fun n => lastPart (Text.trim n)).filter (!·.isEmpty)

/-- Bases that say nothing about the source. -/
def ignoredBases : List Text := ["object", "ABC", "Generic", "Protocol"]

/-- The names of a bracketed list; keyword arguments are no bases. -/
def bracketedNames (t : Text) : List Text :=
  let bases := ((Text.split ',' t).map Text.trim).filter fun b => !b.isEmpty && !b.contains '='
  let names := bases.map fun b => Text.trim (lastPart ((angleArguments.erase b).takeWhile (· != '[')))
  names.filter fun n => !n.isEmpty && !ignoredBases.contains n

def basesIn (keyword : Inheritance) (p : Pattern) (names : Text → List Text) (content : Text) : List Base :=
  (p.scan content).flatMap fun m => (names (m.get 1)).map fun n => ⟨keyword, n, m.start⟩

def bases (content : Text) : List Base :=
  basesIn .extends_ (clause "extends") clauseNames content ++
    basesIn .implements (clause "implements") clauseNames content ++
    basesIn .extends_ bracketedBases bracketedNames content

end SourceChunks.Names
