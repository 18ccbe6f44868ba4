import SourceChunks.Outline.Blocks
import SourceChunks.Outline.Braces
import SourceChunks.Outline.Indentation
import SourceChunks.Syntax.Declared

/-! The recogniser of declarations for a language: by braces, by indentation, by equal blocks, or
from a syntax tree. -/

namespace SourceChunks

inductive Recogniser where
  | braces (language : Language)
  | indentation
  | blocks (size : Int)
  | syntaxTree (reader : SyntaxReader) (grammar : Grammar)

namespace Recogniser

open Outline

def forLines (language : Language) : Recogniser :=
  if language = .python then .indentation
  else if language.hasBraces then .braces language
  else .blocks 50

/-- The recogniser of a language, from syntax trees if that is preferred and there is a grammar. -/
def forLanguage (reader : SyntaxReader) (preferTrees : Bool) (language : Language) : Recogniser :=
  if preferTrees then ((Grammar.ofLanguage? language).map (.syntaxTree reader)).getD (forLines language)
  else forLines language

/-- The recogniser from syntax trees, which not every language has. -/
def fromTree (reader : SyntaxReader) (language : Language) : Except Failure Recogniser :=
  match Grammar.ofLanguage? language with
  | some grammar => .ok (.syntaxTree reader grammar)
  | none => .error (.noSyntaxReader language.tag)

/-- The recogniser that reads lines of the same language. -/
def byLines : Recogniser → Recogniser
  | .syntaxTree _ grammar => forLines grammar.language
  | r => r

def isBlocks : Recogniser → Bool
  | .blocks _ => true
  | _ => false

def nodes : Recogniser → List Text → Except Failure (List Node)
  | .braces language, ls => .ok (Braces.nodes language ls)
  | .indentation, ls => .ok (Indentation.nodes ls)
  | .blocks size, ls => Blocks.nodes size ls
  | .syntaxTree reader grammar, ls => .ok (grammar.nodes reader ls)

/-- Languages known by their declarations alone; others also by enough structured lines. -/
def declarationsOnly : Language → Bool
  | .javascript | .typescript | .java | .csharp => true
  | _ => false

def hasConstructs : Recogniser → List Text → Bool
  | .braces language, ls =>
    ls.any (fun l => !isCommentLine l && (declaration? language l).isSome) ||
      (!declarationsOnly language && Blocks.hasStructure ls)
  | .indentation, ls => ls.any fun l => (Indentation.header? l).isSome || Indentation.isDecorator l
  | .blocks _, ls => Blocks.hasStructure ls
  | .syntaxTree reader grammar, ls => !(grammar.nodes reader ls).isEmpty

/-- Blank lines and comments are places to cut in every language. -/
def isPlainBoundary (line : Text) : Bool :=
  Text.allBlank line || Text.startsWithAny (Text.trimLeft line) ["//", "#", "/*"]

/-- A word that opens the line, followed by a blank and more. -/
def opensWith (line : Text) (words : List Text) : Bool :=
  let trimmed := Text.trim line
  words.any fun w => Text.startsWith trimmed w && (trimmed.drop w.length).head?.any isBlank

/-- Words at the start of a line before which a language may be cut. -/
def boundaryWords : Language → List Text
  | .javascript | .typescript => ["export", "import"]
  | .java => ["import", "package"]
  | .csharp => ["using"]
  | .python => ["from", "import"]
  | _ => []

/-- Marks anywhere in a line before which it may be cut. -/
def boundaryMarks : Recogniser → List Text
  | .braces _ => ["// ---", "/* ---"]
  | .indentation => ["# ---", "\"\"\"", "'''"]
  | _ => []

def isBoundaryByLines (r : Recogniser) (line : Text) : Bool :=
  isPlainBoundary line || Text.hasAny line r.boundaryMarks ||
    match r with
    | .braces language => opensWith line (boundaryWords language)
    | .indentation => opensWith line (boundaryWords .python)
    | _ => false

/-- A natural place to cut a long declaration, judged by the line alone. -/
def isBoundary (r : Recogniser) (line : Text) : Bool := r.byLines.isBoundaryByLines line

def declaredNames (r : Recogniser) (ls : List Text) : List Text :=
  match r.byLines with
  | .braces language => Braces.declaredNames language ls
  | .indentation => Indentation.declaredNames ls
  | _ => Blocks.declaredNames ls

/-- The declarations outside all others, or else blocks of `blockSize` lines. -/
def topNodes (r : Recogniser) (blockSize : Int) (ls : List Text) : Except Failure (List Node) := do
  let found ← if r.isBlocks then .ok [] else r.nodes ls
  let top := found.filter fun n => n.parent.isNone
  if top.isEmpty then Blocks.nodes blockSize ls else .ok top

end Recogniser

end SourceChunks
