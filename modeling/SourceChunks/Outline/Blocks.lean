import SourceChunks.Outline.Node
import SourceChunks.Pattern.Building
import SourceChunks.Pattern.Scan

/-! Sources without declarations of their own: blocks of equal length, names after common keywords,
and the share of lines that look structured. -/

namespace SourceChunks.Outline.Blocks

open Pattern

def block (count size start : Nat) : Node :=
  { kind := .block, name := "block_" ++ Text.ofNat start, first := start,
    last := min ((start : Int) + size - 1) ((count : Int) - 1) }

/-- The starts `start, start + size, …` below `count`. -/
def startsFrom (count size : Nat) : (fuel start : Nat) → List Nat
  | 0, _ => []
  | fuel + 1, start => if start < count then start :: startsFrom count size fuel (start + size) else []

/-- Blocks of `size` lines. No lines a block is a failure, and a negative size gives none. -/
def nodes (size : Int) (ls : List Text) : Except Failure (List Node) :=
  if size = 0 then .error .zeroStep
  else if size < 0 then .ok []
  else .ok ((startsFrom ls.length size.toNat ls.length 0).map (block ls.length size.toNat))

/-- A keyword of some language and the name after it. -/
def anyDeclaration : Pattern :=
  wordEdge ++
    oneOf ["function", "def", "class", "func", "fn", "fun", "sub", "module", "interface", "struct"] ++
    gap ++ capture 1 dollarName

/-- The first declared name of every line. -/
def declaredNames (ls : List Text) : List Text :=
  distinct (ls.filterMap fun l => (anyDeclaration.search? l).map (·.get 1))

def bracePair : Pattern := lit "\x7b" ++ manyOf onLine ++ lit "\x7d"

def structuredStarts : List Pattern := [
  blanks ++ lit "/**",
  blanks ++ lit "#",
  blanks ++ lit "import" ++ gap,
  blanks ++ lit "from" ++ gap ++ manyOf onLine ++ lit "import"]

def isStructured (line : Text) : Bool :=
  bracePair.occursIn line || structuredStarts.any fun p => (p.matchStart? line).isSome

def density (ls : List Text) : Float :=
  if ls.isEmpty then 0.0 else (ls.countP isStructured).toFloat / ls.length.toFloat

/-- More than one line in ten looks structured. -/
def hasStructure (ls : List Text) : Bool := 0.1 < density ls

end SourceChunks.Outline.Blocks
