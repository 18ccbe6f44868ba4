import SourceChunks.Cutting.Windows
import SourceChunks.Outline.Recogniser
import SourceChunks.Strategy.Draft

/-! One chunk a declaration. A declaration that is too long or has too many decision points is
split at natural boundaries, and what is still too long is cut into windows. -/

namespace SourceChunks

structure SemanticParams where
  /-- Longer declarations are split. -/
  maxSize : Int := 200
  /-- Boundaries closer than this are passed over. -/
  minSize : Int := 10
  /-- Declarations with more decision points are split. -/
  complexityLimit : Int := 15
  /-- The length of blocks where there are no declarations. -/
  blockSize : Int := 50
  overlap : Int := 0
  preferTrees : Bool := false

namespace Semantic

/-- The lines that neighbouring windows share: at most a quarter of a window. -/
def sharedLines (p : SemanticParams) : Int :=
  min (max 0 (min p.overlap (p.maxSize - 1))) (p.maxSize / 4)

def windowStep (p : SemanticParams) : Int := max 1 (p.maxSize - sharedLines p)

/-- Windows of `size` lines until one reaches the last line. -/
def rangesFrom (size step last : Int) : (fuel : Nat) → (start : Int) → List Cutting.Range
  | 0, _ => []
  | fuel + 1, start =>
    let stop := min (start + size - 1) last
    ⟨start, stop⟩ :: if stop ≥ last then [] else rangesFrom size step last fuel (start + step)

def ranges (p : SemanticParams) (first last : Int) : List Cutting.Range :=
  rangesFrom p.maxSize (windowStep p) last ((last - first - p.maxSize + 1).toNat + 1) first

/-- A numbered part of a declaration; what a syntax tree tells about the whole is left out. -/
def part (n : Node) (number : Nat) (r : Cutting.Range) : Node :=
  { n with
    name := n.name ++ "_part_" ++ Text.ofNat number, first := r.first, last := r.last, details := [] }

def parts (n : Node) (rs : List Cutting.Range) : List Node :=
  rs.zipIdx.map fun r => part n (r.2 + 1) r.1

def windowNode (p : SemanticParams) (n : Node) : List Node := parts n (ranges p n.first n.last)

/-- The boundaries in the lines from `i` on that keep parts between the two sizes. -/
def splitPointsFrom (p : SemanticParams) (isBoundary : Text → Bool) :
    (previous i : Int) → List Text → List Int
  | _, _, [] => []
  | previous, i, line :: rest =>
    if isBoundary line && p.minSize ≤ i - previous && i - previous ≤ p.maxSize then
      i :: splitPointsFrom p isBoundary i (i + 1) rest
    else splitPointsFrom p isBoundary previous (i + 1) rest

def splitPoints (p : SemanticParams) (isBoundary : Text → Bool) (ls : List Text) (n : Node) : List Int :=
  splitPointsFrom p isBoundary n.first (n.first + 1) (lineRange ls (n.first + 1) n.last)

/-- The ranges between the points, the last one ending at `last`. -/
def rangesBetween (last : Int) : (start : Int) → List Int → List Cutting.Range
  | start, [] => [⟨start, last⟩]
  | start, point :: points => ⟨start, point - 1⟩ :: rangesBetween last point points

/-- A declaration split at its boundaries; without any it stays whole. -/
def splitNode (p : SemanticParams) (isBoundary : Text → Bool) (ls : List Text) (n : Node) : List Node :=
  match splitPoints p isBoundary ls n with
  | [] => [n]
  | points => parts n (rangesBetween n.last n.first points)

def fits (p : SemanticParams) (ls : List Text) (n : Node) : Bool :=
  n.lineCount ≤ p.maxSize && Metrics.nodeComplexity (n.text ls) ≤ p.complexityLimit

def optimiseNode (p : SemanticParams) (isBoundary : Text → Bool) (ls : List Text) (n : Node) : List Node :=
  if fits p ls n then [n]
  else (splitNode p isBoundary ls n).flatMap fun m =>
    if m.lineCount > p.maxSize then windowNode p m else [m]

def optimise (p : SemanticParams) (isBoundary : Text → Bool) (ls : List Text) (ns : List Node) : List Node :=
  ns.flatMap (optimiseNode p isBoundary ls)

def draft (ls : List Text) (n : Node) : Draft :=
  { first := n.first, last := n.last, symbols := [n.name], semanticType := n.kind.semanticType,
    complexity := cappedComplexity (n.text ls) }

def supports (language : Language) : Bool := language.hasDeclarations

/-- The language is supported and a declaration is in sight. -/
def isApplicable (language : Language) (content : Text) : Bool :=
  supports language && (Recogniser.forLines language).hasConstructs (Text.lines content)

def chunks (reader : SyntaxReader) (p : SemanticParams) (source : Source) :
    Except Failure (List EnrichedChunk) := do
  let ls := source.lines
  let recogniser := Recogniser.forLanguage reader p.preferTrees source.language
  let nodes := optimise p recogniser.isBoundary ls (← recogniser.topNodes p.blockSize ls)
  return Draft.chunks source ls (nodes.map (draft ls))

end Semantic

end SourceChunks
