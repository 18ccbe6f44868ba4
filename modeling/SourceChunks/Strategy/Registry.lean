import SourceChunks.Language.Detection
import SourceChunks.Log
import SourceChunks.Settings.Basic
import SourceChunks.Strategy.ContextAware
import SourceChunks.Strategy.Hierarchical
import SourceChunks.Strategy.Semantic

/-! Strategies by name, and the choice among them: the preferred one if it applies, or else the
first that does. -/

namespace SourceChunks

inductive StrategyName where
  | semantic | hierarchical | contextAware
  deriving DecidableEq, Repr

namespace StrategyName

def tag : StrategyName → Text
  | semantic => "semantic"
  | hierarchical => "hierarchical"
  | contextAware => "contextAware"

def all : List StrategyName := [semantic, hierarchical, contextAware]

/-- The strategy that a text names: case, hyphens and underscores do not count, nor do blanks at the
ends. -/
def parse (t : Text) : Option StrategyName :=
  let plain := lowercase (Text.eraseChar '_' (Text.eraseChar '-' (Text.trim t)))
  all.find? fun n => lowercase n.tag == plain

end StrategyName

inductive Strategy where
  | semantic (params : SemanticParams)
  | hierarchical
  | contextAware (params : ContextParams)

namespace Strategy

def name : Strategy → StrategyName
  | semantic _ => .semantic
  | hierarchical => .hierarchical
  | contextAware _ => .contextAware

def maxSize? : Strategy → Option Int
  | semantic p => some p.maxSize
  | hierarchical => none
  | contextAware p => some p.maxSize

def supports : Strategy → Language → Bool
  | semantic _ => Semantic.supports
  | hierarchical => Hierarchical.supports
  | contextAware _ => ContextAware.supports

/-- The strategy can do better than plain windows. -/
def isApplicable : Strategy → Language → Text → Bool
  | semantic _ => Semantic.isApplicable
  | hierarchical => Hierarchical.isApplicable
  | contextAware _ => ContextAware.isApplicable

def chunks (reader : SyntaxReader) (s : Strategy) (path content snapshot : Text) :
    Except Failure (List EnrichedChunk) :=
  let source : Source := ⟨path, snapshot, Language.detect path content, content⟩
  match s with
  | semantic p => Semantic.chunks reader p source
  | hierarchical => .ok (Hierarchical.chunks source)
  | contextAware p => ContextAware.chunks reader p source

def usual (s : Settings) : List Strategy :=
  [semantic { maxSize := s.chunkSize, overlap := s.chunkOverlap, preferTrees := s.preferTrees }, hierarchical,
    contextAware { preferTrees := s.preferTrees }]

end Strategy

/-- Strategies in the order of their registration, one a name. -/
abbrev Registry := List Strategy

namespace Registry

/-- The registry with a strategy; one of the same name gives up its place to it. -/
def register : Registry → Strategy → Registry
  | [], s => [s]
  | r :: rest, s => if r.name = s.name then s :: rest else r :: register rest s

def ofList (ss : List Strategy) : Registry := ss.foldl register []

def get? (r : Registry) (name : StrategyName) : Option Strategy := r.find? fun s => s.name = name

def named? (r : Registry) (t : Text) : Option Strategy := (StrategyName.parse t).bind (get? r)

def firstApplicable (r : Registry) (language : Language) (content : Text) : Option Strategy :=
  r.find? fun s => s.isApplicable language content

/-- The preferred strategy if it applies, or else the first that does. A name that is not registered
is passed over with a warning. -/
def applicable (r : Registry) (language : Language) (content : Text) (preferred : Option Text) :
    Option Strategy × List LogEntry :=
  match preferred with
  | none => (firstApplicable r language content, [])
  | some t =>
    match named? r t with
    | some s => (if s.isApplicable language content then some s else firstApplicable r language content, [])
    | none =>
      (firstApplicable r language content,
        [.warning ("Unknown chunking strategy " ++ Quoted.encode t ++ ", selecting automatically")])

/-- The applicable strategy, or else the semantic one, or else the first. -/
def select (r : Registry) (language : Language) (content : Text) (preferred : Option Text) :
    Except Failure Strategy × List LogEntry :=
  let (found, log) := applicable r language content preferred
  (match (found.or (get? r .semantic)).or r.head? with
    | some s => .ok s
    | none => .error .noStrategies, log)

end Registry

end SourceChunks
