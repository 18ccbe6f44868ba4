import SourceChunks.Decimal.Rounding
import SourceChunks.Value.Basic

/-! Relations of a chunk to others. -/

namespace SourceChunks

inductive RelationKind where
  | calls | imports | extends_ | implements | uses | tests | mocks | configures | dependsOn | similarTo
  | overrides | decorates | composes | aggregates
  | custom (tag : Text)
  deriving DecidableEq, Repr

namespace RelationKind

def tag : RelationKind → Text
  | calls => "calls"
  | imports => "imports"
  | extends_ => "extends"
  | implements => "implements"
  | uses => "uses"
  | tests => "tests"
  | mocks => "mocks"
  | configures => "configures"
  | dependsOn => "depends_on"
  | similarTo => "similar_to"
  | overrides => "overrides"
  | decorates => "decorates"
  | composes => "composes"
  | aggregates => "aggregates"
  | custom t => t

def listed : List RelationKind :=
  [calls, imports, extends_, implements, uses, tests, mocks, configures, dependsOn, similarTo,
    overrides, decorates, composes, aggregates]

def ofTag (t : Text) : RelationKind := (listed.find? fun k => k.tag == t).getD (custom t)

end RelationKind

inductive Direction where
  | outgoing | incoming | bidirectional
  | custom (tag : Text)
  deriving DecidableEq, Repr

namespace Direction

def tag : Direction → Text
  | outgoing => "outgoing"
  | incoming => "incoming"
  | bidirectional => "bidirectional"
  | custom t => t

def listed : List Direction := [outgoing, incoming, bidirectional]

def ofTag (t : Text) : Direction := (listed.find? fun d => d.tag == t).getD (custom t)

end Direction

/-- Where the knowledge of a relation comes from. -/
inductive Origin where
  | ast | staticAnalysis | semantic | heuristic
  | custom (tag : Text)
  deriving DecidableEq, Repr

namespace Origin

def tag : Origin → Text
  | ast => "ast"
  | staticAnalysis => "static_analysis"
  | semantic => "semantic"
  | heuristic => "heuristic"
  | custom t => t

def listed : List Origin := [ast, staticAnalysis, semantic, heuristic]

def ofTag (t : Text) : Origin := (listed.find? fun o => o.tag == t).getD (custom t)

end Origin

structure Evidence where
  confidence : Number
  origin : Origin
  line : Option Int := none
  context : Option Text := none

/-- A relation from the chunk that holds it to the chunk `target`. -/
structure Relation where
  kind : RelationKind
  target : Text
  strength : Number
  description : Text
  direction : Direction
  evidence : Evidence

namespace Relation

/-- A relation with strength and confidence kept between 0 and 1 and rounded to four places. -/
def make (kind : RelationKind) (target : Text) (strength : Float) (description : Text)
    (direction : Direction) (confidence : Float) (origin : Origin) (line : Option Int)
    (context : Option Text) : Relation :=
  { kind := kind, target := target, strength := .real (roundTo 4 (clampUnit strength)),
    description := description, direction := direction,
    evidence :=
      { confidence := .real (roundTo 4 (clampUnit confidence)), origin := origin, line := line,
        context := context } }

/-- What makes two relations of a chunk the same: kind, target and direction. -/
def key (r : Relation) : RelationKind × Text × Direction := (r.kind, r.target, r.direction)

/-- `r` added at the end unless the key is there already. -/
def addNewKey (seen : List Relation) (r : Relation) : List Relation :=
  if seen.any fun s => s.key == r.key then seen else seen ++ [r]

/-- The relations without later ones of the same key. -/
def distinctKeys (rs : List Relation) : List Relation := rs.foldl addNewKey []

end Relation

end SourceChunks
