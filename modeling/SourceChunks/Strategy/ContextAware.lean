import SourceChunks.Outline.Recogniser
import SourceChunks.Strategy.Contextual
import SourceChunks.Strategy.Draft

/-! Every declaration becomes a chunk that grows toward the declarations near it to which it is tied.
Ties are scored for every ordered pair; a strong tie over a short distance widens both chunks by
half of it. -/

namespace SourceChunks

structure ContextParams where
  maxSize : Int := 150
  minSize : Int := 15
  /-- The most lines by which a chunk grows on either side. -/
  radius : Int := 8
  /-- Weaker ties do not widen a chunk. -/
  threshold : Float := 0.3
  preferTrees : Bool := false

structure ContextNode where
  node : Node
  content : Text
  dependencies : List Text
  references : List Text
  domain : Option Domain

/-- A tie between two declarations, given by their places in the list. -/
structure Tie where
  source : Nat
  target : Nat
  strength : Float
  kind : RelationKind

namespace ContextAware

open Pattern

def contextualise (ls : List Text) (language : Language) (n : Node) : ContextNode :=
  let content := n.text ls
  { node := n, content := content, dependencies := Contextual.dependencies content language,
    references := Contextual.references content language, domain := Domain.ofNode n.name content }

/-! ### Ties -/

def callOf (name : Text) : Pattern := wordEdge ++ ofChars name ++ blanks ++ lit "("

/-- How strongly the first declaration depends on the second: by reference, shared dependencies,
nearness and calls. -/
def strength (a b : ContextNode) : Float :=
  let byReference := if a.references.contains b.node.name then 0.5 else 0.0
  let shared := a.dependencies.countP fun d => b.dependencies.contains d
  let byShared := byReference + lesser 0.3 (shared.toFloat * 0.1)
  let distance := (a.node.first - b.node.first).natAbs
  let byNearness := byShared + greater 0.0 (Float.ofInt (100 - distance) / 100.0) * 0.2
  let calls := (callOf b.node.name).count a.content
  lesser 1.0 (byNearness + lesser 0.4 (calls.toFloat * 0.1))

def tieKind (a b : ContextNode) : RelationKind :=
  let name := b.node.name
  if (callOf name).occursIn a.content then .calls
  else if a.dependencies.any fun d => Text.has d name then .imports
  else if Text.has a.content ("extends " ++ name) || Text.has a.content ("implements " ++ name) then .extends_
  else .uses

/-- The tie from the first declaration to the second, if it is strong enough to count. -/
def tie? (a b : ContextNode × Nat) : Option Tie :=
  if a.2 = b.2 || a.1.node.name == b.1.node.name then none
  else
    let s := strength a.1 b.1
    if 0.1 < s then some ⟨a.2, b.2, s, tieKind a.1 b.1⟩ else none

/-- The ties between declarations, ordered by source and then by target. -/
def ties (ns : List ContextNode) : List Tie :=
  ns.zipIdx.flatMap fun a => ns.zipIdx.filterMap fun b => tie? a b

/-! ### Widening -/

/-- The place at the other end of a strong tie of the declaration at `i`. -/
def partner? (p : ContextParams) (i : Nat) (t : Tie) : Option Nat :=
  if t.strength ≤ p.threshold then none
  else if t.source = i then some t.target
  else if t.target = i then some t.source
  else none

/-- How far a tie over a distance widens a chunk, in half lines: half the distance and at most the
radius, unless the distance is 20 lines or more. -/
def widening (p : ContextParams) (distance : Int) : Int :=
  if 0 < distance && distance < 20 then min (2 * p.radius) distance else 0

def largest (ns : List Int) : Int := ns.foldl max 0

/-- Half lines as lines, a half rounded up. -/
def wholeLines (halves : Int) : Int := (halves + 1) / 2

/-- The lines added before and after a declaration. -/
def overlap (p : ContextParams) (ns : List Node) (ts : List Tie) (i : Nat) (n : Node) : Int × Int :=
  let partners := ts.filterMap fun t => (partner? p i t).bind fun j => ns[j]?
  (wholeLines (largest (partners.map fun m => widening p (n.first - m.last))),
    wholeLines (largest (partners.map fun m => widening p (m.first - n.last))))

def bounds (p : ContextParams) (count : Nat) (ns : List Node) (ts : List Tie) (i : Nat) (n : Node) : Int × Int :=
  let (before, after) := overlap p ns ts i n
  (max 0 (n.first - before), min ((count : Int) - 1) (n.last + after))

/-! ### Chunks -/

/-- Up to three lines before and three lines after, within the radius. -/
def surrounding (p : ContextParams) (ls : List Text) (n : Node) : Text :=
  let (before, after) := surroundingLines ls n.first n.last p.radius
  let ahead : List Text :=
    if before.isEmpty then [] else ("Context before:" : Text) :: slice before (-3) before.length
  let behind : List Text := if after.isEmpty then [] else ("Context after:" : Text) :: after.take 3
  Text.ofLines (ahead ++ behind)

def relation? (ns : List Node) (ids : List Text) (t : Tie) : Option Relation := do
  let id ← ids[t.target]?
  let target ← ns[t.target]?
  return .make t.kind id t.strength (t.kind.tag ++ " " ++ target.name) .outgoing t.strength .staticAnalysis
    (some target.first) none

/-- The chunks that are tied to the one at `i`. -/
def dependents (ids : List Text) (ts : List Tie) (i : Nat) : List Text :=
  distinct (ts.filterMap fun t => if t.target = i then ids[t.source]? else none)

def supports (language : Language) : Bool := language.hasDeclarations

/-- The language is supported and two kinds of context are in sight. -/
def isApplicable (language : Language) (content : Text) : Bool :=
  supports language && 2 ≤ Contextual.signalCount (Text.lines content) language

def contextNodes (reader : SyntaxReader) (p : ContextParams) (language : Language) (blockSize : Int)
    (ls : List Text) : Except Failure (List ContextNode) := do
  let nodes ← (Recogniser.forLanguage reader p.preferTrees language).topNodes blockSize ls
  return nodes.map (contextualise ls language)

def draft (p : ContextParams) (source : Source) (ls : List Text) (ns : List Node) (ts : List Tie)
    (ids : List Text) (i : Nat) (n : ContextNode) : Draft :=
  let (first, last) := bounds p ls.length ns ts i n.node
  { first := first, last := last, symbols := [n.node.name], semanticType := n.node.kind.semanticType,
    complexity := cappedComplexity (rangeText ls first last), dependencies := some n.dependencies,
    dependents := dependents ids ts i,
    relations := (ts.filter fun t => t.source = i).filterMap (relation? ns ids),
    surrounding := some (surrounding p ls n.node),
    business := (n.domain.or (Domain.ofFile source.content source.path)).map (·.tag) }

/-- The identities that the chunks of the declarations will have. -/
def identities (p : ContextParams) (source : Source) (count : Nat) (ns : List Node) (ts : List Tie) : List Text :=
  ChunkId.allocate [] (ns.zipIdx.map fun n =>
    let (first, last) := bounds p count ns ts n.2 n.1
    source.idFor first last [])

def chunks (reader : SyntaxReader) (p : ContextParams) (source : Source) :
    Except Failure (List EnrichedChunk) := do
  let ls := source.lines
  let found ← contextNodes reader p source.language 50 ls
  let ts := ties found
  let ns := found.map (·.node)
  let ids := identities p source ls.length ns ts
  return Draft.chunks source ls (found.zipIdx.map fun n => draft p source ls ns ts ids n.2 n.1)

end ContextAware

end SourceChunks
