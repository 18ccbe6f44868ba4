import SourceChunks.Metrics.Complexity
import SourceChunks.Scope.Tree
import SourceChunks.Strategy.Draft

/-! Every nested scope becomes a chunk, tied to the chunks of its parent and its children. -/

namespace SourceChunks.Hierarchical

open Pattern

def braceBalance (line : Text) : Int := (line.count '\x7b' : Int) - (line.count '\x7d' : Int)

def maxBraceDepth (ls : List Text) : Int := Metrics.peakFrom 0 0 (ls.map braceBalance)

def declarationStart : Pattern := (lit "class" <|> lit "def" <|> (lit "async" ++ gap ++ lit "def")) ++ gap

/-- The deepest level of an indented declaration, four blanks a level. -/
def maxDeclarationLevel (ls : List Text) : Nat :=
  ls.foldl (fun deepest l =>
    if (declarationStart.matchStart? (Text.trim l)).isSome then max deepest (Text.indent l / 4) else deepest) 0

def supports : Language → Bool
  | .javascript | .typescript | .java | .csharp | .python => true
  | _ => false

/-- The language is supported and scopes are nested deeply enough. -/
def isApplicable (language : Language) (content : Text) : Bool :=
  let ls := Text.lines content
  supports language && (maxBraceDepth ls > 2 || maxDeclarationLevel ls > 1)

/-! ### Chunks -/

/-- Complexity with surcharges for the level and for every child. -/
def complexity (s : Scope) (text : Text) : Float :=
  roundTo 1 (lesser 100.0
    ((Metrics.nodeComplexity text).toFloat + s.level.toFloat * 0.5 + s.children.length.toFloat * 0.3))

def designPatterns (s : Scope) : List Text :=
  (if s.kind = .class_ && !s.children.isEmpty then [("Composite" : Text)] else []) ++
    (if s.level > 2 then [("Nested Structure" : Text)] else [])

/-- The relations of a scope to its parent and to its children, under the identities of their
chunks. -/
def relations (t : ScopeTree) (idOf? : Nat → Option Text) (s : Scope) : List Relation :=
  let toParent := s.parent.toList.filterMap fun p => do
    let parent ← t.get? p
    let id ← idOf? p
    return .make .extends_ id 0.9 ("Child of " ++ parent.name) .outgoing 0.9 .ast (some s.first) none
  let toChildren := s.children.filterMap fun c => do
    let child ← t.get? c
    let id ← idOf? c
    return .make .uses id 0.8 ("Contains " ++ child.name) .outgoing 0.8 .ast (some child.first) none
  toParent ++ toChildren

/-- The names of the parent and of the children; nothing when there are none. -/
def surrounding (t : ScopeTree) (s : Scope) : Option Text :=
  let parents : List Text := (s.parent.bind t.get?).toList.map fun p =>
    ("Parent: " : Text) ++ p.name ++ " (" ++ p.kind.tag ++ ")"
  let names := (s.children.filterMap t.get?).map (·.name)
  let children : List Text := if names.isEmpty then [] else [("Children: " : Text) ++ Text.join ", " names]
  let parts := parents ++ children
  if parts.isEmpty then none else some (Text.ofLines parts)

def levelSuffix (s : Scope) : Text := "_L" ++ Text.ofNat s.level

def draft (t : ScopeTree) (ls : List Text) (idOf? : Nat → Option Text) (s : Scope) : Draft :=
  { first := s.first, last := s.last, suffix := levelSuffix s, symbols := [s.name],
    semanticType := s.kind.semanticType, complexity := complexity s (rangeText ls s.first s.last),
    designPatterns := designPatterns s, relations := relations t idOf? s, surrounding := surrounding t s }

def wantedId (source : Source) (s : Scope) : Text := source.idFor s.first s.last (levelSuffix s)

def scopes (source : Source) : ScopeTree := .ofLines source.language source.lines

def ordered (t : ScopeTree) : List (Nat × Scope) := t.flatten.filterMap fun h => (t.get? h).map fun s => (h, s)

def identities (source : Source) (t : ScopeTree) : List (Nat × Text) :=
  ((ordered t).map (·.1)).zip (ChunkId.allocate [] ((ordered t).map fun hs => wantedId source hs.2))

def chunks (source : Source) : List EnrichedChunk :=
  let ls := source.lines
  let t := scopes source
  let ids := identities source t
  Draft.chunks source ls ((ordered t).map fun hs => draft t ls (fun h => ids.lookup h) hs.2)

end SourceChunks.Hierarchical
