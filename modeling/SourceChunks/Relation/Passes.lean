import SourceChunks.Metrics.Dependencies
import SourceChunks.Relation.Imports
import SourceChunks.Relation.Index

/-! The passes that look for relations of one chunk to the others of its batch. -/

namespace SourceChunks

inductive RelationPass where
  | imports | calls | inheritance | usage | tests | similarity
  deriving DecidableEq, Repr

namespace RelationPass

def tag : RelationPass → Text
  | imports => "imports"
  | calls => "calls"
  | inheritance => "inheritance"
  | usage => "usage"
  | tests => "tests"
  | similarity => "similarity"

/-- The passes in the order in which they run. -/
def all : List RelationPass := [imports, calls, inheritance, usage, tests, similarity]

end RelationPass

namespace Relation

/-! ### Calls and uses -/

/-- A name of another chunk with its matches in the text. -/
structure Mention where
  symbol : Text
  found : List Match

/-- The names of other chunks that the text holds in a certain form. -/
def mentions (index : ChunkIndex) (e : IndexEntry) (form : Text → Pattern) : List Mention :=
  (index.referenced e).filterMap fun s =>
    let found := (form s).scan e.chunk.content
    if found.isEmpty then none else some ⟨s, found⟩

def mentionsOf (ms : List Mention) (target : IndexEntry) : List Mention :=
  ms.filter fun m => target.symbols.contains m.symbol

def firstOffset (ms : List Mention) : Nat :=
  ((ms.filterMap fun m => m.found.head?.map (·.start)).min?).getD 0

def matchCount (ms : List Mention) : Nat := total (ms.map fun m => m.found.length)

/-- One relation for every other chunk whose names the text holds in a certain form. -/
def byMentions (form : Text → Pattern) (relation : IndexEntry → List Mention → Relation)
    (index : ChunkIndex) (place : Nat) (e : IndexEntry) : List Relation :=
  let ms := mentions index e form
  (index.others place).filterMap fun q =>
    match mentionsOf ms q.1 with
    | [] => none
    | hits => some (relation q.1 hits)

def symbolList (ms : List Mention) : Text := Text.join ", " (ms.map (·.symbol))

def calls (index : ChunkIndex) (place : Nat) (e : IndexEntry) : List Relation :=
  byMentions Names.callOf (fun target ms =>
    .make .calls target.chunk.id (lesser 1.0 ((matchCount ms).toFloat * 0.2))
      ("Calls " ++ symbolList ms ++ " from " ++ target.chunk.path) .outgoing 0.8 .staticAnalysis
      (some (e.lineOf (firstOffset ms))) none) index place e

def uses (index : ChunkIndex) (place : Nat) (e : IndexEntry) : List Relation :=
  byMentions Names.useOf (fun target ms =>
    .make .uses target.chunk.id (lesser 0.8 ((matchCount ms).toFloat * 0.1)) ("Uses " ++ symbolList ms)
      .outgoing 0.7 .staticAnalysis (some (e.lineOf (firstOffset ms))) none) index place e

/-! ### Imports -/

/-- The chunks of a file that an import of it means: those with a name that is mentioned, or else
the first. -/
def importTargets (index : ChunkIndex) (e : IndexEntry) (file : FileGroup) : List IndexEntry :=
  let entries := file.places.filterMap fun p => index.entries[p]?
  let mentioned := entries.filter e.mentions
  if mentioned.isEmpty then entries.take 1 else mentioned

def importsOf (index : ChunkIndex) (e : IndexEntry) (importPath : Text) : Except Failure (List Relation) := do
  let segments := Imports.segments importPath
  if segments.isEmpty then return []
  let found ← index.files.filterM fun file =>
    if file.path == e.chunk.path then .ok false else Imports.matchesFile segments file.path
  let line := e.lineOf ((Text.find? e.chunk.content importPath).getD 0)
  return (found.flatMap (importTargets index e)).map fun target =>
    .make .imports target.chunk.id 0.8 ("Imports " ++ importPath) .outgoing 0.8 .staticAnalysis (some line) none

def imports (index : ChunkIndex) (e : IndexEntry) : Except Failure (List Relation) := do
  let found ← (Metrics.dependencies e.chunk.content e.chunk.language).mapM (importsOf index e)
  return found.flatten

/-! ### Inheritance -/

def toBase (e : IndexEntry) (base : Names.Base) (target : IndexEntry) : Relation :=
  let line := some (e.lineOf base.offset)
  if base.keyword = .implements && target.chunk.facets.semanticType = .interface then
    .make .implements target.chunk.id 0.8 ("Implements " ++ base.name) .outgoing 0.8 .staticAnalysis line none
  else
    .make .extends_ target.chunk.id 0.9 ("Extends " ++ base.name) .outgoing 0.9 .staticAnalysis line none

def inheritance (index : ChunkIndex) (place : Nat) (e : IndexEntry) : List Relation :=
  ((Names.bases e.chunk.content).filter fun b => !e.symbols.contains b.name).flatMap fun b =>
    (index.declarers place b.name).map fun q => toBase e b q.1

/-! ### Tests -/

/-- From a test to the chunks whose names it mentions. -/
def testTargets (index : ChunkIndex) (place : Nat) (e : IndexEntry) : List Relation :=
  let names := index.referenced e
  ((index.others place).filter fun q => !q.1.isTest && q.1.symbols.any names.contains).map fun q =>
    .make .tests q.1.chunk.id 0.7 ("Tests " ++ Text.join ", " q.1.symbols) .outgoing 0.7 .heuristic none none

/-- To the tests that mention a name of the chunk. -/
def testSources (index : ChunkIndex) (place : Nat) (e : IndexEntry) : List Relation :=
  ((index.others place).filter fun q => q.1.isTest && q.1.mentions e).map fun q =>
    .make .tests q.1.chunk.id 0.7 ("Tested by " ++ q.1.chunk.path) .incoming 0.7 .heuristic none none

def tests (index : ChunkIndex) (place : Nat) (e : IndexEntry) : List Relation :=
  if e.isTest then testTargets index place e else testSources index place e

/-! ### Similarity -/

/-- The size of the intersection over the size of the union of two sets. -/
def jaccard (as bs : List Text) : Float :=
  let a := distinct as
  let b := distinct bs
  let both := a.countP b.contains
  let either := a.length + b.length - both
  if either = 0 then 0.0 else both.toFloat / either.toFloat

/-- How similar two chunks are: in kind, language, names and words. -/
def similarity (a b : IndexEntry) : Float :=
  let byKind := if a.chunk.facets.semanticType = b.chunk.facets.semanticType then 0.3 else 0.0
  let byLanguage := if a.chunk.language = b.chunk.language then byKind + 0.2 else byKind
  byLanguage + jaccard a.symbols b.symbols * 0.3 + jaccard a.words b.words * 0.2

def similar (limit : Float) (index : ChunkIndex) (place : Nat) (e : IndexEntry) : List Relation :=
  (index.others place).filterMap fun q =>
    let score := similarity e q.1
    if limit < score then
      some (.make .similarTo q.1.chunk.id score ("Similar to " ++ q.1.chunk.id) .bidirectional score .semantic
        none none)
    else none

end Relation

end SourceChunks
