import SourceChunks.Pipeline
import SourceChunks.Store.Basic

/-! Chunks of stored files. -/

namespace SourceChunks.Pipeline

def chunkStored (p : Pipeline) (store : Store) (snapshot path : Text) (preferred : Option Text) :
    Except Failure (List EnrichedChunk × List LogEntry) := do
  let (content, log₁) ← store.require snapshot path
  let (cs, log₂) ← p.chunk path content snapshot preferred
  return (cs, log₁ ++ log₂)

/-- The chunks of several stored files, by path. All requests are checked before the first file is
read. -/
def chunkMany (p : Pipeline) (store : Store) (snapshot : Text) (paths : List Text) (preferred : Option Text) :
    Except Failure (List (Text × List EnrichedChunk) × List LogEntry) := do
  match paths.findSome? (store.refusal? snapshot) with
  | some failure => throw failure
  | none =>
    let results ← paths.mapM fun path => p.chunkStored store snapshot path preferred
    let note := LogEntry.info ("Chunked " ++ Text.ofNat paths.length ++ " files from snapshot " ++ snapshot)
    return (paths.zip (results.map (·.1)), results.flatMap (·.2) ++ [note])

end SourceChunks.Pipeline
