import SourceChunks.Chunk.Report
import SourceChunks.CommandLine.Arguments
import SourceChunks.Pipeline
import SourceChunks.Settings.Environment
import SourceChunks.Text.Encoding
import SourceChunks.Value.Display
import SourceChunks.Value.Json

/-! A run of the command line: every file is read, chunked and written as one JSON record with a
field a file. A file that is not there ends the run, and nothing is written. -/

namespace SourceChunks.CommandLine

structure Outcome where
  status : Nat
  output : Text
  log : List LogEntry

/-- How to get at the bytes of a file. -/
abbrev Reader := FilePath → Option (List UInt8)

/-- How many chunks there are of each type, in the order of their first chunks. -/
def tally (cs : List EnrichedChunk) : Value :=
  let types := cs.map fun c => c.facets.semanticType.tag
  .record ((distinct types).map fun t => (t, .int (types.count t)))

def fileNote (path : Text) (cs : List EnrichedChunk) : LogEntry :=
  .info (path ++ ": " ++ Text.ofNat cs.length ++ " chunks " ++ (tally cs).quoted)

def document (fields : List (Text × Value)) : Text := Json.render Json.indented 0 (.record fields) ++ ['\n']

/-- The outcome for the paths that are left, after the fields and messages of earlier ones. -/
def runFrom (p : Pipeline) (o : Options) (read : Reader) (fields : List (Text × Value))
    (log : List LogEntry) : List Text → Outcome
  | [] => ⟨0, document fields, log⟩
  | arg :: args =>
    let path := FilePath.ofText arg
    match read path with
    | none => ⟨1, [], log ++ [.error ("File does not exist: " ++ path.text)]⟩
    | some bytes =>
      match p.chunk path.text (Encoding.utf8Text bytes) o.snapshot (o.strategy.map (·.tag)) with
      | .error _ => ⟨1, [], log⟩
      | .ok (cs, entries) =>
        runFrom p o read (Value.putField fields path.text (.list (cs.map (·.toValue))))
          (log ++ entries ++ [fileNote path.text cs]) args

def Options.run (o : Options) (reader : SyntaxReader) (env : Settings.Environment) (read : Reader) : Outcome :=
  let (s, log) := Settings.fromEnvironment env
  runFrom (.ofSettings reader { s with validate := s.validate || o.validate }) o read [] log o.paths

def run (reader : SyntaxReader) (args : List Text) (env : Settings.Environment) (read : Reader) : Outcome :=
  match parse args with
  | .ok o => o.run reader env read
  | .error .help => ⟨0, [], []⟩
  | .error .usage => ⟨2, [], []⟩

end SourceChunks.CommandLine
