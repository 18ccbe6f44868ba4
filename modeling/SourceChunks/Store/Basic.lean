import SourceChunks.Log
import SourceChunks.Path
import SourceChunks.Text.Encoding

/-! Where the text of a file of a snapshot comes from: memory, or a directory with one directory a
snapshot. A request never leaves the directory of its snapshot. -/

namespace SourceChunks

structure StoredText where
  snapshot : Text
  path : Text
  content : Text

/-- A file below a directory, known by the components of its absolute path. -/
structure StoredFile where
  components : List Text
  bytes : List UInt8

structure Directory where
  root : List Text
  encoding : Text
  files : List StoredFile

namespace Directory

/-- The path strictly below the directory of the same components. -/
def isBelow (root path : List Text) : Bool := root.isPrefixOf path && root != path

def snapshotRoot (d : Directory) (snapshot : Text) : List Text := FilePath.resolve d.root snapshot

/-- The request as a path seen from the directory of the snapshot: slashes in front do not count. -/
def relative (path : Text) : Text := path.dropWhile fun c => c == '/' || c == '\\'

def checkName (name : Text) : Except Failure Unit :=
  if name.contains '\x00' then .error (.embeddedNull "byte") else .ok ()

/-- The place of a file; nothing, and a warning, when it lies outside. -/
def resolve (d : Directory) (snapshot path : Text) : Except Failure (Option (List Text) × List LogEntry) := do
  checkName snapshot
  let root := d.snapshotRoot snapshot
  if isBelow d.root root then
    checkName path
    let place := FilePath.resolve root (relative path)
    if root.isPrefixOf place then return (some place, [])
    else return (none, [.warning ("Refusing path outside snapshot " ++ snapshot ++ ": " ++ path)])
  else return (none, [.warning ("Refusing snapshot outside storage directory: " ++ snapshot)])

def read? (d : Directory) (place : List Text) : Except Failure (Option Text) :=
  match d.files.find? fun f => f.components == place with
  | some f => do
    let e ← Encoding.ofName d.encoding
    let content ← e.decode f.bytes
    return some content
  | none => .ok none

end Directory

inductive Store where
  | memory (texts : List StoredText)
  | directory (d : Directory)

namespace Store

/-- The store with a text in memory, in place of an earlier one; a directory is not written to. -/
def add : Store → StoredText → Store
  | memory texts, t =>
    memory (texts.filter (fun u => !(u.snapshot == t.snapshot && u.path == t.path)) ++ [t])
  | directory d, _ => directory d

/-- The text of a file, if the request stays in its snapshot and there is such a file. -/
def get? : Store → Text → Text → Except Failure (Option Text × List LogEntry)
  | memory texts, snapshot, path =>
    .ok ((texts.find? fun t => t.snapshot == snapshot && t.path == path).map (·.content), [])
  | directory d, snapshot, path => do
    match ← d.resolve snapshot path with
    | (none, log) => return (none, log)
    | (some place, log) =>
      let content ← d.read? place
      return (content, log)

def require (s : Store) (snapshot path : Text) : Except Failure (Text × List LogEntry) := do
  match ← s.get? snapshot path with
  | (some content, log) => return (content, log)
  | (none, _) => throw (.sourceMissing snapshot path)

/-- The failure of a request that a directory refuses before it looks for the file. -/
def refusal? : Store → Text → Text → Option Failure
  | memory _, _, _ => none
  | directory d, snapshot, path =>
    match d.resolve snapshot path with
    | .error f => some f
    | .ok (none, _) => some (.sourceMissing snapshot path)
    | .ok (some _, _) => none

end Store

end SourceChunks
