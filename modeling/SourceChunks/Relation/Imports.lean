import SourceChunks.Path

/-! Import paths and the files they mean. -/

namespace SourceChunks.Imports

def slashed (t : Text) : Text := Text.replaceChar '\\' '/' t

/-- The last of the segments cut before its last dot. -/
def cutLast : List Text → List Text
  | [] => []
  | [s] => [((Text.splitLast? '.' s).map (·.1)).getD s]
  | s :: rest => s :: cutLast rest

/-- The segments of an import path: between slashes and without an extension, or else between dots.
Relative markers are left out. -/
def segments (importPath : Text) : List Text :=
  let t := slashed importPath
  let pieces := if t.contains '/' then cutLast (Text.split '/' t) else Text.split '.' t
  pieces.filter fun s => s != [] && s != ['.'] && s != ['.', '.']

/-- The import path may mean the file: by its stem, by the end of its path, or by a directory. The
file needs a name. -/
def matchesFile (segments : List Text) (file : Text) : Except Failure Bool := do
  let path := FilePath.ofText (slashed file)
  let bare := (← path.withoutExtension).text
  return segments.getLast? == some path.stem || Text.endsWith bare (Text.join ['/'] segments) ||
    (segments.length == 1 && segments.all fun s => path.directories.contains s)

end SourceChunks.Imports
