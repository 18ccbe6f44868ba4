import SourceChunks.Store.Basic

/-! Files below a working directory. A path is followed one component at a time, and each step but
the last has to be a directory, so that a double dot does not undo a directory that is not there. -/

namespace SourceChunks

/-- Files known by their components below the working directory. -/
structure FileTree where
  files : List StoredFile

namespace FileTree

/-- The working directory and every directory that a file lies below. -/
def isDirectory (t : FileTree) (place : List Text) : Bool :=
  place.isEmpty || t.files.any fun f => Directory.isBelow place f.components

/-- The place reached from another one; nothing when a step fails or leaves the tree. -/
def follow? (t : FileTree) (place : List Text) : List Text → Option (List Text)
  | [] => some place
  | part :: parts =>
    if !t.isDirectory place then none
    else if part == "..".toList then
      if place.isEmpty then none else t.follow? place.dropLast parts
    else t.follow? (place ++ [part]) parts

def read? (t : FileTree) (p : FilePath) : Option (List UInt8) :=
  if p.slashes = 0 then
    (t.follow? [] p.parts).bind fun place =>
      (t.files.find? fun f => f.components == place).map (·.bytes)
  else none

end FileTree

end SourceChunks
