import SourceChunks.Chunk.Id
import SourceChunks.Language.Basic

/-! A chunk: a range of lines of one file. -/

namespace SourceChunks

structure Chunk where
  id : Text
  content : Text
  path : Text
  first : Int
  last : Int
  snapshot : Text
  language : Language
  symbols : List Text := []
  imports : List Text := []
  commentRatio : Option Float := none
  complexity : Option Float := none

/-- A file to be cut: its path, snapshot, language and text. -/
structure Source where
  path : Text
  snapshot : Text
  language : Language
  content : Text

namespace Source

def lines (s : Source) : List Text := Text.lines s.content

def idFor (s : Source) (first last : Int) (suffix : Text) : Text :=
  ChunkId.make s.snapshot s.path first last suffix

def chunk (s : Source) (ls : List Text) (id : Text) (first last : Int) (symbols : List Text) : Chunk :=
  { id := id, content := rangeText ls first last, path := s.path, first := first, last := last,
    snapshot := s.snapshot, language := s.language, symbols := symbols }

end Source

end SourceChunks
