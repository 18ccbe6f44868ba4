import SourceChunks.Kind.Semantic
import SourceChunks.Line.Basic
import SourceChunks.Value.Basic

/-! Declarations found in a source, each with its range of lines. -/

namespace SourceChunks

/-- A declaration from line `first` through line `last`, counted from 0. -/
structure Node where
  kind : NodeKind
  name : Text
  first : Int
  last : Int
  indent : Nat := 0
  parent : Option Text := none
  /-- What a syntax tree tells about it. -/
  details : List (Text × Value) := []

namespace Node

def lineCount (n : Node) : Int := n.last - n.first + 1

def text (n : Node) (ls : List Text) : Text := rangeText ls n.first n.last

end Node

/-- A declaration whose last line is not known yet. -/
structure OpenNode where
  kind : NodeKind
  name : Text
  first : Nat
  indent : Nat

/-- The declaration ended at `stop`, less the blank lines there. -/
def OpenNode.close (n : OpenNode) (ls : List Text) (stop : Nat) : Node :=
  { kind := n.kind, name := n.name, first := n.first, last := lastCodeLine ls n.first stop,
    indent := n.indent }

end SourceChunks
