import SourceChunks.Chunk.Report
import SourceChunks.Outline.Node
import SourceChunks.Scope.Tree

/-! Declarations and scopes as records. -/

namespace SourceChunks

def Node.fields (n : Node) : List (Text × Value) :=
  field "type" (.text n.kind.tag) ++ field "name" (.text n.name) ++ field "start_line" (.int n.first) ++
    field "end_line" (.int n.last) ++ field "indent" (.int n.indent) ++ field "parent_name" (.optText n.parent) ++
    field "line_count" (.int n.lineCount) ++ field "metadata" (.record n.details)

def Node.toValue (n : Node) : Value := .record n.fields

def Scope.toValue (s : Scope) : Value :=
  .record (field "type" (.text s.kind.tag) ++ field "name" (.text s.name) ++ field "start_line" (.int s.first) ++
    field "end_line" (.int s.last) ++ field "indent" (.int s.indent) ++ field "level" (.int s.level) ++
    field "depth_at_start" (.int s.depth) ++ field "parent" (.optInt (s.parent.map Int.ofNat)) ++
    field "children" (.list (s.children.map fun (c : Nat) => .int c)))

end SourceChunks
