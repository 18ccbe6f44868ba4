import SourceChunks.Decimal.Shortest
import SourceChunks.Text.Quoted
import SourceChunks.Value.Basic

/-! Values as messages show them: a text stands as it is, but quoted inside a list or a record. -/

namespace SourceChunks.Value

mutual

/-- The value inside another one, where texts are quoted. -/
def quoted : Value → Text
  | .null => "None"
  | .bool true => "True"
  | .bool false => "False"
  | .int n => Text.ofInt n
  | .real x => scoreLayout.text x
  | .text t => Quoted.encode t
  | .list items => "[" ++ quotedItems items ++ "]"
  | .record fields => "\x7b" ++ quotedFields fields ++ "\x7d"

def quotedItems : List Value → Text
  | [] => []
  | [v] => quoted v
  | v :: vs => quoted v ++ ", " ++ quotedItems vs

def quotedFields : List (Text × Value) → Text
  | [] => []
  | [(k, v)] => Quoted.encode k ++ ": " ++ quoted v
  | (k, v) :: rest => Quoted.encode k ++ ": " ++ quoted v ++ ", " ++ quotedFields rest

end

def display : Value → Text
  | .text t => t
  | v => quoted v

end SourceChunks.Value
