import SourceChunks.Text.Basic

/-! Values of unchecked data: what a record's field holds before anyone has looked at it, and what
reports are made of. The fields of a record keep their order. -/

namespace SourceChunks

inductive Value where
  | null
  | bool (b : Bool)
  | int (n : Int)
  | real (x : Float)
  | text (t : Text)
  | list (items : List Value)
  | record (fields : List (Text × Value))
  deriving Inhabited

namespace Value

def texts (ts : List Text) : Value := .list (ts.map .text)

def optReal : Option Float → Value
  | some x => .real x
  | none => .null

def optInt : Option Int → Value
  | some n => .int n
  | none => .null

def optText : Option Text → Value
  | some t => .text t
  | none => .null

def field? : Value → Text → Option Value
  | .record fields, key => (fields.find? (·.1 == key)).map (·.2)
  | _, _ => none

/-- The fields with one more value; a key that is there keeps its place. -/
def putField (fields : List (Text × Value)) (key : Text) (v : Value) : List (Text × Value) :=
  if fields.any (·.1 == key) then fields.map fun f => if f.1 == key then (key, v) else f
  else fields ++ [(key, v)]

def isList : Value → Bool
  | .list _ => true
  | _ => false

def kindName : Value → Text
  | .null => "NoneType"
  | .bool _ => "bool"
  | .int _ => "int"
  | .real _ => "float"
  | .text _ => "str"
  | .list _ => "list"
  | .record _ => "dict"

def text? : Value → Option Text
  | .text t => some t
  | _ => none

end Value

/-- An integer or a double: whole numbers and measured ones are told apart. -/
inductive Number where
  | int (n : Int)
  | real (x : Float)

namespace Number

def toFloat : Number → Float
  | .int n => Float.ofInt n
  | .real x => x

def toValue : Number → Value
  | .int n => .int n
  | .real x => .real x

end Number

/-- The number in a value. Truth values are not numbers. -/
def Value.number? : Value → Option Number
  | .int n => some (.int n)
  | .real x => some (.real x)
  | _ => none

end SourceChunks
