import SourceChunks.Decimal.Shortest
import SourceChunks.Text.Quoted
import SourceChunks.Value.Basic

/-! Values written as JSON in ASCII, on one line or indented. Characters beyond the basic plane are
written as a pair of surrogates. -/

namespace SourceChunks.Json

def unit (n : Nat) : Text := "\\u" ++ Quoted.hex 4 n

def escape (c : Char) : Text :=
  if c == '"' then "\\\""
  else if c == '\\' then "\\\\"
  else if c == '\n' then "\\n"
  else if c == '\r' then "\\r"
  else if c == '\t' then "\\t"
  else if c.toNat = 8 then "\\b"
  else if c.toNat = 12 then "\\f"
  else if 0x20 ≤ c.toNat && c.toNat < 0x7f then [c]
  else if c.toNat ≤ 0xffff then unit c.toNat
  else
    let n := c.toNat - 0x10000
    unit (0xd800 + n / 0x400) ++ unit (0xdc00 + n % 0x400)

def string (t : Text) : Text := '"' :: t.flatMap escape ++ ['"']

/-- The spelling of a double; infinities and not-a-number have names. -/
def double (x : Float) : Text :=
  if x.isNaN then "NaN"
  else if x.isInf then (if x < 0 then "-Infinity" else "Infinity")
  else scoreLayout.text x

/-- What stands between the parts of a value: line breaks with indentation, or nothing. -/
structure Layout where
  lineBreak : Nat → Text
  comma : Text
  colon : Text

def compact : Layout := ⟨fun _ => [], ",", ":"⟩

/-- One item a line, two blanks a level. -/
def indented : Layout := ⟨fun depth => '\n' :: List.replicate (2 * depth) ' ', ",", ": "⟩

mutual

def render (layout : Layout) (depth : Nat) : Value → Text
  | .null => "null"
  | .bool true => "true"
  | .bool false => "false"
  | .int n => Text.ofInt n
  | .real x => double x
  | .text t => string t
  | .list [] => "[]"
  | .list (v :: vs) =>
    "[" ++ layout.lineBreak (depth + 1) ++ render layout (depth + 1) v ++
      renderItems layout (depth + 1) vs ++ layout.lineBreak depth ++ "]"
  | .record [] => "\x7b\x7d"
  | .record ((k, v) :: rest) =>
    "\x7b" ++ layout.lineBreak (depth + 1) ++ string k ++ layout.colon ++ render layout (depth + 1) v ++
      renderFields layout (depth + 1) rest ++ layout.lineBreak depth ++ "\x7d"

def renderItems (layout : Layout) (depth : Nat) : List Value → Text
  | [] => []
  | v :: vs => layout.comma ++ layout.lineBreak depth ++ render layout depth v ++ renderItems layout depth vs

def renderFields (layout : Layout) (depth : Nat) : List (Text × Value) → Text
  | [] => []
  | (k, v) :: rest =>
    layout.comma ++ layout.lineBreak depth ++ string k ++ layout.colon ++ render layout depth v ++
      renderFields layout depth rest

end

end SourceChunks.Json
