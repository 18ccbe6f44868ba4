import SourceChunks.Decimal.Reading
import SourceChunks.Value.Basic

/-! Values read from JSON. A number with a point or an exponent is a double, any other one an
integer. -/

namespace SourceChunks.Json

def isSpace (c : Char) : Bool := c == ' ' || c == '\n' || c == '\t' || c == '\r'

def skipSpace (t : Text) : Text := t.dropWhile isSpace

/-! ### Strings -/

/-- The text up to the closing quote as it is written, and what comes after it. -/
def rawString : (done : Text) → (escaped : Bool) → Text → Option (Text × Text)
  | _, _, [] => none
  | done, true, c :: cs => rawString (c :: done) false cs
  | done, false, c :: cs => if c == '"' then some (done.reverse, cs) else rawString (c :: done) (c == '\\') cs

def hexDigit (c : Char) : Nat :=
  if c.isDigit then c.toNat - '0'.toNat
  else if 'a' ≤ c then c.toNat - 'a'.toNat + 10
  else c.toNat - 'A'.toNat + 10

def hexNumber (t : Text) : Nat := t.foldl (fun n c => 16 * n + hexDigit c) 0

def escaped (c : Char) : Nat :=
  match c with
  | 'n' => 10
  | 't' => 9
  | 'r' => 13
  | 'b' => 8
  | 'f' => 12
  | c => c.toNat

/-- The code numbers of a string as it is written. -/
def codes : Text → List Nat
  | [] => []
  | '\\' :: 'u' :: a :: b :: c :: d :: cs => hexNumber [a, b, c, d] :: codes cs
  | '\\' :: c :: cs => escaped c :: codes cs
  | c :: cs => c.toNat :: codes cs

/-- The characters of code numbers; a pair of surrogates makes one character. -/
def ofCodes : List Nat → Text
  | [] => []
  | [n] => [Char.ofNat n]
  | n :: m :: rest =>
    if 0xd800 ≤ n && n < 0xdc00 && 0xdc00 ≤ m && m < 0xe000 then
      Char.ofNat (0x10000 + (n - 0xd800) * 0x400 + (m - 0xdc00)) :: ofCodes rest
    else Char.ofNat n :: ofCodes (m :: rest)

/-- A string after its opening quote. -/
def readString (t : Text) : Option (Text × Text) :=
  (rawString [] false t).map fun r => (ofCodes (codes r.1), r.2)

/-! ### Numbers -/

def inNumber (c : Char) : Bool := c.isDigit || c == '-' || c == '+' || c == '.' || c == 'e' || c == 'E'

def isReal (token : Text) : Bool := token.any fun c => c == '.' || c == 'e' || c == 'E'

def readNumber (t : Text) : Option (Value × Text) :=
  let token := t.takeWhile inNumber
  let rest := t.drop token.length
  if isReal token then (Reading.double? token).map fun x => (.real x, rest)
  else (Reading.int? token).map fun n => (.int n, rest)

/-! ### Values -/

def afterWord (word : String) (v : Value) (t : Text) : Option (Value × Text) :=
  if Text.startsWith t word then some (v, t.drop word.length) else none

mutual

def readValue : (fuel : Nat) → Text → Option (Value × Text)
  | 0, _ => none
  | fuel + 1, t =>
    match skipSpace t with
    | '"' :: cs => (readString cs).map fun r => (.text r.1, r.2)
    | '[' :: cs =>
      match skipSpace cs with
      | ']' :: cs => some (.list [], cs)
      | cs => readItems fuel [] cs
    | '\x7b' :: cs =>
      match skipSpace cs with
      | '\x7d' :: cs => some (.record [], cs)
      | cs => readFields fuel [] cs
    | 't' :: cs => afterWord "true" (.bool true) ('t' :: cs)
    | 'f' :: cs => afterWord "false" (.bool false) ('f' :: cs)
    | 'n' :: cs => afterWord "null" .null ('n' :: cs)
    | cs => readNumber cs

def readItems : (fuel : Nat) → (done : List Value) → Text → Option (Value × Text)
  | 0, _, _ => none
  | fuel + 1, done, t =>
    match readValue fuel t with
    | none => none
    | some (v, rest) =>
      match skipSpace rest with
      | ',' :: cs => readItems fuel (v :: done) cs
      | ']' :: cs => some (.list (v :: done).reverse, cs)
      | _ => none

def readFields : (fuel : Nat) → (done : List (Text × Value)) → Text → Option (Value × Text)
  | 0, _, _ => none
  | fuel + 1, done, t =>
    match skipSpace t with
    | '"' :: cs =>
      match readString cs with
      | none => none
      | some (key, rest) =>
        match skipSpace rest with
        | ':' :: cs =>
          match readValue fuel cs with
          | none => none
          | some (v, rest) =>
            match skipSpace rest with
            | ',' :: cs => readFields fuel ((key, v) :: done) cs
            | '\x7d' :: cs => some (.record ((key, v) :: done).reverse, cs)
            | _ => none
        | _ => none
    | _ => none

end

/-- The value of a JSON text. Every step passes a character, so twice the length is fuel enough. -/
def parse? (t : Text) : Option Value :=
  match readValue (2 * t.length + 1) t with
  | some (v, rest) => if (skipSpace rest).isEmpty then some v else none
  | none => none

end SourceChunks.Json
