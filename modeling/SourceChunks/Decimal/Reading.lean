import SourceChunks.Decimal.Binary64
import SourceChunks.Text.Basic
import SourceChunks.Text.Digit

/-! Reading numbers. Blanks around a number are passed over, digits may belong to any script, and
single underscores may stand between digits. -/

namespace SourceChunks.Reading

/-- Blanks around a number: the four separators of ASCII are not among them. -/
def isPadding (c : Char) : Bool := isBlank c && !('\x1c' ≤ c && c ≤ '\x1f')

def unpadded (t : Text) : Text := ((t.dropWhile isPadding).reverse.dropWhile isPadding).reverse

/-- ASCII digits for the digits of every script. -/
def plainDigits (t : Text) : Text :=
  t.map fun c => match digitValue? c with
    | some v => Char.ofNat ('0'.toNat + v)
    | none => c

/-- Underscores left out, if each stands between two digits. -/
def dropUnderscores : (before : Option Char) → Text → Option Text
  | _, [] => some []
  | before, '_' :: c :: cs =>
    if before.any Char.isDigit && c.isDigit then (dropUnderscores (some c) cs).map (c :: ·) else none
  | _, c :: cs => if c = '_' then none else (dropUnderscores (some c) cs).map (c :: ·)

def signed : Text → Bool × Text
  | '-' :: cs => (true, cs)
  | '+' :: cs => (false, cs)
  | cs => (false, cs)

def digitsValue (t : Text) : Nat := t.foldl (fun n c => 10 * n + (c.toNat - '0'.toNat)) 0

/-- A text of digits only, and at least one. -/
def wholeNumber? (t : Text) : Option Nat :=
  if !t.isEmpty && t.all Char.isDigit then some (digitsValue t) else none

def digitLimit : Nat := 4300

/-- The number of digits at the front of a text, after blanks and a sign, if there are more than are
read. -/
def overlong? (t : Text) : Option Nat := do
  let front := (signed (plainDigits (unpadded t))).2.takeWhile fun c => c.isDigit || c == '_'
  let digits ← dropUnderscores none front
  if digitLimit < digits.length then some digits.length else none

def int? (t : Text) : Option Int := do
  let plain ← dropUnderscores none (plainDigits (unpadded t))
  let (negative, digits) := signed plain
  if digitLimit < digits.length then none
  else (wholeNumber? digits).map fun n => if negative then -(n : Int) else n

/-- The exponent after the mark, 0 when there is none. -/
def exponent? : Text → Option Int
  | [] => some 0
  | c :: cs =>
    if c == 'e' || c == 'E' then
      let (negative, digits) := signed cs
      (wholeNumber? digits).map fun n => if negative then -(n : Int) else n
    else none

/-- An unsigned decimal: digits, a point with digits, an exponent. -/
def decimal? (negative : Bool) (t : Text) : Option Float :=
  let whole := t.takeWhile Char.isDigit
  let rest := t.dropWhile Char.isDigit
  let (places, rest) := match rest with
    | '.' :: cs => (cs.takeWhile Char.isDigit, cs.dropWhile Char.isDigit)
    | cs => ([], cs)
  if whole.isEmpty && places.isEmpty then none
  else (exponent? rest).map fun e =>
    doubleOfDecimal negative (digitsValue (whole ++ places)) (e - places.length)

/-- The double that a text denotes; infinity and not-a-number have names. -/
def double? (t : Text) : Option Float := do
  let plain ← dropUnderscores none (plainDigits (unpadded t))
  let (negative, size) := signed plain
  let word := size.map Char.toLower
  if word == "inf" || word == "infinity" then return if negative then -(1.0 / 0.0) else 1.0 / 0.0
  else if word == "nan" then return 0.0 / 0.0
  else decimal? negative size

end SourceChunks.Reading
