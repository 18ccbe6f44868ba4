import SourceChunks.Text.Utf32

/-! Texts from bytes that hold escapes: a backslash and letters or digits stand for a character. Other
bytes are characters of Latin 1. An escape that breaks off becomes a replacement character. -/

namespace SourceChunks.Escaped

def latin (b : UInt8) : Char := Char.ofNat b.toNat

def hexDigit? (b : UInt8) : Option Nat :=
  let c := latin b
  if c.isDigit then some (c.toNat - '0'.toNat)
  else if 'a' ≤ c && c ≤ 'f' then some (10 + (c.toNat - 'a'.toNat))
  else if 'A' ≤ c && c ≤ 'F' then some (10 + (c.toNat - 'A'.toNat))
  else none

/-- The hexadecimal digits at the front, as many as are wanted at most. -/
def hexDigits (wanted : Nat) (bs : List UInt8) : List Nat :=
  ((bs.take wanted).takeWhile (hexDigit? · |>.isSome)).filterMap hexDigit?

def number (base : Nat) (digits : List Nat) : Nat := digits.foldl (fun n d => base * n + d) 0

/-- The character of a number with so many digits at the front, and how many bytes it has. -/
def hexChar (wanted : Nat) (bs : List UInt8) : Char × Nat :=
  let digits := hexDigits wanted bs
  (if digits.length = wanted then Utf32.single (number 16 digits) else replacementChar, digits.length)

/-- The octal digits at the front, three at most. -/
def octalDigits (bs : List UInt8) : List Nat :=
  ((bs.take 3).takeWhile fun b => '0' ≤ latin b && latin b ≤ '7').map fun b => b.toNat - '0'.toNat

def letter? (c : Char) : Option Text :=
  match c with
  | '\n' => some []
  | '\\' | '\'' | '"' => some [c]
  | 'b' => some ['\x08']
  | 'f' => some ['\x0c']
  | 't' => some ['\t']
  | 'n' => some ['\n']
  | 'r' => some ['\r']
  | 'v' => some ['\x0b']
  | 'a' => some ['\x07']
  | _ => none

/-- The length of a name in braces, which stands for no character. -/
def nameLength (bs : List UInt8) : Nat :=
  match bs with
  | b :: rest =>
    if latin b = '{' then
      let name := rest.takeWhile (latin · != '}')
      if name.isEmpty then 1 else 1 + (rest.take (name.length + 1)).length
    else 0
  | [] => 0

/-- The text of an escape after its backslash, and how many bytes it has. Only escapes of code numbers
count, or those of letters too. -/
def escape (letters : Bool) (bs : List UInt8) : Text × Nat :=
  match bs with
  | [] => ([if letters then replacementChar else '\\'], 0)
  | b :: rest =>
    let hex (wanted : Nat) : Text × Nat :=
      let (c, n) := hexChar wanted rest
      ([c], 1 + n)
    match latin b with
    | 'u' => hex 4
    | 'U' => hex 8
    | c =>
      if !letters then (['\\', c], 1)
      else if c = 'x' then hex 2
      else if c = 'N' then ([replacementChar], 1 + nameLength rest)
      else
        match octalDigits bs, letter? c with
        | d :: ds, _ => ([Char.ofNat (number 8 (d :: ds))], (d :: ds).length)
        | [], some t => (t, 1)
        | [], none => (['\\', c], 1)

def decode (letters : Bool) : List UInt8 → Text
  | [] => []
  | b :: bs =>
    if latin b = '\\' then
      let (t, n) := escape letters bs
      t ++ decode letters (bs.drop n)
    else latin b :: decode letters bs
termination_by bs => bs.length
decreasing_by all_goals simp only [List.length_drop, List.length_cons]; omega

end SourceChunks.Escaped
