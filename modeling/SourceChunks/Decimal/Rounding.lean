import SourceChunks.Decimal.Binary64
import SourceChunks.Text.Basic

/-! Rounding of doubles to decimal places, on their exact values and with a half to the even
neighbour, and the small operations in which scores are computed. -/

namespace SourceChunks

/-- The double nearest to the value rounded to `places` decimals. -/
def roundTo (places : Nat) (x : Float) : Float :=
  match Dyadic.ofFloat? x with
  | none => x
  | some d =>
    let (num, den) := d.scaled places
    let size := nearestDouble (roundDiv num den) (tenTo places)
    if d.negative then -size else size

/-- The nearest whole double, a half to the even one. -/
def roundWhole (x : Float) : Float := roundTo 0 x

/-- The value with `places` decimals, at least one. -/
def fixedText (places : Nat) (x : Float) : Text :=
  match Dyadic.ofFloat? x with
  | none => if x.isNaN then "nan" else if x < 0 then "-inf" else "inf"
  | some d =>
    let (num, den) := d.scaled places
    let n := roundDiv num den
    let tail := Text.ofNat (n % tenTo places)
    let zeros := List.replicate (places - tail.length) '0'
    (if d.negative then ['-'] else []) ++ Text.ofNat (n / tenTo places) ++ '.' :: zeros ++ tail

/-- The smaller one; the first unless the second is below it. -/
def lesser (a b : Float) : Float := if b < a then b else a

/-- The larger one; the first unless the second is above it. -/
def greater (a b : Float) : Float := if a < b then b else a

def clampUnit (x : Float) : Float := greater 0.0 (lesser 1.0 x)

def clampScore (x : Float) : Float := greater 0.0 (lesser 100.0 x)

/-! ### Means -/

def columnSums : List Float → List Float → List Float
  | sums, a :: b :: c :: d :: e :: f :: g :: h :: rest =>
    columnSums (sums.zipWith (· + ·) [a, b, c, d, e, f, g, h]) rest
  | sums, rest => sums ++ rest

/-- The sum of up to 128 items: eight interleaved columns, added up pair by pair, then the rest. -/
def blockSum (xs : List Float) : Float :=
  if xs.length < 8 then xs.foldl (· + ·) 0.0
  else match columnSums (xs.take 8) (xs.drop 8) with
    | a :: b :: c :: d :: e :: f :: g :: h :: rest =>
      rest.foldl (· + ·) (((a + b) + (c + d)) + ((e + f) + (g + h)))
    | xs => xs.foldl (· + ·) 0.0

/-- The sum, halving longer lists at a multiple of eight so that the error stays small. -/
def pairwiseSum : (fuel : Nat) → List Float → Float
  | 0, xs => blockSum xs
  | fuel + 1, xs =>
    if xs.length ≤ 128 then blockSum xs
    else
      let half := xs.length / 2 / 8 * 8
      pairwiseSum fuel (xs.take half) + pairwiseSum fuel (xs.drop half)

/-- The mean of a list, 0 when it is empty. -/
def mean (xs : List Float) : Float :=
  if xs.isEmpty then 0.0 else pairwiseSum xs.length xs / xs.length.toFloat

end SourceChunks
