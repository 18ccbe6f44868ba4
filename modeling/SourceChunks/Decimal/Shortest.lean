import SourceChunks.Decimal.Binary64
import SourceChunks.Text.Basic

/-! Doubles in decimal: the fewest digits that read back as the same double, and of those the
nearest to it. Where the point goes and when an exponent is written is a layout of its own. -/

namespace SourceChunks

def decade (num den : Nat) : Int :=
  let guess : Int := ((num.log2 : Int) - den.log2) * 30103 / 100000
  let atLeast := fun (p : Int) =>
    if 0 ≤ p then decide (den * tenTo p.toNat ≤ num) else decide (den ≤ num * tenTo (-p).toNat)
  if atLeast (guess + 1) then guess + 1 else if atLeast guess then guess else guess - 1

/-- The digits of a value and the power of ten of the last one. -/
structure Decimal where
  digits : Nat
  exponent : Int
  deriving DecidableEq, Repr

namespace Decimal

/-- The candidates with `length` digits around `num / den`, those that read back as `x` with the
nearer one first. -/
def candidates (x : Float) (num den : Nat) (length : Nat) : List Decimal :=
  let place := decade num den + 1 - length
  let (n, d) := if 0 ≤ place then (num, den * tenTo place.toNat) else (num * tenTo (-place).toNat, den)
  let near := roundDiv n d
  let far := if near * d ≤ n then near + 1 else near - 1
  [near, far].filterMap fun digits =>
    if (doubleOfDecimal false digits place).toBits == x.toBits then some ⟨digits, place⟩ else none

/-- The shortest decimal that reads back as the positive double `x`. -/
def shortestFrom (x : Float) (num den : Nat) : (fuel length : Nat) → Decimal
  | 0, _ => ⟨roundDiv num den, 0⟩
  | fuel + 1, length =>
    match candidates x num den length with
    | d :: _ => d
    | [] => shortestFrom x num den fuel (length + 1)

/-- Seventeen digits tell any two doubles apart. -/
def shortest (x : Float) (num den : Nat) : Decimal := shortestFrom x num den 17 1

end Decimal

/-- How a number is laid out: positional notation for powers of ten from `low` up to but not
including `high`, and the least number of digits of an exponent. -/
structure NumberLayout where
  low : Int
  high : Int
  exponentDigits : Nat

namespace NumberLayout

/-- Digits with a point after the first `whole` of them, and at least one digit on either side. -/
def positional (digits : Text) (whole : Int) : Text :=
  if whole ≤ 0 then "0." ++ List.replicate (-whole).toNat '0' ++ digits
  else if digits.length ≤ whole.toNat then
    digits ++ List.replicate (whole.toNat - digits.length) '0' ++ ".0"
  else digits.take whole.toNat ++ '.' :: digits.drop whole.toNat

def scientific (layout : NumberLayout) (digits : Text) (power : Int) : Text :=
  let size := Text.ofNat power.natAbs
  let padded := List.replicate (layout.exponentDigits - size.length) '0' ++ size
  let point : Text := if digits.length ≤ 1 then [] else '.' :: digits.drop 1
  digits.take 1 ++ point ++ 'e' :: (if power < 0 then '-' else '+') :: padded

def text (layout : NumberLayout) (x : Float) : Text :=
  match Dyadic.ofFloat? x with
  | none => if x.isNaN then "nan" else if x < 0 then "-inf" else "inf"
  | some d =>
    let sign : Text := if d.negative then ['-'] else []
    if d.mantissa = 0 then sign ++ "0.0"
    else
      let (num, den) := d.ratio
      let shortest := Decimal.shortest x.abs num den
      let all := Text.ofNat shortest.digits
      let digits := (all.reverse.dropWhile (· == '0')).reverse
      let power := shortest.exponent + all.length - 1
      sign ++
        if layout.low ≤ power && power < layout.high then positional digits (power + 1)
        else layout.scientific digits power

end NumberLayout

/-- Scores are written positionally from `1e-04` up to but not including `1e+16`. -/
def scoreLayout : NumberLayout := ⟨-4, 16, 2⟩

end SourceChunks
