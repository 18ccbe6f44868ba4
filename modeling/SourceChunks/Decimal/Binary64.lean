/-! Doubles as exact numbers: the integer and power of two that a finite double stands for, and the
double nearest to a quotient. -/

namespace SourceChunks

def twoTo (n : Nat) : Nat := Nat.pow 2 n

def tenTo (n : Nat) : Nat := Nat.pow 10 n

/-- The quotient rounded to the nearest integer, a half to the even neighbour. -/
def roundDiv (num den : Nat) : Nat :=
  let q := num / den
  let r := num % den
  if 2 * r < den then q
  else if den < 2 * r then q + 1
  else if q % 2 = 0 then q else q + 1

/-- A finite double: `mantissa * 2 ^ exponent`, negated when `negative`. -/
structure Dyadic where
  negative : Bool
  mantissa : Nat
  exponent : Int
  deriving DecidableEq, Repr

namespace Dyadic

/-- The exact number a double stands for, unless it is infinite or not a number. -/
def ofFloat? (x : Float) : Option Dyadic :=
  let bits : Nat := x.toBits.toNat
  let fraction : Nat := bits % twoTo 52
  let biased : Nat := bits / twoTo 52 % twoTo 11
  let negative := bits / twoTo 63 == 1
  if biased = 2047 then none
  else if biased = 0 then some ⟨negative, fraction, -1074⟩
  else some ⟨negative, fraction + twoTo 52, (biased : Int) - 1075⟩

/-- Numerator and denominator of the size times `10 ^ places`. -/
def scaled (d : Dyadic) (places : Nat) : Nat × Nat :=
  if 0 ≤ d.exponent then (d.mantissa * twoTo d.exponent.toNat * tenTo places, 1)
  else (d.mantissa * tenTo places, twoTo (-d.exponent).toNat)

def ratio (d : Dyadic) : Nat × Nat := d.scaled 0

def truncate (d : Dyadic) : Int :=
  let n : Int := (d.ratio.1 / d.ratio.2 : Nat)
  if d.negative then -n else n

end Dyadic

/-- The integer `k` with `2 ^ 52 ≤ num / den / 2 ^ k < 2 ^ 53`, but not below that of the least
double. -/
def binaryPlace (num den : Nat) : Int :=
  let e : Int := (num.log2 : Int) - den.log2 - 52
  let small :=
    if 0 ≤ e then decide (num < den * twoTo 52 * twoTo e.toNat)
    else decide (num * twoTo (-e).toNat < den * twoTo 52)
  max (-1074) (if small then e - 1 else e)

/-- The double nearest to `num / den`, a half to the even mantissa; too large gives infinity. -/
def nearestDouble (num den : Nat) : Float :=
  if num = 0 then 0.0
  else
    let e := binaryPlace num den
    let m := if 0 ≤ e then roundDiv num (den * twoTo e.toNat) else roundDiv (num * twoTo (-e).toNat) den
    if m < twoTo 52 then Float.ofBits m.toUInt64
    else
      let (m, e) := if m = twoTo 53 then (twoTo 52, e + 1) else (m, e)
      let biased := (e + 1075).toNat
      if 2047 ≤ biased then Float.ofBits (2047 * twoTo 52 : Nat).toUInt64
      else Float.ofBits (biased * twoTo 52 + (m - twoTo 52) : Nat).toUInt64

/-- The double nearest to `± digits * 10 ^ exponent`. -/
def doubleOfDecimal (negative : Bool) (digits : Nat) (exponent : Int) : Float :=
  let length := (Nat.toDigits 10 digits).length
  let size :=
    if digits = 0 then 0.0
    else if exponent + length > 400 then Float.ofBits (2047 * twoTo 52 : Nat).toUInt64
    else if exponent + length < -400 then 0.0
    else if 0 ≤ exponent then nearestDouble (digits * tenTo exponent.toNat) 1
    else nearestDouble digits (tenTo (-exponent).toNat)
  if negative then -size else size

end SourceChunks
