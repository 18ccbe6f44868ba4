import SourceChunks.Decimal.Reading
import SourceChunks.Failure
import SourceChunks.Value.Basic

/-! Settings of the chunkers. A chunk has at least ten lines to fill, and an overlap leaves at least
five lines of it new. -/

namespace SourceChunks

structure Settings where
  chunkSize : Nat := 250
  chunkOverlap : Nat := 100
  fallbackSize : Nat := 50
  /-- Read declarations from syntax trees where that is possible. -/
  preferTrees : Bool := true
  /-- Check the chunks of a file and log the result. -/
  validate : Bool := false
  minConfidence : Float := 0.3

namespace Settings

/-- Settings with the sizes kept within their bounds. -/
def clamp (size overlap fallback : Int) (preferTrees validate : Bool) (minConfidence : Float) : Settings :=
  let size := (max 10 size).toNat
  { chunkSize := size, chunkOverlap := (min overlap (size - 5)).toNat,
    fallbackSize := (max 1 fallback).toNat, preferTrees := preferTrees, validate := validate,
    minConfidence := minConfidence }

structure Valid (s : Settings) : Prop where
  size : 10 ≤ s.chunkSize
  overlap : s.chunkOverlap + 5 ≤ s.chunkSize
  fallback : 1 ≤ s.fallbackSize

theorem clamp_valid (size overlap fallback : Int) (preferTrees validate : Bool) (minConfidence : Float) :
    (clamp size overlap fallback preferTrees validate minConfidence).Valid := by
  constructor <;> simp only [clamp] <;> omega

end Settings

/-- The integer that a value denotes: fractions are cut off, truth values count as 0 and 1. -/
def Value.toInt : Value → Except Failure Int
  | .int n => .ok n
  | .bool b => .ok (if b then 1 else 0)
  | .real x =>
    match Dyadic.ofFloat? x with
    | some d => .ok d.truncate
    | none => .error (if x.isNaN then .nanToInteger else .infinityToInteger)
  | .text t =>
    match Reading.overlong? t, Reading.int? t with
    | some count, _ => .error (.tooManyDigits count)
    | none, some n => .ok n
    | none, none => .error (.notInteger t)
  | v => .error (.integerFrom v.kindName)

def Value.toDouble : Value → Except Failure Float
  | .int n =>
    let x := doubleOfDecimal (n < 0) n.natAbs 0
    if x.isInf then .error .integerTooLarge else .ok x
  | .bool b => .ok (if b then 1.0 else 0.0)
  | .real x => .ok x
  | .text t =>
    match Reading.double? t with
    | some x => .ok x
    | none => .error (.notNumber t)
  | v => .error (.numberFrom v.kindName)

end SourceChunks
