import SourceChunks.Decimal.Rounding
import SourceChunks.Validation.Checks

/-! The result of a validation, and the summary of a batch of results. -/

namespace SourceChunks

structure ValidationResult (κ : Type) where
  /-- The identity that the chunk gives. -/
  id : Value
  isValid : Bool
  findings : Findings κ
  score : Float

namespace Validation

/-- A chunk is valid if there are no errors; warnings only lower the score. -/
def validate (c : UncheckedChunk) : ValidationResult Text :=
  ⟨baseField c "id", (findings c).errors.isEmpty, findings c, (findings c).score⟩

/-- The most frequent elements, the more frequent first; of equally frequent ones, the one that
occurs first. -/
def mostCommon {α : Type} [BEq α] (count : Nat) (xs : List α) : List α :=
  ((distinct xs).mergeSort fun a b => xs.count b ≤ xs.count a).take count

structure Summary (κ : Type) where
  total : Nat
  valid : Nat
  invalid : Nat
  averageScore : Float
  commonErrors : List κ
  commonWarnings : List κ

/-- The summary of a batch, with the five most frequent codes. -/
def summarise {κ : Type} [DecidableEq κ] (rs : List (ValidationResult κ)) : Summary κ :=
  let valid := rs.countP (·.isValid)
  { total := rs.length, valid := valid, invalid := rs.length - valid,
    averageScore := if rs.isEmpty then 0.0 else mean (rs.map (·.score)),
    commonErrors := mostCommon 5 (rs.flatMap fun r => r.findings.errors.map (·.code)),
    commonWarnings := mostCommon 5 (rs.flatMap fun r => r.findings.warnings.map (·.code)) }

end Validation

end SourceChunks
