import SourceChunks.Validation.Summary

/-! Validations as records. -/

namespace SourceChunks

def ValidationError.toValue (e : ValidationError Text) : Value :=
  .record (field "code" (.text e.code) ++ field "message" (.text e.message) ++
    field "field" (.text e.place) ++ field "severity" (.text "error"))

def ValidationWarning.toValue (w : ValidationWarning Text) : Value :=
  .record (field "code" (.text w.code) ++ field "message" (.text w.message) ++
    field "field" (.text w.place) ++ field "suggestion" (.text w.suggestion))

def ValidationResult.toValue (r : ValidationResult Text) : Value :=
  .record (field "chunk_id" r.id ++ field "is_valid" (.bool r.isValid) ++
    field "errors" (.list (r.findings.errors.map (·.toValue))) ++
    field "warnings" (.list (r.findings.warnings.map (·.toValue))) ++ field "score" (.real r.score))

def Validation.Summary.toValue (s : Validation.Summary Text) : Value :=
  .record (field "total_chunks" (.int s.total) ++ field "valid_chunks" (.int s.valid) ++
    field "invalid_chunks" (.int s.invalid) ++ field "average_score" (.real s.averageScore) ++
    field "common_errors" (.texts s.commonErrors) ++ field "common_warnings" (.texts s.commonWarnings))

end SourceChunks
