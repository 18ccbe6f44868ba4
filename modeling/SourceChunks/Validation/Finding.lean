import SourceChunks.Text.Basic

/-! What a validation can find: errors and warnings, each with a code, a message and the place it
speaks of. The checks write their codes as texts. -/

namespace SourceChunks

inductive ErrorCode where
  | missingId | missingContent | missingFilePath | invalidStartLine | invalidEndLine
  | missingFacets | invalidSemanticType | invalidComplexityScore | invalidMaintainabilityIndex
  | invalidDependencies | invalidDependents | invalidDesignPatterns | invalidCodeSmells
  | invalidSecurityConcerns | missingLineCounts | invalidLineCount
  | invalidRelations | invalidRelationKind | missingTarget | invalidStrength | invalidDirection
  | invalidConfidence | invalidOrigin
  | missingQuality | invalidQualityMetric | invalidQualityScore | invalidDocumentationRatio
  | invalidTestCoverage | missingDebt | invalidFixTime | invalidDebtSeverity | invalidDebtCategories
  | invalidDebtCategory
  | missingContext | invalidLayer | invalidFrameworks | missingFileContext | invalidTotalLines
  | invalidFileSize | invalidSiblings
  deriving DecidableEq, Repr

def ErrorCode.tag : ErrorCode → Text
  | missingId => "MISSING_ID"
  | missingContent => "MISSING_CONTENT"
  | missingFilePath => "MISSING_FILE_PATH"
  | invalidStartLine => "INVALID_START_LINE"
  | invalidEndLine => "INVALID_END_LINE"
  | missingFacets => "MISSING_ENHANCED_METADATA"
  | invalidSemanticType => "INVALID_SEMANTIC_TYPE"
  | invalidComplexityScore => "INVALID_COMPLEXITY_SCORE"
  | invalidMaintainabilityIndex => "INVALID_MAINTAINABILITY_INDEX"
  | invalidDependencies => "INVALID_DEPENDENCIES"
  | invalidDependents => "INVALID_DEPENDENTS"
  | invalidDesignPatterns => "INVALID_DESIGN_PATTERNS"
  | invalidCodeSmells => "INVALID_CODE_SMELLS"
  | invalidSecurityConcerns => "INVALID_SECURITY_CONCERNS"
  | missingLineCounts => "MISSING_LINES_OF_CODE"
  | invalidLineCount => "INVALID_LOC_METRIC"
  | invalidRelations => "INVALID_RELATIONSHIPS"
  | invalidRelationKind => "INVALID_RELATIONSHIP_TYPE"
  | missingTarget => "MISSING_TARGET_CHUNK_ID"
  | invalidStrength => "INVALID_RELATIONSHIP_STRENGTH"
  | invalidDirection => "INVALID_RELATIONSHIP_DIRECTION"
  | invalidConfidence => "INVALID_RELATIONSHIP_CONFIDENCE"
  | invalidOrigin => "INVALID_RELATIONSHIP_SOURCE"
  | missingQuality => "MISSING_QUALITY_METRICS"
  | invalidQualityMetric => "INVALID_QUALITY_METRIC"
  | invalidQualityScore => "INVALID_QUALITY_SCORE"
  | invalidDocumentationRatio => "INVALID_DOCUMENTATION_RATIO"
  | invalidTestCoverage => "INVALID_TEST_COVERAGE"
  | missingDebt => "MISSING_TECHNICAL_DEBT"
  | invalidFixTime => "INVALID_ESTIMATED_FIX_TIME"
  | invalidDebtSeverity => "INVALID_DEBT_SEVERITY"
  | invalidDebtCategories => "INVALID_DEBT_CATEGORIES"
  | invalidDebtCategory => "INVALID_DEBT_CATEGORY"
  | missingContext => "MISSING_CONTEXT_INFO"
  | invalidLayer => "INVALID_ARCHITECTURAL_LAYER"
  | invalidFrameworks => "INVALID_FRAMEWORK_CONTEXT"
  | missingFileContext => "MISSING_FILE_CONTEXT"
  | invalidTotalLines => "INVALID_TOTAL_LINES"
  | invalidFileSize => "INVALID_FILE_SIZE"
  | invalidSiblings => "INVALID_SIBLING_CHUNKS"

inductive WarningCode where
  | largeChunk | largeLineRange | highComplexity | lowMaintainability | inconsistentLineCounts
  | highSecurityRisk | highPerformanceRisk
  deriving DecidableEq, Repr

def WarningCode.tag : WarningCode → Text
  | largeChunk => "LARGE_CHUNK"
  | largeLineRange => "LARGE_LINE_RANGE"
  | highComplexity => "HIGH_COMPLEXITY"
  | lowMaintainability => "LOW_MAINTAINABILITY"
  | inconsistentLineCounts => "INCONSISTENT_LOC_METRICS"
  | highSecurityRisk => "HIGH_SECURITY_RISK"
  | highPerformanceRisk => "HIGH_PERFORMANCE_RISK"

structure ValidationError (κ : Type) where
  code : κ
  message : Text
  /-- The field it speaks of. -/
  place : Text
  deriving DecidableEq, Repr

structure ValidationWarning (κ : Type) where
  code : κ
  message : Text
  place : Text
  suggestion : Text
  deriving DecidableEq, Repr

/-- Errors and warnings in the order in which they were found. -/
structure Findings (κ : Type) where
  errors : List (ValidationError κ) := []
  warnings : List (ValidationWarning κ) := []
  deriving DecidableEq, Repr

namespace Findings

variable {κ : Type}

instance : Append (Findings κ) := ⟨fun a b => ⟨a.errors ++ b.errors, a.warnings ++ b.warnings⟩⟩

def error (found : Bool) (code : ErrorCode) (message place : Text) : Findings Text :=
  if found then { errors := [⟨code.tag, message, place⟩] } else {}

def warning (found : Bool) (code : WarningCode) (message place suggestion : Text) : Findings Text :=
  if found then { warnings := [⟨code.tag, message, place, suggestion⟩] } else {}

def all (fs : List (Findings κ)) : Findings κ := ⟨fs.flatMap (·.errors), fs.flatMap (·.warnings)⟩

/-- 100 less ten points an error and two a warning, at least 0. -/
def score (f : Findings κ) : Float := (100 - (10 * f.errors.length + 2 * f.warnings.length)).toFloat

end Findings

end SourceChunks
