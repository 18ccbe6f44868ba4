import SourceChunks.Validation.Finding
import SourceChunks.Validation.Unchecked
import SourceChunks.Value.Comparison
import SourceChunks.Value.Display

/-! The checks of an unchecked chunk, part by part. -/

namespace SourceChunks.Validation

/-! ### Values -/

def isNumber (v : Value) : Bool := v.number?.isSome

def inRange (low high : Int) (v : Value) : Bool := v.number?.any (Number.within low high)

def isNonNegative (v : Value) : Bool := v.number?.any fun n => !n.lt (.int 0)

def exceeds (limit : Int) (v : Value) : Bool := v.number?.any fun n => Number.lt (.int limit) n

def fallsBelow (limit : Int) (v : Value) : Bool := v.number?.any fun n => n.lt (.int limit)

def isText (v : Value) : Bool := v.text?.isSome

def isFilled (v : Value) : Bool := v.text?.any (!·.isEmpty)

def isOneOf (ts : List Text) (v : Value) : Bool := v.text?.any ts.contains

/-- Missing, or else as the test says. -/
def absentOr (test : Value → Bool) : Value → Bool
  | .null => true
  | v => test v

/-! ### The bare chunk -/

/-- The first line is a number from 0 on. -/
def startIsSound (f : Fields) : Bool := (f.get "start_line").number?.any fun n => Number.le (.int 0) n

/-- The last line is a number, and not before a sound first line. -/
def endIsSound (f : Fields) : Bool :=
  (f.get "end_line").number?.any fun last =>
    !(startIsSound f && (f.get "start_line").number?.any fun first => last.lt first)

/-- More than 500 lines lie between a sound first line and the last one. -/
def spansManyLines (f : Fields) : Bool :=
  startIsSound f && match (f.get "start_line").number?, (f.get "end_line").number? with
    | some first, some last => Number.lt (.int 500) (last.sub first)
    | _, _ => false

def checkBase : Option Fields → Findings Text
  | none => .error true .missingId "Chunk record is missing" "chunk"
  | some f =>
    .error (!isFilled (f.get "id")) .missingId "Chunk ID is required and must be a string" "id" ++
    .error (!isText (f.get "content")) .missingContent "Chunk content is required and must be a string"
      "content" ++
    .error (!isFilled (f.get "file_path")) .missingFilePath "File path is required and must be a string"
      "file_path" ++
    .error (!startIsSound f) .invalidStartLine "Start line must be a non-negative number" "start_line" ++
    .error (!endIsSound f) .invalidEndLine "End line must be a number >= start line" "end_line" ++
    .warning ((f.get "content").text?.any fun t => t.length > 10000) .largeChunk
      "Chunk content is very large (>10k characters)" "content" "Consider splitting into smaller chunks" ++
    .warning (spansManyLines f) .largeLineRange "Chunk spans a very large number of lines (>500)" "end_line"
      "Consider splitting into smaller chunks"

/-! ### Facets -/

def checkListField (f : Fields) (name : String) (code : ErrorCode) : Findings Text :=
  .error (!(f.get name).isList) code (name.toList ++ " must be a list") ("enhanced_metadata." ++ name).toList

def countNames : List String := ["total", "code", "comments", "blank", "mixed"]

def checkCount (f : Fields) (name : String) : Findings Text :=
  .error (!isNonNegative (f.get name)) .invalidLineCount
    ("Lines of code metric '" ++ name ++ "' must be a non-negative number").toList
    ("enhanced_metadata.lines_of_code." ++ name).toList

/-- All counts are sound, and the total is not what its kinds say. -/
def countsDisagree (f : Fields) : Bool :=
  countNames.all (fun n => isNonNegative (f.get n)) &&
    match (f.get "total").number?, (f.get "code").number?, (f.get "comments").number?, (f.get "blank").number?,
      (f.get "mixed").number? with
    | some total, some code, some comments, some blank, some mixed =>
      !total.eq (((code.add comments).add blank).sub mixed)
    | _, _, _, _, _ => false

def checkLineCounts : Option Fields → Findings Text
  | none =>
    .error true .missingLineCounts "Lines of code metrics are required" "enhanced_metadata.lines_of_code"
  | some f =>
    .all (countNames.map (checkCount f)) ++
    .warning (countsDisagree f) .inconsistentLineCounts "Lines of code metrics may be inconsistent"
      "enhanced_metadata.lines_of_code" "Verify that total = code + comments + blank - mixed"

def checkFacets (facets lineCounts : Option Fields) : Findings Text :=
  match facets with
  | none => .error true .missingFacets "Enhanced metadata is required" "enhanced_metadata"
  | some f =>
    let kind := f.get "semantic_type"
    .error (!isOneOf (SemanticType.listed.map (·.tag)) kind) .invalidSemanticType
      ("Invalid semantic type: " ++ kind.display) "enhanced_metadata.semantic_type" ++
    .error (!inRange 0 100 (f.get "complexity_score")) .invalidComplexityScore
      "Complexity score must be a number between 0 and 100" "enhanced_metadata.complexity_score" ++
    .error (!inRange 0 100 (f.get "maintainability_index")) .invalidMaintainabilityIndex
      "Maintainability index must be a number between 0 and 100" "enhanced_metadata.maintainability_index" ++
    checkListField f "dependencies" .invalidDependencies ++
    checkListField f "dependents" .invalidDependents ++
    checkListField f "design_patterns" .invalidDesignPatterns ++
    checkListField f "code_smells" .invalidCodeSmells ++
    checkListField f "security_concerns" .invalidSecurityConcerns ++
    checkLineCounts lineCounts ++
    .warning (exceeds 80 (f.get "complexity_score")) .highComplexity "Chunk has very high complexity"
      "enhanced_metadata.complexity_score" "Consider breaking down into smaller functions" ++
    .warning (fallsBelow 20 (f.get "maintainability_index")) .lowMaintainability
      "Chunk has low maintainability" "enhanced_metadata.maintainability_index" "Consider refactoring"

/-! ### Relations -/

def checkEvidence (place : Text) : Option Fields → Findings Text
  | none => {}
  | some f =>
    .error (!inRange 0 1 (f.get "confidence")) .invalidConfidence
      "Relationship confidence must be between 0 and 1" (place ++ ".metadata.confidence") ++
    .error (!isOneOf (Origin.listed.map (·.tag)) (f.get "source")) .invalidOrigin
      "Invalid relationship source" (place ++ ".metadata.source")

def checkRelation (r : UncheckedRelation) (index : Nat) : Findings Text :=
  let place : Text := "relationships[" ++ Text.ofNat index ++ "]"
  let kind := r.fields.get "type"
  .error (!isOneOf (RelationKind.listed.map (·.tag)) kind) .invalidRelationKind
    ("Invalid relationship type: " ++ kind.display) (place ++ ".type") ++
  .error (!isFilled (r.fields.get "target_chunk_id")) .missingTarget
    "Target chunk ID is required and must be a string" (place ++ ".target_chunk_id") ++
  .error (!inRange 0 1 (r.fields.get "strength")) .invalidStrength
    "Relationship strength must be between 0 and 1" (place ++ ".strength") ++
  .error (!isOneOf (Direction.listed.map (·.tag)) (r.fields.get "direction")) .invalidDirection
    "Invalid relationship direction" (place ++ ".direction") ++
  checkEvidence place r.evidence

def checkRelations : Option (List UncheckedRelation) → Findings Text
  | none => .error true .invalidRelations "Relationships must be a list" "relationships"
  | some rs => .all (rs.zipIdx.map fun r => checkRelation r.1 r.2)

/-! ### Quality -/

def scoreNames : List String :=
  ["overall_score", "readability_score", "duplication_risk", "performance_risk", "security_risk",
    "maintainability_score"]

def outOfScale (name : String) : Text :=
  ("Quality metric '" ++ name ++ "' must be between 0 and 100").toList

def checkScore (f : Fields) (name : String) : Findings Text :=
  let v := f.get name
  let place := ("quality_metrics." ++ name).toList
  .error (!isNumber v) .invalidQualityMetric ("Quality metric '" ++ name ++ "' must be a number").toList place ++
  .error (isNumber v && !inRange 0 100 v) .invalidQualityScore (outOfScale name) place

def checkCategory (v : Value) (index : Nat) : Findings Text :=
  .error (!isOneOf (DebtCategory.all.map (·.tag)) v) .invalidDebtCategory
    ("Invalid technical debt category: " ++ v.display)
    ("quality_metrics.technical_debt.categories[" ++ Text.ofNat index ++ "]")

def checkCategories : Value → Findings Text
  | .list items => .all (items.zipIdx.map fun v => checkCategory v.1 v.2)
  | _ =>
    .error true .invalidDebtCategories "Technical debt categories must be a list"
      "quality_metrics.technical_debt.categories"

def checkDebt : Option Fields → Findings Text
  | none =>
    .error true .missingDebt "Technical debt metrics are required" "quality_metrics.technical_debt"
  | some f =>
    .error (!isNonNegative (f.get "estimated_fix_time")) .invalidFixTime
      "Estimated fix time must be a non-negative number" "quality_metrics.technical_debt.estimated_fix_time" ++
    .error (!isOneOf (Severity.all.map (·.tag)) (f.get "severity")) .invalidDebtSeverity
      "Invalid technical debt severity" "quality_metrics.technical_debt.severity" ++
    checkCategories (f.get "categories")

def checkQuality (quality debt : Option Fields) : Findings Text :=
  match quality with
  | none => .error true .missingQuality "Quality metrics are required" "quality_metrics"
  | some f =>
    .all (scoreNames.map (checkScore f)) ++
    .error (!inRange 0 1 (f.get "documentation_ratio")) .invalidDocumentationRatio
      "Documentation ratio must be between 0 and 1" "quality_metrics.documentation_ratio" ++
    .error (!absentOr (inRange 0 1) (f.get "test_coverage")) .invalidTestCoverage
      "Test coverage must be between 0 and 1" "quality_metrics.test_coverage" ++
    .error (!absentOr (inRange 0 100) (f.get "style_compliance_score")) .invalidQualityScore
      (outOfScale "style_compliance_score") "quality_metrics.style_compliance_score" ++
    checkDebt debt ++
    .warning (exceeds 70 (f.get "security_risk")) .highSecurityRisk "Chunk has high security risk"
      "quality_metrics.security_risk" "Review security-sensitive code" ++
    .warning (exceeds 70 (f.get "performance_risk")) .highPerformanceRisk "Chunk has high performance risk"
      "quality_metrics.performance_risk" "Review loops and expensive calls"

/-! ### Context -/

def endsBehind (total last : Value) : Bool :=
  match total.number?, last.number? with
  | some t, some l => t.le l
  | _, _ => false

def checkFileContext (last : Value) : Option Fields → Findings Text
  | none => .error true .missingFileContext "File context is required" "context_info.file_context"
  | some f =>
    let total := f.get "total_lines"
    .error (!isNonNegative total) .invalidTotalLines "Total lines must be a non-negative number"
      "context_info.file_context.total_lines" ++
    .error (isNonNegative total && endsBehind total last) .invalidEndLine "End line must be within the file"
      "end_line" ++
    .error (!isNonNegative (f.get "file_size")) .invalidFileSize "File size must be a non-negative number"
      "context_info.file_context.file_size" ++
    .error (!(f.get "sibling_chunks").isList) .invalidSiblings "Sibling chunks must be a list"
      "context_info.file_context.sibling_chunks"

def checkContext (last : Value) (context file : Option Fields) : Findings Text :=
  match context with
  | none => .error true .missingContext "Context info is required" "context_info"
  | some f =>
    let layer := f.get "architectural_layer"
    .error (!isOneOf (Layer.all.map (·.tag)) layer) .invalidLayer
      ("Invalid architectural layer: " ++ layer.display) "context_info.architectural_layer" ++
    .error (!(f.get "framework_context").isList) .invalidFrameworks "Framework context must be a list"
      "context_info.framework_context" ++
    checkFileContext last file

/-! ### The whole chunk -/

/-- A field of the bare chunk, null when there is no chunk. -/
def baseField (c : UncheckedChunk) (key : String) : Value :=
  match c.base with
  | some f => f.get key
  | none => .null

def findings (c : UncheckedChunk) : Findings Text :=
  checkBase c.base ++ checkFacets c.facets c.lineCounts ++ checkRelations c.relations ++
    checkQuality c.quality c.debt ++ checkContext (baseField c "end_line") c.context c.fileContext

end SourceChunks.Validation
