import SourceChunks.Chunk.Enriched

/-! Chunks as records, with the fields in the order in which they are written. -/

namespace SourceChunks

def field (key : String) (value : Value) : List (Text × Value) := [(key.toList, value)]

def LineCounts.toValue (c : LineCounts) : Value :=
  .record (field "total" (.int c.total) ++ field "code" (.int c.code) ++
    field "comments" (.int c.comments) ++ field "blank" (.int c.blank) ++ field "mixed" (.int c.mixed) ++
    field "logical" (.int c.code))

def Chunk.fields (c : Chunk) : List (Text × Value) :=
  field "id" (.text c.id) ++ field "content" (.text c.content) ++ field "file_path" (.text c.path) ++
    field "start_line" (.int c.first) ++ field "end_line" (.int c.last) ++
    field "snapshot_id" (.text c.snapshot) ++ field "language" (.text c.language.tag) ++
    field "symbols" (.texts c.symbols) ++ field "imports" (.texts c.imports) ++
    field "comment_ratio" (.optReal c.commentRatio) ++ field "complexity" (.optReal c.complexity)

def Chunk.toValue (c : Chunk) : Value := .record c.fields

def Evidence.toValue (e : Evidence) : Value :=
  .record (field "confidence" e.confidence.toValue ++ field "source" (.text e.origin.tag) ++
    field "line_number" (.optInt e.line) ++ field "context" (.optText e.context))

def Relation.toValue (r : Relation) : Value :=
  .record (field "type" (.text r.kind.tag) ++ field "target_chunk_id" (.text r.target) ++
    field "strength" r.strength.toValue ++ field "description" (.text r.description) ++
    field "direction" (.text r.direction.tag) ++ field "metadata" r.evidence.toValue)

def DebtIssue.toValue (i : DebtIssue) : Value :=
  .record (field "category" (.text i.category.tag) ++ field "description" (.text i.description) ++
    field "severity" (.text i.severity.tag) ++ field "suggestion" (.text i.suggestion) ++
    field "line_number" .null ++ field "estimated_effort" (.int i.effort))

def TechnicalDebt.toValue (d : TechnicalDebt) : Value :=
  .record (field "estimated_fix_time" (.real d.fixTime) ++ field "severity" (.text d.severity.tag) ++
    field "categories" (.texts (d.categories.map (·.tag))) ++
    field "issues" (.list (d.issues.map (·.toValue))))

def QualityMetrics.toValue (q : QualityMetrics) : Value :=
  .record (field "overall_score" (.real q.overall) ++ field "readability_score" (.real q.readability) ++
    field "documentation_ratio" (.real q.documentation) ++ field "duplication_risk" (.real q.duplication) ++
    field "performance_risk" (.real q.performance) ++ field "security_risk" (.real q.security) ++
    field "maintainability_score" (.real q.maintainability) ++ field "technical_debt" q.debt.toValue ++
    field "test_coverage" (.optReal q.testCoverage) ++ field "style_compliance_score" (.optReal q.style))

def FileContext.toValue (f : FileContext) : Value :=
  .record (field "total_lines" (.int f.totalLines) ++ field "file_size" (.int f.fileSize) ++
    field "sibling_chunks" (.texts f.siblings) ++ field "last_modified" .null)

def ContextInfo.toValue (c : ContextInfo) : Value :=
  .record (field "surrounding_context" (.text c.surrounding) ++
    field "architectural_layer" (.text c.layer.tag) ++ field "framework_context" (.texts c.frameworks) ++
    field "business_context" (.optText c.business) ++ field "file_context" c.file.toValue)

def Facets.toValue (f : Facets) : Value :=
  .record (field "language" (.text f.language.tag) ++ field "semantic_type" (.text f.semanticType.tag) ++
    field "symbols" (.texts f.symbols) ++ field "complexity_score" (.real f.complexityScore) ++
    field "maintainability_index" (.real f.maintainabilityIndex) ++
    field "dependencies" (.texts f.dependencies) ++ field "dependents" (.texts f.dependents) ++
    field "design_patterns" (.texts f.designPatterns) ++ field "code_smells" (.texts f.codeSmells) ++
    field "security_concerns" (.texts f.securityConcerns) ++ field "lines_of_code" f.lineCounts.toValue)

def EnrichedChunk.toValue (c : EnrichedChunk) : Value :=
  .record (c.base.fields ++ field "enhanced_metadata" c.facets.toValue ++
    field "relationships" (.list (c.relations.map (·.toValue))) ++
    field "quality_metrics" c.quality.toValue ++
    field "context_info" (match c.context with
      | some context => context.toValue
      | none => .null))

end SourceChunks
