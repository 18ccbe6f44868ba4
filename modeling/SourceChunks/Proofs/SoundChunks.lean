import Mathlib.Data.List.Basic
import SourceChunks.Validation.Summary

/-! Chunks that pass the checks. What a check reads of a written chunk is what was written, so that a
chunk with an identity, a path, a range inside its file and roles, relations and counts of the listed
kinds can fail only the checks of scores. -/

namespace SourceChunks

/-! ### Findings about scores -/

/-- The errors that say that a score is out of its range. -/
def ErrorCode.ofScores : List ErrorCode :=
  [.invalidComplexityScore, .invalidMaintainabilityIndex, .invalidStrength, .invalidConfidence,
    .invalidQualityScore, .invalidDocumentationRatio, .invalidTestCoverage, .invalidFixTime]

namespace Findings

/-- All errors are about scores, and no warning says that counts of lines disagree. -/
structure ScoresOnly (f : Findings Text) : Prop where
  errors : ∀ e ∈ f.errors, e.code ∈ ErrorCode.ofScores.map ErrorCode.tag
  warnings : ∀ w ∈ f.warnings, w.code ≠ WarningCode.inconsistentLineCounts.tag

namespace ScoresOnly

theorem none : ScoresOnly {} := ⟨by simp, by simp⟩

theorem append {f g : Findings Text} (hf : ScoresOnly f) (hg : ScoresOnly g) : ScoresOnly (f ++ g) := by
  constructor
  · intro e he
    rcases List.mem_append.mp he with he | he
    · exact hf.errors e he
    · exact hg.errors e he
  · intro w hw
    rcases List.mem_append.mp hw with hw | hw
    · exact hf.warnings w hw
    · exact hg.warnings w hw

theorem all {fs : List (Findings Text)} (h : ∀ f ∈ fs, ScoresOnly f) : ScoresOnly (.all fs) := by
  constructor
  · intro e he
    obtain ⟨f, hf, he⟩ := List.mem_flatMap.mp he
    exact (h f hf).errors e he
  · intro w hw
    obtain ⟨f, hf, hw⟩ := List.mem_flatMap.mp hw
    exact (h f hf).warnings w hw

/-- A test that is passed finds nothing. -/
theorem passed {test : Bool} (h : test = true) (code : ErrorCode) (message place : Text) :
    ScoresOnly (.error (!test) code message place) := by
  rw [h]
  exact none

theorem score {code : ErrorCode} (h : code ∈ ErrorCode.ofScores) (found : Bool) (message place : Text) :
    ScoresOnly (.error found code message place) := by
  cases found with
  | false => exact none
  | true => exact ⟨by simpa [Findings.error] using ⟨code, h, rfl⟩, by simp [Findings.error]⟩

theorem warning {code : WarningCode} (h : code.tag ≠ WarningCode.inconsistentLineCounts.tag) (found : Bool)
    (message place suggestion : Text) : ScoresOnly (.warning found code message place suggestion) := by
  cases found with
  | false => exact none
  | true => exact ⟨by simp [Findings.warning], by simpa [Findings.warning] using h⟩

end ScoresOnly

end Findings

/-! ### Reading what was written -/

namespace Fields

@[simp] theorem get_append_self (key : String) (v : Value) (rest : Fields) :
    Fields.get (field key v ++ rest) key = v := by
  simp [Fields.get, field]

@[simp] theorem get_append_of_ne {key key' : String} (h : key ≠ key') (v : Value) (rest : Fields) :
    Fields.get (field key v ++ rest) key' = Fields.get rest key' := by
  have hne : ¬ key.toList = key'.toList := fun heq => h (String.toList_inj.mp heq)
  simp [Fields.get, field, hne]

end Fields

@[simp] theorem Value.fields_record (fs : Fields) : (Value.record fs).fields = fs := rfl

namespace Number

@[simp] theorem lt_int (a b : Int) : lt (.int a) (.int b) = decide (a < b) := by
  rw [Bool.eq_iff_iff, decide_eq_true_iff, ← Int.compare_eq_lt]
  simp [lt, compare?]

@[simp] theorem le_int (a b : Int) : le (.int a) (.int b) = decide (a ≤ b) := by
  rw [Bool.eq_iff_iff, decide_eq_true_iff, ← Int.compare_ne_gt]
  simp [le, compare?]

@[simp] theorem eq_int (a b : Int) : eq (.int a) (.int b) = decide (a = b) := by
  rw [Bool.eq_iff_iff, decide_eq_true_iff, ← Int.compare_eq_eq]
  simp [eq, compare?]

end Number

namespace Validation

/-- The tag of a member of a list is one of the tags of the list. -/
theorem isOneOf_tag {α : Type} {tag : α → Text} {xs : List α} {x : α} (hx : x ∈ xs) :
    isOneOf (xs.map tag) (.text (tag x)) = true :=
  List.contains_iff_mem.mpr (List.mem_map_of_mem hx)

theorem isFilled_text {t : Text} (h : t ≠ []) : isFilled (.text t) = true := by
  simpa [isFilled, Value.text?] using h

theorem isNonNegative_int {n : Int} (h : 0 ≤ n) : isNonNegative (.int n) = true := by
  simpa [isNonNegative, Value.number?] using h

end Validation

/-! ### The parts of a chunk -/

/-- Kind, direction and origin of the relation are listed. -/
structure Relation.Listed (r : Relation) : Prop where
  kind : r.kind ∈ RelationKind.listed
  direction : r.direction ∈ Direction.listed
  origin : r.evidence.origin ∈ Origin.listed

/-- The relation is of a listed kind and leads somewhere. -/
structure Relation.Sound (r : Relation) : Prop extends r.Listed where
  target : r.target ≠ []

/-- What the checks ask for, scores apart. -/
structure EnrichedChunk.Sound (c : EnrichedChunk) : Prop where
  id : c.id ≠ []
  path : c.path ≠ []
  nonneg : 0 ≤ c.base.first
  ordered : c.base.first ≤ c.base.last
  semanticType : c.facets.semanticType ∈ SemanticType.listed
  counts : c.facets.lineCounts.Consistent
  relations : ∀ r ∈ c.relations, r.Sound
  context : ∃ x, c.context = some x ∧ c.base.last < x.file.totalLines ∧ 0 ≤ x.file.fileSize

namespace Validation

open Findings

variable {c : EnrichedChunk} (h : c.Sound)

include h in
theorem checkBase_sound : ScoresOnly (checkBase (some c.base.fields)) := by
  have hid : isFilled (Fields.get c.base.fields "id") = true := by
    simpa [Chunk.fields] using isFilled_text h.id
  have hcontent : isText (Fields.get c.base.fields "content") = true := by
    simp [Chunk.fields, isText, Value.text?]
  have hpath : isFilled (Fields.get c.base.fields "file_path") = true := by
    simpa [Chunk.fields] using isFilled_text h.path
  have hstart : startIsSound c.base.fields = true := by
    simpa [startIsSound, Chunk.fields, Value.number?] using h.nonneg
  have hend : endIsSound c.base.fields = true := by
    simp [endIsSound, Chunk.fields, Value.number?, h.ordered]
  refine .append (.append (.append (.append (.append (.append ?_ ?_) ?_) ?_) ?_) ?_) ?_
  · exact .passed hid _ _ _
  · exact .passed hcontent _ _ _
  · exact .passed hpath _ _ _
  · exact .passed hstart _ _ _
  · exact .passed hend _ _ _
  · exact .warning (by decide) _ _ _ _
  · exact .warning (by decide) _ _ _ _

theorem checkLineCounts_sound {counts : LineCounts} (hc : counts.Consistent) :
    ScoresOnly (checkLineCounts (some counts.toValue.fields)) := by
  have hget : ∀ name ∈ countNames, isNonNegative (Fields.get counts.toValue.fields name) = true := by
    simp [countNames, LineCounts.toValue, isNonNegative, Value.number?]
  have hagree : countsDisagree counts.toValue.fields = false := by
    unfold LineCounts.Consistent at hc
    simp [countsDisagree, LineCounts.toValue, Value.number?, Number.add, Number.sub]
    omega
  refine .append (.all ?_) ?_
  · intro f hf
    obtain ⟨name, hname, rfl⟩ := List.mem_map.mp hf
    exact .passed (hget name hname) _ _ _
  · rw [hagree]
    exact .none

include h in
theorem checkFacets_sound :
    ScoresOnly (checkFacets (some c.facets.toValue.fields) (some c.facets.lineCounts.toValue.fields)) := by
  have hkind : Fields.get c.facets.toValue.fields "semantic_type" = .text c.facets.semanticType.tag := by
    simp [Facets.toValue]
  have hlist (name : String) (code : ErrorCode)
      (hname : (Fields.get c.facets.toValue.fields name).isList = true) :
      ScoresOnly (checkListField c.facets.toValue.fields name code) := .passed hname _ _ _
  dsimp only [checkFacets]
  rw [hkind]
  refine .append (.append (.append (.append (.append (.append (.append (.append (.append (.append ?_ ?_) ?_) ?_) ?_)
    ?_) ?_) ?_) ?_) ?_) ?_
  · exact .passed (isOneOf_tag h.semanticType) _ _ _
  · exact .score (by decide) _ _ _
  · exact .score (by decide) _ _ _
  · exact hlist _ _ (by simp [Facets.toValue, Value.texts, Value.isList])
  · exact hlist _ _ (by simp [Facets.toValue, Value.texts, Value.isList])
  · exact hlist _ _ (by simp [Facets.toValue, Value.texts, Value.isList])
  · exact hlist _ _ (by simp [Facets.toValue, Value.texts, Value.isList])
  · exact hlist _ _ (by simp [Facets.toValue, Value.texts, Value.isList])
  · exact checkLineCounts_sound h.counts
  · exact .warning (by decide) _ _ _ _
  · exact .warning (by decide) _ _ _ _

theorem checkRelation_sound {r : Relation} (hr : r.Sound) (index : Nat) :
    ScoresOnly (checkRelation r.unchecked index) := by
  have hkind : Fields.get r.unchecked.fields "type" = .text r.kind.tag := by
    simp [Relation.unchecked, Relation.toValue]
  have htarget : Fields.get r.unchecked.fields "target_chunk_id" = .text r.target := by
    simp [Relation.unchecked, Relation.toValue]
  have hdirection : Fields.get r.unchecked.fields "direction" = .text r.direction.tag := by
    simp [Relation.unchecked, Relation.toValue]
  have horigin : Fields.get r.evidence.toValue.fields "source" = .text r.evidence.origin.tag := by
    simp [Evidence.toValue]
  dsimp only [checkRelation]
  rw [hkind, htarget, hdirection]
  refine .append (.append (.append (.append ?_ ?_) ?_) ?_) (.append ?_ ?_)
  · exact .passed (isOneOf_tag hr.kind) _ _ _
  · exact .passed (isFilled_text hr.target) _ _ _
  · exact .score (by decide) _ _ _
  · exact .passed (isOneOf_tag hr.direction) _ _ _
  · exact .score (by decide) _ _ _
  · rw [horigin]
    exact .passed (isOneOf_tag hr.origin) _ _ _

include h in
theorem checkRelations_sound : ScoresOnly (checkRelations (some (c.relations.map (·.unchecked)))) := by
  refine .all ?_
  intro f hf
  obtain ⟨⟨u, index⟩, hu, rfl⟩ := List.mem_map.mp hf
  obtain ⟨r, hr, rfl⟩ := List.mem_map.mp (List.fst_mem_of_mem_zipIdx hu)
  exact checkRelation_sound (h.relations r hr) index

theorem mem_severities (s : Severity) : s ∈ Severity.all := by cases s <;> decide

theorem mem_categories (d : DebtCategory) : d ∈ DebtCategory.all := by cases d <;> decide

theorem mem_layers (l : Layer) : l ∈ Layer.all := by cases l <;> decide

theorem checkDebt_sound (d : TechnicalDebt) : ScoresOnly (checkDebt (some d.toValue.fields)) := by
  have hseverity : Fields.get d.toValue.fields "severity" = .text d.severity.tag := by
    simp [TechnicalDebt.toValue]
  have hcategories : Fields.get d.toValue.fields "categories" =
      .list ((d.categories.map (·.tag)).map .text) := by
    simp [TechnicalDebt.toValue, Value.texts]
  dsimp only [checkDebt]
  rw [hseverity, hcategories]
  refine .append (.append ?_ ?_) (.all ?_)
  · exact .score (by decide) _ _ _
  · exact .passed (isOneOf_tag (mem_severities d.severity)) _ _ _
  · intro f hf
    obtain ⟨⟨v, index⟩, hv, rfl⟩ := List.mem_map.mp hf
    obtain ⟨t, ht, rfl⟩ := List.mem_map.mp (List.fst_mem_of_mem_zipIdx hv)
    obtain ⟨category, _, rfl⟩ := List.mem_map.mp ht
    exact .passed (isOneOf_tag (mem_categories category)) _ _ _

theorem checkQuality_sound (q : QualityMetrics) :
    ScoresOnly (checkQuality (some q.toValue.fields) (some q.debt.toValue.fields)) := by
  have hnumber : ∀ name ∈ scoreNames, isNumber (Fields.get q.toValue.fields name) = true := by
    simp [scoreNames, QualityMetrics.toValue, isNumber, Value.number?]
  refine .append (.append (.append (.append (.append (.append (.all ?_) ?_) ?_) ?_) ?_) ?_) ?_
  · intro f hf
    obtain ⟨name, hname, rfl⟩ := List.mem_map.mp hf
    exact .append (.passed (hnumber name hname) _ _ _) (.score (by decide) _ _ _)
  · exact .score (by decide) _ _ _
  · exact .score (by decide) _ _ _
  · exact .score (by decide) _ _ _
  · exact checkDebt_sound q.debt
  · exact .warning (by decide) _ _ _ _
  · exact .warning (by decide) _ _ _ _

theorem checkContext_sound {x : ContextInfo} {last : Int} (hlast : last < x.file.totalLines)
    (hnonneg : 0 ≤ last) (hsize : 0 ≤ x.file.fileSize) :
    ScoresOnly (checkContext (.int last) (some x.toValue.fields) (some x.file.toValue.fields)) := by
  have hlayer : Fields.get x.toValue.fields "architectural_layer" = .text x.layer.tag := by
    simp [ContextInfo.toValue]
  have hframeworks : (Fields.get x.toValue.fields "framework_context").isList = true := by
    simp [ContextInfo.toValue, Value.texts, Value.isList]
  have htotal : Fields.get x.file.toValue.fields "total_lines" = .int x.file.totalLines := by
    simp [FileContext.toValue]
  have hfileSize : Fields.get x.file.toValue.fields "file_size" = .int x.file.fileSize := by
    simp [FileContext.toValue]
  have hsiblings : (Fields.get x.file.toValue.fields "sibling_chunks").isList = true := by
    simp [FileContext.toValue, Value.texts, Value.isList]
  have hinside : endsBehind (.int x.file.totalLines) (.int last) = false := by
    simpa [endsBehind, Value.number?] using hlast
  dsimp only [checkContext, checkFileContext]
  rw [hlayer, htotal, hfileSize, hinside, Bool.and_false]
  refine .append (.append ?_ ?_) (.append (.append (.append ?_ .none) ?_) ?_)
  · exact .passed (isOneOf_tag (mem_layers x.layer)) _ _ _
  · exact .passed hframeworks _ _ _
  · exact .passed (isNonNegative_int (by omega)) _ _ _
  · exact .passed (isNonNegative_int hsize) _ _ _
  · exact .passed hsiblings _ _ _

/-- A sound chunk can fail only the checks of scores. -/
theorem validate_sound (h : c.Sound) : ScoresOnly (validate c.unchecked).findings := by
  obtain ⟨x, hx, hlast, hsize⟩ := h.context
  have hend : baseField c.unchecked "end_line" = .int c.base.last := by
    simp [baseField, EnrichedChunk.unchecked, Chunk.fields]
  have hnonneg : 0 ≤ c.base.last := Int.le_trans h.nonneg h.ordered
  have hcontext := checkContext_sound hlast hnonneg hsize
  unfold validate findings
  rw [hend]
  dsimp only [EnrichedChunk.unchecked]
  rw [hx]
  exact .append (.append (.append (.append (checkBase_sound h) (checkFacets_sound h)) (checkRelations_sound h))
    (checkQuality_sound c.quality)) hcontext

end Validation

end SourceChunks
