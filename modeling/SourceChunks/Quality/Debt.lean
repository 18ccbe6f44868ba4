import SourceChunks.Quality.Basic
import SourceChunks.Quality.Scores

/-! Technical debt: what to mend, how grave it is, and how long it takes. -/

namespace SourceChunks.Quality

structure Thresholds where
  highComplexity : Float := 15
  lowMaintainability : Float := 30
  lowDocumentation : Float := 0.1
  highDuplication : Float := 70

def smellIssue (name : Text) : DebtIssue :=
  ⟨.codeSmells, "Code smell detected: " ++ name, .medium, "Refactor to follow best practices", 2⟩

def securityIssue (name : Text) : DebtIssue :=
  ⟨.securityVulnerabilities, "Security concern: " ++ name, .high, "Review and apply secure coding practices", 4⟩

def nestedLoopIssue : DebtIssue :=
  ⟨.performanceIssues, "Nested loops detected", .medium, "Consider optimizing algorithm complexity", 3⟩

def lengthIssue : DebtIssue :=
  ⟨.maintainabilityIssues, "Function/method is too long", .medium, "Break down into smaller functions", 3⟩

def complexityIssue : DebtIssue :=
  ⟨.maintainabilityIssues, "High complexity", .high, "Simplify logic and reduce branching", 4⟩

def maintainabilityIssue : DebtIssue :=
  ⟨.maintainabilityIssues, "Low maintainability", .medium, "Reduce size and complexity, add documentation", 3⟩

def documentationIssue : DebtIssue :=
  ⟨.documentationGaps, "Insufficient documentation", .low, "Add comments describing intent and behavior", 1⟩

def duplicationIssue : DebtIssue :=
  ⟨.maintainabilityIssues, "High duplication risk", .medium, "Extract repeated code into a shared helper", 2⟩

/-- The severity of a whole from the severities of its parts. -/
def overallSeverity (ss : List Severity) : Severity :=
  let high := ss.count .high
  let medium := ss.count .medium
  if ss.count .critical > 0 || high > 2 then .critical
  else if high > 0 || medium > 3 then .high
  else if medium > 0 then .medium
  else .low

structure DebtScores where
  complexity : Float
  documentation : Float
  duplication : Float
  maintainability : Float

def issues (t : Thresholds) (content : Text) (language : Language) (s : DebtScores) : List DebtIssue :=
  let count := (Text.lines content).length
  let smells := (((rules? language).map (·.smells)).getD []).filter fun r => r.pattern.occursIn content
  smells.map (fun r => smellIssue r.name) ++
    (securityConcerns content language).map securityIssue ++
    (if nestedLoopCount content language > 0 then [nestedLoopIssue] else []) ++
    (if count > 50 then [lengthIssue] else []) ++
    (if t.highComplexity < s.complexity then [complexityIssue] else []) ++
    (if s.maintainability < t.lowMaintainability then [maintainabilityIssue] else []) ++
    (if s.documentation < t.lowDocumentation && count > 10 then [documentationIssue] else []) ++
    (if t.highDuplication < s.duplication then [duplicationIssue] else [])

def debt (t : Thresholds) (content : Text) (language : Language) (s : DebtScores) : TechnicalDebt :=
  let found := issues t content language s
  { fixTime := (total (found.map DebtIssue.effort)).toFloat,
    severity := overallSeverity (found.map DebtIssue.severity),
    categories := distinct (found.map DebtIssue.category), issues := found }

end SourceChunks.Quality
