import SourceChunks.Failure

/-! Quality measures of a chunk and the technical debt behind them. -/

namespace SourceChunks

inductive Severity where
  | low | medium | high | critical
  deriving DecidableEq, Repr

namespace Severity

def tag : Severity → Text
  | low => "low"
  | medium => "medium"
  | high => "high"
  | critical => "critical"

def all : List Severity := [low, medium, high, critical]

/-- The severity with a tag; there are no others. -/
def ofTag (t : Text) : Except Failure Severity :=
  match all.find? fun s => s.tag == t with
  | some s => .ok s
  | none => .error (.unknownSeverity t)

end Severity

inductive DebtCategory where
  | codeSmells | securityVulnerabilities | performanceIssues | maintainabilityIssues
  | documentationGaps | testCoverageGaps | architecturalViolations | styleViolations
  deriving DecidableEq, Repr

namespace DebtCategory

def tag : DebtCategory → Text
  | codeSmells => "code_smells"
  | securityVulnerabilities => "security_vulnerabilities"
  | performanceIssues => "performance_issues"
  | maintainabilityIssues => "maintainability_issues"
  | documentationGaps => "documentation_gaps"
  | testCoverageGaps => "test_coverage_gaps"
  | architecturalViolations => "architectural_violations"
  | styleViolations => "style_violations"

def all : List DebtCategory :=
  [codeSmells, securityVulnerabilities, performanceIssues, maintainabilityIssues, documentationGaps,
    testCoverageGaps, architecturalViolations, styleViolations]

end DebtCategory

/-- One thing to mend, with the hours it takes. -/
structure DebtIssue where
  category : DebtCategory
  description : Text
  severity : Severity
  suggestion : Text
  effort : Nat

structure TechnicalDebt where
  /-- Hours. -/
  fixTime : Float := 0.0
  severity : Severity := .low
  categories : List DebtCategory := []
  issues : List DebtIssue := []

/-- Scores from 0 to 100; documentation and test coverage from 0 to 1. -/
structure QualityMetrics where
  overall : Float := 50.0
  readability : Float := 50.0
  documentation : Float := 0.0
  duplication : Float := 0.0
  performance : Float := 0.0
  security : Float := 0.0
  maintainability : Float := 50.0
  debt : TechnicalDebt := {}
  testCoverage : Option Float := none
  style : Option Float := none

end SourceChunks
