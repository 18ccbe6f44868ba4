import SourceChunks.Kind.Semantic
import SourceChunks.Metrics.Signals

/-! The role of a chunk as far as its text, language and path tell. -/

namespace SourceChunks.Metrics

open Pattern

def keywordAndName (words : List String) : Pattern :=
  wordEdge ++ oneOf words ++ gap ++ .one isWordChar

/-- Calls and definitions that only tests hold. -/
def testSign : Pattern :=
  wordEdge ++ lit "it(" <|> wordEdge ++ lit "def test_" <|> wordEdge ++ lit "test("

def classLine : Pattern := lineStart ++ blanks ++ lit "class" ++ gap ++ .one isWordChar

def defLine : Pattern :=
  lineStart ++ blanks ++ opt (lit "async" ++ gap) ++ lit "def" ++ gap ++ .one isWordChar

/-- The first role whose sign holds, or else a module. -/
def firstRole (signs : List (Bool × SemanticType)) : SemanticType :=
  ((signs.find? (·.1)).map (·.2)).getD .module

def declaredRole (content : Text) : Language → SemanticType
  | .javascript | .typescript => firstRole [
      ((keywordAndName ["class"]).occursIn content, .class_),
      ((keywordAndName ["interface"]).occursIn content, .interface),
      (Text.hasAny content ["function ", "=>"], .function)]
  | .python => firstRole [
      (classLine.occursIn content, .class_),
      (defLine.occursIn content, .function)]
  | language =>
    if language.hasBraces then firstRole [
      ((keywordAndName ["interface"]).occursIn content, .interface),
      ((keywordAndName ["class", "struct"]).occursIn content, .class_),
      ((keywordAndName ["enum"]).occursIn content, .enum),
      ((wholeWord ["public", "private", "protected", "func", "fn", "fun", "def"]).occursIn content,
        .function)]
    else .module

/-- The role of a text without structural information. -/
def inferRole (content : Text) (language : Language) (path : Text) : SemanticType :=
  let lower := lowercase content
  let lowerPath := lowercase path
  if isTestPath path || Text.has lower "describe(" || testSign.occursIn lower then .test
  else if language = .markdown || Text.has lowerPath "readme" then .documentation
  else if language = .json || language = .yaml ||
      (wholeWord ["config", "settings"]).occursIn lowerPath then .config
  else if language = .shell then .script
  else declaredRole content language

end SourceChunks.Metrics
