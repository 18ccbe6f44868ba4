import SourceChunks.Log
import SourceChunks.Settings.Basic
import SourceChunks.Text.Quoted

/-! Settings from environment variables. -/

namespace SourceChunks.Settings

abbrev Environment := List (Text × Text)

def variablePrefix : Text := "CODE_CHUNKER_"

def variableNames : List String := ["CHUNK_SIZE", "CHUNK_OVERLAP", "FALLBACK_SIZE", "USE_AST", "VALIDATE"]

/-- The value of a variable that is set and not empty. -/
def Environment.value? (env : Environment) (name : Text) : Option Text :=
  match env.find? (·.1 == variablePrefix ++ name) with
  | some (_, value) => if value.isEmpty then none else some value
  | none => none

/-- An integer variable; any other text is ignored with a warning. -/
def Environment.int (env : Environment) (name : Text) (default : Nat) : Int × List LogEntry :=
  match env.value? name with
  | none => (default, [])
  | some value =>
    match Reading.int? value with
    | some n => (n, [])
    | none =>
      (default, [.warning ("Ignoring non-integer " ++ variablePrefix ++ name ++ "=" ++
        Quoted.encode value ++ ", using " ++ Text.ofNat default)])

/-- A truth value: one of four words in any case is true, anything else false. -/
def Environment.bool (env : Environment) (name : Text) (default : Bool) : Bool :=
  match env.value? name with
  | none => default
  | some value =>
    let word := lowercase value
    [("1" : Text), "true", "yes", "on"].contains word

def fromEnvironment (env : Environment) : Settings × List LogEntry :=
  let usual : Settings := {}
  let (size, log₁) := env.int "CHUNK_SIZE" usual.chunkSize
  let (overlap, log₂) := env.int "CHUNK_OVERLAP" usual.chunkOverlap
  let (fallback, log₃) := env.int "FALLBACK_SIZE" usual.fallbackSize
  (clamp size overlap fallback (env.bool "USE_AST" usual.preferTrees) (env.bool "VALIDATE" usual.validate)
    usual.minConfidence, log₁ ++ log₂ ++ log₃)

end SourceChunks.Settings
