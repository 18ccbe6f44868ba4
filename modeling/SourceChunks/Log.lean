import SourceChunks.Text.Basic

/-! Messages that an operation leaves beside its result. -/

namespace SourceChunks

inductive LogLevel where
  | info | warning | error
  deriving DecidableEq, Repr

namespace LogLevel

def tag : LogLevel → Text
  | info => "INFO"
  | warning => "WARNING"
  | error => "ERROR"

end LogLevel

structure LogEntry where
  level : LogLevel
  message : Text
  deriving DecidableEq, Repr

namespace LogEntry

def info (message : Text) : LogEntry := ⟨.info, message⟩

def warning (message : Text) : LogEntry := ⟨.warning, message⟩

def error (message : Text) : LogEntry := ⟨.error, message⟩

end LogEntry

end SourceChunks
