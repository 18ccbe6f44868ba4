import SourceChunks.Text.Basic

/-! The surroundings of a chunk: its file, its layer, its frameworks and its domain. -/

namespace SourceChunks

inductive Layer where
  | presentation | business | data | service | infrastructure | test | configuration | unknown
  deriving DecidableEq, Repr

namespace Layer

def tag : Layer → Text
  | presentation => "presentation"
  | business => "business"
  | data => "data"
  | service => "service"
  | infrastructure => "infrastructure"
  | test => "test"
  | configuration => "configuration"
  | unknown => "unknown"

def all : List Layer :=
  [presentation, business, data, service, infrastructure, test, configuration, unknown]

end Layer

structure FileContext where
  totalLines : Int
  /-- In characters. -/
  fileSize : Int
  siblings : List Text := []

structure ContextInfo where
  surrounding : Text
  layer : Layer
  file : FileContext
  frameworks : List Text := []
  business : Option Text := none

end SourceChunks
