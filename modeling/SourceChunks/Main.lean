import SourceChunks.CommandLine.Run
import SourceChunks.Syntax.Reader

/-! The program: arguments, environment and files go in, the chunks go to the standard output and the
messages to the standard error. -/

namespace SourceChunks.CommandLine

/-- The variables of the process that count. -/
def processEnvironment : IO Settings.Environment := do
  let mut env := []
  for name in Settings.variableNames do
    let key := Settings.variablePrefix ++ name.toList
    if let some value ← IO.getEnv (String.ofList key) then
      env := env ++ [(key, value.toList)]
  return env

def readBytes? (p : FilePath) : IO (Option (List UInt8)) := do
  try
    let bytes ← IO.FS.readBinFile (String.ofList p.text)
    return some bytes.toList
  catch _ => return none

def readAll (o : Options) : IO (List (FilePath × Option (List UInt8))) :=
  o.paths.mapM fun arg => do
    let path := FilePath.ofText arg
    return (path, ← readBytes? path)

def Outcome.report (out : Outcome) : IO UInt32 := do
  for entry in out.log do
    IO.eprintln (String.ofList (entry.level.tag ++ " - " ++ entry.message))
  IO.print (String.ofList out.output)
  return out.status.toUInt32

end SourceChunks.CommandLine

open SourceChunks CommandLine in
/-- Chunks the files named on the command line. -/
def main (args : List String) : IO UInt32 := do
  let texts := args.map String.toList
  let env ← processEnvironment
  let files ← match parse texts with
    | .ok o => readAll o
    | .error _ => pure []
  (run Grammar.tree texts env fun p => (files.lookup p).join).report
