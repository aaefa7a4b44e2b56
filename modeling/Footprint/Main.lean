import Footprint.CommandLine
import Std.Time

/-! The program. It looks at its environment, the clock and the one path that it is given, and prints
what a run leaves behind. It opens no connection: every reviewer is unavailable to it. -/
namespace Footprint.Main

/-- A file is looked at once, and found the same when it is read again. -/
def readStored (place : String) : IO StoredFile := do
  let reading : FileReading ←
    try pure (.ok (← IO.FS.readBinFile place).toList) catch e => pure (.error (toString e))
  return ⟨reading, reading⟩

/-- The files beneath a directory. -/
partial def filesBeneath (place : String) : IO (List (List String × StoredFile)) := do
  let here ← IO.FS.realPath place
  let found ← (← here.readDir).toList.mapM fun entry => do
    let inner := place ++ "/" ++ entry.fileName
    if ← entry.path.isDir then
      return (← filesBeneath inner).map fun f => (entry.fileName :: f.1, f.2)
    else return [([entry.fileName], ← readStored inner)]
  return found.flatten

def lookAt (place : String) : IO Found := do
  try
    let here ← IO.FS.realPath place
    if ← here.isDir then return .directory (← filesBeneath place)
    else if ← here.pathExists then return .file (← readStored place)
    else return .nothing
  catch e => return .refused (toString e)

def readSettings : IO Settings := do
  let values ← Settings.variableNames.mapM fun name => return (name, ← IO.getEnv name)
  match Settings.fromEnvironment fun name => (values.lookup name).bind id with
  | .ok settings => return settings
  | .error cause => throw (IO.userError cause.message)

def pathOf (s : Settings) (arguments : List String) : Option Path :=
  match Options.ofArguments s arguments with
  | .ok o => if o.path = "-" then none else some (.ofText o.path)
  | .error _ => none

def unavailable : Chat.Service Unit := fun _ world =>
  (.refused "APIConnectionError" "Connection error.", world)

def surroundings (arguments : List String) : IO CommandLine.Surroundings := do
  let settings ← readSettings
  let clock := (← Std.Time.PlainDateTime.now).hour.val
  match pathOf settings arguments with
  | some path =>
    let found ← lookAt path.text
    return { settings, clock, look := fun _ => found, input := "", cyclomatic := .ofGrammar }
  | none =>
    let input ← (← IO.getStdin).readBinToEnd
    let input := Text.Utf8.decode input.toList
    return { settings, clock, look := fun _ => .nothing, input, cyclomatic := .ofGrammar }

end Footprint.Main

open Footprint in
def main (arguments : List String) : IO UInt32 := do
  let (run, _) := CommandLine.run (← Main.surroundings arguments) Main.unavailable arguments ()
  IO.print run.output
  for line in run.errors do IO.eprintln line
  match run.ending with
  | .ok status => return status.toUInt32
  | .error cause =>
    IO.eprintln cause.message
    return 1
