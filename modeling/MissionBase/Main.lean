import MissionBase.CommandLine.Run

/-!
# The program

Reads the files that a call needs, runs it, writes the database and prints what the call shows.
-/

namespace MissionBase.CommandLine

/-- The contents of a file where it can be read. -/
def readFile? (path : String) : IO (Option (List UInt8)) := do
  try
    return some (← IO.FS.readBinFile path).toList
  catch _ => return none

/-- Whether something that is no file stands at a path. -/
def standsDirectory (path : String) : IO Bool := do
  try
    let _ ← IO.FS.readBinFile path
    return false
  catch
    | .noFileOrDirectory .. => return false
    | _ => return true

/-- The files at some of the paths. -/
def snapshot (paths directories : List String) : IO Files := do
  let read ← paths.mapM fun path => do
    return (← readFile? path).map fun bytes => (pathComponents path, bytes)
  let present ← directories.filterM standsDirectory
  return { contents := read.filterMap id, directories := present.map pathComponents }

/-- The files that a call reads. -/
def Arguments.snapshot (a : Arguments) : IO Files := do
  let options ← CommandLine.snapshot a.config.toList []
  match a.toConfig options with
  | .error _ => return options
  | .ok config =>
    let tables ← CommandLine.snapshot (requiredTables.map config.tablePath) [a.path]
    return { tables with contents := tables.contents ++ options.contents }

/-- Writes the database of a compilation where the call asks for it. -/
def Arguments.write (a : Arguments) (c : Compiled) : IO (Option Failure) := do
  match a.output with
  | none => return none
  | some path =>
    try
      IO.FS.writeFile path (documentText c)
      return none
    catch
      | .noFileOrDirectory .. => return some (.writing path FileFault.missing.message)
      | e => return some (.writing path (toString e))

/-- Prints what a call shows; the code that it ends with. -/
def Transcript.print (t : Transcript) : IO UInt32 := do
  match t.failure with
  | some failure =>
    IO.eprintln s!"Error: {failure.message}"
    return 1
  | none =>
    t.diagnostics.forM IO.eprintln
    t.output.forM IO.println
    return 0

/-- Runs a call. -/
def Arguments.main (a : Arguments) : IO UInt32 := do
  let files ← a.snapshot
  match a.compile files with
  | .error failure => ({ failure := some failure } : Transcript).print
  | .ok compiled =>
    match ← a.write compiled with
    | some failure => ({ failure := some failure } : Transcript).print
    | none => (a.printed compiled).print

/-- How the program is called. -/
def usage : String :=
  "usage: [-c FILE] [-o FILE] [-n NAME] [--epoch EPOCH] [--strict] [-v]... [-q] MIB_PATH"

end MissionBase.CommandLine

open MissionBase.CommandLine in
/-- The program. -/
def main (args : List String) : IO UInt32 := do
  match Arguments.parse args with
  | .ok a => a.main
  | .error .displayHelp | .error .displayVersion =>
    IO.println usage
    return 0
  | .error _ =>
    IO.eprintln usage
    return 2
