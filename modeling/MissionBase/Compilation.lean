import MissionBase.Commanding.Stage
import MissionBase.Table.Required
import MissionBase.Telemetry.Stage

/-!
# Compilation

From the options and the files to the database: the tables have to be there, the version table
says which database it is, then the telemetry stage and the command stage build it. In strict mode
the first error is the result; otherwise the errors come with the database, whose defective
records were passed over.
-/

namespace MissionBase

/-- Which database the tables describe (`VDF`). -/
structure DatabaseVersion where
  name : String
  comment : Option String
  domain : Int
  release : Int
  issue : Int
  deriving Repr, DecidableEq

namespace DatabaseVersion

/-- The version that a record tells. -/
def ofRow (row : Row) : Except Error DatabaseVersion := do
  row.require [0]
  let name ← row.text 0
  let domain ← row.intD 2 0
  let release ← row.intD 3 0
  let issue ← row.intD 4 0
  return ⟨name, row.text? 1, domain, release, issue⟩

/-- The text of a version. -/
def text (v : DatabaseVersion) : String := s!"{v.release}.{v.issue}"

end DatabaseVersion

/-- What a compilation gives. -/
structure Compiled where
  database : Database
  errors : List Error
  warnings : List String

/-- The numbers of what a compilation gives. -/
structure Statistics where
  parameterTypes : Nat
  parameters : Nat
  containers : Nat
  commands : Nat
  algorithms : Nat
  errors : Nat
  warnings : Nat
  deriving Repr, DecidableEq

/-- The numbers of a compilation. -/
def Compiled.statistics (c : Compiled) : Statistics :=
  { parameterTypes := c.database.parameterTypes.size
    parameters := c.database.parameters.size
    containers := c.database.containers.size
    commands := c.database.commands.size
    algorithms := c.database.algorithms.size
    errors := c.errors.length
    warnings := c.warnings.length }

/-- Reads `VDF`; the last record counts. -/
def readVersion (setting : Setting) : Build (Option DatabaseVersion) Unit := do
  let _ ← Build.scan setting "vdf" fun row => do
    let version ← DatabaseVersion.ofRow row
    Build.changeStage fun _ => some version
  match ← Build.stage with
  | none => throw (.structural "the VDF table has no valid record")
  | some version =>
    Build.changeDatabase fun db =>
      { db with version := some version.text, description := version.comment }

/-- Builds the database. -/
def buildDatabase (setting : Setting) (compiler : Option FormulaCompiler) : Build Unit Unit := do
  Build.within (fun _ => none) (fun _ _ => ()) (readVersion setting)
  Build.within (fun _ => ({} : TelemetryState)) (fun _ _ => ()) (buildTelemetry setting compiler)
  Build.within (fun _ => ({} : CommandingState)) (fun _ _ => ()) (buildCommands setting)

/-- Compiles the tables of a directory. -/
def compile (config : Config) (files : Files) (compiler : Option FormulaCompiler) :
    Except Error Compiled := do
  let setting ← Setting.of config files
  checkTables files config.path config.fileExtension
  let start : Draft Unit := { database := { name := config.spaceSystemName }, stage := () }
  match buildDatabase setting compiler start with
  | .ok _ d => return ⟨d.database, d.errors, d.warnings⟩
  | .error e _ => throw e

end MissionBase
