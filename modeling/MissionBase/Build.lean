import MissionBase.Config.Basic
import MissionBase.Database.Basic
import MissionBase.Table.Lines

/-!
# Building a database

A build is a computation that may fail. What it has done before a failure stays done: a failure
ends a unit of work, and the policy of the compilation decides what it means. Fatal errors always
go on; other errors go on in strict mode and are recorded otherwise, so that the next unit of work
begins in the state where the failed one ended.
-/

namespace MissionBase

/-- What a compilation works under: its options, what its times count from, and its files. -/
structure Setting where
  config : Config
  epoch : Epoch
  files : Files

/-- The setting of valid options. -/
def Setting.of (config : Config) (files : Files) : Except Error Setting := do
  config.validate
  return ⟨config, ← config.resolveEpoch, files⟩

/-- The database under construction with the diagnostics so far, in their order, and the state of
the stage at work. -/
structure Draft (σ : Type) where
  database : Database
  errors : List Error := []
  warnings : List String := []
  stage : σ

/-- A computation of a stage with state `σ`. -/
abbrev Build (σ : Type) (α : Type) := EStateM Error (Draft σ) α

namespace Build

variable {σ : Type}

/-- A result that may be an error. -/
def ofExcept {α : Type} : Except Error α → Build σ α
  | .ok x => pure x
  | .error e => throw e

instance : MonadLift (Except Error) (Build σ) := ⟨ofExcept⟩

/-- The database so far. -/
def database : Build σ Database := do return (← get).database

/-- Changes the database. -/
def changeDatabase (change : Database → Database) : Build σ Unit :=
  modify fun d => { d with database := change d.database }

/-- The state of the stage. -/
def stage : Build σ σ := do return (← get).stage

/-- Changes the state of the stage. -/
def changeStage (change : σ → σ) : Build σ Unit :=
  modify fun d => { d with stage := change d.stage }

/-- Adds to the database, with a refusal turned into an error. -/
def add {α : Type} (refused : String → Error)
    (insert : Database → Except DuplicateName (α × Database)) : Build σ α := do
  match insert (← database) with
  | .ok (x, db) =>
    changeDatabase fun _ => db
    return x
  | .error duplicate => throw (refused duplicate.message)

/-- Records that the database falls short of the tables, without an error. -/
def limitation (message : String) : Build σ Unit :=
  modify fun d => { d with warnings := d.warnings ++ [message] }

/-- Records an error. -/
def record (e : Error) : Build σ Unit := modify fun d => { d with errors := d.errors ++ [e] }

/-- Records an error, or fails with it in strict mode. -/
def report (setting : Setting) (e : Error) : Build σ Unit :=
  if setting.config.strict then throw e else record e

/-- Runs a unit of work under the policy of the compilation. -/
def recover (setting : Setting) (work : Build σ Unit) : Build σ Unit :=
  tryCatch work fun e => if e.isFatal then throw e else report setting e

/-- The records of a table. -/
def rows (setting : Setting) (table : String) : Except Error (List Row) :=
  let path := setting.config.tablePath table
  match setting.files.read path with
  | .ok bytes => .ok (readRows (setting.config.fileName table) setting.config.separator bytes)
  | .error .missing => .error (.tableNotFound path)
  | .error f => .error (.io f.message)

/-- Handles every record of a table as a unit of work; the number of records. -/
def scan (setting : Setting) (table : String) (handle : Row → Build σ Unit) : Build σ Nat := do
  let rs ← rows setting table
  rs.forM fun r => recover setting (handle r)
  return rs.length

/-- Runs a stage of its own and keeps what it has done to the database. The state of the stage is
given back with the result, even where it fails. -/
def within {τ α : Type} (start : σ → τ) (finish : σ → τ → σ) (work : Build τ α) : Build σ α :=
  fun d =>
    match work ⟨d.database, d.errors, d.warnings, start d.stage⟩ with
    | .ok x d' => .ok x ⟨d'.database, d'.errors, d'.warnings, finish d.stage d'.stage⟩
    | .error e d' => .error e ⟨d'.database, d'.errors, d'.warnings, finish d.stage d'.stage⟩

end Build

end MissionBase
