import MissionBase.CommandLine.Arguments
import MissionBase.Compilation
import MissionBase.Database.Document
import MissionBase.Json.Writer

/-!
# A call of the program

What a call compiles, writes and prints. The database is written before anything is printed, so a
call that cannot write it prints nothing but the failure.
-/

namespace MissionBase.CommandLine

/-- Why a call fails. -/
inductive Failure where
  /-- The options cannot be read from the configuration file, if there is one. -/
  | unreadable (file : Option String) (error : Error)
  /-- No compilation can run under the options. -/
  | invalid (error : Error)
  | compilation (path : String) (error : Error)
  | writing (path : String) (fault : String)
  deriving Repr, DecidableEq

/-- The wording of an error, with the cause that it passes on after it. -/
def causeText (e : Error) : String :=
  match e.sourceMessage? with
  | some source => e.message ++ ": " ++ source
  | none => e.message

/-- The wording of a failure. -/
def Failure.message : Failure → String
  | .unreadable (some file) e => s!"Failed to load configuration from {file}: {causeText e}"
  | .unreadable none e | .invalid e => s!"Invalid configuration: {causeText e}"
  | .compilation path e =>
    if e.isFatal then s!"Cannot compile {path}: {causeText e}"
    else s!"Compilation aborted in strict mode: {causeText e}"
  | .writing path fault => s!"Failed to write {path}: {fault}"

/-- A result with its error made a failure. -/
def failing {α : Type} (failure : Error → Failure) : Except Error α → Except Failure α
  | .ok x => .ok x
  | .error e => .error (failure e)

/-- Compiles what a call asks for. -/
def Arguments.compile (a : Arguments) (files : Files) : Except Failure Compiled := do
  let config ← failing (.unreadable a.config) (a.toConfig files)
  failing .invalid config.validate
  failing (.compilation a.path) (MissionBase.compile config files none)

/-- The database as a text. -/
def documentText (c : Compiled) : String := c.database.document.pretty

/-- The lines about errors and shortcomings. -/
def diagnosticLines (c : Compiled) : List String :=
  c.warnings.map ("warning: " ++ ·) ++ c.errors.map fun e => "error: " ++ e.message

/-- The lines of the summary. -/
def summaryLines (s : Statistics) : List String :=
  ["", "MIB compilation summary",
    s!"  Parameter types: {s.parameterTypes}",
    s!"  Parameters:      {s.parameters}",
    s!"  Containers:      {s.containers}",
    s!"  Commands:        {s.commands}",
    s!"  Algorithms:      {s.algorithms}",
    s!"  Errors:          {s.errors}",
    s!"  Warnings:        {s.warnings}"]

/-- What a call shows. -/
structure Transcript where
  failure : Option Failure := none
  output : List String := []
  diagnostics : List String := []
  /-- What is written to the output file. -/
  written : Option String := none
  deriving Repr, DecidableEq

/-- What a call prints after a compilation. -/
def Arguments.printed (a : Arguments) (c : Compiled) : Transcript :=
  if a.quiet then {}
  else { output := summaryLines c.statistics, diagnostics := diagnosticLines c }

/-- What a call shows where the files are given. -/
def Arguments.run (a : Arguments) (files : Files) : Transcript :=
  match a.compile files with
  | .error failure => { failure := some failure }
  | .ok compiled =>
    match a.output with
    | none => a.printed compiled
    | some path =>
      match files.writeFault? path with
      | some fault => { failure := some (.writing path fault.message) }
      | none => { a.printed compiled with written := some (documentText compiled) }

end MissionBase.CommandLine
