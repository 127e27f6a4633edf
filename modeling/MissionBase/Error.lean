import MissionBase.Encoding
import MissionBase.Json.Fault

/-!
# Errors

Why a step of a compilation fails. Errors caused by a record carry its place in its table; those
of the environment (files, options) are fatal and end a compilation whatever its mode.
-/

namespace MissionBase

/-- The place of a record: a file name and a line, counted from one. -/
structure Location where
  file : String
  line : Nat
  deriving Repr, DecidableEq

/-- A place as it stands in front of a message. -/
def Location.text (l : Location) : String := s!"{l.file}:{l.line}"

/-- What a column was read as. -/
inductive ColumnKind where
  | integer
  | unsignedInteger
  | number
  | rawValue
  deriving Repr, DecidableEq

/-- The name of a kind of column. -/
def ColumnKind.text : ColumnKind → String
  | integer => "integer"
  | unsignedInteger => "unsigned integer"
  | number => "number"
  | rawValue => "raw value"

/-- A cause of failure. -/
inductive Error where
  | io (message : String)
  /-- A configuration document that cannot be read. -/
  | document (category : Json.Category) (message : String)
  | tableNotFound (path : String)
  | missingTables (root : String) (tables : List String)
  /-- A record too short for a column, which is counted from one. -/
  | missingColumn (location : Location) (column : Nat)
  | invalidColumn (location : Location) (column : Nat) (value : String) (expected : ColumnKind)
  /-- A record that names something undeclared. -/
  | reference (location : Location) (message : String)
  /-- A record whose values are not acceptable. -/
  | data (location : Location) (message : String)
  | type (location : Location) (error : TypeError)
  /-- A database that would not be well formed. -/
  | structural (message : String)
  | synthetic (parameter : String) (message : String)
  | configuration (message : String)
  deriving Repr, DecidableEq

namespace Error

/-- The place of the record that is to blame. -/
def location? : Error → Option Location
  | missingColumn l _ | invalidColumn l _ _ _ | reference l _ | data l _ | type l _ => some l
  | _ => none

/-- Whether the error ends a compilation whatever its mode. -/
def isFatal : Error → Bool
  | io _ | document .. | tableNotFound _ | missingTables .. | configuration _ => true
  | _ => false

/-- The wording of an error. -/
def message : Error → String
  | io m => "IO error: " ++ m
  | document _ m => "JSON error: " ++ m
  | tableNotFound path => "Table file not found: " ++ path
  | missingTables root tables =>
    "Missing table files in " ++ root ++ ": " ++ ", ".intercalate tables
  | missingColumn l column => s!"{l.text}: missing column {column}"
  | invalidColumn l column value expected =>
    s!"{l.text}: cannot parse '{value}' in column {column} as {expected.text}"
  | reference l m => s!"{l.text}: {m}"
  | data l m => s!"{l.text}: {m}"
  | type l e => s!"{l.text}: {e.message}"
  | structural m => m
  | synthetic parameter m => s!"Synthetic parameter '{parameter}': {m}"
  | configuration m => "Configuration error: " ++ m

/-- The wording of the cause that an error passes on, if it does. -/
def sourceMessage? : Error → Option String
  | io m => some m
  | document _ m => some m
  | type _ e => some e.message
  | _ => none

end Error

end MissionBase
