import MissionBase.Error
import MissionBase.Text.Blank
import MissionBase.Decimal.Numeral

/-!
# Records of a table

A record is a list of columns with its place. Columns count from zero here and from one in
messages. A column that is absent or empty is unset; a getter with a default gives it for an unset
column, and a getter without one reports an absent column, while an empty one is read as it is.
-/

namespace MissionBase

/-- A record of a table. -/
structure Row where
  fields : List String
  location : Location
  deriving Repr, DecidableEq

/-- The value of a text written in a format and a radix: natural numbers of format `U` in radix
`H` (sixteen), `O` (eight) or else ten, and decimal numerals in every other format. -/
def rawValue? (text : String) (format radix : Char) : Option Float :=
  let cs := Text.trimChars text.toList
  if format = 'U' then
    let base := if radix = 'H' then 16 else if radix = 'O' then 8 else 10
    (Text.nat64? base cs).map fun n => Decimal.nearest false n 1
  else Decimal.float? cs

namespace Row

/-- The column, present and not empty. -/
def text? (r : Row) (col : Nat) : Option String :=
  match r.fields[col]? with
  | some v => if v.isEmpty then none else some v
  | none => none

/-- Whether a column is set. -/
def has (r : Row) (col : Nat) : Bool := (r.text? col).isSome

/-- Fails with the first of the columns that is absent. -/
def require (r : Row) (cols : List Nat) : Except Error Unit :=
  match cols.find? fun col => r.fields.length ≤ col with
  | some col => .error (.missingColumn r.location (col + 1))
  | none => .ok ()

/-- A column that has to be present. -/
def text (r : Row) (col : Nat) : Except Error String :=
  match r.fields[col]? with
  | some v => .ok v
  | none => .error (.missingColumn r.location (col + 1))

/-- A set column, or the default. -/
def textD (r : Row) (col : Nat) (default : String) : String := (r.text? col).getD default

/-- The first character of a set column, or the default. -/
def flagD (r : Row) (col : Nat) (default : Char) : Char :=
  match r.text? col with
  | some v => v.toList.headD default
  | none => default

/-- The error of a column that cannot be read. -/
def invalid (r : Row) (col : Nat) (value : String) (expected : ColumnKind) : Error :=
  .invalidColumn r.location (col + 1) value expected

/-- A value read with blanks around it cut off. -/
def read {α : Type} (r : Row) (parse : List Char → Option α) (expected : ColumnKind) (col : Nat)
    (value : String) : Except Error α :=
  match parse (Text.trimChars value.toList) with
  | some x => .ok x
  | none => .error (r.invalid col value expected)

/-- The value of a column that has to be present. -/
def get {α : Type} (r : Row) (parse : List Char → Option α) (expected : ColumnKind) (col : Nat) :
    Except Error α :=
  (r.text col).bind (r.read parse expected col)

/-- The value of a set column, or the default. -/
def getD {α : Type} (r : Row) (parse : List Char → Option α) (expected : ColumnKind) (col : Nat)
    (default : α) : Except Error α :=
  match r.text? col with
  | some v => r.read parse expected col v
  | none => .ok default

/-- The value of a column if it is set. -/
def get? {α : Type} (r : Row) (parse : List Char → Option α) (expected : ColumnKind) (col : Nat) :
    Except Error (Option α) :=
  match r.text? col with
  | some v => (r.read parse expected col v).map some
  | none => .ok none

/-- An integer of 64 bits. -/
def int (r : Row) (col : Nat) : Except Error Int := r.get Text.int64? .integer col

/-- An integer of 64 bits, or the default. -/
def intD (r : Row) (col : Nat) (default : Int) : Except Error Int :=
  r.getD Text.int64? .integer col default

/-- An integer of 64 bits, if the column is set. -/
def int? (r : Row) (col : Nat) : Except Error (Option Int) := r.get? Text.int64? .integer col

/-- An integer of 32 bits. -/
def int32 (r : Row) (col : Nat) : Except Error Int := r.get Text.int32? .integer col

/-- An integer of 32 bits, or the default. -/
def int32D (r : Row) (col : Nat) (default : Int) : Except Error Int :=
  r.getD Text.int32? .integer col default

/-- A natural number of 64 bits. -/
def nat (r : Row) (col : Nat) : Except Error Nat := r.get (Text.nat64? 10) .unsignedInteger col

/-- A natural number of 64 bits, or the default. -/
def natD (r : Row) (col : Nat) (default : Nat) : Except Error Nat :=
  r.getD (Text.nat64? 10) .unsignedInteger col default

/-- A number. -/
def float (r : Row) (col : Nat) : Except Error Float := r.get Decimal.float? .number col

/-- A number, or the default. -/
def floatD (r : Row) (col : Nat) (default : Float) : Except Error Float :=
  r.getD Decimal.float? .number col default

/-- A number, if the column is set. -/
def float? (r : Row) (col : Nat) : Except Error (Option Float) :=
  r.get? Decimal.float? .number col

/-- A raw value in a format and a radix. -/
def rawValue (r : Row) (col : Nat) (format radix : Char) : Except Error Float :=
  (r.text col).bind fun v =>
    match rawValue? v format radix with
    | some x => .ok x
    | none => .error (r.invalid col v .rawValue)

/-- An error of this record that names something undeclared. -/
def reference (r : Row) (message : String) : Error := .reference r.location message

/-- An error of this record with an unacceptable value. -/
def data (r : Row) (message : String) : Error := .data r.location message

end Row

end MissionBase
