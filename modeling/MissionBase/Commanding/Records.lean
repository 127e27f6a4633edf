import MissionBase.Table.Row

/-!
# Records of the command tables

What each table says, read from its records. A record keeps its place, so that an error found
later still names the line that caused it.
-/

namespace MissionBase

/-- A command parameter (`CPC`). -/
structure CommandParameter where
  location : Location
  name : String
  description : Option String
  ptc : Int
  pfc : Int
  unit : Option String
  /-- Decalibrated (`C`), textual (`T`), natural (`N`), a parameter identifier (`P`) or binary
  (`A`). -/
  category : Char
  /-- The set of accepted ranges. -/
  rangeSet : Option String
  decalibration : Option String
  /-- The set of labels of a textual parameter. -/
  aliasSet : Option String
  /-- Whether the default is a raw (`R`) or an engineering value. -/
  interpretation : Char
  defaultValue : Option String
  /-- Whether a time is correlated with the clock on board. -/
  correlated : Bool
  /-- The identifier of the parameter on board. -/
  onBoardId : Option Int
  deriving Repr, DecidableEq

/-- The command parameter of a record. -/
def CommandParameter.ofRow (row : Row) : Except Error CommandParameter := do
  row.require [0, 2, 3]
  return {
    location := row.location
    name := ← row.text 0
    description := row.text? 1
    ptc := ← row.int32 2
    pfc := ← row.int32 3
    unit := row.text? 6
    category := row.flagD 7 'N'
    rangeSet := row.text? 8
    decalibration := row.text? 9
    aliasSet := row.text? 10
    interpretation := row.flagD 11 'R'
    defaultValue := row.text? 12
    correlated := row.flagD 13 'Y' == 'Y'
    onBoardId := ← row.int? 14 }

/-- What an element of a command is. -/
inductive ElementKind where
  /-- A constant bit pattern. -/
  | fixedArea
  /-- An argument whose value the command binds. -/
  | fixed
  | editable
  deriving Repr, DecidableEq

/-- Where the value of an element comes from. -/
inductive ValueOrigin where
  | raw
  | engineering
  /-- The default of its command parameter. -/
  | parameterDefault
  /-- The current value of a telemetry parameter. -/
  | telemetry
  deriving Repr, DecidableEq

/-- An element of a command (`CDF`). -/
structure CommandElement where
  location : Location
  kind : ElementKind
  description : Option String
  /-- The width in bits. -/
  size : Nat
  /-- The bit by which the elements of a command are sorted. -/
  bit : Int
  /-- How many of the following elements are repeated as often as this one says. -/
  groupSize : Nat
  /-- The command parameter, which a fixed area does not need. -/
  parameter : Option String
  origin : ValueOrigin
  value : Option String
  /-- The telemetry parameter that a value is taken from. -/
  telemetryParameter : Option String
  /-- The bytes of the size tag of a value of variable length. -/
  sizeTagBytes : Int
  deriving Repr, DecidableEq

namespace CommandElement

/-- The kind that a flag stands for. -/
def kindOf? (flag : Char) : Option ElementKind :=
  if flag = 'A' then some .fixedArea
  else if flag = 'F' then some .fixed
  else if flag = 'E' then some .editable
  else none

/-- The origin that a flag stands for. -/
def originOf? (flag : Char) : Option ValueOrigin :=
  if flag = 'R' then some .raw
  else if flag = 'E' then some .engineering
  else if flag = 'D' then some .parameterDefault
  else if flag = 'T' then some .telemetry
  else none

/-- The value of an option, or an error. -/
def required {α : Type} (e : Error) : Option α → Except Error α
  | some x => .ok x
  | none => .error e

/-- The element of a record. -/
def ofRow (row : Row) (sizeTagBytes : Int) : Except Error CommandElement := do
  row.require [0, 1, 3, 4]
  let kindFlag := row.flagD 1 'E'
  let kind ← required (row.data s!"unsupported CDF_ELTYPE '{kindFlag}'") (kindOf? kindFlag)
  if kind != .fixedArea && !row.has 6 then
    throw (row.data "argument element without CDF_PNAME")
  let originFlag := row.flagD 7 'R'
  let origin ← required (row.data s!"invalid CDF_INTER '{originFlag}'") (originOf? originFlag)
  let groupSize ← row.intD 5 0
  if groupSize < 0 then throw (row.data s!"negative CDF_GRPSIZE {groupSize}")
  let size ← row.int 3
  if size < 0 ∨ 4294967295 < size then throw (row.data s!"invalid CDF_ELLEN {size}")
  return {
    location := row.location
    kind := kind
    description := row.text? 2
    size := size.toNat
    bit := ← row.int 4
    groupSize := groupSize.toNat
    parameter := row.text? 6
    origin := origin
    value := row.text? 8
    telemetryParameter := row.text? 9
    sizeTagBytes := ← row.int32D 11 sizeTagBytes }

/-- Whether the element is an argument and no constant. -/
def isArgument (e : CommandElement) : Bool := e.kind != .fixedArea

/-- An error of this element with an unacceptable value. -/
def dataError (e : CommandElement) (message : String) : Error := .data e.location message

end CommandElement

end MissionBase
