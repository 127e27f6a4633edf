import MissionBase.Table.Row
import MissionBase.Text.Word

/-!
# Records of the telemetry tables

What each table says, read from its records. A record keeps its place, so that an error found
later still names the line that caused it.
-/

namespace MissionBase

/-- The declaration of a parameter (`PCF`). -/
structure ParameterRecord where
  location : Location
  name : String
  description : Option String
  /-- The identifier of the parameter on board. -/
  onBoardId : Option Int
  unit : Option String
  ptc : Int
  pfc : Int
  /-- The parameter whose value identifies the one meant, for a deduced parameter. -/
  related : Option String
  category : Char
  /-- Measured (`R`), constant (`C`), or derived. -/
  nature : Char
  /-- The calibration. -/
  calibration : Option String
  interpolation : Option Char
  /-- Whether limits are checked for consistency of status. -/
  statusChecked : Bool
  /-- The value of a constant, the initial value of a text. -/
  value : Option String
  /-- The bytes of the size tag of a value of variable length. -/
  sizeTagBytes : Int
  deriving Repr, DecidableEq

namespace ParameterRecord

/-- The parameter that a record declares. -/
def ofRow (row : Row) (sizeTagBytes : Int) : Except Error ParameterRecord := do
  row.require [0, 4, 5, 9, 10]
  let name ← row.text 0
  if !Text.isWord name.toList then throw (row.data s!"invalid parameter name '{name}'")
  return {
    location := row.location
    name := name
    description := row.text? 1
    onBoardId := ← row.int? 2
    unit := row.text? 3
    ptc := ← row.int32 4
    pfc := ← row.int32 5
    related := row.text? 8
    category := row.flagD 9 'N'
    nature := row.flagD 10 'R'
    calibration := row.text? 11
    interpolation := (row.text? 12).bind fun v => v.toList.head?
    statusChecked := row.flagD 13 'N' == 'Y'
    value := row.text? 15
    sizeTagBytes := ← row.int32D 24 sizeTagBytes }

/-- The value of a constant. -/
def constant? (r : ParameterRecord) : Option String := if r.nature = 'C' then r.value else none

/-- Whether a formula gives the value. -/
def isSynthetic (r : ParameterRecord) : Bool := r.nature == 'D'

end ParameterRecord

/-- Where a packet carries an identification value: a byte offset and a width in bits. -/
structure IdentificationField where
  offset : Int
  width : Int
  deriving Repr, DecidableEq

/-- How the packets of a type and subtype are told apart (`PIC`). -/
structure IdentificationRule where
  location : Location
  type : Int
  subtype : Int
  first : IdentificationField
  second : IdentificationField
  /-- The application that the rule is for; none for every application. -/
  apid : Option Int
  deriving Repr, DecidableEq

/-- The rule of a record. -/
def IdentificationRule.ofRow (row : Row) : Except Error IdentificationRule := do
  row.require [0, 1, 2, 3, 4, 5]
  let type ← row.int 0
  let subtype ← row.int 1
  let firstOffset ← row.int 2
  let firstWidth ← row.int 3
  let secondOffset ← row.int 4
  let secondWidth ← row.int 5
  let apid ← row.int? 6
  return ⟨row.location, type, subtype, ⟨firstOffset, firstWidth⟩, ⟨secondOffset, secondWidth⟩, apid⟩

/-- What packets of one kind have in common. -/
structure PacketKey where
  apid : Int
  type : Int
  subtype : Int
  deriving Repr, DecidableEq

/-- A packet (`PID`). -/
structure PacketRecord where
  location : Location
  key : PacketKey
  first : Int
  second : Int
  /-- The number of the packet. -/
  spid : Int
  description : Option String
  /-- The structure of a variable packet. -/
  structureId : Option Int
  /-- The bytes of the data field header. -/
  headerBytes : Int
  valid : Bool
  deriving Repr, DecidableEq

/-- The packet of a record. -/
def PacketRecord.ofRow (row : Row) : Except Error PacketRecord := do
  row.require [0, 1, 2, 5, 9]
  let type ← row.int 0
  let subtype ← row.int 1
  let apid ← row.int 2
  let first ← row.intD 3 0
  let second ← row.intD 4 0
  let spid ← row.int 5
  let structureId ← row.int? 8
  let headerBytes ← row.int 9
  return {
    location := row.location
    key := ⟨apid, type, subtype⟩
    first := first
    second := second
    spid := spid
    description := row.text? 6
    structureId := structureId.filter fun t => decide (0 ≤ t)
    headerBytes := headerBytes
    valid := row.flagD 12 'Y' != 'N' }

/-- An element of a variable packet structure (`VPD`). -/
structure VariableElement where
  location : Location
  structureId : Int
  position : Int
  name : String
  /-- How many of the following elements this one counts. -/
  groupSize : Nat
  /-- A positive number stands for the value of the element as the count. -/
  fixedRepetitions : Int
  /-- The bits between the end of the element before and this one. -/
  offset : Int
  deriving Repr, DecidableEq

/-- The element of a record. -/
def VariableElement.ofRow (row : Row) : Except Error VariableElement := do
  row.require [0, 1, 2]
  let groupSize ← row.intD 3 0
  if groupSize < 0 then throw (row.data s!"negative VPD_GRPSIZE {groupSize}")
  return {
    location := row.location
    structureId := ← row.int 0
    position := ← row.int 1
    name := ← row.text 2
    groupSize := groupSize.toNat
    fixedRepetitions := ← row.intD 4 0
    offset := ← row.intD 13 0 }

/-- A limit check of a parameter (`OCP`). -/
structure LimitCheck where
  location : Location
  position : Int
  kind : Char
  low : Option String
  high : Option String
  /-- The parameter whose raw value decides whether the check applies. -/
  reference : Option String
  value : Int
  deriving Repr, DecidableEq

namespace LimitCheck

/-- The check of a record. -/
def ofRow (row : Row) : Except Error LimitCheck := do
  row.require [0, 1, 2]
  return {
    location := row.location
    position := ← row.int 1
    kind := row.flagD 2 'H'
    low := row.text? 3
    high := row.text? 4
    reference := row.text? 5
    value := ← row.intD 6 1 }

/-- How serious a violation is: only soft limits give warnings. -/
def isSoft (c : LimitCheck) : Bool := c.kind == 'S'

/-- Checks of differences, events and consistency have no form in a type. -/
def isSupported (c : LimitCheck) : Bool := c.kind != 'D' && c.kind != 'E' && c.kind != 'C'

end LimitCheck

end MissionBase
