import MissionBase.Commanding.State
import MissionBase.Telemetry.Parameters

/-!
# Types of arguments

The type of an argument follows the category of its command parameter: decalibrated numbers,
enumerations from sets of aliases, natural types, parameter identifiers and binary values. A type is
made on first use and shared by all elements with the same command parameter and size tag.
-/

namespace MissionBase

namespace CommandParameter

/-- An error of this declaration. -/
def dataError (p : CommandParameter) (message : String) : Error := .data p.location message

/-- An error of this declaration that names something undeclared. -/
def referenceError (p : CommandParameter) (message : String) : Error :=
  .reference p.location message

/-- The encoding that the codes of a declaration name. -/
def encoding (p : CommandParameter) (sizeTagBytes : Int) : Except Error Encoding :=
  match Encoding.resolve p.ptc p.pfc sizeTagBytes with
  | .ok e => .ok e
  | .error e => .error (.type p.location e)

/-- A type of an argument. -/
def typeOf (p : CommandParameter) (value : ValueType) (encoding : Encoding) : ArgumentType :=
  { name := p.name, value := value, encoding := some encoding }

/-- The type of a number that a curve turns into its raw value. -/
def decalibratedType (p : CommandParameter) (calibrations : Registry) (encoding : Encoding) :
    Except Error ArgumentType :=
  match p.decalibration with
  | none => .error (p.dataError s!"calibrated argument '{p.name}' has no CPC_CCAREF")
  | some name =>
    match calibrations.decalibrations.find? name with
    | none => .error (p.referenceError s!"unknown decalibration curve '{name}'")
    | some curve =>
      if encoding.isNumeric then
        let value := CurveDefinition.valueType (some curve.engineeringFormat)
        .ok { p.typeOf value encoding with decalibrator := some curve.decalibrator }
      else .error (p.dataError s!"calibrated argument '{p.name}' needs a numeric encoding")

/-- Whether raw values of a format fit an encoding of numbers. -/
def formatFits (format : Char) (encoding : Encoding) : Bool :=
  if encoding.isInteger then format == 'U' || format == 'I' else format == 'R'

/-- The type of an enumeration with the labels of a set of aliases. -/
def enumeratedType (p : CommandParameter) (calibrations : Registry) (encoding : Encoding) :
    Except Error ArgumentType :=
  match p.aliasSet with
  | none => .error (p.dataError s!"textual argument '{p.name}' has no CPC_PAFREF")
  | some name =>
    match calibrations.aliases.find? name with
    | none => .error (p.referenceError s!"unknown alias set '{name}'")
    | some set =>
      if !encoding.isNumeric then
        .error (p.dataError s!"textual argument '{p.name}' needs a numeric encoding")
      else if formatFits set.rawFormat encoding then
        .ok (p.typeOf (.enumerated set.labels) encoding)
      else
        .error (p.dataError (s!"alias set '{name}' with raw format '{set.rawFormat}' does not " ++
          s!"match the encoding of '{p.name}'"))

/-- The engineering type that a natural argument has. -/
def naturalValue (p : CommandParameter) (epoch : Epoch) (encoding : Encoding) :
    Except Error ValueType :=
  if p.ptc = 1 then .ok .boolean
  else if 2 ≤ p.ptc ∧ p.ptc ≤ 5 then
    match ValueType.natural? encoding with
    | some value => .ok value
    | none => .error (p.dataError s!"no natural type for PTC {p.ptc}")
  else if p.ptc = 6 ∨ p.ptc = 7 then .ok .binary
  else if p.ptc = 8 then .ok .string
  else if p.ptc = 9 then .ok (.absoluteTime epoch timeScale)
  else if p.ptc = 10 then .ok (.relativeTime timeScale)
  else .error (.type p.location (.unknownType p.ptc p.pfc))

/-- The type of a natural argument. -/
def naturalType (p : CommandParameter) (epoch : Epoch) (encoding : Encoding) :
    Except Error ArgumentType := do
  let value ← p.naturalValue epoch encoding
  let encoding :=
    if p.ptc = 9 then encoding.withReferenceClock epoch.referenceFineBytes? else encoding
  return p.typeOf value encoding

/-- The type of an embedded packet header. -/
def headerType (p : CommandParameter) : Except Error ArgumentType :=
  if p.category = 'N' then
    match HeaderMember.packetHeader? p.pfc with
    | some members => .ok { name := p.name, value := .aggregate members }
    | none =>
      .error (.type p.location
        (.invalidCombination p.ptc p.pfc "embedded packets are TM (PFC 0) or TC (PFC 1)"))
  else
    .error (p.dataError
      s!"embedded packet argument '{p.name}' cannot have CPC_CATEG '{p.category}'")

/-- The type with the ranges of accepted values that the declaration names. -/
def withRanges (p : CommandParameter) (calibrations : Registry) (type : ArgumentType) :
    Except Error ArgumentType :=
  match p.rangeSet with
  | none => .ok type
  | some name =>
    match calibrations.rangeSets.find? name with
    | some set => .ok { type with validRanges := set.ranges, rangesCalibrated := set.isCalibrated }
    | none => .error (p.referenceError s!"unknown range set '{name}'")

/-- The type that a declaration asks for. -/
def buildType (p : CommandParameter) (epoch : Epoch) (calibrations : Registry)
    (sizeTagBytes : Int) : Except Error ArgumentType := do
  if p.ptc = 12 then p.headerType
  else
    let encoding ← p.encoding sizeTagBytes
    let type ←
      if p.category = 'C' then p.decalibratedType calibrations encoding
      else if p.category = 'T' then p.enumeratedType calibrations encoding
      else if p.category = 'N' then p.naturalType epoch encoding
      else if p.category = 'A' then pure (p.typeOf .binary encoding)
      else
        throw (p.dataError s!"argument '{p.name}' has unsupported CPC_CATEG '{p.category}'")
    p.withRanges calibrations { type with unit := p.unit }

end CommandParameter

/-- The parameters by their identifiers on board; the last one declared with an identifier has
it. -/
def Database.onBoardIds (db : Database) : Index Int String :=
  db.parameters.toList.foldl (fun owners p =>
    (p.aliases.filter fun a => a.space == Telemetry.onBoardSpace).foldl (fun owners a =>
      match Text.int64? a.name.toList with
      | some id => owners.set id p.name
      | none => owners) owners) {}

/-- The labels of the parameters with identifiers on board, by identifier. -/
def Database.identifierLabels (db : Database) : Labels :=
  { values := (Index.sortByKey (·.1) db.onBoardIds.entries).map fun (id, name) => ⟨id, name⟩ }

namespace Commanding

/-- Adds a type of arguments. -/
def addArgumentType (type : ArgumentType) : CommandingBuild ArgumentTypeRef := do
  let (ref, db) := (← Build.database).addArgumentType type
  Build.changeDatabase fun _ => db
  return ref

/-- The name of the enumeration of parameter identifiers of a format. -/
def identifierTypeName (pfc : Int) : String := s!"parameter_id_{pfc}"

/-- The enumeration of parameter identifiers, one for each format. -/
def identifierType (p : CommandParameter) (sizeTagBytes : Int) :
    CommandingBuild ArgumentTypeRef := do
  if p.ptc ≠ 3 then
    throw (p.dataError s!"parameter id argument '{p.name}' must have PTC 3, not {p.ptc}")
  match (← Build.stage).identifierTypes.find? p.pfc with
  | some type => return type
  | none =>
    let encoding ← p.encoding sizeTagBytes
    let labels := (← Build.database).identifierLabels
    let type ← addArgumentType
      { name := identifierTypeName p.pfc, value := .enumerated labels, encoding := some encoding }
    Build.changeStage fun s => { s with identifierTypes := s.identifierTypes.set p.pfc type }
    return type

/-- The type of an argument with a size tag: a shared one, or a new one. -/
def argumentTypeFor (setting : Setting) (p : CommandParameter) (sizeTagBytes : Int) :
    CommandingBuild ArgumentTypeRef := do
  if p.category = 'P' then identifierType p sizeTagBytes
  else
    let state ← Build.stage
    let key := (p.name, sizeTagBytes)
    match state.argumentTypes.find? key with
    | some type => return type
    | none =>
      let type ← addArgumentType
        (← p.buildType setting.epoch state.calibrations sizeTagBytes)
      Build.changeStage fun s => { s with argumentTypes := s.argumentTypes.set key type }
      return type

/-- Reads `CPC`. -/
def loadParameters (setting : Setting) : CommandingBuild Unit := do
  let _ ← Build.scan setting "cpc" fun row => do
    let p ← CommandParameter.ofRow row
    let state ← Build.stage
    if state.parameters.has p.name then
      throw (row.data s!"duplicate command parameter '{p.name}'")
    Build.changeStage fun s => { s with parameters := s.parameters.set p.name p }

end Commanding

end MissionBase
