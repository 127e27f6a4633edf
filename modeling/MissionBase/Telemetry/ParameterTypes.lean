import MissionBase.Telemetry.State

/-!
# Types of parameters

The type that a declaration asks for. Its category decides between numbers, enumerations and
texts; a calibrated number takes its engineering type from its calibration. A parameter with
context calibrations has a type of its own, because they are attached to the type; every other
parameter shares the type of its key, which the first parameter with that key creates.
-/

namespace MissionBase

/-- Milliseconds as a part of a second, the scale of times. -/
def timeScale : Float := 0.001

namespace ParameterRecord

/-- An error of this declaration. -/
def dataError (r : ParameterRecord) (message : String) : Error := .data r.location message

/-- The encoding that the codes of a declaration name. -/
def encoding (r : ParameterRecord) : Except Error Encoding :=
  match Encoding.resolve r.ptc r.pfc r.sizeTagBytes with
  | .ok e => .ok e
  | .error e => .error (.type r.location e)

/-- The type of a calibrated number. The calibration of the declaration, or else of its first
context, decides the engineering type; only the former is the calibrator of the type. -/
def calibratedType (r : ParameterRecord) (calibrations : Registry) (encoding : Encoding) :
    Except Error ParameterType := do
  let reference := match r.calibration with
    | some name => some name
    | none => (calibrations.contextRules r.name).head?.map ContextRule.select
  let value := CurveDefinition.valueType (reference.bind calibrations.engineeringFormat?)
  let type : ParameterType := { name := "", value := value, encoding := some encoding }
  match r.calibration with
  | none => return type
  | some name =>
    match calibrations.numeric? name with
    | some calibrator => return { type with calibrator := some calibrator }
    | none => throw (.reference r.location s!"unknown numeric calibration '{name}'")

/-- The type of a number, or of another value that is no text with labels. -/
def numericType (r : ParameterRecord) (calibrations : Registry) (epoch : Epoch) :
    Except Error ParameterType := do
  let encoding ← r.encoding
  let calibrated := r.calibration.isSome || calibrations.hasContext r.name
  let plain (value : ValueType) : ParameterType :=
    { name := "", value := value, encoding := some encoding }
  if r.ptc = 1 then
    if calibrated then
      throw (r.dataError s!"calibration of boolean parameter '{r.name}' is not supported")
    return plain .boolean
  else if 2 ≤ r.ptc ∧ r.ptc ≤ 5 then
    if calibrated then r.calibratedType calibrations encoding
    else
      match ValueType.natural? encoding with
      | some value => return plain value
      | none => throw (r.dataError s!"no natural type for PTC {r.ptc}")
  else if calibrated then
    throw (r.dataError s!"calibration of PTC {r.ptc} parameter '{r.name}' is not supported")
  else if r.ptc = 6 ∨ r.ptc = 7 then return plain .binary
  else if r.ptc = 8 then return plain .string
  else if r.ptc = 9 then
    return { name := "", value := .absoluteTime epoch timeScale
             encoding := some (encoding.withReferenceClock epoch.referenceFineBytes?) }
  else if r.ptc = 10 then return plain (.relativeTime timeScale)
  else if r.ptc = 12 then
    match HeaderMember.packetHeader? r.pfc with
    | some members => return plain (.aggregate members)
    | none => throw (r.dataError s!"unsupported embedded header PFC {r.pfc}")
  else throw (.type r.location (.unknownType r.ptc r.pfc))

/-- The type of an enumeration whose labels are not known: that of its raw value. -/
def rawType (encoding : Encoding) : ParameterType :=
  { name := "", value := (ValueType.natural? encoding).getD (.integer false 32)
    encoding := some encoding }

/-- The type of an enumeration. Without labels it is recorded why, and the raw value stands. -/
def textualType {σ : Type} (r : ParameterRecord) (setting : Setting) (calibrations : Registry) :
    Build σ ParameterType := do
  let encoding ← r.encoding
  match r.calibration with
  | none =>
    if calibrations.hasContext r.name then
      Build.limitation (s!"{r.location.text}: textual context calibrations are not supported, " ++
        s!"'{r.name}' uses an integer type")
    else
      Build.report setting (r.dataError s!"textual parameter '{r.name}' has no PCF_CURTX")
    return rawType encoding
  | some name =>
    match calibrations.texts.find? name with
    | some text => return (rawType encoding).calibrated (.textual text.labels)
    | none =>
      Build.report setting (.reference r.location s!"unknown textual calibration '{name}'")
      return rawType encoding

/-- The type of a text. -/
def stringType (r : ParameterRecord) : Except Error ParameterType := do
  if r.ptc ≠ 8 then
    throw (r.dataError s!"text parameter '{r.name}' must have PTC 8, not {r.ptc}")
  return { name := "", value := .string, encoding := some (← r.encoding), initialValue := r.value }

/-- The type that a declaration asks for, without a name. -/
def buildType {σ : Type} (r : ParameterRecord) (setting : Setting) (calibrations : Registry) :
    Build σ ParameterType := do
  let type ←
    if r.category = 'N' then Build.ofExcept (r.numericType calibrations setting.epoch)
    else if r.category = 'S' then r.textualType setting calibrations
    else if r.category = 'T' then Build.ofExcept r.stringType
    else throw (r.dataError s!"invalid PCF_CATEG '{r.category}'")
  return { type with
    unit := r.unit
    initialValue := match r.constant? with
      | some value => some value
      | none => type.initialValue }

end ParameterRecord

namespace Telemetry

/-- The type of a declared parameter: the shared one of its key, or a new one. -/
def typeFor (setting : Setting) (r : ParameterRecord) : TelemetryBuild ParameterTypeRef := do
  let state ← Build.stage
  let key := TypeKey.ofRecord r
  let shared := !state.calibrations.hasContext r.name
  match if shared then state.sharedTypes.find? key else none with
  | some type => return type
  | none =>
    let type ← r.buildType setting state.calibrations
    let db ← Build.database
    let base := key.typeName
    let name :=
      if shared && !db.parameterTypes.has base then base else db.uniqueTypeName base
    let ref ← Build.add r.dataError fun db => db.addParameterType { type with name := name }
    if shared then
      Build.changeStage fun s => { s with sharedTypes := s.sharedTypes.set key ref }
    return ref

end Telemetry

end MissionBase
