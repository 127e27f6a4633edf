import MissionBase.Telemetry.State

/-!
# Limits

The checks of `OCP` that `OCF` attaches to a parameter. They become alarms of a copy of its type,
so that parameters that shared the type keep it without alarms.
-/

namespace MissionBase.Telemetry

/-- How the values of limit checks are to be read. -/
inductive LimitCoding where
  /-- Raw values of an enumeration, standing for their labels. -/
  | rawLabels
  | labels
  | numeric
  deriving Repr, DecidableEq

/-- What a record of `OCF` says. -/
structure LimitRecord where
  parameter : String
  minViolations : Int
  /-- How many checks may apply at a time. -/
  checkCount : Int
  interpretation : Char
  coding : Char
  deriving Repr, DecidableEq

/-- What a record of `OCF` says. -/
def LimitRecord.ofRow (row : Row) : Except Error LimitRecord := do
  row.require [0, 1, 2, 3, 4]
  let parameter ← row.text 0
  let minViolations ← row.int 1
  let checkCount ← row.int 2
  return ⟨parameter, minViolations, checkCount, row.flagD 3 'U', row.flagD 4 'R'⟩

/-- The violations in a row that raise an alarm: at least one, and no more than 32 bits hold. -/
def LimitRecord.violations (r : LimitRecord) : Nat := min (max r.minViolations 1).toNat 4294967295

/-- Whether checks are coded as values of the parameter, raw or engineering. -/
def LimitRecord.isValueCoded (r : LimitRecord) : Bool := r.coding == 'R' || r.coding == 'I'

/-- How the checks of a parameter are to be read, where their coding fits its type. -/
def codingFor? (r : LimitRecord) (value : ValueType) : Option LimitCoding :=
  if r.isValueCoded then
    if value.isEnumerated && r.interpretation == 'U' then some .rawLabels
    else if value.isNumeric then some .numeric
    else none
  else if r.coding == 'A' && value.isEnumerated then some .labels
  else none

/-- The condition under which a check applies. -/
def checkContext (db : Database) (check : LimitCheck) : Except Error (Option Comparison) :=
  match check.reference with
  | none => .ok none
  | some name =>
    match db.parameters.find? name with
    | some parameter => .ok (some (.rawEquals parameter (toString check.value)))
    | none => .error (.reference check.location s!"unknown limit context parameter '{name}'")

/-- A bound of a numeric check. -/
def bound (check : LimitCheck) : Option String → Except Error (Option Float)
  | none => .ok none
  | some text =>
    match Decimal.float? (Text.trimChars text.toList) with
    | some x => .ok (some x)
    | none => .error (.data check.location s!"invalid limit value '{text}'")

/-- The type with the range of a numeric check. -/
def withRange (check : LimitCheck) (violations : Nat) (context : Option Comparison)
    (level : AlarmLevel) (type : ParameterType) : Except Error ParameterType := do
  let low ← bound check check.low
  let high ← bound check check.high
  match type.changeRangeAlarm? context fun a =>
      { a with minViolations := violations, ranges := a.ranges ++ [⟨low, high, level⟩] } with
  | some type => return type
  | none => throw (.data check.location "numeric limit on an enumeration alarm")

/-- The label that a check of an enumeration names. A raw value without a label names none. -/
def checkLabel (check : LimitCheck) (coding : LimitCoding) (value : ValueType) :
    Except Error (Option String) :=
  match check.low with
  | none => .error (.data check.location "limit check without OCP_LVALU")
  | some text =>
    if coding = .labels then .ok (some text)
    else
      match Decimal.float? (Text.trimChars text.toList) with
      | some raw => .ok (value.labels?.bind fun l => l.label? raw)
      | none => .error (.data check.location s!"invalid raw limit value '{text}'")

/-- The type with the label of a check. -/
def withLabel (check : LimitCheck) (coding : LimitCoding) (context : Option Comparison)
    (level : AlarmLevel) (type : ParameterType) : Except Error ParameterType := do
  match ← checkLabel check coding type.value with
  | none => return type
  | some label =>
    match type.addLabelAlarm? ⟨context, label, level⟩ with
    | some type => return type
    | none => throw (.data check.location "enumeration limit on a numeric alarm")

/-- The type with the alarm of a check. -/
def withCheck (db : Database) (coding : LimitCoding) (violations : Nat) (type : ParameterType)
    (check : LimitCheck) : Except Error ParameterType := do
  let context ← checkContext db check
  let level := if check.isSoft then AlarmLevel.warning else .critical
  if coding = .numeric then withRange check violations context level type
  else withLabel check coding context level type

/-- The type with the alarms of the checks that have a form in a type; of the others it is recorded
that they have none. -/
def withChecks (coding : LimitCoding) (violations : Nat) (checks : List LimitCheck)
    (type : ParameterType) : TelemetryBuild ParameterType :=
  checks.foldlM (fun type check => do
    if check.isSupported then withCheck (← Build.database) coding violations type check
    else
      Build.limitation
        s!"{check.location.text}: limit check type '{check.kind}' is not supported"
      return type) type

/-- Gives a parameter a copy of its type with the alarms of its checks. -/
def attachChecks (row : Row) (r : LimitRecord) (parameter : ParameterRef) (coding : LimitCoding)
    (checks : List LimitCheck) (type : ParameterType) : TelemetryBuild Unit := do
  let db ← Build.database
  let copy := { type with name := db.uniqueTypeName type.name }
  let alarmed ← withChecks coding r.violations checks copy
  let ref ← Build.add row.data fun db => db.addParameterType alarmed
  Build.changeDatabase fun db => db.changeParameter parameter fun p => { p with type := ref }

/-- Attaches the checks of a parameter. -/
def attachLimits (row : Row) : TelemetryBuild Unit := do
  let r ← LimitRecord.ofRow row
  let state ← Build.stage
  let db ← Build.database
  let name := r.parameter
  match db.parameters.find? name with
  | none => throw (row.reference s!"OCF references unknown parameter '{name}'")
  | some parameter =>
    let statusChecked := ((state.declared.find? name).map (·.statusChecked)).getD false
    if r.checkCount = 1 ∧ statusChecked then
      Build.limitation
        s!"{row.location.text}: status consistency check of '{name}' is not supported"
    else
      match state.limitChecks.find? name, db.typeOf? parameter with
      | some checks, some type =>
        if r.isValueCoded && type.value.isBoolean then
          Build.limitation
            s!"{row.location.text}: limits on boolean parameter '{name}' are not supported"
        else
          match codingFor? r type.value with
          | some coding => attachChecks row r parameter coding checks type
          | none =>
            throw (row.data s!"OCF_CODIN '{r.coding}' does not apply to the type of '{name}'")
      | _, _ => throw (row.reference s!"no OCP checks for parameter '{name}'")

/-- Reads `OCP` and `OCF`. -/
def loadLimits (setting : Setting) : TelemetryBuild Unit := do
  let _ ← Build.scan setting "ocp" fun row => do
    let check ← LimitCheck.ofRow row
    let name ← row.text 0
    Build.changeStage fun s => { s with limitChecks := s.limitChecks.append name check }
  Build.changeStage fun s => { s with limitChecks := s.limitChecks.sortLists (·.position) }
  let _ ← Build.scan setting "ocf" attachLimits

end MissionBase.Telemetry
