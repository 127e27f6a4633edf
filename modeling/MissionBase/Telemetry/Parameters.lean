import MissionBase.Telemetry.Formula
import MissionBase.Telemetry.ParameterTypes
import MissionBase.Calibration.Tables

/-!
# Parameters

The parameters of `PCF`. A deduced parameter stands for whichever parameter another one names, and
a saved synthetic one has no value of its own: both are remembered without entering the database.
Synthetic parameters get an algorithm from their formula, and parameters with context rules get
their context calibrators.
-/

namespace MissionBase.Telemetry

/-- The namespace of the identifiers of parameters on board. -/
def onBoardSpace : String := "OB:PID"

/-- The directory of formulas, among the tables. -/
def formulaDirectory : String := "synthetic"

/-- How a parameter of some nature gets its value. -/
def sourceOf (nature : Char) : DataSource :=
  if nature = 'R' then .telemetered else if nature = 'C' then .constant else .derived

/-- Adds the parameter of a declaration to the database. -/
def addDeclared (setting : Setting) (r : ParameterRecord) : TelemetryBuild Unit := do
  let type ← typeFor setting r
  let parameter : Parameter :=
    { name := r.name, description := r.description, type := type, source := sourceOf r.nature }
  let ref ← Build.add r.dataError fun db => db.addParameter parameter
  match r.onBoardId with
  | some id => Build.changeDatabase fun db => db.addAlias ref ⟨onBoardSpace, toString id⟩
  | none => pure ()
  Build.changeStage fun s => { s with
    synthetic := if r.isSynthetic then s.synthetic ++ [r.name] else s.synthetic
    declared := s.declared.set r.name r }

/-- Takes up a declaration; a name can be declared once. -/
def declare (setting : Setting) (r : ParameterRecord) : TelemetryBuild Unit := do
  let state ← Build.stage
  if state.declared.has r.name || state.deduced.has r.name ||
      state.savedSynthetic.contains r.name then
    throw (r.dataError s!"duplicate parameter '{r.name}'")
  if r.ptc = 13 then
    Build.changeStage fun s => { s with savedSynthetic := s.savedSynthetic ++ [r.name] }
  else if r.ptc = 11 then
    if r.related.isNone then
      throw (r.dataError s!"deduced parameter '{r.name}' has no PCF_RELATED")
    Build.changeStage fun s => { s with deduced := s.deduced.set r.name r }
  else addDeclared setting r

/-- Reads `PCF`. -/
def loadParameters (setting : Setting) : TelemetryBuild Unit := do
  let _ ← Build.scan setting "pcf" fun row => do
    let record ← ParameterRecord.ofRow row setting.config.telemetry.sizeTagBytes
    declare setting record

/-! ## Synthetic parameters -/

/-- The formula of a synthetic parameter. -/
def formulaText (setting : Setting) (name : String) (location : Location) :
    Except Error String :=
  let path := joinPath (joinPath setting.config.path formulaDirectory) name
  match setting.files.read path with
  | .ok bytes => .ok (String.ofList (decodeLine bytes))
  | .error f =>
    .error (.reference location s!"cannot read synthetic definition {path}: {f.message}")

/-- The parameter that a formula reads. -/
def formulaInput (db : Database) (name : String) (input : FormulaInput) :
    Except Error (ParameterRef × Bool) :=
  match db.parameters.find? input.parameter with
  | some r => .ok (r, input.trigger)
  | none => .error (.synthetic name s!"unknown input parameter '{input.parameter}'")

/-- The algorithm of a formula. -/
def syntheticAlgorithm (db : Database) (compiler : FormulaCompiler) (name source : String) :
    Except Error Algorithm := do
  let inputs ← match compiler name source db.typeNamed? with
    | .ok inputs => pure inputs
    | .error message => throw (.synthetic name message)
  match db.parameters.find? name with
  | none => throw (.synthetic name "output parameter not found")
  | some output =>
    let read ← inputs.mapM (formulaInput db name)
    return {
      name := name
      kind := .synthetic
      source := some source
      inputs := (inputs.zip read).map fun (i, r) => ⟨r.1, some i.parameter, true⟩
      triggers := (read.filter (·.2)).map (·.1)
      outputs := [output] }

/-- Adds the algorithm of a synthetic parameter. -/
def addSynthetic (setting : Setting) (compiler : FormulaCompiler) (name : String)
    (location : Location) : TelemetryBuild Unit := do
  let source ← formulaText setting name location
  let algorithm ← syntheticAlgorithm (← Build.database) compiler name source
  let _ ← Build.add (.synthetic name) fun db => db.addAlgorithm algorithm

/-- Gives every synthetic parameter its algorithm, where there is a compiler of formulas. -/
def compileSynthetic (setting : Setting) (compiler : Option FormulaCompiler) :
    TelemetryBuild Unit := do
  let state ← Build.stage
  match state.synthetic, compiler with
  | [], _ => pure ()
  | names, none =>
    Build.limitation (s!"no formula compiler registered, {names.length} synthetic parameters " ++
      "have no algorithm")
  | names, some compiler =>
    names.forM fun name =>
      match state.declared.find? name with
      | some record => Build.recover setting (addSynthetic setting compiler name record.location)
      | none => pure ()

/-! ## Context calibrations -/

/-- The calibrator of a context rule. -/
def contextCalibrator (db : Database) (calibrations : Registry) (rule : ContextRule) :
    Except Error ContextCalibrator :=
  match db.parameters.find? rule.reference with
  | none => .error (.reference rule.location s!"unknown context parameter '{rule.reference}'")
  | some reference =>
    match calibrations.numeric? rule.select with
    | none => .error (.reference rule.location s!"unknown numeric calibration '{rule.select}'")
    | some calibrator => .ok ⟨.rawEquals reference (toString rule.value), calibrator⟩

/-- Attaches the calibrators of a parameter's rules to its type. Rules of a parameter that is
declared and no number are passed over. -/
def attachContexts (name : String) : TelemetryBuild Unit := do
  let state ← Build.stage
  let db ← Build.database
  let rules := state.calibrations.contextRules name
  let passedOver := match state.declared.find? name with
    | some record => record.category != 'N'
    | none => false
  match rules with
  | [] => pure ()
  | first :: _ =>
    if passedOver then return
    match db.parameters.find? name with
    | none => throw (.reference first.location s!"CUR references unknown parameter '{name}'")
    | some ref =>
      let calibrators ← Build.ofExcept (rules.mapM (contextCalibrator db state.calibrations))
      match db.parameters.get? ref with
      | none => pure ()
      | some parameter =>
        Build.changeDatabase fun db =>
          db.changeParameterType parameter.type fun t => t.calibrated (.contexts calibrators)

/-- Attaches the context calibrators of all parameters, in the order of their names. -/
def attachContextCalibrators (setting : Setting) : TelemetryBuild Unit := do
  let state ← Build.stage
  let names := state.calibrations.contexts.keys.mergeSort fun a b => decide (a ≤ b)
  names.forM fun name => Build.recover setting (attachContexts name)

end MissionBase.Telemetry
