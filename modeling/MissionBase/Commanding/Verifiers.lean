import MissionBase.Commanding.Constraints
import MissionBase.Decimal.Style
import MissionBase.Telemetry.HeaderParameters

/-!
# Verification of commands

A verification stage of `CVS` waits either for a report that acknowledges the command or for
parameters to have the values that the expressions of `CVE` name. `CVP` attaches stages to commands.
-/

namespace MissionBase.Commanding

/-! ## Expressions -/

/-- The comparisons with both ends of an interval around a value. -/
def toleranceComparisons (parameter : ParameterRef) (calibrated : Bool)
    (expected tolerance : Float) : List Comparison :=
  let text (x : Float) : String := Decimal.Style.positional.write x
  [⟨parameter, .largerOrEqual, text (expected - tolerance), calibrated⟩,
    ⟨parameter, .smallerOrEqual, text (expected + tolerance), calibrated⟩]

/-- Whether the values of a parameter, raw or engineering ones, are numbers. -/
def comparesNumbers (db : Database) (parameter : ParameterRef) (calibrated : Bool) : Bool :=
  match db.typeOf? parameter with
  | none => false
  | some type =>
    if calibrated then type.value.isNumeric
    else (type.encoding.map Encoding.isNumeric).getD false

/-- The comparisons of an expression: with one value, or within a tolerance that is not zero. -/
def expressionComparisons (db : Database) (row : Row) (name : String)
    (parameter : ParameterRef) : Except Error (List Comparison) := do
  row.require [3]
  let calibrated ← isCalibrated row 2
  let value ← row.text 3
  let equal : List Comparison := [⟨parameter, .equality, value, calibrated⟩]
  match ← row.float? 4 with
  | none => return equal
  | some tolerance =>
    if tolerance == 0.0 then return equal
    if !comparesNumbers db parameter calibrated then
      throw (row.data s!"tolerance on non-numeric parameter '{name}'")
    return toleranceComparisons parameter calibrated (← row.float 3) tolerance

/-- Records that an expression of a stage has no form in the database. -/
def passOver (row : Row) (id what : String) : CommandingBuild Unit := do
  Build.limitation s!"{row.location.text}: {what} stage {id} is not supported"
  Build.changeStage fun s => { s with unsupportedExpressions := id :: s.unsupportedExpressions }

/-- Takes up an expression of a stage. -/
def declareExpression (row : Row) : CommandingBuild Unit := do
  row.require [0, 1]
  let id ← row.text 0
  let name ← row.text 1
  let db ← Build.database
  match db.parameters.find? name with
  | none => throw (row.reference s!"CVE references unknown parameter '{name}'")
  | some parameter =>
    if row.flagD 5 'B' = 'S' then passOver row id "status consistency check of"
    else if row.flagD 2 'R' = 'C' then
      passOver row id "tolerance relative to a command parameter in"
    else
      let comparisons ← expressionComparisons db row name parameter
      Build.changeStage fun s =>
        { s with expressions := s.expressions.change id fun cs => cs.getD [] ++ comparisons }

/-! ## Stages -/

/-- The name of a kind of stage, and the subservice of the reports that acknowledge it. -/
def stageOf (kind : Char) : String × Nat :=
  if kind = 'A' then ("Acceptance", 1)
  else if kind = 'S' then ("Start", 3)
  else if kind = 'C' then ("Completion", 7)
  else (s!"Progress_{kind}", 5)

/-- The time in which a stage is verified. -/
def checkWindow (row : Row) (uncertaintyPeriod : Int) : Except Error CheckWindow := do
  let start ← row.int 3
  let interval ← row.int 4
  let uncertainty ← row.intD 6 uncertaintyPeriod
  return ⟨start * 1000, (start + interval + max uncertainty 0) * 1000⟩

/-- The algorithm that matches the reports of a stage with commands. -/
def acknowledgement (name : String) (code : Nat) (apid count : ParameterRef) : Algorithm :=
  { name := name
    kind := .acknowledgementCheck code
    inputs := [⟨apid, some "received_apid", true⟩, ⟨count, some "received_seqcount", true⟩]
    triggers := [count] }

/-- The algorithm that matches the reports of a stage with commands, shared by all stages of one
name. -/
def acknowledgementFor (stage : String) (code : Nat) : CommandingBuild AlgorithmRef := do
  let name := "PUS_Verifier-" ++ stage
  match (← Build.database).algorithms.find? name with
  | some algorithm => return algorithm
  | none =>
    let (apid, count) ← echoedRequest
    Build.add .structural fun db => db.addAlgorithm (acknowledgement name code apid count)

/-- The comparisons that a stage waits for; none where all of its expressions were passed over. -/
def stageCriteria? (state : CommandingState) (row : Row) (id : String) :
    Except Error (Option Criteria) :=
  match state.expressions.find? id with
  | some comparisons =>
    match Criteria.ofList? comparisons with
    | some criteria => .ok (some criteria)
    | none => .error (row.data s!"stage '{id}' checks nothing")
  | none =>
    if state.unsupportedExpressions.contains id then .ok none
    else .error (row.reference s!"no CVE expression for verification stage '{id}'")

/-- What the stage of a record waits for. -/
def stageCheck? (row : Row) (id stage : String) (code : Nat) :
    CommandingBuild (Option StageCheck) := do
  let source := row.flagD 2 ' '
  if source = 'R' then return some (.acknowledgement (← acknowledgementFor stage code))
  else if source = 'V' then
    let criteria ← stageCriteria? (← Build.stage) row id
    return criteria.map .parameters
  else throw (row.data s!"invalid CVS_SOURCE '{source}'")

/-- Takes up a stage. -/
def declareStage (setting : Setting) (row : Row) : CommandingBuild Unit := do
  row.require [0, 1, 2, 3, 4]
  let id ← row.text 0
  if (← Build.stage).stages.has id then throw (row.data s!"duplicate verification stage '{id}'")
  let (name, code) := stageOf (row.flagD 1 ' ')
  let window ← checkWindow row setting.config.command.uncertaintyPeriod
  match ← stageCheck? row id name code with
  | some check =>
    Build.changeStage fun s => { s with stages := s.stages.set id ⟨name, window, check⟩ }
  | none => Build.changeStage fun s => { s with unsupportedStages := id :: s.unsupportedStages }

/-! ## Verifiers -/

/-- The verifier of a command for a stage. -/
def verifierOf (db : Database) (command : CommandRef) (stage : VerificationStage) : Verifier :=
  { stage := stage.name
    window := stage.window
    check := match stage.check with
      | .acknowledgement algorithm => .algorithm algorithm (db.commandEcho command)
      | .parameters criteria => .parameters criteria }

/-- Attaches a stage to a command. Records of other tasks are passed over, and so are stages that
were passed over. -/
def attachStage (row : Row) : CommandingBuild Unit := do
  row.require [0, 2]
  let task ← row.text 0
  if row.flagD 1 'C' = 'C' then
    let db ← Build.database
    match db.commands.find? task with
    | none => throw (row.reference s!"CVP references unknown command '{task}'")
    | some command =>
      let id ← row.text 2
      let state ← Build.stage
      match state.stages.find? id with
      | some stage =>
        let verifier := verifierOf db command stage
        Build.changeDatabase fun db => db.changeCommand command fun c =>
          { c with verifiers := c.verifiers ++ [verifier] }
      | none =>
        if !state.unsupportedStages.contains id then
          throw (row.reference s!"CVP references unknown verification stage '{id}'")

/-- Reads `CVE`, `CVS` and `CVP`. -/
def loadVerifiers (setting : Setting) : CommandingBuild Unit := do
  let _ ← Build.scan setting "cve" declareExpression
  let _ ← Build.scan setting "cvs" (declareStage setting)
  let _ ← Build.scan setting "cvp" attachStage

end MissionBase.Commanding
