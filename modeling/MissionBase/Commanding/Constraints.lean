import MissionBase.Commanding.State

/-!
# Transmission constraints

The values that `PTV` asks of parameters before a command is sent. All records of a command make
one constraint.
-/

namespace MissionBase.Commanding

/-- Whether a value is an engineering one: `E`, or `R` for a raw one. -/
def isCalibrated (row : Row) (col : Nat) : Except Error Bool :=
  let flag := row.flagD col 'R'
  if flag = 'R' then .ok false
  else if flag = 'E' then .ok true
  else .error (row.data s!"invalid value interpretation '{flag}'")

/-- Takes up a condition of a command. -/
def declareCondition (row : Row) : CommandingBuild Unit := do
  row.require [0, 1, 3]
  let db ← Build.database
  let name ← row.text 0
  match db.commands.find? name with
  | none => throw (row.reference s!"PTV references unknown command '{name}'")
  | some command =>
    let parameterName ← row.text 1
    match db.parameters.find? parameterName with
    | none => throw (row.reference s!"PTV references unknown parameter '{parameterName}'")
    | some parameter =>
      let value ← row.text 3
      let comparison : Comparison := ⟨parameter, .equality, value, ← isCalibrated row 2⟩
      Build.changeStage fun s => { s with conditions := s.conditions.append command comparison }

/-- Adds the constraint of a command. -/
def addConstraint (command : CommandRef) (comparisons : List Comparison) : CommandingBuild Unit :=
  match Criteria.ofList? comparisons with
  | none => pure ()
  | some criteria =>
    Build.changeDatabase fun db => db.changeCommand command fun c =>
      { c with constraints := c.constraints ++ [⟨criteria, 0⟩] }

/-- Reads `PTV`. -/
def loadConstraints (setting : Setting) : CommandingBuild Unit := do
  let _ ← Build.scan setting "ptv" declareCondition
  let state ← Build.stage
  state.conditions.entries.forM fun (command, comparisons) => addConstraint command comparisons

end MissionBase.Commanding
