import MissionBase.Build
import MissionBase.Calibration.Registry
import MissionBase.Commanding.Records

/-!
# The state of the command stage

What the command tables have said so far and the database does not hold.
-/

namespace MissionBase

/-- A header template with the arguments that every command using it binds. -/
structure HeaderTemplate where
  command : CommandRef
  apid : Option String := none
  type : Option String := none
  subtype : Option String := none
  acknowledgement : Option String := none
  deriving Repr, DecidableEq

/-- An argument of headers. -/
structure HeaderArgument where
  description : String
  signed : Bool
  /-- Its type and width, once a header places it. -/
  layout : Option (ArgumentTypeRef × Nat) := none
  deriving Repr, DecidableEq

/-- What a verification stage waits for. -/
inductive StageCheck where
  /-- A report that the algorithm matches with the command. -/
  | acknowledgement (algorithm : AlgorithmRef)
  | parameters (criteria : Criteria)
  deriving Repr, DecidableEq

/-- A verification stage. -/
structure VerificationStage where
  name : String
  window : CheckWindow
  check : StageCheck
  deriving Repr, DecidableEq

/-- The state of the command stage. -/
structure CommandingState where
  calibrations : Registry := {}
  headers : Index String HeaderTemplate := {}
  headerArguments : Index String HeaderArgument := {}
  parameters : Index String CommandParameter := {}
  /-- The elements of a command, by bit. -/
  elements : Index String (List CommandElement) := {}
  /-- The types of arguments by command parameter and bytes of the size tag. -/
  argumentTypes : Index (String × Int) ArgumentTypeRef := {}
  /-- The enumerations of parameter identifiers by format code. -/
  identifierTypes : Index Int ArgumentTypeRef := {}
  /-- The conditions of a command, commands in the order of their first condition. -/
  conditions : Index CommandRef (List Comparison) := {}
  /-- The comparisons of a verification stage. -/
  expressions : Index String (List Comparison) := {}
  /-- The verification stages with an expression that has no form in the database. -/
  unsupportedExpressions : List String := []
  stages : Index String VerificationStage := {}
  /-- The verification stages passed over because none of their expressions has a form. -/
  unsupportedStages : List String := []

/-- A computation of the command stage. -/
abbrev CommandingBuild := Build CommandingState

end MissionBase
