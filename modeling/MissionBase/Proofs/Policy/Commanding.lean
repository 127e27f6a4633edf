import MissionBase.Proofs.Commanding.RecordSteps
import MissionBase.Proofs.Policy.Telemetry

/-!
# The command stage under both policies

Every record of the command tables is a unit of work that only fails: whatever a record does is
silent, and asks for the policy nowhere. So the stage is a sequence of scans.
-/

namespace MissionBase

open Run Policy

variable {setting : Setting}

namespace Commanding

/-! ## Headers -/

theorem silent_addArgumentType (type : ArgumentType) : Silent (addArgumentType type) :=
  steps_database.bind fun _ => (silent_changeDatabase _).bind fun _ => steps_pure _

theorem silent_headers : HeaderSteps SameErrors where
  template := fun _ _ => silent_add _ _
  headers := fun _ => silent_changeStage _
  arguments := fun _ => silent_changeStage _
  type := fun _ _ _ => silent_addArgumentType _
  changeCommand := fun _ _ => silent_changeDatabase _

theorem agrees_loadHeaders (hlenient : setting.config.strict = false) :
    Agrees (loadHeaders setting) (loadHeaders setting.strictly) := by
  unfold loadHeaders
  refine (agrees_scan hlenient "tcp" fun row => ?_).bind fun _ => ?_
  · exact agrees_of_silent (silent_headers.declareHeader row)
  refine (agrees_scan hlenient "pcpc" fun row => ?_).bind fun _ => ?_
  · exact agrees_of_silent (silent_headers.declareHeaderArgument row)
  refine (agrees_scan hlenient "pcdf" fun row => ?_).bind fun _ => agrees_pure _
  exact agrees_of_silent (silent_headers.placeHeaderField row)

/-! ## Arguments -/

theorem agrees_loadParameters (hlenient : setting.config.strict = false) :
    Agrees (loadParameters setting) (loadParameters setting.strictly) :=
  (agrees_scan hlenient "cpc" fun _ => (agrees_lift _).bind fun _ => agrees_stage.bind fun _ =>
    Agrees.unless (agrees_changeStage _)).bind fun _ => agrees_pure _

theorem silent_gathering : GatheringSteps SameErrors where
  parameters := fun _ => silent_changeStage _
  elements := fun _ => silent_changeStage _
  conditions := fun _ => silent_changeStage _
  constraint := fun _ _ => silent_changeDatabase _

theorem agrees_loadElements (hlenient : setting.config.strict = false) :
    Agrees (loadElements setting) (loadElements setting.strictly) := by
  unfold loadElements
  refine (agrees_scan hlenient "cdf" fun row => ?_).bind fun _ => agrees_changeStage _
  exact agrees_of_silent (silent_gathering.declareElement row)

theorem silent_argumentTypeFor (p : CommandParameter) (sizeTagBytes : Int) :
    Silent (argumentTypeFor setting p sizeTagBytes) :=
  steps_argumentTypeFor (fun t _ => silent_addArgumentType t) (fun _ _ => silent_changeStage _)
    (fun _ _ => silent_changeStage _) p sizeTagBytes

theorem silent_placeArgument (command : Command) (element : CommandElement) :
    Silent (placeArgument setting command element) :=
  steps_placeArgument silent_argumentTypeFor command element

theorem silent_placeGroup (command : Command) (counter : String)
    (members : List CommandElement) : Silent (placeGroup setting command counter members) :=
  steps_placeGroup silent_argumentTypeFor (fun _ _ _ _ => silent_addArgumentType _) command counter
    members

/-- Placing an element asks for no policy. -/
theorem agrees_placeFirst (command : Command) (element : CommandElement)
    (rest : List CommandElement) :
    Agrees (placeFirst setting command element rest)
      (placeFirst setting.strictly command element rest) := by
  unfold placeFirst
  split
  · exact (agrees_lift _).bind fun _ => agrees_pure _
  · refine (agrees_of_silent (silent_placeArgument command element)).bind fun placed => ?_
    dsimp only
    split
    · exact agrees_pure _
    · split
      · exact agrees_throw _
      · split
        · exact (agrees_of_silent (silent_limitation _)).bind fun _ => agrees_pure _
        · exact (agrees_of_silent (silent_placeGroup _ _ _)).bind fun _ => agrees_pure _

theorem agrees_placeElements (command : Command) (elements : List CommandElement) :
    Agrees (placeElements setting command elements)
      (placeElements setting.strictly command elements) := by
  induction elements using elements_induction generalizing command with
  | nil =>
      rw [placeElements_nil, placeElements_nil]
      exact agrees_pure command
  | cons element rest ih =>
      rw [placeElements_cons, placeElements_cons]
      exact (agrees_placeFirst command element rest).bind fun x => ih x.2 x.1

/-! ## Commands -/

theorem agrees_defineCommand (row : Row) :
    Agrees (defineCommand setting row) (defineCommand setting.strictly row) := by
  unfold defineCommand
  refine (agrees_lift _).bind fun _ => (agrees_lift _).bind fun name => ?_
  split
  · refine agrees_stage.bind fun state => agrees_database.bind fun db => Agrees.unless ?_
    refine (agrees_lift _).bind fun command => ?_
    refine (agrees_placeElements command _).bind fun placed => agrees_database.bind fun db' => ?_
    exact (agrees_lift _).bind fun _ =>
      (agrees_of_silent (silent_add _ _)).bind fun _ => agrees_pure _
  · exact agrees_pure _

theorem agrees_loadCommands (hlenient : setting.config.strict = false) :
    Agrees (loadCommands setting) (loadCommands setting.strictly) :=
  (agrees_scan hlenient "ccf" agrees_defineCommand).bind fun _ => agrees_pure _

theorem agrees_loadConstraints (hlenient : setting.config.strict = false) :
    Agrees (loadConstraints setting) (loadConstraints setting.strictly) := by
  unfold loadConstraints
  refine (agrees_scan hlenient "ptv" fun row => ?_).bind fun _ => agrees_stage.bind fun state => ?_
  · exact agrees_of_silent (silent_gathering.declareCondition row)
  exact agrees_forM (fun (c, comparisons) =>
    agrees_of_silent (silent_gathering.addConstraint c comparisons)) _

/-! ## Verifiers -/

theorem silent_verification : VerifierSteps SameErrors where
  limitation := silent_limitation
  expressions := fun _ => silent_changeStage _
  passedOver := fun _ => silent_changeStage _
  unsigned := silent_addUnsigned
  algorithm := fun _ => silent_add _ _
  stages := fun _ => silent_changeStage _
  dropped := fun _ => silent_changeStage _
  verifier := fun _ _ => silent_changeDatabase _

theorem agrees_loadVerifiers (hlenient : setting.config.strict = false) :
    Agrees (loadVerifiers setting) (loadVerifiers setting.strictly) := by
  unfold loadVerifiers
  refine (agrees_scan hlenient "cve" fun row => ?_).bind fun _ => ?_
  · exact agrees_of_silent (silent_verification.toExpressionSteps.declareExpression row)
  refine (agrees_scan hlenient "cvs" fun row => ?_).bind fun _ => ?_
  · exact agrees_of_silent (silent_verification.toStageSteps.declareStage row)
  refine (agrees_scan hlenient "cvp" fun row => ?_).bind fun _ => agrees_pure _
  exact agrees_of_silent (silent_verification.attachStage row)

end Commanding

/-- **The command stage does the same under both policies up to its first error.** -/
theorem agrees_buildCommands (hlenient : setting.config.strict = false) :
    Agrees (buildCommands setting) (buildCommands setting.strictly) := by
  unfold buildCommands
  refine (Commanding.agrees_loadHeaders hlenient).bind fun _ => ?_
  refine ((Registry.agrees_loadCommanding hlenient).within _ _).bind fun _ => ?_
  refine (Commanding.agrees_loadParameters hlenient).bind fun _ => ?_
  refine (Commanding.agrees_loadElements hlenient).bind fun _ => ?_
  refine (Commanding.agrees_loadCommands hlenient).bind fun _ => ?_
  refine (Commanding.agrees_loadConstraints hlenient).bind fun _ => ?_
  exact Commanding.agrees_loadVerifiers hlenient

end MissionBase
