import MissionBase.Commanding.Stage
import MissionBase.Proofs.Additions
import MissionBase.Proofs.Commanding.ElementSteps
import MissionBase.Proofs.Commanding.HeaderRecords
import MissionBase.Proofs.Telemetry.Soundness

/-!
# Relations that the records of the command tables step in

Whatever a record of the command tables says, it comes down to a few changes of the database and of
what the stage keeps in mind. A relation that these changes step in is one that the record steps in,
and if the record of an error steps in it as well, so does the table. The changes are given kind by
kind: headers, what is gathered for commands, and verification.
-/

namespace MissionBase.Commanding

open Run

variable {setting : Setting} {R : Draft CommandingState → Draft CommandingState → Prop}
  [Std.Refl R] [IsTrans (Draft CommandingState) R]

/-! ## Headers -/

/-- The changes that the tables of headers make step in a relation. -/
structure HeaderSteps (R : Draft CommandingState → Draft CommandingState → Prop) : Prop where
  template : ∀ refused c, Steps R (Build.add refused fun db => db.addCommand c)
  headers : ∀ change : CommandingState → Index String HeaderTemplate,
    Steps R (Build.changeStage fun s => { s with headers := change s })
  arguments : ∀ change : CommandingState → Index String HeaderArgument,
    Steps R (Build.changeStage fun s => { s with headerArguments := change s })
  type : ∀ (a : HeaderArgument) name size, Steps R (addArgumentType (a.type name size))
  changeCommand : ∀ r change, Steps R (Build.changeDatabase fun db => db.changeCommand r change)

namespace HeaderSteps

variable (h : HeaderSteps R)
include h

theorem declareHeader (row : Row) : Steps R (declareHeader row) := by
  unfold Commanding.declareHeader
  refine (steps_lift _).bind fun _ => (steps_lift _).bind fun name => steps_stage.bind fun _ => ?_
  exact Steps.unless ((h.template _ _).bind fun _ => h.headers _)

omit [IsTrans (Draft CommandingState) R] in
theorem declareHeaderArgument (row : Row) : Steps R (declareHeaderArgument row) := fun d =>
  ends_declareHeaderArgument (Std.Refl.refl d) fun name argument _ _ =>
    (h.arguments fun s => s.headerArguments.set name argument).of_ok rfl

theorem typed {d d' : Draft CommandingState} {name : String} {argument : HeaderArgument}
    {size : Nat} {type : ArgumentTypeRef} (htyped : HeaderTyped d name argument size type d') :
    R d d' := by
  cases htyped with
  | kept => exact Std.Refl.refl d
  | made =>
      exact IsTrans.trans _ _ _ ((h.type argument name size).of_ok rfl)
        ((h.arguments fun s => s.headerArguments.set name
          { argument with layout := some (d.database.argumentTypes.next, size) }).of_ok rfl)

theorem placeHeaderField (row : Row) : Steps R (placeHeaderField row) := by
  intro d
  refine ends_placeHeaderField (Std.Refl.refl d) fun header t size bit item d' _ _ _ hitem => ?_
  have hitem : R d d' := by
    cases hitem with
    | constant => exact Std.Refl.refl d
    | spare => exact Std.Refl.refl d
    | @argument role name _ _ d₁ _ _ htyped =>
        refine IsTrans.trans _ d₁ _ (h.typed htyped) ?_
        exact IsTrans.trans _ _ _ ((h.changeCommand _ _).of_ok rfl)
          ((h.headers fun s => s.headers.change header fun t' =>
            (t'.getD { command := t.command }).withRole name role).of_ok rfl)
  exact IsTrans.trans _ _ _ hitem ((h.changeCommand _ _).of_ok rfl)

theorem loadHeaders (hrecord : ∀ d e, R d { d with errors := d.errors ++ [e] }) :
    Steps R (loadHeaders setting) := by
  unfold Commanding.loadHeaders
  refine (steps_scan hrecord h.declareHeader).bind fun _ => ?_
  refine (steps_scan hrecord h.declareHeaderArgument).bind fun _ => ?_
  exact (steps_scan hrecord h.placeHeaderField).bind fun _ => steps_pure _

end HeaderSteps

/-! ## What is gathered for commands -/

omit [Std.Refl R] [IsTrans (Draft CommandingState) R] in
/-- Calibrations are read in a stage of its own and leave the database as it is. -/
theorem steps_calibrations
    (h : ∀ d errors warnings registry,
      R d ⟨d.database, errors, warnings, { d.stage with calibrations := registry }⟩) :
    Steps R (Build.within (fun _ => ({} : Registry)) (fun s r => { s with calibrations := r })
      (Registry.loadCommanding setting)) := by
  intro d
  have hsame {u : Draft Registry} (hu : u.database = d.database) :
      R d ⟨u.database, u.errors, u.warnings, { d.stage with calibrations := u.stage }⟩ := by
    rw [hu]
    exact h d u.errors u.warnings u.stage
  exact Ends.within ((Registry.loadCommanding_sameDatabase setting _).mono
    (fun _ _ _ hu => hsame hu) fun _ hu => hsame hu)

/-- The changes that the tables of parameters, of elements and of constraints make step in a
relation. -/
structure GatheringSteps (R : Draft CommandingState → Draft CommandingState → Prop) : Prop where
  parameters : ∀ change : CommandingState → Index String CommandParameter,
    Steps R (Build.changeStage fun s => { s with parameters := change s })
  elements : ∀ change : CommandingState → Index String (List CommandElement),
    Steps R (Build.changeStage fun s => { s with elements := change s })
  conditions : ∀ change : CommandingState → Index CommandRef (List Comparison),
    Steps R (Build.changeStage fun s => { s with conditions := change s })
  constraint : ∀ r constraint, Steps R (Build.changeDatabase fun db => db.changeCommand r fun c =>
    { c with constraints := c.constraints ++ [constraint] })

namespace GatheringSteps

variable (h : GatheringSteps R)
include h

theorem declareElement (row : Row) : Steps R (declareElement setting row) := by
  unfold Commanding.declareElement
  refine (steps_lift _).bind fun command => ?_
  split
  · refine (steps_lift _).bind fun element => steps_stage.bind fun state => ?_
    dsimp only
    split
    · exact Steps.unless (h.elements _)
    · exact h.elements _
  · exact steps_pure _

theorem declareCondition (row : Row) : Steps R (declareCondition row) := by
  unfold Commanding.declareCondition
  refine (steps_lift _).bind fun _ => steps_database.bind fun db => (steps_lift _).bind fun _ => ?_
  split
  · exact steps_throw _
  · refine (steps_lift _).bind fun _ => ?_
    split
    · exact steps_throw _
    · exact (steps_lift _).bind fun _ => (steps_lift _).bind fun _ => h.conditions _

omit [IsTrans (Draft CommandingState) R] in
theorem addConstraint (command : CommandRef) (comparisons : List Comparison) :
    Steps R (addConstraint command comparisons) := by
  unfold Commanding.addConstraint
  split
  · exact steps_pure _
  · exact h.constraint _ _

variable (hrecord : ∀ d e, R d { d with errors := d.errors ++ [e] })
include hrecord

theorem loadParameters : Steps R (loadParameters setting) := by
  unfold Commanding.loadParameters
  refine (steps_scan hrecord fun row => (steps_lift _).bind fun p => ?_).bind fun _ => steps_pure _
  exact steps_stage.bind fun state => Steps.unless (h.parameters _)

theorem loadElements : Steps R (loadElements setting) :=
  (steps_scan hrecord h.declareElement).bind fun _ => h.elements _

theorem loadConstraints : Steps R (loadConstraints setting) := by
  unfold Commanding.loadConstraints
  refine (steps_scan hrecord h.declareCondition).bind fun _ => steps_stage.bind fun state => ?_
  exact steps_forM (fun entry : CommandRef × List Comparison => h.addConstraint entry.1 entry.2) _

end GatheringSteps

/-! ## Commands -/

section

variable (hplace : ∀ elements c, Steps R (placeElements setting c elements))
  (hcommand : ∀ refused c, Steps R (Build.add refused fun db => db.addCommand c))
include hplace hcommand

theorem steps_defineCommand (row : Row) : Steps R (defineCommand setting row) := by
  unfold defineCommand
  refine (steps_lift _).bind fun _ => (steps_lift _).bind fun name => ?_
  split
  · refine steps_stage.bind fun state => steps_database.bind fun db => Steps.unless ?_
    refine (steps_lift _).bind fun command => (hplace _ command).bind fun c => ?_
    refine steps_database.bind fun db => (steps_lift _).bind fun c' => ?_
    exact (hcommand _ _).bind fun _ => steps_pure _
  · exact steps_pure _

theorem steps_loadCommands (hrecord : ∀ d e, R d { d with errors := d.errors ++ [e] }) :
    Steps R (loadCommands setting) :=
  (steps_scan hrecord (steps_defineCommand hplace hcommand)).bind fun _ => steps_pure _

end

/-! ## Verification -/

/-- The changes that the table of expressions makes step in a relation. -/
structure ExpressionSteps (R : Draft CommandingState → Draft CommandingState → Prop) : Prop where
  limitation : ∀ m, Steps R (Build.limitation m)
  expressions : ∀ change : CommandingState → Index String (List Comparison),
    Steps R (Build.changeStage fun s => { s with expressions := change s })
  passedOver : ∀ change : CommandingState → List String,
    Steps R (Build.changeStage fun s => { s with unsupportedExpressions := change s })

theorem ExpressionSteps.declareExpression (h : ExpressionSteps R) (row : Row) :
    Steps R (declareExpression row) := by
  have hpass (id what : String) : Steps R (passOver row id what) :=
    (h.limitation _).bind fun _ => h.passedOver _
  unfold Commanding.declareExpression
  refine (steps_lift _).bind fun _ => (steps_lift _).bind fun id => (steps_lift _).bind fun _ => ?_
  refine steps_database.bind fun db => ?_
  split
  · exact steps_throw _
  · split
    · exact hpass _ _
    · split
      · exact hpass _ _
      · exact (steps_lift _).bind fun _ => h.expressions _

/-- The changes that the table of stages makes step in a relation. -/
structure StageSteps (R : Draft CommandingState → Draft CommandingState → Prop) : Prop where
  unsigned : ∀ name size, Steps R (addUnsigned name size)
  algorithm : ∀ a, Steps R (Build.add .structural fun db => db.addAlgorithm a)
  stages : ∀ change : CommandingState → Index String VerificationStage,
    Steps R (Build.changeStage fun s => { s with stages := change s })
  dropped : ∀ change : CommandingState → List String,
    Steps R (Build.changeStage fun s => { s with unsupportedStages := change s })

namespace StageSteps

variable (h : StageSteps R)
include h

/-- The algorithm of a stage comes after the parameters of the request that its reports echo. -/
theorem acknowledgementFor (stage : String) (code : Nat) :
    Steps R (acknowledgementFor stage code) := by
  unfold Commanding.acknowledgementFor
  refine steps_database.bind fun db => ?_
  split
  · exact steps_pure _
  · exact (steps_echoedRequest h.unsigned).bind fun request => h.algorithm _

theorem stageCheck? (row : Row) (id stage : String) (code : Nat) :
    Steps R (stageCheck? row id stage code) := by
  unfold Commanding.stageCheck?
  dsimp only
  split
  · exact (h.acknowledgementFor _ _).bind fun _ => steps_pure _
  · split
    · exact steps_stage.bind fun state => (steps_lift _).bind fun _ => steps_pure _
    · exact steps_throw _

theorem declareStage (row : Row) : Steps R (declareStage setting row) := by
  unfold Commanding.declareStage
  refine (steps_lift _).bind fun _ => (steps_lift _).bind fun id => steps_stage.bind fun _ => ?_
  refine Steps.unless ((steps_lift _).bind fun window => (h.stageCheck? _ _ _ _).bind fun _ => ?_)
  split
  · exact h.stages _
  · exact h.dropped _

end StageSteps

/-- The changes that the tables of verification make step in a relation. -/
structure VerifierSteps (R : Draft CommandingState → Draft CommandingState → Prop) : Prop
    extends ExpressionSteps R, StageSteps R where
  verifier : ∀ r v, Steps R (Build.changeDatabase fun db => db.changeCommand r fun c =>
    { c with verifiers := c.verifiers ++ [v] })

namespace VerifierSteps

variable (h : VerifierSteps R)
include h

theorem attachStage (row : Row) : Steps R (attachStage row) := by
  unfold Commanding.attachStage
  refine (steps_lift _).bind fun _ => (steps_lift _).bind fun task => ?_
  split
  · refine steps_database.bind fun db => ?_
    split
    · exact steps_throw _
    · refine (steps_lift _).bind fun id => steps_stage.bind fun state => ?_
      split
      · exact h.verifier _ _
      · exact Steps.unless (steps_pure _)
  · exact steps_pure _

theorem loadVerifiers (hrecord : ∀ d e, R d { d with errors := d.errors ++ [e] }) :
    Steps R (loadVerifiers setting) := by
  unfold Commanding.loadVerifiers
  refine (steps_scan hrecord h.toExpressionSteps.declareExpression).bind fun _ => ?_
  refine (steps_scan hrecord h.toStageSteps.declareStage).bind fun _ => ?_
  exact (steps_scan hrecord h.attachStage).bind fun _ => steps_pure _

end VerifierSteps

end MissionBase.Commanding
