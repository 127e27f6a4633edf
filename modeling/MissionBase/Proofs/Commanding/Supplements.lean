import MissionBase.Proofs.Commanding.RecordSteps
import MissionBase.Proofs.Supplements

/-!
# What the command stage adds to parameters and to types

The command stage adds types of arguments, all of which are compatible, and the parameters of the
request that verification reports echo. It keeps in mind only the enumerations of parameter
identifiers, whose labels are those of the parameters with an identifier when they are made.
-/

namespace MissionBase.Commanding

open Run

variable {setting : Setting}

/-- Additions to parameters and to types, with the enumerations of parameter identifiers left
alone. -/
abbrev Supplying : Draft CommandingState → Draft CommandingState → Prop :=
  Supplies CommandingState.identifierTypes

/-- What is gathered from the tables of commands: their parameters, their elements, and the types of
their arguments. -/
def gathered (s : CommandingState) : Index String CommandParameter ×
    Index String (List CommandElement) × Index (String × Int) ArgumentTypeRef ×
    Index Int ArgumentTypeRef :=
  (s.parameters, s.elements, s.argumentTypes, s.identifierTypes)

/-- Additions to parameters and to types, with all of that left alone. -/
abbrev Heading : Draft CommandingState → Draft CommandingState → Prop := Supplies gathered

/-- Additions to parameters and to types: any others, or an enumeration of parameter identifiers for
a format that had none. -/
inductive Furnish : Draft CommandingState → Draft CommandingState → Prop where
  | supplying {d t : Draft CommandingState} : Supplying d t → Furnish d t
  | identifiers {d : Draft CommandingState} {pfc : Int} {type : ArgumentType} :
      d.stage.identifierTypes.find? pfc = none → type.Compatible →
      type.value = .enumerated d.database.identifierLabels →
      Furnish d { d with
        database := (d.database.addArgumentType type).2
        stage := { d.stage with
          identifierTypes := d.stage.identifierTypes.set pfc d.database.argumentTypes.next } }

/-- Any number of such additions. -/
abbrev Furnishing : Draft CommandingState → Draft CommandingState → Prop :=
  Relation.ReflTransGen Furnish

/-- Types of arguments stay at their places. -/
theorem argumentType_kept {db db' : Database} (h : Supplement db db') {r : ArgumentTypeRef}
    {type : ArgumentType} (hr : db.argumentTypes.get? r = some type) :
    db'.argumentTypes.get? r = some type := by
  cases h with
  | elsewhere _ _ _ hargumentTypes => rw [hargumentTypes]; exact hr
  | unsignedType size h =>
      obtain ⟨-, heq⟩ := Database.addParameterType_eq_ok.mp h
      cases heq
      exact hr
  | parameter _ h =>
      obtain ⟨-, heq⟩ := Database.addParameter_eq_ok.mp h
      cases heq
      exact hr
  | argumentType _ => exact Catalog.get?_push_of_some hr _

theorem Furnish.argumentType {d t : Draft CommandingState} (h : Furnish d t) {r : ArgumentTypeRef}
    {type : ArgumentType} (hr : d.database.argumentTypes.get? r = some type) :
    t.database.argumentTypes.get? r = some type := by
  cases h with
  | identifiers _ _ _ => exact Catalog.get?_push_of_some hr _
  | supplying h =>
      revert hr
      refine Relation.ReflTransGen.head_induction_on h.database (fun hr => hr) ?_
      intro db db' hstep _ hlater hr
      exact hlater (argumentType_kept hstep hr)

/-- **Whatever is added, a type of arguments stays at its place.** -/
theorem Furnishing.argumentType {d t : Draft CommandingState} (h : Furnishing d t)
    {r : ArgumentTypeRef} {type : ArgumentType}
    (hr : d.database.argumentTypes.get? r = some type) :
    t.database.argumentTypes.get? r = some type := by
  induction h with
  | refl => exact hr
  | tail _ hlast ih => exact hlast.argumentType ih

theorem furnishes {α : Type} {x : CommandingBuild α} (h : Steps Supplying x) : Steps Furnishing x :=
  h.mono fun _ _ hst => .single (.supplying hst)

theorem supplies_of_heading {α : Type} {x : CommandingBuild α} (h : Steps Heading x) :
    Steps Supplying x :=
  h.mono fun _ _ hst => ⟨hst.database, congrArg (fun g => g.2.2.2) hst.stage⟩

theorem supplies_addArgumentType {τ : Type} {key : CommandingState → τ} {t : ArgumentType}
    (ht : t.Compatible) : Steps (Supplies key) (addArgumentType t) := by
  intro d
  have hadded : Supplies key d { d with database := (d.database.addArgumentType t).2 } :=
    ⟨.single (.argumentType ht), rfl⟩
  exact hadded

/-! ## Headers -/

theorem heading_headers : HeaderSteps Heading where
  template := supplies_addCommand
  headers := fun _ => supplies_stage fun _ => rfl
  arguments := fun _ => supplies_stage fun _ => rfl
  type := fun a name size => supplies_addArgumentType (a.type_compatible name size)
  changeCommand := supplies_changeCommand

theorem heading_loadHeaders : Steps Heading (loadHeaders setting) :=
  heading_headers.loadHeaders fun _ _ => ⟨.refl, rfl⟩

theorem heading_loadCalibrations : Steps Heading
    (Build.within (fun _ => ({} : Registry)) (fun (s : CommandingState) r =>
      { s with calibrations := r }) (Registry.loadCommanding setting)) :=
  steps_calibrations fun _ _ _ _ => ⟨.refl, rfl⟩

/-! ## Commands -/

/-- **The enumeration of parameter identifiers of a format is made once.** -/
theorem furnishes_identifierType (p : CommandParameter) (tag : Int) :
    Steps Furnishing (identifierType p tag) := fun _ =>
  ends_identifierType .refl (fun _ _ _ => .refl) fun hptc hnone _ he =>
    .single (.identifiers hnone (ArgumentType.compatible_of_numeric
      (CommandParameter.isNumeric_of_encoding he (by omega))) rfl)

theorem furnishes_argumentTypeFor (p : CommandParameter) (tag : Int) :
    Steps Furnishing (argumentTypeFor setting p tag) := by
  intro d
  refine ends_argumentTypeFor (fun _ => furnishes_identifierType p tag d) .refl
    (fun _ _ _ => .refl) fun _ _ t ht => ?_
  have hadded : Steps Supplying (addArgumentType t) :=
    supplies_addArgumentType (CommandParameter.buildType_compatible ht)
  exact .single (.supplying ⟨(hadded.of_ok rfl).database, rfl⟩)

/-- Elements bring the types of their arguments, element by element. -/
theorem furnishes_placeElements (elements : List CommandElement) (command : Command) :
    Steps Furnishing (placeElements setting command elements) := by
  refine steps_placeElements furnishes_argumentTypeFor (fun name value h h' => ?_)
    (fun m => furnishes (supplies_limitation m)) elements command
  exact furnishes <| supplies_addArgumentType <|
    CommandParameter.compatible_plain (ValueType.fits_of_plain h h')

theorem furnishes_loadCommands : Steps Furnishing (loadCommands setting) :=
  steps_loadCommands furnishes_placeElements (fun _ _ => furnishes (supplies_addCommand _ _))
    fun _ _ => .single (.supplying ⟨.refl, rfl⟩)

/-! ## Other tables -/

theorem supplies_gathering : GatheringSteps Supplying where
  parameters := fun _ => supplies_stage fun _ => rfl
  elements := fun _ => supplies_stage fun _ => rfl
  conditions := fun _ => supplies_stage fun _ => rfl
  constraint := fun r _ => supplies_changeCommand r _

theorem supplies_recorded (d : Draft CommandingState) (e : Error) :
    Supplying d { d with errors := d.errors ++ [e] } := ⟨.refl, rfl⟩

theorem supplies_loadParameters : Steps Supplying (loadParameters setting) :=
  supplies_gathering.loadParameters supplies_recorded

theorem supplies_loadElements : Steps Supplying (loadElements setting) :=
  supplies_gathering.loadElements supplies_recorded

theorem supplies_loadConstraints : Steps Supplying (loadConstraints setting) :=
  supplies_gathering.loadConstraints supplies_recorded

theorem supplies_verification : VerifierSteps Supplying where
  limitation := supplies_limitation
  expressions := fun _ => supplies_stage fun _ => rfl
  passedOver := fun _ => supplies_stage fun _ => rfl
  unsigned := supplies_addUnsigned
  algorithm := supplies_addAlgorithm _
  stages := fun _ => supplies_stage fun _ => rfl
  dropped := fun _ => supplies_stage fun _ => rfl
  verifier := fun r _ => supplies_changeCommand r _

theorem supplies_loadVerifiers : Steps Supplying (loadVerifiers setting) :=
  supplies_verification.loadVerifiers supplies_recorded

/-! ## The whole stage -/

/-- **The command stage adds nothing else to parameters and to types.** -/
theorem furnishes_buildCommands : Steps Furnishing (buildCommands setting) := by
  unfold buildCommands
  refine (furnishes (supplies_of_heading heading_loadHeaders)).bind fun _ => ?_
  refine (furnishes (supplies_of_heading heading_loadCalibrations)).bind fun _ => ?_
  refine (furnishes supplies_loadParameters).bind fun _ => ?_
  refine (furnishes supplies_loadElements).bind fun _ => furnishes_loadCommands.bind fun _ => ?_
  refine (furnishes supplies_loadConstraints).bind fun _ => ?_
  exact furnishes supplies_loadVerifiers

end MissionBase.Commanding
