import MissionBase.Proofs.Commanding.FirstElement
import MissionBase.Proofs.Leniency.Telemetry
import MissionBase.Commanding.Stage

/-!
# The command stage does not fail

Every record of the command tables is a unit of work that is tame, and all that is done outside of
such units is to make constraints of conditions that have been taken up, which cannot fail.
-/

namespace MissionBase

open Run Leniency

variable {setting : Setting} (row : Row)

/-! ## Records -/

theorem CommandParameter.mild_ofRow : Mild (CommandParameter.ofRow row) :=
  (row.mild_require _).bind fun _ => (row.mild_text _).bind fun _ => (row.mild_get _ _ _).bind
    fun _ => (row.mild_get _ _ _).bind fun _ => (row.mild_get? _ _ _).bind fun _ => mild_ok

theorem CommandElement.mild_required {α : Type} {e : Error} (h : e.isFatal = false)
    (x : Option α) : Mild (required e x) := by
  cases x with
  | some a => exact mild_ok
  | none => exact mild_error h

theorem CommandElement.mild_ofRow (sizeTagBytes : Int) :
    Mild (CommandElement.ofRow row sizeTagBytes) := by
  unfold CommandElement.ofRow
  refine (row.mild_require _).bind fun _ => (mild_required rfl _).bind fun kind => ?_
  refine Mild.unless rfl ((mild_required rfl _).bind fun origin => ?_)
  refine (row.mild_getD _ _ _ _).bind fun groupSize => Mild.unless rfl ?_
  refine (row.mild_get _ _ _).bind fun size => Mild.unless rfl ?_
  exact (row.mild_get _ _ _).bind fun _ => (row.mild_getD _ _ _ _).bind fun _ => mild_ok

theorem Registry.sure_loadCommanding (hlenient : setting.config.strict = false)
    (hreadable : setting.Readable) : Sure (loadCommanding setting) := by
  unfold loadCommanding
  refine (hreadable.sure_scan hlenient (by decide) fun row => tame_updating row fun r => ?_).bind
    fun _ => ?_
  · exact (mild_curveOfRow row).bind fun _ => mild_ok
  refine (hreadable.sure_scan hlenient (by decide) fun row => tame_updating row fun r => ?_).bind
    fun _ => ?_
  · exact (mild_addPoint row _ _ _ (mild_decalibrationPoint row)).bind fun _ => mild_ok
  refine (hreadable.sure_scan hlenient (by decide) fun row => tame_updating row fun r => ?_).bind
    fun _ => ?_
  · exact (mild_aliasesOfRow row).bind fun _ => mild_ok
  refine (hreadable.sure_scan hlenient (by decide) fun row => tame_updating row fun r => ?_).bind
    fun _ => ?_
  · exact (mild_addAliasLabel row _).bind fun _ => mild_ok
  refine (hreadable.sure_scan hlenient (by decide) fun row => tame_updating row fun r => ?_).bind
    fun _ => ?_
  · exact (mild_rangeSetOfRow row).bind fun _ => mild_ok
  refine (hreadable.sure_scan hlenient (by decide) fun row => tame_updating row fun r => ?_).bind
    fun _ => sure_pure _
  exact (mild_addRange row _).bind fun _ => mild_ok

/-! ## Types of arguments -/

namespace CommandParameter

variable (p : CommandParameter) (calibrations : Registry) (encoding : Encoding)

theorem mild_encoding (sizeTagBytes : Int) : Mild (p.encoding sizeTagBytes) := by
  unfold CommandParameter.encoding
  split
  · exact mild_ok
  · exact mild_error rfl

theorem mild_decalibratedType : Mild (p.decalibratedType calibrations encoding) := by
  unfold decalibratedType
  split
  · exact mild_error rfl
  · split
    · exact mild_error rfl
    · exact Mild.ite mild_ok (mild_error rfl)

theorem mild_enumeratedType : Mild (p.enumeratedType calibrations encoding) := by
  unfold enumeratedType
  split
  · exact mild_error rfl
  · split
    · exact mild_error rfl
    · exact Mild.ite (mild_error rfl) (Mild.ite mild_ok (mild_error rfl))

theorem mild_naturalType (epoch : Epoch) : Mild (p.naturalType epoch encoding) := by
  unfold naturalType naturalValue
  refine Mild.bind (Mild.ite mild_ok (Mild.ite ?_ ?_)) fun _ => mild_ok
  · split
    · exact mild_ok
    · exact mild_error rfl
  · exact Mild.ite mild_ok (Mild.ite mild_ok (Mild.ite mild_ok (Mild.ite mild_ok (mild_error rfl))))

theorem mild_headerType : Mild p.headerType := by
  unfold headerType
  refine Mild.ite ?_ (mild_error rfl)
  split
  · exact mild_ok
  · exact mild_error rfl

theorem mild_withRanges (type : ArgumentType) : Mild (p.withRanges calibrations type) := by
  unfold withRanges
  split
  · exact mild_ok
  · split
    · exact mild_ok
    · exact mild_error rfl

theorem mild_buildType (epoch : Epoch) (sizeTagBytes : Int) :
    Mild (p.buildType epoch calibrations sizeTagBytes) := by
  unfold buildType
  refine Mild.ite p.mild_headerType ((p.mild_encoding _).bind fun encoding => ?_)
  have hranges (type : ArgumentType) :
      Mild (p.withRanges calibrations { type with unit := p.unit }) := p.mild_withRanges _ _
  refine Mild.ite ?_ (Mild.ite ?_ (Mild.ite ?_ (Mild.ite ?_ (mild_error rfl))))
  · exact (p.mild_decalibratedType calibrations encoding).bind hranges
  · exact (p.mild_enumeratedType calibrations encoding).bind hranges
  · exact (p.mild_naturalType encoding epoch).bind hranges
  · exact mild_ok.bind hranges

end CommandParameter

namespace Commanding

/-! ## Headers -/

theorem mild_sizeOf (col : Nat) : Mild (sizeOf row col) :=
  (row.mild_get _ _ _).bind fun _ => Mild.unless rfl mild_ok

theorem mild_pattern (location : Location) (text : String) (size : Nat) :
    Mild (pattern location text size) := by
  unfold pattern
  split
  · exact mild_ok
  · exact mild_error rfl

theorem tame_declareHeader : Tame (declareHeader row) :=
  (tame_lift (row.mild_require _)).bind fun _ => (tame_lift (row.mild_text _)).bind fun _ =>
    tame_stage.bind fun _ => Tame.unless rfl
      ((tame_add fun _ => rfl).bind fun _ => tame_changeStage _)

theorem tame_declareHeaderArgument : Tame (declareHeaderArgument row) :=
  (tame_lift (row.mild_require _)).bind fun _ => (tame_lift (row.mild_text _)).bind fun _ =>
    tame_stage.bind fun _ => Tame.unless rfl (Tame.unless rfl
      ((tame_lift (row.mild_text _)).bind fun _ => tame_changeStage _))

theorem tame_headerArgumentType (name : String) (argument : HeaderArgument) (size : Nat) :
    Tame (headerArgumentType row name argument size) := by
  unfold headerArgumentType
  split
  · exact Tame.ite (tame_pure _) (tame_throw rfl)
  · exact tame_database.bind fun _ => (tame_changeDatabase _).bind fun _ =>
      (tame_changeStage _).bind fun _ => tame_pure _

theorem tame_headerItem (header : String) (command : CommandRef) (size : Nat) :
    Tame (headerItem row header command size) := by
  unfold headerItem
  dsimp only
  refine Tame.ite ?_ (Tame.ite (tame_pure _) ?_)
  · exact (tame_lift (row.mild_text _)).bind fun _ =>
      (tame_lift (mild_pattern _ _ _)).bind fun _ => tame_pure _
  · split
    · unfold placeHeaderArgument
      refine (tame_lift (row.mild_text _)).bind fun name => tame_stage.bind fun state => ?_
      split
      · exact tame_throw rfl
      · refine (tame_headerArgumentType row name _ size).bind fun type => ?_
        exact (tame_changeDatabase _).bind fun _ => (tame_changeStage _).bind fun _ => tame_pure _
    · exact tame_throw rfl

theorem tame_placeHeaderField : Tame (placeHeaderField row) := by
  unfold placeHeaderField
  refine (tame_lift (row.mild_require _)).bind fun _ => ?_
  refine (tame_lift (row.mild_text _)).bind fun header => tame_stage.bind fun state => ?_
  split
  · exact tame_throw rfl
  · refine (tame_lift (mild_sizeOf row _)).bind fun size => ?_
    refine (tame_lift (row.mild_get _ _ _)).bind fun bit => ?_
    exact (tame_headerItem row header _ size).bind fun _ => tame_changeDatabase _

/-! ## Arguments -/

theorem tame_declareElement : Tame (declareElement setting row) := by
  unfold declareElement
  refine (tame_lift (row.mild_text _)).bind fun command => Tame.ite ?_ (tame_pure _)
  refine (tame_lift (CommandElement.mild_ofRow row _)).bind fun element => ?_
  refine tame_stage.bind fun state => ?_
  cases element.parameter with
  | some name => exact Tame.unless rfl (tame_changeStage _)
  | none => exact tame_changeStage _

theorem tame_addArgumentType (type : ArgumentType) : Tame (addArgumentType type) :=
  tame_database.bind fun _ => (tame_changeDatabase _).bind fun _ => tame_pure _

theorem tame_argumentTypeFor (p : CommandParameter) (sizeTagBytes : Int) :
    Tame (argumentTypeFor setting p sizeTagBytes) := by
  unfold argumentTypeFor
  refine Tame.ite ?_ (tame_stage.bind fun state => ?_)
  · unfold identifierType
    refine Tame.unless rfl (tame_stage.bind fun state => ?_)
    split
    · exact tame_pure _
    · refine (tame_lift (p.mild_encoding _)).bind fun encoding => tame_database.bind fun db => ?_
      exact (tame_addArgumentType _).bind fun _ => (tame_changeStage _).bind fun _ => tame_pure _
  · dsimp only
    split
    · exact tame_pure _
    · refine (tame_lift (p.mild_buildType _ _ _)).bind fun built => ?_
      exact (tame_addArgumentType _).bind fun _ => (tame_changeStage _).bind fun _ => tame_pure _

theorem tame_argumentOf (element : CommandElement) : Tame (argumentOf setting element) := by
  have hparameter (state : CommandingState) : Mild (parameterOf state element) := by
    unfold parameterOf
    dsimp only
    split
    · exact mild_ok
    · exact mild_error rfl
  have hdynamic (db : Database) : Mild (dynamicDefault db element) := by
    unfold dynamicDefault
    split
    · exact mild_error rfl
    · split
      · exact mild_ok
      · exact mild_error rfl
  have hdefault (db : Database) (p : CommandParameter) (argument : Argument) :
      Mild (withDefault db element p argument) := by
    unfold withDefault
    refine Mild.ite ?_ mild_ok
    split
    · exact mild_ok
    · exact (hdynamic db).map _
    · exact mild_ok
    · exact mild_ok
  exact tame_stage.bind fun _ => (tame_lift (hparameter _)).bind fun p =>
    (tame_argumentTypeFor p _).bind fun _ => tame_database.bind fun _ => tame_lift (hdefault _ p _)

theorem mild_fixedValue (state : CommandingState) (element : CommandElement) :
    Mild (fixedValue state element) := by
  unfold fixedValue
  extract_lets value?
  clear_value value?
  refine Mild.ite (mild_error rfl) ?_
  cases value? with
  | some value => exact mild_ok
  | none => exact mild_error rfl

theorem tame_placeArgument (command : Command) (element : CommandElement) :
    Tame (placeArgument setting command element) := by
  unfold placeArgument
  refine (tame_argumentOf element).bind fun argument => Tame.ite ?_ (tame_pure _)
  exact tame_stage.bind fun _ => (tame_lift (mild_fixedValue _ _)).bind fun _ => tame_pure _

theorem mild_checkMembers (counter : String) (members : List CommandElement) :
    Mild (checkMembers counter members) := by
  unfold checkMembers
  split
  · exact mild_error rfl
  · split
    · exact mild_error rfl
    · exact mild_ok

theorem tame_placeGroup (command : Command) (counter : String) (members : List CommandElement) :
    Tame (placeGroup setting command counter members) := by
  have helement (fields : List RecordMember) : Tame (groupElement counter fields) := by
    unfold groupElement
    split
    · exact tame_pure _
    · exact (tame_addArgumentType _).bind fun _ => tame_pure _
  unfold placeGroup
  refine (tame_lift (mild_checkMembers counter members)).bind fun _ => ?_
  refine (tame_mapM (fun m => ?_) members).bind fun fields => ?_
  · exact (tame_argumentOf m).bind fun _ => tame_pure _
  exact (helement fields).bind fun _ => (tame_addArgumentType _).bind fun _ => tame_pure _

theorem tame_placeFirst (command : Command) (element : CommandElement)
    (rest : List CommandElement) : Tame (placeFirst setting command element rest) := by
  have harea : Mild (areaOctets element) := by
    unfold areaOctets
    split
    · exact mild_pattern _ _ _
    · exact mild_ok
  unfold placeFirst
  refine Tame.ite ((tame_lift harea).bind fun _ => tame_pure _) ?_
  refine (tame_placeArgument command element).bind fun placed => ?_
  dsimp only
  refine Tame.ite (tame_pure _) (Tame.ite (tame_throw rfl) (Tame.ite ?_ ?_))
  · exact (tame_limitation _).bind fun _ => tame_pure _
  · exact (tame_placeGroup _ _ _).bind fun _ => tame_pure _

theorem tame_placeElements (command : Command) (elements : List CommandElement) :
    Tame (placeElements setting command elements) := by
  induction elements using elements_induction generalizing command with
  | nil =>
      rw [placeElements_nil]
      exact tame_pure command
  | cons element rest ih =>
      rw [placeElements_cons]
      exact (tame_placeFirst command element rest).bind fun x => ih x.2 x.1

/-! ## Commands -/

theorem mild_bindDiscriminator (db : Database) (header : CommandRef) (command : Command)
    (d : Discriminator) : Mild (bindDiscriminator db row header command d) := by
  have hvalue (argument : String) (value : Int) (editable : Bool) :
      Mild (bindValue db row header command argument value editable) := by
    unfold bindValue
    refine Mild.ite ?_ mild_ok
    split
    · exact mild_ok
    · exact mild_error rfl
  unfold bindDiscriminator
  split
  · exact mild_ok
  · refine (row.mild_get? _ _ _).bind fun value => ?_
    split
    · exact hvalue _ _ _
    · exact Mild.unless rfl mild_ok

theorem mild_withHeader (db : Database) (state : CommandingState) (command : Command) :
    Mild (withHeader setting db state row command) := by
  unfold withHeader
  refine (row.mild_text _).bind fun name => Mild.ite mild_ok ?_
  split
  · exact mild_error rfl
  · exact mild_foldlM (mild_bindDiscriminator row db _) _ _

theorem mild_withService (db : Database) (command : Command) :
    Mild (withService setting db row command) := by
  unfold withService
  refine (row.mild_get? _ _ _).bind fun service => (row.mild_get? _ _ _).bind fun subservice => ?_
  split
  · exact mild_ok
  · exact mild_ok

theorem tame_defineCommand : Tame (defineCommand setting row) := by
  unfold defineCommand
  refine (tame_lift (row.mild_require _)).bind fun _ => ?_
  refine (tame_lift (row.mild_text _)).bind fun name => Tame.ite ?_ (tame_pure _)
  refine tame_stage.bind fun state => tame_database.bind fun db => Tame.unless rfl ?_
  refine (tame_lift (mild_withHeader row _ _ _)).bind fun command => ?_
  refine (tame_placeElements command _).bind fun placed => tame_database.bind fun db' => ?_
  exact (tame_lift (mild_withService row _ _)).bind fun _ =>
    (tame_add fun _ => rfl).bind fun _ => tame_pure _

theorem mild_isCalibrated (col : Nat) : Mild (isCalibrated row col) :=
  Mild.ite mild_ok (Mild.ite mild_ok (mild_error rfl))

theorem tame_declareCondition : Tame (declareCondition row) := by
  unfold declareCondition
  refine (tame_lift (row.mild_require _)).bind fun _ => tame_database.bind fun db => ?_
  refine (tame_lift (row.mild_text _)).bind fun name => ?_
  split
  · exact tame_throw rfl
  · refine (tame_lift (row.mild_text _)).bind fun parameterName => ?_
    split
    · exact tame_throw rfl
    · exact (tame_lift (row.mild_text _)).bind fun _ =>
        (tame_lift (mild_isCalibrated row _)).bind fun _ => tame_changeStage _

/-- The conditions of a command become its constraint whatever they are. -/
theorem sure_addConstraint (command : CommandRef) (comparisons : List Comparison) :
    Sure (addConstraint command comparisons) := by
  unfold addConstraint
  split
  · exact sure_pure _
  · exact sure_changeDatabase _

/-! ## Verifiers -/

theorem mild_expressionComparisons (db : Database) (name : String) (parameter : ParameterRef) :
    Mild (expressionComparisons db row name parameter) := by
  unfold expressionComparisons
  refine (row.mild_require _).bind fun _ => (mild_isCalibrated row _).bind fun calibrated => ?_
  refine (row.mild_text _).bind fun value => (row.mild_get? _ _ _).bind fun tolerance => ?_
  split
  · exact mild_ok
  · exact Mild.ite mild_ok (Mild.unless rfl ((row.mild_get _ _ _).bind fun _ => mild_ok))

theorem tame_declareExpression : Tame (declareExpression row) := by
  have hover (id what : String) : Tame (passOver row id what) :=
    (tame_limitation _).bind fun _ => tame_changeStage _
  unfold declareExpression
  refine (tame_lift (row.mild_require _)).bind fun _ => ?_
  refine (tame_lift (row.mild_text _)).bind fun id => ?_
  refine (tame_lift (row.mild_text _)).bind fun name => tame_database.bind fun db => ?_
  split
  · exact tame_throw rfl
  · refine Tame.ite (hover _ _) (Tame.ite (hover _ _) ?_)
    exact (tame_lift (mild_expressionComparisons row db name _)).bind fun _ => tame_changeStage _

theorem tame_stageCheck? (id stage : String) (code : Nat) :
    Tame (stageCheck? row id stage code) := by
  have hcriteria (state : CommandingState) : Mild (stageCriteria? state row id) := by
    unfold stageCriteria?
    split
    · split
      · exact mild_ok
      · exact mild_error rfl
    · exact Mild.ite mild_ok (mild_error rfl)
  unfold stageCheck?
  refine Tame.ite ?_ (Tame.ite ?_ (tame_throw rfl))
  · unfold acknowledgementFor
    refine Tame.bind (tame_database.bind fun db => ?_) fun _ => tame_pure _
    split
    · exact tame_pure _
    · exact tame_echoedRequest.bind fun _ => tame_add fun _ => rfl
  · exact tame_stage.bind fun _ => (tame_lift (hcriteria _)).bind fun _ => tame_pure _

theorem tame_declareStage : Tame (declareStage setting row) := by
  unfold declareStage
  refine (tame_lift (row.mild_require _)).bind fun _ => ?_
  refine (tame_lift (row.mild_text _)).bind fun id => tame_stage.bind fun state => ?_
  refine Tame.unless rfl ((tame_lift ?_).bind fun window => ?_)
  · exact (row.mild_get _ _ _).bind fun _ => (row.mild_get _ _ _).bind fun _ =>
      (row.mild_getD _ _ _ _).bind fun _ => mild_ok
  · refine (tame_stageCheck? row id _ _).bind fun check => ?_
    split
    · exact tame_changeStage _
    · exact tame_changeStage _

theorem tame_attachStage : Tame (attachStage row) := by
  unfold attachStage
  refine (tame_lift (row.mild_require _)).bind fun _ => ?_
  refine (tame_lift (row.mild_text _)).bind fun task => Tame.ite ?_ (tame_pure _)
  refine tame_database.bind fun db => ?_
  split
  · exact tame_throw rfl
  · refine (tame_lift (row.mild_text _)).bind fun id => tame_stage.bind fun state => ?_
    split
    · exact tame_changeDatabase _
    · exact Tame.ite (tame_throw rfl) (tame_pure _)

end Commanding

/-! ## The stage -/

/-- **The lenient command stage does not fail**, whatever its tables hold. -/
theorem sure_buildCommands (hlenient : setting.config.strict = false)
    (hreadable : setting.Readable) : Sure (buildCommands setting) := by
  unfold buildCommands
  refine Sure.bind ?_ fun _ => ?_
  · unfold Commanding.loadHeaders
    refine (hreadable.sure_scan hlenient (by decide) Commanding.tame_declareHeader).bind fun _ => ?_
    refine (hreadable.sure_scan hlenient (by decide)
      Commanding.tame_declareHeaderArgument).bind fun _ => ?_
    exact (hreadable.sure_scan hlenient (by decide)
      Commanding.tame_placeHeaderField).bind fun _ => sure_pure _
  refine ((Registry.sure_loadCommanding hlenient hreadable).within _ _).bind fun _ => ?_
  refine Sure.bind ?_ fun _ => ?_
  · refine (hreadable.sure_scan hlenient (by decide) fun row => ?_).bind fun _ => sure_pure _
    exact (tame_lift (CommandParameter.mild_ofRow row)).bind fun _ => tame_stage.bind fun _ =>
      Tame.unless rfl (tame_changeStage _)
  refine Sure.bind ?_ fun _ => ?_
  · exact (hreadable.sure_scan hlenient (by decide) Commanding.tame_declareElement).bind
      fun _ => sure_changeStage _
  refine Sure.bind ?_ fun _ => ?_
  · exact (hreadable.sure_scan hlenient (by decide) Commanding.tame_defineCommand).bind
      fun _ => sure_pure _
  refine Sure.bind ?_ fun _ => ?_
  · refine (hreadable.sure_scan hlenient (by decide) Commanding.tame_declareCondition).bind
      fun _ => sure_stage.bind fun _ => ?_
    exact sure_forM (fun (c, comparisons) => Commanding.sure_addConstraint c comparisons) _
  unfold Commanding.loadVerifiers
  refine (hreadable.sure_scan hlenient (by decide) Commanding.tame_declareExpression).bind
    fun _ => ?_
  refine (hreadable.sure_scan hlenient (by decide) Commanding.tame_declareStage).bind fun _ => ?_
  exact (hreadable.sure_scan hlenient (by decide) Commanding.tame_attachStage).bind
    fun _ => sure_pure _

end MissionBase
