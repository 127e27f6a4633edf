import MissionBase.Proofs.Leniency.Basic
import MissionBase.Telemetry.Stage

/-!
# The telemetry stage does not fail

What a record of the telemetry tables can be blamed for is recorded, so the lenient stage goes on to
its end: every record is a unit of work that is tame, and so are the formulas, the context rules,
the packets of a kind and the structures. What stands outside of units of work, the root of packets
and the errors that are recorded in the middle of a unit, is handled on the spot.
-/

namespace MissionBase

open Run Leniency

variable {σ : Type} {setting : Setting}

/-! ## Calibrations -/

namespace Registry

variable (row : Row)

theorem mild_curveOfRow : Mild (curveOfRow row) :=
  (row.mild_require _).bind fun _ => Mild.unless rfl (Mild.unless rfl
    ((row.mild_text _).bind fun _ => mild_ok))

theorem mild_calibrationPoint (curve : CurveDefinition) : Mild (calibrationPoint row curve) :=
  (row.mild_rawValue _ _ _).bind fun _ => (row.mild_rawValue _ _ _).bind fun _ => mild_ok

theorem mild_decalibrationPoint (curve : CurveDefinition) : Mild (decalibrationPoint row curve) :=
  (row.mild_rawValue _ _ _).bind fun _ => (row.mild_rawValue _ _ _).bind fun _ => mild_ok

theorem mild_defined {α : Type} (index : Index String α) (name kind definition : String) :
    Mild (defined row index name kind definition) := by
  unfold defined
  split
  · exact mild_ok
  · exact mild_error rfl

theorem mild_addPoint (curves : Index String CurveDefinition) (kind definition : String)
    {point : Row → CurveDefinition → Except Error (CurvePoint Float)}
    (h : ∀ curve, Mild (point row curve)) : Mild (addPoint row curves kind definition point) :=
  (row.mild_require _).bind fun _ => (row.mild_text _).bind fun _ =>
    (mild_defined row curves _ _ _).bind fun curve => (h curve).bind fun _ => mild_ok

theorem mild_polynomialOfRow : Mild (polynomialOfRow row) := by
  unfold polynomialOfRow
  refine (row.mild_require _).bind fun _ => ?_
  split
  · exact mild_error rfl
  · exact (mild_mapM (fun col => row.mild_getD _ _ col _) _).bind fun _ =>
      (row.mild_text _).bind fun _ => mild_ok

theorem mild_logarithmOfRow : Mild (logarithmOfRow row) :=
  (row.mild_require _).bind fun _ => (mild_mapM (fun col => row.mild_getD _ _ col _) _).bind
    fun _ => (row.mild_text _).bind fun _ => mild_ok

theorem mild_contextOfRow : Mild (contextOfRow row) :=
  (row.mild_require _).bind fun _ => (row.mild_get _ _ _).bind fun _ =>
    (row.mild_text _).bind fun _ => (row.mild_get _ _ _).bind fun _ =>
      (row.mild_text _).bind fun _ => (row.mild_text _).bind fun _ => mild_ok

theorem mild_textOfRow : Mild (textOfRow row) :=
  (row.mild_require _).bind fun _ => (row.mild_text _).bind fun _ => mild_ok

theorem mild_addLabel (texts : Index String LabelDefinition) : Mild (addLabel row texts) := by
  unfold addLabel
  refine (row.mild_require _).bind fun _ => (row.mild_text _).bind fun name => ?_
  refine (mild_defined row texts _ _ _).bind fun text => ?_
  refine (row.mild_text _).bind fun low => (row.mild_text _).bind fun high => Mild.ite ?_ ?_
  · exact (row.mild_get _ _ _).bind fun _ => mild_ok
  · exact (row.mild_get _ _ _).bind fun _ => (row.mild_get _ _ _).bind fun _ => mild_ok

theorem mild_aliasesOfRow : Mild (aliasesOfRow row) :=
  (row.mild_require _).bind fun _ => Mild.unless rfl ((row.mild_text _).bind fun _ => mild_ok)

theorem mild_addAliasLabel (sets : Index String LabelDefinition) :
    Mild (addAliasLabel row sets) := by
  unfold addAliasLabel
  refine (row.mild_require _).bind fun _ => (row.mild_text _).bind fun name => ?_
  refine (mild_defined row sets _ _ _).bind fun set => (row.mild_text _).bind fun label => ?_
  refine Mild.ite ?_ (Mild.ite ?_ ?_)
  · exact (row.mild_get _ _ _).bind fun _ => Mild.unless rfl mild_ok
  · exact (row.mild_get _ _ _).bind fun _ => mild_ok
  · exact (row.mild_get _ _ _).bind fun _ => mild_ok

theorem mild_rangeSetOfRow : Mild (rangeSetOfRow row) :=
  (row.mild_require _).bind fun _ => (row.mild_text _).bind fun _ => mild_ok

theorem mild_addRange (sets : Index String RangeSet) : Mild (addRange row sets) := by
  unfold addRange
  refine (row.mild_require _).bind fun _ => (row.mild_text _).bind fun name => ?_
  refine (mild_defined row sets _ _ _).bind fun set => Mild.ite mild_ok ?_
  refine (row.mild_rawValue _ _ _).bind fun min => ?_
  exact Mild.ite ((row.mild_rawValue _ _ _).bind fun _ => mild_ok) mild_ok

/-- A record that changes the registry is a unit of work that is tame if the change is mild. -/
theorem tame_updating {change : Row → Registry → Except Error Registry}
    (h : ∀ registry, Mild (change row registry)) : Tame (updating change row) :=
  tame_stage.bind fun registry => (tame_lift (h registry)).bind fun _ => tame_changeStage _

end Registry

/-! ## Records -/

variable (row : Row)

theorem ParameterRecord.mild_ofRow (sizeTagBytes : Int) :
    Mild (ParameterRecord.ofRow row sizeTagBytes) :=
  (row.mild_require _).bind fun _ => (row.mild_text _).bind fun _ => Mild.unless rfl
    ((row.mild_get? _ _ _).bind fun _ => (row.mild_get _ _ _).bind fun _ =>
      (row.mild_get _ _ _).bind fun _ => (row.mild_getD _ _ _ _).bind fun _ => mild_ok)

theorem IdentificationRule.mild_ofRow : Mild (IdentificationRule.ofRow row) :=
  (row.mild_require _).bind fun _ => (row.mild_get _ _ _).bind fun _ =>
    (row.mild_get _ _ _).bind fun _ => (row.mild_get _ _ _).bind fun _ =>
      (row.mild_get _ _ _).bind fun _ => (row.mild_get _ _ _).bind fun _ =>
        (row.mild_get _ _ _).bind fun _ => (row.mild_get? _ _ _).bind fun _ => mild_ok

theorem PacketRecord.mild_ofRow : Mild (PacketRecord.ofRow row) :=
  (row.mild_require _).bind fun _ => (row.mild_get _ _ _).bind fun _ =>
    (row.mild_get _ _ _).bind fun _ => (row.mild_get _ _ _).bind fun _ =>
      (row.mild_getD _ _ _ _).bind fun _ => (row.mild_getD _ _ _ _).bind fun _ =>
        (row.mild_get _ _ _).bind fun _ => (row.mild_get? _ _ _).bind fun _ =>
          (row.mild_get _ _ _).bind fun _ => mild_ok

theorem VariableElement.mild_ofRow : Mild (VariableElement.ofRow row) :=
  (row.mild_require _).bind fun _ => (row.mild_getD _ _ _ _).bind fun _ => Mild.unless rfl
    ((row.mild_get _ _ _).bind fun _ => (row.mild_get _ _ _).bind fun _ =>
      (row.mild_text _).bind fun _ => (row.mild_getD _ _ _ _).bind fun _ =>
        (row.mild_getD _ _ _ _).bind fun _ => mild_ok)

theorem LimitCheck.mild_ofRow : Mild (LimitCheck.ofRow row) :=
  (row.mild_require _).bind fun _ => (row.mild_get _ _ _).bind fun _ =>
    (row.mild_getD _ _ _ _).bind fun _ => mild_ok

theorem Telemetry.LimitRecord.mild_ofRow : Mild (LimitRecord.ofRow row) :=
  (row.mild_require _).bind fun _ => (row.mild_text _).bind fun _ =>
    (row.mild_get _ _ _).bind fun _ => (row.mild_get _ _ _).bind fun _ => mild_ok

/-! ## Parameters -/

namespace ParameterRecord

variable (r : ParameterRecord) (calibrations : Registry)

theorem mild_encoding : Mild r.encoding := by
  unfold encoding
  split
  · exact mild_ok
  · exact mild_error rfl

theorem mild_calibratedType (encoding : Encoding) :
    Mild (r.calibratedType calibrations encoding) := by
  unfold calibratedType
  dsimp only
  split
  · exact mild_ok
  · split
    · exact mild_ok
    · exact mild_error rfl

theorem mild_numericType (epoch : Epoch) : Mild (r.numericType calibrations epoch) := by
  unfold numericType
  refine r.mild_encoding.bind fun encoding => ?_
  dsimp only
  refine Mild.ite (Mild.unless rfl mild_ok) (Mild.ite (Mild.ite ?_ ?_)
    (Mild.ite (mild_error rfl) ?_))
  · exact r.mild_calibratedType calibrations encoding
  · split
    · exact mild_ok
    · exact mild_error rfl
  · refine Mild.ite mild_ok (Mild.ite mild_ok (Mild.ite mild_ok (Mild.ite mild_ok
      (Mild.ite ?_ (mild_error rfl)))))
    split
    · exact mild_ok
    · exact mild_error rfl

theorem mild_stringType : Mild r.stringType := by
  unfold stringType
  exact Mild.unless rfl (r.mild_encoding.bind fun _ => mild_ok)

theorem tame_textualType :
    Tame (r.textualType setting calibrations : Build σ ParameterType) := by
  unfold textualType
  refine (tame_lift r.mild_encoding).bind fun encoding => ?_
  split
  · exact Tame.ite ((tame_limitation _).bind fun _ => tame_pure _)
      ((tame_report rfl).bind fun _ => tame_pure _)
  · split
    · exact tame_pure _
    · exact (tame_report rfl).bind fun _ => tame_pure _

theorem tame_buildType : Tame (r.buildType setting calibrations : Build σ ParameterType) := by
  unfold buildType
  dsimp only
  split
  · exact (tame_lift (r.mild_numericType calibrations _)).bind fun _ => tame_pure _
  · split
    · exact (r.tame_textualType calibrations).bind fun _ => tame_pure _
    · split
      · exact (tame_lift r.mild_stringType).bind fun _ => tame_pure _
      · exact tame_throw rfl

end ParameterRecord

namespace Telemetry

theorem tame_typeFor (r : ParameterRecord) : Tame (typeFor setting r) := by
  unfold typeFor
  refine tame_stage.bind fun state => ?_
  dsimp only
  split
  · exact tame_pure _
  · refine (r.tame_buildType state.calibrations).bind fun type => tame_database.bind fun db => ?_
    refine (tame_add fun _ => rfl).bind fun ref => ?_
    exact Tame.ite ((tame_changeStage _).bind fun _ => tame_pure ref) (tame_pure ref)

theorem tame_declare (r : ParameterRecord) : Tame (declare setting r) := by
  unfold declare addDeclared
  refine tame_stage.bind fun state => Tame.unless rfl (Tame.ite (tame_changeStage _) ?_)
  refine Tame.ite (Tame.unless rfl (tame_changeStage _)) ?_
  refine (tame_typeFor r).bind fun type => (tame_add fun _ => rfl).bind fun ref => ?_
  dsimp only
  split
  · exact (tame_changeDatabase _).bind fun _ => tame_changeStage _
  · exact tame_changeStage _

theorem mild_formulaText (name : String) (location : Location) :
    Mild (formulaText setting name location) := by
  unfold formulaText
  dsimp only
  split
  · exact mild_ok
  · exact mild_error rfl

/-- Whatever the compiler of formulas answers, it is the fault of the parameter. -/
theorem mild_syntheticAlgorithm (db : Database) (compiler : FormulaCompiler)
    (name source : String) : Mild (syntheticAlgorithm db compiler name source) := by
  have hinput (input : FormulaInput) : Mild (formulaInput db name input) := by
    unfold formulaInput
    split
    · exact mild_ok
    · exact mild_error rfl
  unfold syntheticAlgorithm
  dsimp only
  split
  · refine Mild.bind mild_ok fun _ => ?_
    split
    · exact mild_error rfl
    · exact (mild_mapM hinput _).bind fun _ => mild_ok
  · exact mild_error rfl

theorem tame_addSynthetic (compiler : FormulaCompiler) (name : String) (location : Location) :
    Tame (addSynthetic setting compiler name location) :=
  (tame_lift (mild_formulaText name location)).bind fun source => tame_database.bind fun db =>
    (tame_lift (mild_syntheticAlgorithm db compiler name source)).bind fun _ =>
      (tame_add fun _ => rfl).bind fun _ => tame_pure _

theorem tame_attachContexts (name : String) : Tame (attachContexts name) := by
  have hrule (db : Database) (calibrations : Registry) (rule : ContextRule) :
      Mild (contextCalibrator db calibrations rule) := by
    unfold contextCalibrator
    split
    · exact mild_error rfl
    · split
      · exact mild_error rfl
      · exact mild_ok
  unfold attachContexts
  refine tame_stage.bind fun state => tame_database.bind fun db => ?_
  extract_lets rules passedOver
  clear_value rules passedOver
  cases rules with
  | nil => exact tame_pure _
  | cons first rest =>
      dsimp only
      refine Tame.ite (tame_pure _) ?_
      split
      · exact tame_throw rfl
      · refine (tame_lift (mild_mapM (hrule db _) _)).bind fun calibrators => ?_
        split
        · exact tame_pure _
        · exact tame_changeDatabase _

end Telemetry

/-! ## Packets -/

theorem tame_unsignedTypeRef (size : Nat) :
    Tame (unsignedTypeRef size : Build σ ParameterTypeRef) := by
  unfold unsignedTypeRef
  refine tame_database.bind fun db => ?_
  split
  · exact tame_pure _
  · exact tame_add fun _ => rfl

theorem tame_addUnsigned (name : String) (size : Nat) :
    Tame (addUnsigned name size : Build σ ParameterRef) :=
  (tame_unsignedTypeRef size).bind fun _ => tame_add fun _ => rfl

theorem tame_unsignedOrNew (name : String) (size : Nat) :
    Tame (unsignedOrNew name size : Build σ ParameterRef) := by
  unfold unsignedOrNew
  refine tame_database.bind fun db => ?_
  split
  · exact tame_pure _
  · exact tame_addUnsigned name size

theorem tame_echoedRequest : Tame (echoedRequest : Build σ (ParameterRef × ParameterRef)) :=
  (tame_unsignedOrNew _ _).bind fun _ => (tame_unsignedOrNew _ _).bind fun _ => tame_pure _

namespace Telemetry

theorem tame_declarePacket (packet : PacketRecord) : Tame (declarePacket row packet) :=
  tame_stage.bind fun _ => Tame.ite (Tame.unless rfl (tame_changeStage _)) (tame_pure _)

theorem tame_namePacket : Tame (namePacket row) :=
  (tame_lift (row.mild_require _)).bind fun _ => (tame_lift (row.mild_get? _ _ _)).bind fun _ =>
    (tame_lift (row.mild_get _ _ _)).bind fun _ => tame_changeStage _

theorem tame_addPacketRoot (options : TelemetryOptions) : Tame (addPacketRoot options) :=
  (tame_addUnsigned _ _).bind fun _ => (tame_addUnsigned _ _).bind fun _ =>
    (tame_addUnsigned _ _).bind fun _ => (tame_addUnsigned _ _).bind fun _ =>
      (tame_add fun _ => rfl).bind fun _ => tame_pure _

theorem tame_addKindContainer (root : PacketRoot) (name : String) (packet : PacketRecord)
    (description : Option String) :
    Tame (addKindContainer setting root name packet description) := by
  unfold addKindContainer echoEntries
  refine Tame.bind ?_ fun _ => tame_add fun _ => rfl
  exact Tame.ite (tame_echoedRequest.bind fun _ => tame_pure _) (tame_pure _)

theorem tame_addIdentification (container : ContainerRef) (name : String)
    (field : IdentificationField) (location : Location) :
    Tame (addIdentification setting container name field location) := by
  unfold addIdentification
  refine Tame.ite (tame_pure _) ?_
  split
  · exact (tame_report rfl).bind fun _ => tame_pure _
  · exact (tame_addUnsigned _ _).bind fun _ => (tame_changeDatabase _).bind fun _ => tame_pure _

theorem tame_registerPacket (packet : PacketRecord) (container : ContainerRef) :
    Tame (registerPacket packet container) := by
  unfold registerPacket
  refine tame_stage.bind fun state => ?_
  dsimp only
  split
  · split
    · exact (tame_changeDatabase _).bind fun _ => tame_changeStage _
    · exact tame_changeStage _
  · exact tame_changeStage _

theorem tame_addMember (group : ContainerRef) (first second : Option ParameterRef)
    (packet : PacketRecord) : Tame (addMember group first second packet) :=
  tame_stage.bind fun _ => tame_database.bind fun _ =>
    (tame_add fun _ => rfl).bind fun _ => tame_registerPacket _ _

theorem tame_addPackets (root : PacketRoot) (key : PacketKey) (packets : List PacketRecord) :
    Tame (addPackets setting root key packets) := by
  unfold addPackets
  split
  · exact tame_pure _
  · exact tame_stage.bind fun _ => tame_database.bind fun _ =>
      (tame_addKindContainer _ _ _ _).bind fun _ => tame_registerPacket _ _
  · unfold addPacketGroup
    refine tame_stage.bind fun state => ?_
    split
    · exact tame_throw rfl
    · refine (tame_addKindContainer _ _ _ _).bind fun group => ?_
      refine (tame_addIdentification _ _ _ _).bind fun one => ?_
      refine (tame_addIdentification _ _ _ _).bind fun two => Tame.unless rfl ?_
      exact tame_forM (tame_addMember group one two) _

/-! ## Layouts -/

theorem mild_entryItem (state : TelemetryState) (db : Database) (name : String)
    (location : Location) : Mild (entryItem state db name location) := by
  unfold entryItem
  split
  · dsimp only
    split
    · exact mild_ok
    · exact mild_error rfl
  · split
    · exact mild_ok
    · exact mild_error rfl

theorem mild_fixedEntry (state : TelemetryState) (db : Database) (name : String) :
    Mild (fixedEntry state db row name) := by
  have hrepetition (occurrences gap : Int) : Mild (repetitionOf row occurrences gap) := by
    unfold repetitionOf
    split
    · exact mild_error rfl
    · split
      · exact mild_error rfl
      · exact mild_ok
  unfold fixedEntry
  refine (row.mild_get _ _ _).bind fun byte => (row.mild_get _ _ _).bind fun bit => ?_
  refine (row.mild_getD _ _ _ _).bind fun n => (row.mild_getD _ _ _ _).bind fun gap => ?_
  exact (hrepetition n gap).bind fun _ => (mild_entryItem _ _ _ _).bind fun _ => mild_ok

theorem tame_placeFixed : Tame (placeFixed row) := by
  unfold placeFixed
  refine (tame_lift (row.mild_require _)).bind fun _ => ?_
  refine (tame_lift (row.mild_text _)).bind fun name => ?_
  refine (tame_lift (row.mild_get _ _ _)).bind fun spid => tame_stage.bind fun state => ?_
  split
  · exact tame_pure _
  · refine Tame.ite (tame_database.bind fun db => ?_) (tame_pure _)
    exact (tame_lift (mild_fixedEntry row state db name)).bind fun _ => tame_changeDatabase _

/-- A plan that fails with no fatal error. -/
def MildPlan {α : Type} (plan : Plan α) : Prop :=
  ∀ n, Raises plan n fun e => e.isFatal = false

theorem mildPlan_lift {α : Type} {x : Except Error α} (h : Mild x) :
    MildPlan (liftM x : Plan α) := by
  cases x with
  | ok a => exact fun _ => raises_pure
  | error e => exact fun _ => raises_throw (h e rfl)

theorem mildPlan_plannedEntry {s : Surroundings} (hs : ∀ name location, Mild (s.item name location))
    (place : EntryPlace) (repetition : Option Repeat) (element : VariableElement) :
    MildPlan (plannedEntry s place repetition element) :=
  fun n => (mildPlan_lift (hs _ _) n).bind fun _ _ _ => raises_pure

theorem mild_repeatCount {s : Surroundings} (hs : ∀ name location, Mild (s.item name location))
    (counter : VariableElement) : Mild (repeatCount s counter) := by
  unfold repeatCount
  split
  · split
    · exact mild_ok
    · exact mild_error rfl
  · split
    · rename_i e he
      exact mild_error (hs _ _ e he)
    · exact mild_ok
    · exact mild_error rfl

theorem mildPlan_groupName (s : Surroundings) (parent : String) (location : Location) :
    MildPlan (groupName s parent location) := by
  intro n
  unfold groupName
  refine raises_modify.bind fun _ m _ => ?_
  refine Raises.bind (fun _ _ => nofun) fun count u _ => ?_
  exact Raises.ite (fun _ => raises_throw rfl) fun _ => raises_pure

/-- Planning fails with no fatal error, at whatever element it goes on. -/
theorem mildPlan_planEntries {s : Surroundings}
    (hs : ∀ name location, Mild (s.item name location)) (parent : String) (start : Option Int)
    (elements : List VariableElement) : MildPlan (planEntries s parent start elements) := by
  intro n
  match elements with
  | [] =>
      rw [planEntries]
      exact raises_pure
  | counter :: rest =>
      rw [planEntries]
      refine (mildPlan_plannedEntry hs _ _ _ n).bind fun entry n₁ _ => ?_
      dsimp only
      refine Raises.ite (fun _ => ?_) fun _ => Raises.ite (fun _ => raises_throw rfl) fun _ => ?_
      · exact (mildPlan_planEntries hs parent none rest n₁).bind fun _ _ _ => raises_pure
      refine (mildPlan_lift (mild_repeatCount hs counter) n₁).bind fun count n₂ _ => ?_
      have hrest (group : PlannedEntry) (n₃ : Nat) :
          Raises (planEntries s parent none (rest.drop counter.groupSize) >>= fun entries =>
            pure (entry :: group :: entries)) n₃ fun e => e.isFatal = false :=
        (mildPlan_planEntries hs parent none _ n₃).bind fun _ _ _ => raises_pure
      split
      · exact (mildPlan_plannedEntry hs _ _ _ n₂).bind fun group n₃ _ => hrest group n₃
      · refine (mildPlan_groupName s _ _ n₂).bind fun name n₃ _ => ?_
        exact (mildPlan_planEntries hs name _ _ n₃).bind fun _ n₄ _ => hrest _ n₄
termination_by elements.length
decreasing_by all_goals simp only [List.length_cons, List.length_take, List.length_drop]; omega

theorem tame_planned {α : Type} {plan : Plan α} (h : MildPlan plan) : Tame (planned plan) := by
  unfold planned
  refine tame_stage.bind fun state => ?_
  split
  · exact (tame_changeStage _).bind fun _ => tame_pure _
  · rename_i e count he
    exact (tame_changeStage _).bind fun _ => tame_throw (h _ e count he)

mutual

theorem tame_commitEntry : ∀ entry : PlannedEntry, Tame (commitEntry entry)
  | .single entry => tame_pure entry
  | .nested _ entries _ =>
      (tame_commitEntries entries).bind fun _ => (tame_add fun _ => rfl).bind fun _ => tame_pure _

theorem tame_commitEntries : ∀ entries : List PlannedEntry, Tame (commitEntries entries)
  | [] => tame_pure []
  | entry :: rest =>
      (tame_commitEntry entry).bind fun _ => (tame_commitEntries rest).bind fun _ => tame_pure _

end

theorem tame_expandStructure (container : ContainerRef) (start : Int)
    (elements : List VariableElement) : Tame (expandStructure container start elements) := by
  unfold expandStructure
  refine tame_stage.bind fun state => tame_database.bind fun db => ?_
  refine (tame_planned (mildPlan_planEntries (mild_entryItem state db) _ _ _)).bind fun plan => ?_
  exact (tame_commitEntries plan).bind fun _ => tame_changeDatabase _

theorem tame_declareElement (element : VariableElement) : Tame (declareElement row element) := by
  unfold declareElement
  refine tame_stage.bind fun state => Tame.ite (tame_database.bind fun db => ?_) (Tame.ite ?_ ?_)
  · exact (tame_lift (mild_entryItem _ _ _ _)).bind fun _ => tame_changeStage _
  · exact (tame_changeStage _).bind fun _ => tame_throw rfl
  · exact tame_pure _

/-! ## Limits -/

theorem mild_withCheck (db : Database) (coding : LimitCoding) (violations : Nat)
    (type : ParameterType) (check : LimitCheck) :
    Mild (withCheck db coding violations type check) := by
  have hcontext : Mild (checkContext db check) := by
    unfold checkContext
    split
    · exact mild_ok
    · split
      · exact mild_ok
      · exact mild_error rfl
  have hbound (text : Option String) : Mild (bound check text) := by
    cases text with
    | none => exact mild_ok
    | some text =>
        unfold bound
        dsimp only
        split
        · exact mild_ok
        · exact mild_error rfl
  have hlabel (coding : LimitCoding) (value : ValueType) :
      Mild (checkLabel check coding value) := by
    unfold checkLabel
    split
    · exact mild_error rfl
    · split
      · exact mild_ok
      · split
        · exact mild_ok
        · exact mild_error rfl
  unfold withCheck
  refine hcontext.bind fun context => Mild.ite ?_ ?_
  · unfold withRange
    refine (hbound _).bind fun low => (hbound _).bind fun high => ?_
    split
    · exact mild_ok
    · exact mild_error rfl
  · unfold withLabel
    refine (hlabel _ _).bind fun label => ?_
    split
    · exact mild_ok
    · split
      · exact mild_ok
      · exact mild_error rfl

theorem tame_attachChecks (r : LimitRecord) (parameter : ParameterRef) (coding : LimitCoding)
    (checks : List LimitCheck) (type : ParameterType) :
    Tame (attachChecks row r parameter coding checks type) := by
  have hchecks (type : ParameterType) : Tame (withChecks coding r.violations checks type) := by
    refine tame_foldlM (fun type check => Tame.ite ?_ ?_) checks type
    · exact tame_database.bind fun db => tame_lift (mild_withCheck db _ _ _ _)
    · exact (tame_limitation _).bind fun _ => tame_pure _
  exact tame_database.bind fun db => (hchecks _).bind fun _ =>
    (tame_add fun _ => rfl).bind fun _ => tame_changeDatabase _

theorem tame_attachLimits : Tame (attachLimits row) := by
  unfold attachLimits
  refine (tame_lift (LimitRecord.mild_ofRow row)).bind fun r => tame_stage.bind fun state => ?_
  refine tame_database.bind fun db => ?_
  dsimp only
  split
  · exact tame_throw rfl
  · refine Tame.ite (tame_limitation _) ?_
    split
    · refine Tame.ite (tame_limitation _) ?_
      split
      · exact tame_attachChecks row _ _ _ _ _
      · exact tame_throw rfl
    · exact tame_throw rfl

end Telemetry

/-! ## The stage -/

section

variable (hlenient : setting.config.strict = false) (hreadable : setting.Readable)
include hlenient hreadable

theorem Registry.sure_loadTelemetry : Sure (loadTelemetry setting) := by
  unfold loadTelemetry
  refine (hreadable.sure_scan hlenient (by decide) fun row => tame_updating row fun r => ?_).bind
    fun _ => (sure_changeStage sortContexts).bind fun _ => ?_
  · exact (mild_contextOfRow row).bind fun _ => mild_ok
  refine (hreadable.sure_scan hlenient (by decide) fun row => tame_updating row fun r => ?_).bind
    fun _ => ?_
  · exact (mild_curveOfRow row).bind fun _ => mild_ok
  refine (hreadable.sure_scan hlenient (by decide) fun row => tame_updating row fun r => ?_).bind
    fun _ => ?_
  · exact (mild_addPoint row _ _ _ (mild_calibrationPoint row)).bind fun _ => mild_ok
  refine (hreadable.sure_scan hlenient (by decide) fun row => tame_updating row fun r => ?_).bind
    fun _ => ?_
  · exact (mild_textOfRow row).bind fun _ => mild_ok
  refine (hreadable.sure_scan hlenient (by decide) fun row => tame_updating row fun r => ?_).bind
    fun _ => ?_
  · exact (mild_addLabel row _).bind fun _ => mild_ok
  refine (hreadable.sure_scan hlenient (by decide) fun row => tame_updating row fun r => ?_).bind
    fun _ => ?_
  · exact (mild_polynomialOfRow row).bind fun _ => mild_ok
  refine (hreadable.sure_scan hlenient (by decide) fun row => tame_updating row fun r => ?_).bind
    fun _ => sure_pure _
  exact (mild_logarithmOfRow row).bind fun _ => mild_ok

namespace Telemetry

theorem sure_loadParameters : Sure (loadParameters setting) := by
  refine (hreadable.sure_scan hlenient (by decide) fun row => ?_).bind fun _ => sure_pure _
  exact (tame_lift (ParameterRecord.mild_ofRow row _)).bind tame_declare

omit hreadable in
theorem sure_compileSynthetic (compiler : Option FormulaCompiler) :
    Sure (compileSynthetic setting compiler) := by
  unfold compileSynthetic
  refine sure_stage.bind fun state => ?_
  split
  · exact sure_pure _
  · exact sure_limitation _
  · refine sure_forM (fun name => ?_) _
    split
    · exact (tame_addSynthetic _ name _).recover hlenient
    · exact sure_pure _

omit hreadable in
theorem sure_attachContextCalibrators : Sure (attachContextCalibrators setting) :=
  sure_stage.bind fun _ => sure_forM (fun name => (tame_attachContexts name).recover hlenient) _

omit hreadable in
/-- The root of packets may fail to be added; that is recorded, and there are no packets then. -/
theorem sure_loadPackets_of_rows {pics pids tpcfs : List Row}
    (hpics : Build.rows setting "pic" = .ok pics) (hpids : Build.rows setting "pid" = .ok pids)
    (htpcfs : Build.rows setting "tpcf" = .ok tpcfs) : Sure (loadPackets setting) := by
  unfold loadPackets
  refine (sure_scan hlenient hpics fun row => ?_).bind fun _ => ?_
  · exact (tame_lift (IdentificationRule.mild_ofRow row)).bind fun _ => tame_changeStage _
  refine (sure_scan hlenient hpids fun row => ?_).bind fun _ => ?_
  · exact (tame_lift (PacketRecord.mild_ofRow row)).bind (tame_declarePacket row)
  refine (sure_scan hlenient htpcfs tame_namePacket).bind fun _ => ?_
  refine (((tame_addPacketRoot _).map some).tryCatch fun e _ => ?_).bind fun root => ?_
  · exact (sure_report hlenient e).bind fun _ => sure_pure none
  · cases root with
    | none => exact sure_pure _
    | some root =>
        refine sure_stage.bind fun state => sure_forM (fun (key, packets) => ?_) _
        exact (tame_addPackets root key packets).recover hlenient

theorem sure_loadPackets : Sure (loadPackets setting) := by
  obtain ⟨_, hpics⟩ := hreadable "pic" (by decide)
  obtain ⟨_, hpids⟩ := hreadable "pid" (by decide)
  obtain ⟨_, htpcfs⟩ := hreadable "tpcf" (by decide)
  exact sure_loadPackets_of_rows hlenient hpics hpids htpcfs

theorem sure_loadFixedLayout : Sure (loadFixedLayout setting) :=
  (hreadable.sure_scan hlenient (by decide) tame_placeFixed).bind fun _ => sure_pure _

theorem sure_loadVariableLayout : Sure (loadVariableLayout setting) := by
  unfold loadVariableLayout
  refine (hreadable.sure_scan hlenient (by decide) fun row => ?_).bind fun _ => ?_
  · exact (tame_lift (VariableElement.mild_ofRow row)).bind (tame_declareElement row)
  refine sure_stage.bind fun state => sure_forM (fun (id, elements) => ?_) _
  refine sure_forM (fun packet => ?_) _
  unfold expandPacket
  refine sure_stage.bind fun state' => ?_
  split
  · exact sure_pure _
  · exact (tame_expandStructure _ _ elements).recover hlenient

theorem sure_loadLimits : Sure (loadLimits setting) := by
  unfold loadLimits
  refine (hreadable.sure_scan hlenient (by decide) fun row => ?_).bind fun _ => ?_
  · exact (tame_lift (LimitCheck.mild_ofRow row)).bind fun _ =>
      (tame_lift (row.mild_text _)).bind fun _ => tame_changeStage _
  refine (sure_changeStage _).bind fun _ => ?_
  exact (hreadable.sure_scan hlenient (by decide) tame_attachLimits).bind fun _ => sure_pure _

end Telemetry

/-- **The lenient telemetry stage does not fail**, whatever its tables hold and whatever a compiler
of formulas answers. -/
theorem sure_buildTelemetry (compiler : Option FormulaCompiler) :
    Sure (buildTelemetry setting compiler) := by
  unfold buildTelemetry
  refine ((Registry.sure_loadTelemetry hlenient hreadable).within _ _).bind fun _ => ?_
  refine (Telemetry.sure_loadParameters hlenient hreadable).bind fun _ => ?_
  refine (Telemetry.sure_compileSynthetic hlenient compiler).bind fun _ => ?_
  refine (Telemetry.sure_attachContextCalibrators hlenient).bind fun _ => ?_
  refine (Telemetry.sure_loadPackets hlenient hreadable).bind fun _ => ?_
  refine (Telemetry.sure_loadFixedLayout hlenient hreadable).bind fun _ => ?_
  refine (Telemetry.sure_loadVariableLayout hlenient hreadable).bind fun _ => ?_
  exact Telemetry.sure_loadLimits hlenient hreadable

end

end MissionBase
