import MissionBase.Proofs.Policy.Agreement
import MissionBase.Proofs.Telemetry.Parts

/-!
# The telemetry stage under both policies

Most of the stage only fails, and leaves it to its unit of work to record the failure: such parts
are silent. The others are put together from them by scans and units of work, with three places
that record an error in the middle of their work and go on: an enumeration without labels, an
identification field without a width, and packets without their root.
-/

namespace MissionBase

open Run Policy

variable {σ : Type} {setting : Setting}

/-! ## Calibrations -/

namespace Registry

theorem silent_updating (change : Row → Registry → Except Error Registry) (row : Row) :
    Silent (updating change row) :=
  steps_stage.bind fun _ => (steps_lift _).bind fun _ => silent_changeStage _

/-- A scan that fills the registry. -/
theorem agrees_scanUpdating (hlenient : setting.config.strict = false) (table : String)
    (change : Row → Registry → Except Error Registry) :
    Agrees (Build.scan setting table (updating change))
      (Build.scan setting.strictly table (updating change)) :=
  agrees_scan hlenient table fun row => agrees_of_silent (silent_updating change row)

theorem agrees_loadTelemetry (hlenient : setting.config.strict = false) :
    Agrees (loadTelemetry setting) (loadTelemetry setting.strictly) := by
  unfold loadTelemetry
  refine (agrees_scanUpdating hlenient _ _).bind fun _ => ?_
  refine (agrees_changeStage sortContexts).bind fun _ => ?_
  refine (agrees_scanUpdating hlenient _ _).bind fun _ => ?_
  refine (agrees_scanUpdating hlenient _ _).bind fun _ => ?_
  refine (agrees_scanUpdating hlenient _ _).bind fun _ => ?_
  refine (agrees_scanUpdating hlenient _ _).bind fun _ => ?_
  refine (agrees_scanUpdating hlenient _ _).bind fun _ => ?_
  exact (agrees_scanUpdating hlenient _ _).bind fun _ => agrees_pure _

theorem agrees_loadCommanding (hlenient : setting.config.strict = false) :
    Agrees (loadCommanding setting) (loadCommanding setting.strictly) := by
  unfold loadCommanding
  refine (agrees_scanUpdating hlenient _ _).bind fun _ => ?_
  refine (agrees_scanUpdating hlenient _ _).bind fun _ => ?_
  refine (agrees_scanUpdating hlenient _ _).bind fun _ => ?_
  refine (agrees_scanUpdating hlenient _ _).bind fun _ => ?_
  refine (agrees_scanUpdating hlenient _ _).bind fun _ => ?_
  exact (agrees_scanUpdating hlenient _ _).bind fun _ => agrees_pure _

end Registry

/-! ## Parameters -/

/-- **An enumeration without labels is recorded as an error**, or is the error in a strict run. -/
theorem ParameterRecord.agrees_textualType (hlenient : setting.config.strict = false)
    (r : ParameterRecord) (calibrations : Registry) :
    Agrees (r.textualType setting calibrations : Build σ ParameterType)
      (r.textualType setting.strictly calibrations) := by
  unfold textualType
  refine (agrees_lift r.encoding).bind fun encoding => ?_
  cases r.calibration with
  | none =>
      dsimp only
      split
      · exact (agrees_of_silent (silent_limitation _)).bind fun _ => agrees_pure _
      · exact (agrees_report hlenient _).bind fun _ => agrees_pure _
  | some name =>
      dsimp only
      cases calibrations.texts.find? name with
      | some text => exact agrees_pure _
      | none => exact (agrees_report hlenient _).bind fun _ => agrees_pure _

theorem ParameterRecord.agrees_buildType (hlenient : setting.config.strict = false)
    (r : ParameterRecord) (calibrations : Registry) :
    Agrees (r.buildType setting calibrations : Build σ ParameterType)
      (r.buildType setting.strictly calibrations) := by
  unfold buildType
  dsimp only
  split
  · exact (agrees_lift _).bind fun _ => agrees_pure _
  · split
    · exact (r.agrees_textualType hlenient calibrations).bind fun _ => agrees_pure _
    · split
      · exact (agrees_lift _).bind fun _ => agrees_pure _
      · exact agrees_throw _

namespace Telemetry

theorem agrees_typeFor (hlenient : setting.config.strict = false) (r : ParameterRecord) :
    Agrees (typeFor setting r) (typeFor setting.strictly r) := by
  unfold typeFor
  refine agrees_stage.bind fun state => ?_
  dsimp only
  split
  · exact agrees_pure _
  · refine (r.agrees_buildType hlenient state.calibrations).bind fun type => ?_
    refine agrees_database.bind fun db => (agrees_of_silent (silent_add _ _)).bind fun ref => ?_
    split
    · exact (agrees_changeStage _).bind fun _ => agrees_pure ref
    · exact agrees_pure ref

theorem agrees_declare (hlenient : setting.config.strict = false) (r : ParameterRecord) :
    Agrees (declare setting r) (declare setting.strictly r) := by
  unfold declare addDeclared
  refine agrees_stage.bind fun state => Agrees.unless ?_
  split
  · exact agrees_changeStage _
  · split
    · exact Agrees.unless (agrees_changeStage _)
    · refine (agrees_typeFor hlenient r).bind fun type => ?_
      refine (agrees_of_silent (silent_add _ _)).bind fun ref => ?_
      cases r.onBoardId with
      | some id => exact (agrees_changeDatabase _).bind fun _ => agrees_changeStage _
      | none => exact agrees_changeStage _

theorem agrees_loadParameters (hlenient : setting.config.strict = false) :
    Agrees (loadParameters setting) (loadParameters setting.strictly) :=
  (agrees_scan hlenient "pcf" fun _ =>
    (agrees_lift _).bind fun record => agrees_declare hlenient record).bind fun _ => agrees_pure _

theorem silent_addSynthetic (compiler : FormulaCompiler) (name : String) (location : Location) :
    Silent (addSynthetic setting compiler name location) :=
  steps_addSynthetic (fun _ _ => silent_add _ _) compiler name location

theorem agrees_compileSynthetic (hlenient : setting.config.strict = false)
    (compiler : Option FormulaCompiler) :
    Agrees (compileSynthetic setting compiler) (compileSynthetic setting.strictly compiler) := by
  unfold compileSynthetic
  refine agrees_stage.bind fun state => ?_
  split
  · exact agrees_pure _
  · exact agrees_of_silent (silent_limitation _)
  · refine agrees_forM (fun name => ?_) _
    cases state.declared.find? name with
    | some r => exact (agrees_of_silent (silent_addSynthetic _ name r.location)).recover hlenient
    | none => exact agrees_pure _

theorem silent_attachContexts (name : String) : Silent (attachContexts name) := by
  unfold attachContexts
  refine steps_stage.bind fun state => steps_database.bind fun db => ?_
  extract_lets rules passedOver
  clear_value rules passedOver
  cases rules with
  | nil => exact steps_pure _
  | cons first rest =>
      dsimp only
      split
      · exact steps_pure _
      · cases db.parameters.find? name with
        | none => exact steps_throw _
        | some ref =>
            refine (steps_lift _).bind fun calibrators => ?_
            cases db.parameters.get? ref with
            | none => exact steps_pure _
            | some parameter => exact silent_changeDatabase _

theorem agrees_attachContextCalibrators (hlenient : setting.config.strict = false) :
    Agrees (attachContextCalibrators setting) (attachContextCalibrators setting.strictly) :=
  agrees_stage.bind fun _ => agrees_forM
    (fun name => (agrees_of_silent (silent_attachContexts name)).recover hlenient) _

end Telemetry

/-! ## Packets -/

theorem silent_addUnsigned (name : String) (size : Nat) :
    Silent (addUnsigned name size : Build σ ParameterRef) :=
  steps_addUnsigned (fun _ => silent_add _ _) (fun _ _ => silent_add _ _) name size

namespace Telemetry

theorem silent_packets : PacketSteps SameErrors where
  stage := fun _ _ => silent_changeStage _
  unsigned := silent_addUnsigned
  container := fun _ _ => silent_add _ _
  changeContainer := fun _ _ => silent_changeDatabase _

theorem silent_addPacketRoot (options : TelemetryOptions) : Silent (addPacketRoot options) :=
  steps_addPacketRoot silent_addUnsigned (fun _ _ => silent_add _ _) options

theorem silent_addKindContainer (root : PacketRoot) (name : String) (packet : PacketRecord)
    (description : Option String) :
    Silent (addKindContainer setting root name packet description) :=
  steps_addKindContainer silent_addUnsigned (fun _ _ => silent_add _ _) root name packet description

/-- **A field without a width is recorded as an error**, or is the error in a strict run. -/
theorem agrees_addIdentification (hlenient : setting.config.strict = false)
    (container : ContainerRef) (name : String) (field : IdentificationField)
    (location : Location) :
    Agrees (addIdentification setting container name field location)
      (addIdentification setting.strictly container name field location) := by
  unfold addIdentification
  split
  · exact agrees_pure _
  · cases fieldWidth? field.width with
    | none => exact (agrees_report hlenient _).bind fun _ => agrees_pure _
    | some width =>
        refine (agrees_of_silent (silent_addUnsigned name width)).bind fun parameter => ?_
        exact (agrees_changeDatabase _).bind fun _ => agrees_pure _

theorem agrees_addPacketGroup (hlenient : setting.config.strict = false) (root : PacketRoot)
    (key : PacketKey) (first : PacketRecord) (packets : List PacketRecord) :
    Agrees (addPacketGroup setting root key first packets)
      (addPacketGroup setting.strictly root key first packets) := by
  unfold addPacketGroup
  refine agrees_stage.bind fun state => ?_
  cases ruleFor? state.identifications key with
  | none => exact agrees_throw _
  | some rule =>
      refine (agrees_of_silent (silent_addKindContainer root _ _ _)).bind fun group => ?_
      refine (agrees_addIdentification hlenient group _ _ _).bind fun one => ?_
      refine (agrees_addIdentification hlenient group _ _ _).bind fun two => Agrees.unless ?_
      exact agrees_forM (fun p => agrees_of_silent (silent_packets.addMember group one two p))
        packets

theorem agrees_addPackets (hlenient : setting.config.strict = false) (root : PacketRoot)
    (key : PacketKey) (packets : List PacketRecord) :
    Agrees (addPackets setting root key packets)
      (addPackets setting.strictly root key packets) := by
  unfold addPackets
  split
  · exact agrees_pure _
  · exact agrees_of_silent (silent_packets.addSinglePacket root _)
  · exact agrees_addPacketGroup hlenient root key _ _

/-- The root of the packets that may be missing: the error that there is none is recorded, and a
strict run ends with it. -/
theorem agrees_rootOrNone (hlenient : setting.config.strict = false) :
    Agrees (tryCatch (some <$> addPacketRoot setting.config.telemetry) fun e => do
        Build.report setting e
        return none)
      (tryCatch (some <$> addPacketRoot setting.config.telemetry) fun e => do
        Build.report setting.strictly e
        return none) := by
  refine ((agrees_of_silent (silent_addPacketRoot _)).map some).tryCatch (fun e => ?_) fun e d => ?_
  · exact (agrees_report hlenient e).bind fun _ => agrees_pure none
  · exact ⟨d, rfl⟩

theorem agrees_loadPackets (hlenient : setting.config.strict = false) :
    Agrees (loadPackets setting) (loadPackets setting.strictly) := by
  unfold loadPackets
  refine (agrees_scan hlenient "pic" fun row => ?_).bind fun _ => ?_
  · exact (agrees_lift _).bind fun rule => agrees_changeStage _
  refine (agrees_scan hlenient "pid" fun row => ?_).bind fun _ => ?_
  · exact (agrees_lift _).bind fun p => agrees_of_silent (silent_packets.declarePacket row p)
  refine (agrees_scan hlenient "tpcf" fun row => ?_).bind fun _ => ?_
  · exact agrees_of_silent (silent_packets.namePacket row)
  refine (agrees_rootOrNone hlenient).bind fun root => ?_
  cases root with
  | none => exact agrees_pure _
  | some root =>
      refine agrees_stage.bind fun state => agrees_forM (fun (key, packets) => ?_) _
      exact (agrees_addPackets hlenient root key packets).recover hlenient

/-! ## Layouts -/

theorem agrees_loadFixedLayout (hlenient : setting.config.strict = false) :
    Agrees (loadFixedLayout setting) (loadFixedLayout setting.strictly) :=
  (agrees_scan hlenient "plf" fun row =>
    agrees_of_silent (silent_packets.placeFixed row)).bind fun _ => agrees_pure _

theorem agrees_expandPacket (hlenient : setting.config.strict = false)
    (elements : List VariableElement) (packet : PacketRecord) :
    Agrees (expandPacket setting elements packet)
      (expandPacket setting.strictly elements packet) := by
  unfold expandPacket
  refine agrees_stage.bind fun state => ?_
  cases state.packetContainers.find? packet.spid with
  | none => exact agrees_pure _
  | some c =>
      exact (agrees_of_silent (silent_packets.expandStructure c _ elements)).recover hlenient

theorem agrees_loadVariableLayout (hlenient : setting.config.strict = false) :
    Agrees (loadVariableLayout setting) (loadVariableLayout setting.strictly) := by
  unfold loadVariableLayout
  refine (agrees_scan hlenient "vpd" fun row => ?_).bind fun _ => ?_
  · exact (agrees_lift _).bind fun element =>
      agrees_of_silent (silent_packets.declareElement row element)
  refine agrees_stage.bind fun state => agrees_forM (fun (id, elements) => ?_) _
  exact agrees_forM (agrees_expandPacket hlenient elements) _

/-! ## Limits -/

theorem silent_withChecks (coding : LimitCoding) (violations : Nat) (checks : List LimitCheck)
    (type : ParameterType) : Silent (withChecks coding violations checks type) := by
  refine steps_foldlM (fun type check => ?_) checks type
  split
  · exact steps_database.bind fun _ => steps_lift _
  · exact (silent_limitation _).bind fun _ => steps_pure type

theorem silent_attachChecks (row : Row) (r : LimitRecord) (parameter : ParameterRef)
    (coding : LimitCoding) (checks : List LimitCheck) (type : ParameterType) :
    Silent (attachChecks row r parameter coding checks type) :=
  steps_database.bind fun _ => (silent_withChecks _ _ _ _).bind fun _ =>
    (silent_add _ _).bind fun _ => silent_changeDatabase _

theorem silent_attachLimits (row : Row) : Silent (attachLimits row) := by
  unfold attachLimits
  refine (steps_lift _).bind fun r => steps_stage.bind fun state => ?_
  refine steps_database.bind fun db => ?_
  dsimp only
  split
  · exact steps_throw _
  · split
    · exact silent_limitation _
    · split
      · split
        · exact silent_limitation _
        · split
          · exact silent_attachChecks _ _ _ _ _ _
          · exact steps_throw _
      · exact steps_throw _

theorem agrees_loadLimits (hlenient : setting.config.strict = false) :
    Agrees (loadLimits setting) (loadLimits setting.strictly) := by
  unfold loadLimits
  refine (agrees_scan hlenient "ocp" fun row => ?_).bind fun _ => ?_
  · exact (agrees_lift _).bind fun _ => (agrees_lift _).bind fun _ => agrees_changeStage _
  refine (agrees_changeStage _).bind fun _ => ?_
  refine (agrees_scan hlenient "ocf" fun row => ?_).bind fun _ => agrees_pure _
  exact agrees_of_silent (silent_attachLimits row)

end Telemetry

/-- **The telemetry stage does the same under both policies up to its first error.** -/
theorem agrees_buildTelemetry (hlenient : setting.config.strict = false)
    (compiler : Option FormulaCompiler) :
    Agrees (buildTelemetry setting compiler) (buildTelemetry setting.strictly compiler) := by
  unfold buildTelemetry
  refine ((Registry.agrees_loadTelemetry hlenient).within _ _).bind fun _ => ?_
  refine (Telemetry.agrees_loadParameters hlenient).bind fun _ => ?_
  refine (Telemetry.agrees_compileSynthetic hlenient compiler).bind fun _ => ?_
  refine (Telemetry.agrees_attachContextCalibrators hlenient).bind fun _ => ?_
  refine (Telemetry.agrees_loadPackets hlenient).bind fun _ => ?_
  refine (Telemetry.agrees_loadFixedLayout hlenient).bind fun _ => ?_
  refine (Telemetry.agrees_loadVariableLayout hlenient).bind fun _ => ?_
  exact Telemetry.agrees_loadLimits hlenient

end MissionBase
