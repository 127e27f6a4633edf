import MissionBase.Proofs.Additions
import MissionBase.Proofs.Telemetry.BitLayout
import MissionBase.Telemetry.Stage

/-!
# What packets and layouts are made of

Once the formulas of synthetic parameters have become algorithms, packets and layouts are made of
few operations: fields of some bits and containers are added, containers are changed, and what has
been read besides calibrations and declarations is noted. A relation between drafts that tracks each
of these operations tracks all the work that is made of them, table by table. So it is enough to
look at the operations. A relation that the addition of algorithms steps in tracks the formulas,
too. What packets and layouts do where no error is recorded is told for relations that need not know
of errors.
-/

namespace MissionBase.Telemetry

open Run

variable {setting : Setting} {R : Draft TelemetryState → Draft TelemetryState → Prop} [Std.Refl R]
  [IsTrans (Draft TelemetryState) R]

/-- A relation in which each of the operations steps that packets and layouts are made of. -/
structure Tracks (R : Draft TelemetryState → Draft TelemetryState → Prop) : Prop where
  noted : ∀ d errors warnings, R d { d with errors := errors, warnings := warnings }
  /-- Calibrations and declarations stay what they are. -/
  stage : ∀ {change : TelemetryState → TelemetryState},
    (∀ s, (change s).calibrations = s.calibrations) → (∀ s, (change s).declared = s.declared) →
    Steps R (Build.changeStage change)
  unsigned : ∀ name size, Steps R (addUnsigned name size)
  container : ∀ refused c, Steps R (Build.add refused fun db => db.addContainer c)
  changeContainer : ∀ r change,
    Steps R (Build.changeDatabase fun db => db.changeContainer r change)

omit [IsTrans (Draft TelemetryState) R] in
theorem tracks_report (h : Tracks R) (e : Error) : Steps R (Build.report setting e) :=
  steps_report (fun d _ => h.noted d _ d.warnings) e

omit [Std.Refl R] in
theorem tracks_recover (h : Tracks R) {work : TelemetryBuild Unit} (hwork : Steps R work) :
    Steps R (Build.recover setting work) := hwork.recover fun d _ => h.noted d _ d.warnings

theorem tracks_scan (h : Tracks R) {table : String} {handle : Row → TelemetryBuild Unit}
    (hrow : ∀ row, Steps R (handle row)) : Steps R (Build.scan setting table handle) :=
  steps_scan (fun d _ => h.noted d _ d.warnings) hrow

/-! ## Synthetic parameters -/

theorem steps_addSynthetic
    (halgorithm : ∀ refused a, Steps R (Build.add refused fun db => db.addAlgorithm a))
    (compiler : FormulaCompiler) (name : String) (location : Location) :
    Steps R (addSynthetic setting compiler name location) := by
  unfold addSynthetic
  refine (steps_lift _).bind fun source => steps_database.bind fun db => ?_
  refine (steps_lift _).bind fun algorithm => ?_
  exact (halgorithm _ _).bind fun _ => steps_pure _

/-- Formulas bring algorithms, one by one, or errors and limitations. -/
theorem steps_compileSynthetic (compiler : Option FormulaCompiler)
    (hnote : ∀ d errors warnings, R d { d with errors := errors, warnings := warnings })
    (hadd : ∀ formulas name location, Steps R (addSynthetic setting formulas name location)) :
    Steps R (compileSynthetic setting compiler) := by
  unfold compileSynthetic
  refine steps_stage.bind fun state => ?_
  split
  · exact steps_pure _
  · exact steps_modify fun d => hnote d _ _
  · refine steps_forM (fun name => ?_) _
    split
    · exact (hadd _ name _).recover fun d _ => hnote d _ _
    · exact steps_pure _

theorem tracks_compileSynthetic (h : Tracks R)
    (halgorithm : ∀ refused a, Steps R (Build.add refused fun db => db.addAlgorithm a))
    (compiler : Option FormulaCompiler) : Steps R (compileSynthetic setting compiler) :=
  steps_compileSynthetic compiler h.noted (steps_addSynthetic halgorithm)

/-! ## Containers of packets -/

section

variable (hunsigned : ∀ name size, Steps R (addUnsigned name size))
include hunsigned

/-- An identification field is added and shown, or the error of its rule is recorded. -/
theorem steps_addIdentification (hreport : ∀ e, Steps R (Build.report setting e))
    (hentry : ∀ r entry, Steps R (Build.changeDatabase fun db => db.changeContainer r fun c =>
      { c with entries := c.entries ++ [entry] }))
    (container : ContainerRef) (name : String) (field : IdentificationField) (location : Location) :
    Steps R (addIdentification setting container name field location) := by
  unfold addIdentification
  split
  · exact steps_pure _
  · split
    · exact (hreport _).bind fun _ => steps_pure _
    · exact (hunsigned _ _).bind fun p => (hentry _ _).bind fun _ => steps_pure _

variable (hcontainer : ∀ refused c, Steps R (Build.add refused fun db => db.addContainer c))
include hcontainer

theorem steps_addPacketRoot (options : TelemetryOptions) : Steps R (addPacketRoot options) := by
  unfold addPacketRoot
  refine (hunsigned _ _).bind fun apid => (hunsigned _ _).bind fun count => ?_
  refine (hunsigned _ _).bind fun type => (hunsigned _ _).bind fun subtype => ?_
  exact (hcontainer _ _).bind fun _ => steps_pure _

theorem steps_addKindContainer (root : PacketRoot) (name : String) (packet : PacketRecord)
    (description : Option String) :
    Steps R (addKindContainer setting root name packet description) :=
  (steps_echoEntries hunsigned _).bind fun _ => hcontainer _ _

end

/-! ## Units of work that record no error -/

/-- The operations step in a relation that packets and layouts are made of apart from errors. -/
structure PacketSteps (R : Draft TelemetryState → Draft TelemetryState → Prop) : Prop where
  /-- Calibrations and declarations stay what they are. -/
  stage : ∀ {change : TelemetryState → TelemetryState},
    (∀ s, (change s).calibrations = s.calibrations) → (∀ s, (change s).declared = s.declared) →
    Steps R (Build.changeStage change)
  unsigned : ∀ name size, Steps R (addUnsigned name size)
  container : ∀ refused c, Steps R (Build.add refused fun db => db.addContainer c)
  changeContainer : ∀ r change,
    Steps R (Build.changeDatabase fun db => db.changeContainer r change)

omit [Std.Refl R] [IsTrans (Draft TelemetryState) R] in
theorem Tracks.packetSteps (h : Tracks R) : PacketSteps R :=
  ⟨h.stage, h.unsigned, h.container, h.changeContainer⟩

namespace PacketSteps

variable (h : PacketSteps R)
include h

theorem declarePacket (row : Row) (packet : PacketRecord) : Steps R (declarePacket row packet) := by
  unfold Telemetry.declarePacket
  refine steps_stage.bind fun state => ?_
  split
  · exact Steps.unless (h.stage (fun _ => rfl) fun _ => rfl)
  · exact steps_pure _

theorem namePacket (row : Row) : Steps R (namePacket row) := by
  unfold Telemetry.namePacket
  refine (steps_lift _).bind fun _ => (steps_lift _).bind fun _ => (steps_lift _).bind fun _ => ?_
  exact h.stage (fun _ => rfl) fun _ => rfl

theorem registerPacket (packet : PacketRecord) (container : ContainerRef) :
    Steps R (registerPacket packet container) := by
  unfold Telemetry.registerPacket
  refine steps_stage.bind fun state => ?_
  dsimp only
  split
  · split
    · exact (h.changeContainer _ _).bind fun _ => h.stage (fun _ => rfl) fun _ => rfl
    · exact h.stage (fun _ => rfl) fun _ => rfl
  · exact h.stage (fun _ => rfl) fun _ => rfl

theorem addSinglePacket (root : PacketRoot) (packet : PacketRecord) :
    Steps R (addSinglePacket setting root packet) :=
  steps_stage.bind fun _ => steps_database.bind fun _ =>
    (steps_addKindContainer h.unsigned h.container _ _ _ _).bind fun _ => h.registerPacket _ _

theorem addMember (group : ContainerRef) (first second : Option ParameterRef)
    (packet : PacketRecord) : Steps R (addMember group first second packet) :=
  steps_stage.bind fun _ => steps_database.bind fun _ =>
    (h.container _ _).bind fun _ => h.registerPacket _ _

theorem placeFixed (row : Row) : Steps R (placeFixed row) := by
  unfold Telemetry.placeFixed
  refine (steps_lift _).bind fun _ => (steps_lift _).bind fun name => ?_
  refine (steps_lift _).bind fun spid => steps_stage.bind fun state => ?_
  split
  · exact steps_pure _
  · split
    · refine steps_database.bind fun db => (steps_lift _).bind fun entry => ?_
      exact h.changeContainer _ _
    · exact steps_pure _

theorem expandStructure (container : ContainerRef) (start : Int)
    (elements : List VariableElement) : Steps R (expandStructure container start elements) := by
  unfold Telemetry.expandStructure
  refine steps_stage.bind fun state => steps_database.bind fun db => ?_
  refine (steps_planned (fun _ => h.stage (fun _ => rfl) fun _ => rfl) _).bind fun plan => ?_
  refine (steps_commitEntries h.container plan).bind fun entries => ?_
  exact h.changeContainer _ _

theorem declareElement (row : Row) (element : VariableElement) :
    Steps R (declareElement row element) := by
  unfold Telemetry.declareElement
  refine steps_stage.bind fun state => ?_
  split
  · refine steps_database.bind fun db => (steps_lift _).bind fun _ => ?_
    exact h.stage (fun _ => rfl) fun _ => rfl
  · split
    · exact Steps.bind (h.stage (fun _ => rfl) fun _ => rfl) fun _ => steps_throw _
    · exact steps_pure _

end PacketSteps

/-! ## Packets -/

theorem tracks_declareRule (h : Tracks R) (row : Row) :
    Steps R (do
      let rule ← IdentificationRule.ofRow row
      Build.changeStage fun s => { s with identifications := s.identifications ++ [rule] } :
        TelemetryBuild Unit) := by
  refine (steps_lift _).bind fun _ => ?_
  exact h.stage (fun _ => rfl) fun _ => rfl

theorem tracks_declarePacket (h : Tracks R) (row : Row) :
    Steps R (do declarePacket row (← PacketRecord.ofRow row) : TelemetryBuild Unit) :=
  (steps_lift _).bind fun packet => h.packetSteps.declarePacket row packet

theorem tracks_addIdentification (h : Tracks R) (container : ContainerRef) (name : String)
    (field : IdentificationField) (location : Location) :
    Steps R (addIdentification setting container name field location) :=
  steps_addIdentification h.unsigned (tracks_report h) (fun r _ => h.changeContainer r _) container
    name field location

theorem tracks_addPackets (h : Tracks R) (root : PacketRoot) (key : PacketKey)
    (packets : List PacketRecord) : Steps R (addPackets setting root key packets) := by
  unfold addPackets
  split
  · exact steps_pure _
  · exact h.packetSteps.addSinglePacket root _
  · unfold addPacketGroup
    refine steps_stage.bind fun state => ?_
    split
    · exact steps_throw _
    · refine (steps_addKindContainer h.unsigned h.container _ _ _ _).bind fun group => ?_
      refine (tracks_addIdentification h _ _ _ _).bind fun one => ?_
      refine (tracks_addIdentification h _ _ _ _).bind fun two => ?_
      exact Steps.unless (steps_forM (h.packetSteps.addMember group one two) _)

/-- Without the root of packets it is recorded why. -/
theorem tracks_root (h : Tracks R) (options : TelemetryOptions) :
    Steps R (tryCatch (some <$> addPacketRoot options) fun e => do
      Build.report setting e
      return none) := by
  intro d
  refine Ends.tryCatch (Ends.map (steps_addPacketRoot h.unsigned h.container options d))
    fun e t ht => ?_
  exact (((tracks_report h e).bind fun _ => steps_pure none) t).after ht

theorem tracks_loadPackets (h : Tracks R) : Steps R (loadPackets setting) := by
  unfold loadPackets
  refine (tracks_scan h (tracks_declareRule h)).bind fun _ => ?_
  refine (tracks_scan h (tracks_declarePacket h)).bind fun _ => ?_
  refine (tracks_scan h h.packetSteps.namePacket).bind fun _ => ?_
  refine (tracks_root h _).bind fun root => ?_
  cases root with
  | none => exact steps_pure _
  | some root =>
      refine steps_stage.bind fun state =>
        steps_forM (fun group : PacketKey × List PacketRecord => ?_) _
      exact tracks_recover h (tracks_addPackets h root group.1 group.2)

/-! ## Layouts -/

theorem tracks_declareElement (h : Tracks R) (row : Row) :
    Steps R (do declareElement row (← VariableElement.ofRow row) : TelemetryBuild Unit) :=
  (steps_lift _).bind fun element => h.packetSteps.declareElement row element

theorem tracks_expandPacket (h : Tracks R) (elements : List VariableElement)
    (packet : PacketRecord) : Steps R (expandPacket setting elements packet) := by
  unfold expandPacket
  refine steps_stage.bind fun state => ?_
  split
  · exact steps_pure _
  · exact tracks_recover h (h.packetSteps.expandStructure _ _ _)

theorem tracks_loadFixedLayout (h : Tracks R) : Steps R (loadFixedLayout setting) :=
  (tracks_scan h h.packetSteps.placeFixed).bind fun _ => steps_pure _

theorem tracks_loadVariableLayout (h : Tracks R) : Steps R (loadVariableLayout setting) := by
  unfold loadVariableLayout
  refine (tracks_scan h (tracks_declareElement h)).bind fun _ => steps_stage.bind fun state => ?_
  refine steps_forM (fun group : Int × List VariableElement => ?_) _
  exact steps_forM (tracks_expandPacket h group.2) _

/-! ## Limit checks -/

theorem tracks_declareCheck (h : Tracks R) (row : Row) :
    Steps R (do
      let check ← LimitCheck.ofRow row
      let name ← row.text 0
      Build.changeStage fun s => { s with limitChecks := s.limitChecks.append name check } :
        TelemetryBuild Unit) := by
  refine (steps_lift _).bind fun _ => (steps_lift _).bind fun _ => ?_
  exact h.stage (fun _ => rfl) fun _ => rfl

end MissionBase.Telemetry
