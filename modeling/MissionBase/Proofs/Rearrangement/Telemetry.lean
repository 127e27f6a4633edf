import MissionBase.Proofs.Rearrangement.Calibrations

/-!
# The telemetry stage on rearranged tables

The states of two runs differ in calibrations that are alike, and in the places of limit checks.
Types, context calibrators and alarms come out the same, and no other part of the stage looks at
what differs.
-/

namespace MissionBase

open Run Rearrangement

variable {setting : Setting} {files : Files}

/-- A limit check without its place. -/
def LimitCheck.unplaced (c : LimitCheck) : LimitCheck := { c with location := .nowhere }

theorem LimitCheck.exists_of_unplaced {c c' : LimitCheck} (h : c.unplaced = c'.unplaced) :
    ∃ l, c' = { c with location := l } := by
  cases c
  cases c'
  simp only [unplaced, mk.injEq, true_and] at h
  obtain ⟨rfl, rfl, rfl, rfl, rfl, rfl⟩ := h
  exact ⟨_, rfl⟩

/-- The limit checks, by position. -/
def checkTable : KeyedTable LimitCheck where
  read row := do
    let check ← LimitCheck.ofRow row
    let name ← row.text 0
    return some (name, check)
  key := (·.position)
  view := LimitCheck.unplaced
  keyOf := columnKey 1
  key_view _ := rfl
  keyed {row owner b} h := by
    obtain ⟨check, hcheck, h⟩ := except_bind_eq_ok.mp h
    obtain ⟨name, hname, h⟩ := except_bind_eq_ok.mp h
    obtain ⟨-, -, hcheck⟩ := except_bind_eq_ok.mp hcheck
    obtain ⟨position, hposition, hcheck⟩ := except_bind_eq_ok.mp hcheck
    obtain ⟨value, -, hcheck⟩ := except_bind_eq_ok.mp hcheck
    cases hcheck
    cases h
    exact columnKey_eq hname hposition
  placeless row := by
    refine agree_bind (Q := fun c c' => LimitCheck.unplaced c = LimitCheck.unplaced c') ?_
      fun c c' hc => (row.agree_text _).bind fun name =>
        .ok (congrArg (fun c => some (name, c)) hc)
    exact (row.agree_require _).bind fun _ => (row.agree_get _ _ _).bind fun position =>
      (row.agree_getD _ _ _ _).bind fun value => .ok rfl
  mild row := (LimitCheck.mild_ofRow row).bind fun _ => (row.mild_text _).bind fun _ =>
    Leniency.mild_ok

/-- Two indexes with the same checks of every parameter, but for their places. -/
def ChecksAlike (checks checks' : Index String (List LimitCheck)) : Prop :=
  ∀ parameter, (checks.find? parameter).map (List.map LimitCheck.unplaced) =
    (checks'.find? parameter).map (List.map LimitCheck.unplaced)

/-- Two states that differ in calibrations and in limit checks, which are alike. The names of
synthetic parameters, by which their formulas are found, are words. -/
def TelemetryState.Alike (s s' : TelemetryState) : Prop :=
  (∀ name ∈ s.synthetic, Text.isWord name.toList = true) ∧
    ∃ calibrations checks, s.calibrations.Alike calibrations ∧ ChecksAlike s.limitChecks checks ∧
      s' = { s with calibrations := calibrations, limitChecks := checks }

namespace TelemetryState

variable {α : Type}

/-- What does not look at calibrations and limit checks goes on in the same way. -/
theorem blind_stage {f : TelemetryState → TelemetryBuild α}
    (hf : ∀ s calibrations checks,
      f { s with calibrations := calibrations, limitChecks := checks } = f s)
    (h : ∀ s, Blind Alike (f s)) : Blind Alike (Build.stage >>= f) := by
  refine paired_stage fun s s' hs => ?_
  obtain ⟨-, calibrations, checks, -, -, rfl⟩ := hs
  rw [hf s calibrations checks]
  exact h s

/-- A change of something else does not show them, and leaves them as they are. -/
theorem blind_changeStage {change : TelemetryState → TelemetryState}
    (h : ∀ s calibrations checks,
      change { s with calibrations := calibrations, limitChecks := checks } =
        { change s with calibrations := calibrations, limitChecks := checks } ∧
      (change s).calibrations = s.calibrations ∧ (change s).limitChecks = s.limitChecks ∧
        (change s).synthetic = s.synthetic) :
    Blind Alike (Build.changeStage change) := by
  refine paired_changeStage fun s s' hs => ?_
  obtain ⟨hwords, calibrations, checks, hcalibrations, hchecks, rfl⟩ := hs
  obtain ⟨hchange, h₁, h₂, h₃⟩ := h s calibrations checks
  rw [hchange]
  refine ⟨?_, calibrations, checks, ?_, ?_, rfl⟩
  · rwa [h₃]
  · rwa [h₁]
  · rwa [h₂]

end TelemetryState

/-! ## Parameters -/

namespace ParameterRecord

variable (r : ParameterRecord) {calibrations calibrations' : Registry}

/-- **Calibrations that are alike give the same type.** -/
theorem buildType_alike {σ : Type} (h : calibrations.Alike calibrations') :
    (r.buildType { setting with files := files } calibrations' : Build σ ParameterType) =
      r.buildType setting calibrations := by
  have hnumeric : r.numericType calibrations' setting.epoch =
      r.numericType calibrations setting.epoch := by
    unfold numericType calibratedType
    rw [h.hasContext, h.select, h.engineeringFormat?, h.numeric?]
  have htextual : (r.textualType { setting with files := files } calibrations' :
      Build σ ParameterType) = r.textualType setting calibrations := by
    unfold textualType
    rw [h.hasContext, h.texts]
    rfl
  unfold buildType
  rw [htextual]
  show (if r.category = 'N' then Build.ofExcept (r.numericType calibrations' setting.epoch) >>= _
    else _) = _
  rw [hnumeric]

theorem blind_textualType {σ : Type} {R : σ → σ → Prop} :
    Blind R (r.textualType setting calibrations : Build σ ParameterType) := by
  unfold textualType
  refine (blind_lift _).bind fun encoding => ?_
  split
  · exact Paired.ite ((blind_limitation _).bind fun _ => blind_pure _)
      ((similar_report rfl).bind fun _ => blind_pure _)
  · split
    · exact blind_pure _
    · exact (similar_report rfl).bind fun _ => blind_pure _

theorem blind_buildType {σ : Type} {R : σ → σ → Prop} :
    Blind R (r.buildType setting calibrations : Build σ ParameterType) := by
  unfold buildType
  dsimp only
  split
  · exact (blind_lift _).bind fun _ => blind_pure _
  · split
    · exact r.blind_textualType.bind fun _ => blind_pure _
    · split
      · exact (blind_lift _).bind fun _ => blind_pure _
      · exact blind_throw _

end ParameterRecord

namespace Telemetry

open TelemetryState

/-- The type of a declared parameter does not depend on the order of calibrations. -/
theorem similar_typeFor (r : ParameterRecord) :
    Similar Alike (typeFor setting r) (typeFor { setting with files := files } r) := by
  refine paired_stage fun s s' hs => ?_
  obtain ⟨hwords, calibrations, checks, hcalibrations, hchecks, rfl⟩ := hs
  dsimp only
  rw [hcalibrations.hasContext, r.buildType_alike hcalibrations]
  split
  · exact blind_pure _
  · refine r.blind_buildType.bind fun type => blind_database.bind fun db => ?_
    refine (blind_add _ _).bind fun ref => Paired.ite ?_ (blind_pure ref)
    exact Paired.bind (blind_changeStage fun _ _ _ => ⟨rfl, rfl, rfl, rfl⟩) fun _ => blind_pure ref

/-- A declared parameter whose name is a word. -/
theorem similar_addDeclared {r : ParameterRecord} (hword : Text.isWord r.name.toList = true) :
    Similar Alike (addDeclared setting r) (addDeclared { setting with files := files } r) := by
  refine (similar_typeFor r).bind fun type => (blind_add _ _).bind fun ref => ?_
  have hstage : Blind Alike (Build.changeStage fun s => { s with
      synthetic := if r.isSynthetic then s.synthetic ++ [r.name] else s.synthetic
      declared := s.declared.set r.name r }) := by
    refine paired_changeStage fun s s' hs => ?_
    obtain ⟨hwords, calibrations, checks, hcalibrations, hchecks, rfl⟩ := hs
    refine ⟨fun name hname => ?_, calibrations, checks, hcalibrations, hchecks, rfl⟩
    change name ∈ if r.isSynthetic then s.synthetic ++ [r.name] else s.synthetic at hname
    split at hname
    · rcases List.mem_append.mp hname with hold | hnew
      · exact hwords name hold
      · rw [List.mem_singleton.mp hnew]
        exact hword
    · exact hwords name hname
  dsimp only
  split
  · exact (blind_changeDatabase _).bind fun _ => hstage
  · exact hstage

theorem similar_declare {r : ParameterRecord} (hword : Text.isWord r.name.toList = true) :
    Similar Alike (declare setting r) (declare { setting with files := files } r) := by
  refine paired_stage fun s s' hs => ?_
  obtain ⟨hwords, calibrations, checks, hcalibrations, hchecks, rfl⟩ := hs
  refine Similar.unless rfl (Paired.ite (blind_changeStage fun _ _ _ => ⟨rfl, rfl, rfl, rfl⟩) ?_)
  refine Paired.ite (Similar.unless rfl (blind_changeStage fun _ _ _ => ⟨rfl, rfl, rfl, rfl⟩)) ?_
  exact similar_addDeclared hword

theorem isWord_of_ofRow {row : Row} {sizeTagBytes : Int} {r : ParameterRecord}
    (h : ParameterRecord.ofRow row sizeTagBytes = .ok r) : Text.isWord r.name.toList = true := by
  obtain ⟨-, -, h⟩ := except_bind_eq_ok.mp h
  obtain ⟨name, -, h⟩ := except_bind_eq_ok.mp h
  split at h
  · cases h
  · rename_i hword
    obtain ⟨_, -, h⟩ := except_bind_eq_ok.mp h
    obtain ⟨_, -, h⟩ := except_bind_eq_ok.mp h
    obtain ⟨_, -, h⟩ := except_bind_eq_ok.mp h
    obtain ⟨_, -, h⟩ := except_bind_eq_ok.mp h
    cases h
    simpa using hword

/-! ## Synthetic parameters and context calibrators -/

theorem similar_addSynthetic (h : setting.config.Rearranges setting.files files)
    (compiler : FormulaCompiler) {name : String} (hword : Text.isWord name.toList = true)
    (location : Location) :
    Similar Alike (addSynthetic setting compiler name location)
      (addSynthetic { setting with files := files } compiler name location) := by
  have hformula : formulaText { setting with files := files } name location =
      formulaText setting name location := by
    unfold formulaText
    dsimp only
    rw [h.formulas name hword]
  unfold addSynthetic
  rw [hformula]
  exact (blind_lift _).bind fun source => blind_database.bind fun db =>
    (blind_lift _).bind fun _ => (blind_add _ _).bind fun _ => blind_pure _

/-- The formulas are found by names that are words, and they are the same. -/
theorem similar_compileSynthetic (h : setting.config.Rearranges setting.files files)
    (compiler : Option FormulaCompiler) :
    Similar Alike (compileSynthetic setting compiler)
      (compileSynthetic { setting with files := files } compiler) := by
  refine paired_stage fun s s' hs => ?_
  obtain ⟨hwords, calibrations, checks, -, -, rfl⟩ := hs
  dsimp only
  split
  · exact blind_pure _
  · exact blind_limitation _
  · refine similar_forM fun name hname => ?_
    split
    · exact (similar_addSynthetic h _ (hwords name hname) _).recover
    · exact blind_pure _

/-- A rule at another place gives the same calibrator, or the same error there. -/
theorem agree_contextCalibrator (db : Database) {calibrations calibrations' : Registry}
    (h : calibrations.Alike calibrations') {rule rule' : ContextRule}
    (hrule : rule.unplaced = rule'.unplaced) :
    Agree Eq (contextCalibrator db calibrations rule)
      (contextCalibrator db calibrations' rule') := by
  obtain ⟨l, rfl⟩ := ContextRule.exists_of_unplaced hrule
  unfold contextCalibrator
  dsimp only
  rw [h.numeric?]
  split
  · exact .error rfl
  · split
    · exact .error rfl
    · exact .ok rfl

theorem similar_attachContexts (name : String) :
    Similar Alike (attachContexts name) (attachContexts name) := by
  refine paired_stage fun s s' hs => blind_database.bind fun db => ?_
  obtain ⟨-, calibrations, checks, hcalibrations, -, rfl⟩ := hs
  dsimp only
  have hrules := hcalibrations.map_contextRules name
  revert hrules
  generalize s.calibrations.contextRules name = rules
  generalize calibrations.contextRules name = rules'
  intro hrules
  cases rules with
  | nil =>
      rw [List.map_nil, eq_comm, List.map_eq_nil_iff] at hrules
      subst hrules
      exact blind_pure _
  | cons first rest =>
      cases rules' with
      | nil => cases hrules
      | cons first' rest' =>
          dsimp only
          refine Paired.ite (blind_pure _) ?_
          split
          · exact similar_throw rfl
          · refine Paired.bind (similar_lift (agree_mapM (fun rule rule' hrule =>
              agree_contextCalibrator db hcalibrations hrule) hrules)) fun calibrators => ?_
            split
            · exact blind_pure _
            · exact blind_changeDatabase _

/-- Context calibrators are attached in the order of names, which does not depend on the order of
rules. -/
theorem similar_attachContextCalibrators :
    Similar Alike (attachContextCalibrators setting)
      (attachContextCalibrators { setting with files := files }) := by
  refine paired_stage fun s s' hs => ?_
  obtain ⟨-, calibrations, checks, hcalibrations, -, rfl⟩ := hs
  dsimp only
  rw [hcalibrations.names]
  exact similar_forM fun name _ => (similar_attachContexts name).recover

end Telemetry

/-! ## Packets -/

section

variable {σ : Type} {R : σ → σ → Prop}

theorem blind_addUnsigned (name : String) (size : Nat) :
    Blind R (addUnsigned name size : Build σ ParameterRef) := by
  unfold addUnsigned unsignedTypeRef
  refine Paired.bind (blind_database.bind fun db => ?_) fun _ => blind_add _ _
  split
  · exact blind_pure _
  · exact blind_add _ _

theorem blind_echoedRequest : Blind R (echoedRequest : Build σ (ParameterRef × ParameterRef)) := by
  have hnew (name : String) (size : Nat) :
      Blind R (unsignedOrNew name size : Build σ ParameterRef) := by
    refine blind_database.bind fun db => ?_
    split
    · exact blind_pure _
    · exact blind_addUnsigned _ _
  exact (hnew _ _).bind fun _ => (hnew _ _).bind fun _ => blind_pure _

end

namespace Telemetry

open TelemetryState

theorem blind_addPacketRoot (options : TelemetryOptions) :
    Blind Alike (addPacketRoot options) :=
  (blind_addUnsigned _ _).bind fun _ => (blind_addUnsigned _ _).bind fun _ =>
    (blind_addUnsigned _ _).bind fun _ => (blind_addUnsigned _ _).bind fun _ =>
      (blind_add _ _).bind fun _ => blind_pure _

theorem blind_addKindContainer (root : PacketRoot) (name : String) (packet : PacketRecord)
    (description : Option String) :
    Blind Alike (addKindContainer setting root name packet description) := by
  refine Paired.bind (Paired.ite ?_ (blind_pure _)) fun _ => blind_add _ _
  exact blind_echoedRequest.bind fun _ => blind_pure _

theorem blind_addIdentification (container : ContainerRef) (name : String)
    (field : IdentificationField) (location : Location) :
    Blind Alike (addIdentification setting container name field location) := by
  unfold addIdentification
  refine Paired.ite (blind_pure _) ?_
  dsimp only
  split
  · exact (similar_report rfl).bind fun _ => blind_pure _
  · exact (blind_addUnsigned _ _).bind fun _ => (blind_changeDatabase _).bind fun _ =>
      blind_pure _

theorem blind_registerPacket (packet : PacketRecord) (container : ContainerRef) :
    Blind Alike (registerPacket packet container) := by
  refine blind_stage (fun _ _ _ => rfl) fun state => ?_
  have hstage : Blind Alike (Build.changeStage fun s =>
      { s with packetContainers := s.packetContainers.set packet.spid container }) :=
    blind_changeStage fun _ _ _ => ⟨rfl, rfl, rfl, rfl⟩
  dsimp only
  split
  · split
    · exact (blind_changeDatabase _).bind fun _ => hstage
    · exact hstage
  · exact hstage

theorem blind_addMember (group : ContainerRef) (first second : Option ParameterRef)
    (packet : PacketRecord) : Blind Alike (addMember group first second packet) :=
  blind_stage (fun _ _ _ => rfl) fun _ => blind_database.bind fun _ =>
    (blind_add _ _).bind fun _ => blind_registerPacket _ _

theorem blind_addPackets (root : PacketRoot) (key : PacketKey) (packets : List PacketRecord) :
    Blind Alike (addPackets setting root key packets) := by
  unfold addPackets
  split
  · exact blind_pure _
  · exact blind_stage (fun _ _ _ => rfl) fun _ => blind_database.bind fun _ =>
      (blind_addKindContainer _ _ _ _).bind fun _ => blind_registerPacket _ _
  · refine blind_stage (fun _ _ _ => rfl) fun state => ?_
    split
    · exact blind_throw _
    · refine (blind_addKindContainer _ _ _ _).bind fun group => ?_
      refine (blind_addIdentification _ _ _ _).bind fun one => ?_
      refine (blind_addIdentification _ _ _ _).bind fun two => Similar.unless rfl ?_
      exact similar_forM fun packet _ => blind_addMember group one two packet

theorem similar_loadParameters (h : setting.config.Rearranges setting.files files) :
    Similar Alike (loadParameters setting) (loadParameters { setting with files := files }) := by
  refine (similar_scanKept h (by decide) (by decide) fun row => ?_).bind fun _ => blind_pure _
  dsimp only
  cases hrow : ParameterRecord.ofRow row setting.config.telemetry.sizeTagBytes with
  | ok r => exact similar_declare (isWord_of_ofRow hrow)
  | error e => exact blind_throw e

theorem similar_loadPackets (h : setting.config.Rearranges setting.files files) :
    Similar Alike (loadPackets setting) (loadPackets { setting with files := files }) := by
  refine (similar_scanKept h (by decide) (by decide) fun row => ?_).bind fun _ => ?_
  · exact (blind_lift _).bind fun _ => blind_changeStage fun _ _ _ => ⟨rfl, rfl, rfl, rfl⟩
  refine (similar_scanKept h (by decide) (by decide) fun row => ?_).bind fun _ => ?_
  · refine (blind_lift _).bind fun packet => blind_stage (fun _ _ _ => rfl) fun state => ?_
    refine Paired.ite (Similar.unless rfl ?_) (blind_pure _)
    exact blind_changeStage fun _ _ _ => ⟨rfl, rfl, rfl, rfl⟩
  refine (similar_scanKept h (by decide) (by decide) fun row => ?_).bind fun _ => ?_
  · refine (blind_lift _).bind fun _ => (blind_lift _).bind fun _ => (blind_lift _).bind fun _ => ?_
    exact blind_changeStage fun _ _ _ => ⟨rfl, rfl, rfl, rfl⟩
  refine Paired.bind ((blind_addPacketRoot _).map.tryCatch fun e e' he => ?_) fun root => ?_
  · exact (similar_report he).bind fun _ => blind_pure none
  · cases root with
    | none => exact blind_pure _
    | some root =>
        refine paired_stage fun s s' hs => ?_
        obtain ⟨-, calibrations, checks, -, -, rfl⟩ := hs
        exact similar_forM fun (key, packets) _ => (blind_addPackets root key packets).recover

/-! ## Layouts -/

theorem similar_loadFixedLayout (h : setting.config.Rearranges setting.files files) :
    Similar Alike (loadFixedLayout setting) (loadFixedLayout { setting with files := files }) := by
  refine (similar_scanKept h (by decide) (by decide) fun row => ?_).bind fun _ => blind_pure _
  refine (blind_lift _).bind fun _ => (blind_lift _).bind fun name => ?_
  refine (blind_lift _).bind fun spid => blind_stage (fun _ _ _ => rfl) fun state => ?_
  split
  · exact blind_pure _
  · refine Paired.ite (blind_database.bind fun db => ?_) (blind_pure _)
    exact (blind_lift _).bind fun _ => blind_changeDatabase _

mutual

theorem blind_commitEntry : ∀ entry : PlannedEntry, Blind Alike (commitEntry entry)
  | .single entry => blind_pure entry
  | .nested _ entries _ =>
      (blind_commitEntries entries).bind fun _ => (blind_add _ _).bind fun _ => blind_pure _

theorem blind_commitEntries : ∀ entries : List PlannedEntry, Blind Alike (commitEntries entries)
  | [] => blind_pure []
  | entry :: rest =>
      (blind_commitEntry entry).bind fun _ => (blind_commitEntries rest).bind fun _ => blind_pure _

end

theorem blind_expandStructure (container : ContainerRef) (start : Int)
    (elements : List VariableElement) : Blind Alike (expandStructure container start elements) := by
  have hplanned {α : Type} (plan : Plan α) : Blind Alike (planned plan) := by
    refine blind_stage (fun _ _ _ => rfl) fun state => ?_
    split
    · exact Paired.bind (blind_changeStage fun _ _ _ => ⟨rfl, rfl, rfl, rfl⟩) fun _ => blind_pure _
    · exact Paired.bind (blind_changeStage fun _ _ _ => ⟨rfl, rfl, rfl, rfl⟩) fun _ => blind_throw _
  refine blind_stage (fun _ _ _ => rfl) fun state => blind_database.bind fun db => ?_
  exact (hplanned _).bind fun plan => (blind_commitEntries plan).bind fun _ =>
    blind_changeDatabase _

theorem similar_loadVariableLayout (h : setting.config.Rearranges setting.files files) :
    Similar Alike (loadVariableLayout setting)
      (loadVariableLayout { setting with files := files }) := by
  refine (similar_scanKept h (by decide) (by decide) fun row => ?_).bind fun _ => ?_
  · refine (blind_lift _).bind fun element => blind_stage (fun _ _ _ => rfl) fun state => ?_
    refine Paired.ite (blind_database.bind fun db => (blind_lift _).bind fun _ => ?_)
      (Paired.ite ?_ (blind_pure _))
    · exact blind_changeStage fun _ _ _ => ⟨rfl, rfl, rfl, rfl⟩
    · exact Paired.bind (blind_changeStage fun _ _ _ => ⟨rfl, rfl, rfl, rfl⟩) fun _ => blind_throw _
  refine paired_stage fun s s' hs => ?_
  obtain ⟨-, calibrations, checks, -, -, rfl⟩ := hs
  refine similar_forM fun (id, elements) _ => similar_forM fun packet _ => ?_
  refine paired_stage fun s s' hs => ?_
  obtain ⟨-, calibrations, checks, -, -, rfl⟩ := hs
  dsimp only
  split
  · exact blind_pure _
  · exact (blind_expandStructure _ _ elements).recover

/-! ## Limits -/

section

variable (check : LimitCheck) (l : Location)

theorem agree_checkContext (db : Database) :
    Agree Eq (checkContext db check) (checkContext db { check with location := l }) := by
  unfold checkContext
  dsimp only
  split
  · exact .ok rfl
  · split
    · exact .ok rfl
    · exact .error rfl

theorem agree_bound (text : Option String) :
    Agree Eq (bound check text) (bound { check with location := l } text) := by
  unfold bound
  split
  · exact .ok rfl
  · split
    · exact .ok rfl
    · exact .error rfl

theorem agree_withRange (violations : Nat) (context : Option Comparison) (level : AlarmLevel)
    (type : ParameterType) :
    Agree Eq (withRange check violations context level type)
      (withRange { check with location := l } violations context level type) := by
  refine (agree_bound check l _).bind fun low => (agree_bound check l _).bind fun high => ?_
  dsimp only
  split
  · exact .ok rfl
  · exact .error rfl

theorem agree_withLabel (coding : LimitCoding) (context : Option Comparison) (level : AlarmLevel)
    (type : ParameterType) :
    Agree Eq (withLabel check coding context level type)
      (withLabel { check with location := l } coding context level type) := by
  have hlabel : Agree Eq (checkLabel check coding type.value)
      (checkLabel { check with location := l } coding type.value) := by
    unfold checkLabel
    dsimp only
    split
    · exact .error rfl
    · refine Agree.ite (.ok rfl) ?_
      split
      · exact .ok rfl
      · exact .error rfl
  refine hlabel.bind fun label => ?_
  cases label with
  | none => exact .ok rfl
  | some label =>
      dsimp only
      split
      · exact .ok rfl
      · exact .error rfl

/-- A check at another place makes the same alarm, or fails with the same error there. -/
theorem agree_withCheck (db : Database) (coding : LimitCoding) (violations : Nat)
    (type : ParameterType) :
    Agree Eq (withCheck db coding violations type check)
      (withCheck db coding violations type { check with location := l }) :=
  (agree_checkContext check l db).bind fun context =>
    Agree.ite (agree_withRange check l violations context _ type)
      (agree_withLabel check l coding context _ type)

end

theorem similar_withChecks (coding : LimitCoding) (violations : Nat)
    {checks checks' : List LimitCheck}
    (h : checks.map LimitCheck.unplaced = checks'.map LimitCheck.unplaced) (type : ParameterType) :
    Similar Alike (withChecks coding violations checks type)
      (withChecks coding violations checks' type) := by
  refine similar_foldlM (fun type check check' hcheck => ?_) type h
  obtain ⟨l, rfl⟩ := LimitCheck.exists_of_unplaced hcheck
  refine Paired.ite ?_ (Paired.bind (similar_limitation ?_) fun _ => blind_pure _)
  · exact blind_database.bind fun db => similar_lift (agree_withCheck check l db _ _ _)
  · exact (((restates_place check.location l).append _).append _).append _

theorem similar_attachChecks (row : Row) (r : LimitRecord) (parameter : ParameterRef)
    (coding : LimitCoding) {checks checks' : List LimitCheck}
    (h : checks.map LimitCheck.unplaced = checks'.map LimitCheck.unplaced) (type : ParameterType) :
    Similar Alike (attachChecks row r parameter coding checks type)
      (attachChecks row r parameter coding checks' type) :=
  blind_database.bind fun _ => (similar_withChecks coding _ h _).bind fun _ =>
    (blind_add _ _).bind fun _ => blind_changeDatabase _

/-- **The alarms of a parameter do not depend on the order of checks that are alike.** -/
theorem similar_attachLimits (row : Row) :
    Similar Alike (attachLimits row) (attachLimits row) := by
  refine (blind_lift _).bind fun r => ?_
  refine paired_stage fun s s' hs => blind_database.bind fun db => ?_
  obtain ⟨-, calibrations, checks, -, hchecks, rfl⟩ := hs
  dsimp only
  split
  · exact blind_throw _
  · rename_i parameter _
    refine Paired.ite (blind_limitation _) ?_
    have hname := hchecks r.parameter
    revert hname
    generalize s.limitChecks.find? r.parameter = found
    generalize checks.find? r.parameter = found'
    intro hname
    cases found with
    | none =>
        rw [Option.map_none, eq_comm, Option.map_eq_none_iff] at hname
        subst hname
        exact blind_throw _
    | some cs =>
        cases found' with
        | none => cases hname
        | some cs' =>
            cases db.typeOf? parameter with
            | none => exact blind_throw _
            | some type =>
                dsimp only
                refine Paired.ite (blind_limitation _) ?_
                split
                · exact similar_attachChecks row r parameter _ (Option.some.inj hname) type
                · exact blind_throw _

/-- The limit checks of rearranged records are alike once they are sorted. -/
theorem carries_checks (hlenient : setting.config.strict = false)
    (h : setting.config.Rearranges setting.files files) {handle : Row → TelemetryBuild Unit}
    (hhandle : ∀ row d, handle row d = checkTable.outcome (fun s x =>
      { s with limitChecks := s.limitChecks.append x.1 x.2 }) row d) :
    Carries Alike
      (fun s s' => Alike { s with limitChecks := s.limitChecks.sortLists (·.position) }
        { s' with limitChecks := s'.limitChecks.sortLists (·.position) })
      (Build.scan setting "ocp" handle)
      (Build.scan { setting with files := files } "ocp" handle) := by
  refine checkTable.carries_scan (P := fun _ => True) hlenient h.checks
    (fun row d _ => hhandle row d) (fun row d _ => hhandle row d) (fun _ _ _ => trivial)
    (fun _ _ _ => ⟨trivial, trivial⟩) ?_
  rintro s _ items items' ⟨hwords, calibrations, checks, hcalibrations, hchecks, rfl⟩ hitems
  have hput (s : TelemetryState) (l : List (String × LimitCheck)) :
      l.foldl (fun s x => { s with limitChecks := s.limitChecks.append x.1 x.2 }) s =
        { s with limitChecks := s.limitChecks.gather l } :=
    List.foldl_hom (fun checks => ({ s with limitChecks := checks } : TelemetryState))
      fun _ _ => rfl
  rw [hput, hput]
  refine ⟨hwords, calibrations, _, hcalibrations, fun parameter => ?_, rfl⟩
  exact Index.find?_sortLists_gather checkTable.key_view hitems parameter (hchecks parameter)

theorem carries_loadLimits (hlenient : setting.config.strict = false)
    (h : setting.config.Rearranges setting.files files) :
    Carries Alike Alike (loadLimits setting) (loadLimits { setting with files := files }) := by
  refine (carries_checks hlenient h fun row d => ?_).bind fun _ => ?_
  · unfold KeyedTable.outcome checkTable
    dsimp only
    cases LimitCheck.ofRow row with
    | error e => rfl
    | ok check =>
        cases row.text 0 with
        | error e => rfl
        | ok name => rfl
  refine Paired.bind (paired_changeStage fun _ _ hs => hs) fun _ => ?_
  refine Similar.carries (Paired.bind ?_ fun _ => blind_pure _)
  exact similar_scanKept h (by decide) (by decide) similar_attachLimits

end Telemetry

/-- **The telemetry stage builds the same from rearranged tables.** -/
theorem carries_buildTelemetry (hlenient : setting.config.strict = false)
    (h : setting.config.Rearranges setting.files files) (compiler : Option FormulaCompiler) :
    Carries (fun s s' => s = {} ∧ s' = {}) TelemetryState.Alike (buildTelemetry setting compiler)
      (buildTelemetry { setting with files := files } compiler) := by
  refine Paired.bind (S := TelemetryState.Alike)
    ((Registry.carries_loadTelemetry hlenient h).within (fun _ _ _ => ⟨rfl, rfl⟩) ?_) fun _ => ?_
  · rintro _ _ r r' ⟨rfl, rfl⟩ hr
    exact ⟨nofun, r', {}, hr, fun _ => rfl, rfl⟩
  refine (Telemetry.similar_loadParameters h).carries.bind fun _ => ?_
  refine (Telemetry.similar_compileSynthetic h compiler).carries.bind fun _ => ?_
  refine Telemetry.similar_attachContextCalibrators.carries.bind fun _ => ?_
  refine (Telemetry.similar_loadPackets h).carries.bind fun _ => ?_
  refine (Telemetry.similar_loadFixedLayout h).carries.bind fun _ => ?_
  refine (Telemetry.similar_loadVariableLayout h).carries.bind fun _ => ?_
  exact Telemetry.carries_loadLimits hlenient h

end MissionBase
