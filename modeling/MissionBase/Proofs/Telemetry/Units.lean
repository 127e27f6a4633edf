import MissionBase.Proofs.Telemetry.LayoutSoundness
import Mathlib.Logic.Relation

/-!
# The units of the telemetry stage

The stage is a sequence of units of work, each of which may fail. Most of them only add to the
database; context calibrators change types that are there, and limits change which type a parameter
has. The stage as it is run is a walk along units, and every unit leads from sound drafts to sound
drafts, so all drafts along the way are sound.
-/

namespace MissionBase

open Run Upkeep

/-- A database without elements. -/
def Database.Blank (db : Database) : Prop :=
  db = { name := db.name, version := db.version, description := db.description }

theorem Database.Blank.wired {db : Database} (h : db.Blank) : db.Wired [] := by
  rw [h]
  refine ⟨resolves_of_eq_nil rfl, ?_, ?_, ⟨?_, ?_, ?_⟩⟩
  · intro r x hx; cases hx
  · intro r x hx; cases hx
  · intro r hr; cases hr
  · intro r x hx; cases hx
  · intro r x hx; cases hx

namespace Telemetry

variable {setting : Setting} {compiler : Option FormulaCompiler} {d t : Draft TelemetryState}

/-- A unit of work of the telemetry stage that changes none of the types that are there, with the
record of an error as a unit of its own. -/
inductive Adding (setting : Setting) (compiler : Option FormulaCompiler) :
    Draft TelemetryState → Draft TelemetryState → Prop where
  | recorded {d : Draft TelemetryState} (e : Error) :
      Adding setting compiler d { d with errors := d.errors ++ [e] }
  | limitation {d : Draft TelemetryState} (m : String) :
      Adding setting compiler d { d with warnings := d.warnings ++ [m] }
  | calibrations {d t : Draft TelemetryState} :
      Leads (Build.within (fun _ => ({} : Registry)) (fun s r => { s with calibrations := r })
        (Registry.loadTelemetry setting)) d t → Adding setting compiler d t
  | parameter {d t : Draft TelemetryState} (row : Row) :
      Leads (do
        let record ← ParameterRecord.ofRow row setting.config.telemetry.sizeTagBytes
        declare setting record) d t → Adding setting compiler d t
  | synthetic {d t : Draft TelemetryState} {formulas : FormulaCompiler} (name : String)
      (location : Location) : compiler = some formulas →
      Leads (addSynthetic setting formulas name location) d t → Adding setting compiler d t
  | rule {d t : Draft TelemetryState} (row : Row) :
      Leads (do
        let rule ← IdentificationRule.ofRow row
        Build.changeStage fun s => { s with identifications := s.identifications ++ [rule] }) d t →
      Adding setting compiler d t
  | packet {d t : Draft TelemetryState} (row : Row) :
      Leads (do declarePacket row (← PacketRecord.ofRow row)) d t → Adding setting compiler d t
  | packetName {d t : Draft TelemetryState} (row : Row) :
      Leads (namePacket row) d t → Adding setting compiler d t
  | root {d t : Draft TelemetryState} :
      Leads (addPacketRoot setting.config.telemetry) d t → Adding setting compiler d t
  /-- The root of packets is there before their containers. -/
  | packets {d t : Draft TelemetryState} {root : PacketRoot} (key : PacketKey)
      (packets : List PacketRecord) : d.database.Resolves root →
      Leads (addPackets setting root key packets) d t → Adding setting compiler d t
  | fixedEntry {d t : Draft TelemetryState} (row : Row) :
      Leads (placeFixed row) d t → Adding setting compiler d t
  | element {d t : Draft TelemetryState} (row : Row) :
      Leads (do declareElement row (← VariableElement.ofRow row)) d t → Adding setting compiler d t
  | layout {d t : Draft TelemetryState} (elements : List VariableElement)
      (packet : PacketRecord) :
      Leads (expandPacket setting elements packet) d t → Adding setting compiler d t
  | check {d t : Draft TelemetryState} (row : Row) :
      Leads (do
        let check ← LimitCheck.ofRow row
        let name ← row.text 0
        Build.changeStage fun s => { s with limitChecks := s.limitChecks.append name check }) d t →
      Adding setting compiler d t
  | sorted {d t : Draft TelemetryState} :
      Leads (Build.changeStage fun s =>
        { s with limitChecks := s.limitChecks.sortLists (·.position) }) d t →
      Adding setting compiler d t

/-- One unit of work of the telemetry stage. -/
inductive Step (setting : Setting) (compiler : Option FormulaCompiler) :
    Draft TelemetryState → Draft TelemetryState → Prop where
  | adding {d t : Draft TelemetryState} :
      Adding setting compiler d t → Step setting compiler d t
  | contexts {d t : Draft TelemetryState} (name : String) :
      Leads (attachContexts name) d t → Step setting compiler d t
  | limits {d t : Draft TelemetryState} (row : Row) :
      Leads (attachLimits row) d t → Step setting compiler d t

/-- A walk along units that only add. -/
abbrev Additions (setting : Setting) (compiler : Option FormulaCompiler) :
    Draft TelemetryState → Draft TelemetryState → Prop :=
  Relation.ReflTransGen (Adding setting compiler)

/-- A walk along units of any kind. -/
abbrev Walk (setting : Setting) (compiler : Option FormulaCompiler) :
    Draft TelemetryState → Draft TelemetryState → Prop :=
  Relation.ReflTransGen (Step setting compiler)

/-! ## Soundness -/

theorem safe_calibrations : upkeep.Safe d (Build.within (fun _ => ({} : Registry))
    (fun s r => { s with calibrations := r }) (Registry.loadTelemetry setting))
    fun _ _ => True := by
  intro hd
  have hsame {u : Draft Registry} (h : u.database = d.database) :
      upkeep.Sound ⟨u.database, u.errors, u.warnings, { d.stage with calibrations := u.stage }⟩ ∧
        d.database.Kept u.database := by
    rw [h]
    exact ⟨⟨hd.wired, hd.stage⟩, .refl _⟩
  refine Ends.within ((Registry.loadTelemetry_sameDatabase setting _).mono (fun _ u _ h => ?_)
    fun u h => hsame h)
  exact ⟨(hsame h).1, (hsame h).2, trivial⟩

theorem Adding.sound (hunit : Adding setting compiler d t) (hd : upkeep.Sound d) :
    upkeep.Sound t ∧ d.database.Kept t.database := by
  cases hunit with
  | recorded e => exact ⟨hd.of_same rfl rfl, .refl _⟩
  | limitation m => exact ⟨hd.of_same rfl rfl, .refl _⟩
  | calibrations h => exact safe_calibrations.leads hd h
  | parameter row h => exact (Safe.read fun r _ => safe_declare r).leads hd h
  | synthetic name location _ h => exact (safe_addSynthetic _ name location).leads hd h
  | rule row h =>
      refine Safe.leads (Q := fun _ _ => True) ?_ hd h
      exact Safe.read fun _ _ => safe_note (fun _ => rfl) fun _ => rfl
  | packet row h =>
      refine Safe.leads (Q := fun _ _ => True) ?_ hd h
      refine Safe.read fun packet _ => ?_
      unfold declarePacket
      refine Safe.stage fun _ => Safe.ite (fun _ => ?_) fun _ => safe_pure trivial
      exact Safe.unless fun _ => safe_note (fun _ => rfl) fun _ => rfl
  | packetName row h =>
      refine Safe.leads (Q := fun _ _ => True) ?_ hd h
      unfold namePacket
      refine Safe.read fun _ _ => Safe.read fun _ _ => Safe.read fun _ _ => ?_
      exact safe_note (fun _ => rfl) fun _ => rfl
  | root h => exact (safe_addPacketRoot _).leads hd h
  | packets key packets hroot h => exact (safe_addPackets hroot key packets).leads hd h
  | fixedEntry row h => exact (safe_placeFixed row).leads hd h
  | element row h => exact (Safe.read fun e _ => safe_declareElement row e).leads hd h
  | layout elements packet h =>
      refine Safe.leads (Q := fun _ _ => True) ?_ hd h
      unfold expandPacket
      refine Safe.stage fun hd => ?_
      split
      · exact safe_pure trivial
      · rename_i container hfind
        exact (safe_expandStructure (hd.stage.2 _ (Index.mem_of_find? hfind)) _ elements).recover
  | check row h =>
      refine Safe.leads (Q := fun _ _ => True) ?_ hd h
      exact Safe.read fun _ _ => Safe.read fun _ _ => safe_note (fun _ => rfl) fun _ => rfl
  | sorted h =>
      refine Safe.leads (Q := fun _ _ => True) ?_ hd h
      exact safe_note (fun _ => rfl) fun _ => rfl

/-- The stage begins with a sound draft. -/
theorem sound_of_blank (hblank : d.database.Blank) (hstage : d.stage = {}) : upkeep.Sound d := by
  refine ⟨hblank.wired, ?_⟩
  rw [hstage]
  exact ⟨Database.resolves_empty, fun e he => by cases he⟩

/-- **Every unit leads from sound drafts to sound drafts.** -/
theorem Step.sound (hunit : Step setting compiler d t) (hd : upkeep.Sound d) :
    upkeep.Sound t ∧ d.database.Kept t.database := by
  cases hunit with
  | adding h => exact h.sound hd
  | contexts name h => exact (safe_attachContexts name).leads hd h
  | limits row h => exact (safe_attachLimits row).leads hd h

/-- **So does every walk.** -/
theorem Walk.sound (hwalk : Walk setting compiler d t) (hd : upkeep.Sound d) : upkeep.Sound t := by
  induction hwalk with
  | refl => exact hd
  | tail _ hunit ih => exact (hunit.sound ih).1

theorem Additions.walk (h : Additions setting compiler d t) : Walk setting compiler d t :=
  Relation.ReflTransGen.mono (fun _ _ hunit => Step.adding hunit) d t h

/-! ## The stage as a walk -/

/-- A unit of work is a walk. -/
theorem additions_unit {α : Type} {x : TelemetryBuild α}
    (h : ∀ d t, Leads x d t → Adding setting compiler d t) :
    Steps (Additions setting compiler) x :=
  steps_of_leads fun d t hleads => .single (h d t hleads)

/-- A scan is a walk along the units of its records. -/
theorem additions_scan {table : String} {handle : Row → TelemetryBuild Unit}
    (h : ∀ row d t, Leads (handle row) d t → Adding setting compiler d t) :
    Steps (Additions setting compiler) (Build.scan setting table handle) :=
  steps_scan (fun _ e => .single (.recorded e)) fun row => additions_unit (h row)

theorem additions_loadParameters : Steps (Additions setting compiler) (loadParameters setting) :=
  (additions_scan fun row _ _ => .parameter row).bind fun _ => steps_pure _

theorem additions_compileSynthetic :
    Steps (Additions setting compiler) (compileSynthetic setting compiler) := by
  unfold compileSynthetic
  refine steps_stage.bind fun state => ?_
  split
  · exact steps_pure _
  · exact steps_modify fun _ => .single (.limitation _)
  · rename_i formulas _
    refine steps_forM (fun name => ?_) _
    split
    · rename_i record _
      exact (additions_unit fun _ _ => .synthetic name record.location rfl).recover
        fun _ e => .single (.recorded e)
    · exact steps_pure _

/-- Adding the root of packets is a unit, and so is the record of an error where that fails. -/
theorem additions_root (hd : upkeep.Sound d) :
    Ends (tryCatch (some <$> addPacketRoot setting.config.telemetry) fun e => do
        Build.report setting e
        return none) d
      (fun root t => Additions setting compiler d t ∧ t.database.Resolves root)
      (Additions setting compiler d) := by
  have hunit : Steps (Additions setting compiler) (addPacketRoot setting.config.telemetry) :=
    additions_unit fun _ _ => .root
  have hadded : Ends (addPacketRoot setting.config.telemetry) d
      (fun root t => Additions setting compiler d t ∧ t.database.Resolves (some root))
      (Additions setting compiler d) := by
    refine (hunit d).mono (fun root t hrun ht => ⟨ht, ?_⟩) fun _ ht => ht
    exact Database.resolves_some.mpr ((safe_addPacketRoot _ hd).of_ok hrun).2.2
  refine Ends.tryCatch (Ends.map hadded) fun e t ht => ?_
  exact Ends.bind (ends_report ht ⟨ht.tail (.recorded e), Database.resolves_none⟩)

/-- The root is still there after the packets of a kind. -/
theorem additions_addPackets {root : PacketRoot} (hroot : d.database.Resolves root)
    (hd : upkeep.Sound d) (key : PacketKey) (packets : List PacketRecord) :
    Ends (addPackets setting root key packets) d
      (fun _ t => Additions setting compiler d t ∧ t.database.Resolves root)
      fun t => Additions setting compiler d t ∧ t.database.Resolves root := by
  have hleads : Steps (fun t u => t.database.Resolves root → upkeep.Sound t →
      Additions setting compiler t u ∧ u.database.Resolves root)
      (addPackets setting root key packets) := by
    refine steps_of_leads fun t u hleads hroot hsound => ?_
    have hunit : Adding setting compiler t u := .packets _ _ hroot hleads
    exact ⟨.single hunit, hroot.kept (hunit.sound hsound).2⟩
  exact (hleads d).mono (fun _ _ _ ht => ht hroot hd) fun _ ht => ht hroot hd

/-- The root is there for as long as containers of packets are added to it. -/
theorem additions_loadPackets (hd : upkeep.Sound d) :
    Ends (loadPackets setting) d (fun _ => Additions setting compiler d)
      (Additions setting compiler d) := by
  unfold loadPackets
  refine (additions_scan fun row _ _ => .rule row).andThen .refl fun _ d₁ h₁ => ?_
  refine (additions_scan fun row _ _ => .packet row).andThen h₁ fun _ d₂ h₂ => ?_
  refine (additions_scan fun row _ _ => .packetName row).andThen h₂ fun _ d₃ h₃ => ?_
  have hsound₃ : upkeep.Sound d₃ := h₃.walk.sound hd
  refine Ends.bind ((additions_root hsound₃).mono (fun root d₄ _ h₄ => ?_) fun _ ht => h₃.trans ht)
  obtain ⟨h₄, hresolves⟩ := h₄
  cases root with
  | none => exact h₃.trans h₄
  | some root =>
      refine Ends.bind (ends_stage ?_)
      -- the packets of every kind are added from where those of the kind before it ended
      refine (ends_forM_mem
        (I := fun t => Additions setting compiler d t ∧ t.database.Resolves root)
        (fun group _ t ht => ?_) ⟨h₃.trans h₄, Database.resolves_some.mp hresolves⟩).mono
        (fun _ _ _ ht => ht.1) fun _ ht => ht
      obtain ⟨hwalk, hroot⟩ := ht
      have hpackets := (additions_addPackets hroot (hwalk.walk.sound hd) group.1 group.2).mono
        (fun _ u _ hu => And.intro (hwalk.trans hu.1) hu.2) fun u hu =>
          And.intro (hwalk.trans hu.1) hu.2
      exact (hpackets.recover fun _ e hu => ⟨hu.1.tail (.recorded e), hu.2⟩).mono
        (fun _ _ _ hu => hu) fun _ hu => hu.1

theorem additions_loadFixedLayout : Steps (Additions setting compiler) (loadFixedLayout setting) :=
  (additions_scan fun row _ _ => .fixedEntry row).bind fun _ => steps_pure _

theorem additions_loadVariableLayout :
    Steps (Additions setting compiler) (loadVariableLayout setting) := by
  unfold loadVariableLayout
  refine (additions_scan fun row _ _ => .element row).bind fun _ => steps_stage.bind fun state => ?_
  refine steps_forM (fun group => steps_forM (fun packet => ?_) _) _
  exact additions_unit fun _ _ => .layout group.2 packet

theorem walk_of_additions {α : Type} {x : TelemetryBuild α}
    (h : Steps (Additions setting compiler) x) : Steps (Walk setting compiler) x :=
  h.mono fun _ _ ht => ht.walk

/-- Every parameter with context rules is a unit. -/
theorem walk_attachContextCalibrators :
    Steps (Walk setting compiler) (attachContextCalibrators setting) := by
  unfold attachContextCalibrators
  refine steps_stage.bind fun state => steps_forM (fun name => ?_) _
  exact (steps_of_leads fun _ _ h => .single (.contexts name h)).recover
    fun _ e => .single (.adding (.recorded e))

/-- Every parameter with limits is a unit. -/
theorem walk_limits : Steps (Walk setting compiler) (Build.scan setting "ocf" attachLimits) :=
  steps_scan (fun _ e => .single (.adding (.recorded e)))
    fun row => steps_of_leads fun _ _ h => .single (.limits row h)

/-- **The stage, run on a sound draft, is a walk.** -/
theorem walk_buildTelemetry (hd : upkeep.Sound d) :
    Ends (buildTelemetry setting compiler) d (fun _ => Walk setting compiler d)
      (Walk setting compiler d) := by
  have hcalibrations : Steps (Additions setting compiler)
      (Build.within (fun _ => ({} : Registry)) (fun s r => { s with calibrations := r })
        (Registry.loadTelemetry setting)) := additions_unit fun _ _ => .calibrations
  unfold buildTelemetry
  refine (walk_of_additions hcalibrations).andThen .refl fun _ d₁ h₁ => ?_
  refine (walk_of_additions additions_loadParameters).andThen h₁ fun _ d₂ h₂ => ?_
  refine (walk_of_additions additions_compileSynthetic).andThen h₂ fun _ d₃ h₃ => ?_
  refine walk_attachContextCalibrators.andThen h₃ fun _ d₄ h₄ => ?_
  have hpackets : Ends (loadPackets setting) d₄ (fun _ => Additions setting compiler d₄)
      (Additions setting compiler d₄) := additions_loadPackets (h₄.sound hd)
  refine Ends.bind (hpackets.mono (fun _ d₅ _ h₅ => ?_) fun _ h₅ => h₄.trans h₅.walk)
  refine (walk_of_additions additions_loadFixedLayout).andThen (h₄.trans h₅.walk) fun _ d₆ h₆ => ?_
  refine (walk_of_additions additions_loadVariableLayout).andThen h₆ fun _ d₇ h₇ => ?_
  unfold loadLimits
  refine (walk_of_additions (additions_scan fun row _ _ => .check row)).andThen h₇ fun _ d₈ h₈ => ?_
  refine (walk_of_additions (additions_unit fun _ _ => .sorted)).andThen h₈ fun _ d₉ h₉ => ?_
  exact walk_limits.andThen h₉ fun _ _ ht => ht

end Telemetry

end MissionBase
