import MissionBase.Compilation
import MissionBase.Proofs.Commanding.Units
import MissionBase.Proofs.Telemetry.Units

/-!
# The database is linked at every step

A stage is a walk along units of work, each of which may fail. The drafts that a stage reaches are
those to which units lead, in any order and whichever way each of them ends. All of them are sound,
so in all of them the database is linked; and the stages as they are run are such walks, whatever
the tables hold and whatever the policy does with errors.
-/

namespace MissionBase

open Run Upkeep

variable {setting : Setting} {compiler : Option FormulaCompiler}

/-- The drafts of the telemetry stage to which units lead, from a database without elements. -/
def Telemetry.Reaches (setting : Setting) (compiler : Option FormulaCompiler)
    (d : Draft TelemetryState) : Prop :=
  ∃ start : Draft TelemetryState, start.database.Blank ∧ start.stage = {} ∧
    Telemetry.Walk setting compiler start d

/-- The drafts of the command stage to which units lead, from a database that the telemetry stage
has reached. -/
def Commanding.Reaches (setting : Setting) (compiler : Option FormulaCompiler)
    (d : Draft CommandingState) : Prop :=
  ∃ (before : Draft TelemetryState) (start : Draft CommandingState),
    Telemetry.Reaches setting compiler before ∧ start.database = before.database ∧
      start.stage = {} ∧ Commanding.Walk setting start d

theorem Commanding.sound_of_wired {d : Draft CommandingState} (hwired : d.database.Wired [])
    (hstage : d.stage = {}) : Commanding.upkeep.Sound d := by
  refine ⟨hwired, ?_⟩
  rw [hstage]
  have hempty {κ α : Type} [Refers α] : d.database.Resolves ({} : Index κ α) :=
    Database.resolves_empty
  exact ⟨hempty, hempty, hempty, hempty, hempty, hempty, hempty⟩

/-- **Every draft that the telemetry stage reaches is sound.** -/
theorem Telemetry.Reaches.sound {d : Draft TelemetryState}
    (h : Telemetry.Reaches setting compiler d) : Telemetry.upkeep.Sound d := by
  obtain ⟨start, hblank, hstage, hwalk⟩ := h
  exact Telemetry.Walk.sound hwalk (Telemetry.sound_of_blank hblank hstage)

/-- **Every draft that the command stage reaches is sound.** -/
theorem Commanding.Reaches.sound {d : Draft CommandingState}
    (h : Commanding.Reaches setting compiler d) : Commanding.upkeep.Sound d := by
  obtain ⟨before, start, hbefore, hdb, hstage, hwalk⟩ := h
  refine Commanding.Walk.sound hwalk (Commanding.sound_of_wired ?_ hstage)
  rw [hdb]
  exact hbefore.sound.wired

/-- The telemetry stage as it is run reaches where it ends. -/
theorem Telemetry.buildTelemetry_reaches {d : Draft TelemetryState} (hblank : d.database.Blank)
    (hstage : d.stage = {}) :
    Ends (buildTelemetry setting compiler) d (fun _ => Telemetry.Reaches setting compiler)
      (Telemetry.Reaches setting compiler) :=
  (Telemetry.walk_buildTelemetry (Telemetry.sound_of_blank hblank hstage)).mono
    (fun _ _ _ hwalk => ⟨d, hblank, hstage, hwalk⟩) fun _ hwalk => ⟨d, hblank, hstage, hwalk⟩

/-- The command stage as it is run reaches where it ends. -/
theorem Commanding.buildCommands_reaches {before : Draft TelemetryState}
    {d : Draft CommandingState} (hbefore : Telemetry.Reaches setting compiler before)
    (hdb : d.database = before.database) (hstage : d.stage = {}) :
    Ends (buildCommands setting) d (fun _ => Commanding.Reaches setting compiler)
      (Commanding.Reaches setting compiler) :=
  (Commanding.walk_buildCommands d).mono
    (fun _ _ _ hwalk => ⟨before, d, hbefore, hdb, hstage, hwalk⟩)
    fun _ hwalk => ⟨before, d, hbefore, hdb, hstage, hwalk⟩

/-- Reading the version adds no element. -/
theorem readVersion_blank {d : Draft (Option DatabaseVersion)} (hblank : d.database.Blank) :
    Ends (readVersion setting) d (fun _ t => t.database.Blank) fun t => t.database.Blank := by
  unfold readVersion
  refine Ends.bind ((ends_scan (Q := fun t => t.database.Blank) (fun _ _ h => h) hblank
    fun row t ht => ?_).mono (fun _ d₁ _ h₁ => ?_) fun _ h => h)
  · exact Ends.bind (ends_lift (fun _ _ => ht) ht)
  · refine Ends.bind (ends_stage ?_)
    split
    · exact ends_throw h₁
    · rename_i version _
      show ({ d₁.database with version := _, description := _ } : Database).Blank
      unfold Database.Blank at h₁ ⊢
      rw [h₁]

/--
**The database is linked after every unit of work, and at the end.**

The drafts of the two stages that are reached are those to which any units of work lead, whether
they succeed or fail. In all of them every reference is to an element that is there, bases come
before what extends them, no container is inside itself, and what entries hold are the containers of
groups, each of which is the item of exactly one entry. The stages are runs through such drafts, and
so the whole compilation ends with a linked database, with an error or without one.
-/
theorem linked_throughout (setting : Setting) (compiler : Option FormulaCompiler) :
    (∀ d, Telemetry.Reaches setting compiler d → d.database.Linked) ∧
      (∀ d, Commanding.Reaches setting compiler d → d.database.Linked) ∧
      (∀ d : Draft TelemetryState, d.database.Blank → d.stage = {} →
        Ends (buildTelemetry setting compiler) d (fun _ => Telemetry.Reaches setting compiler)
          (Telemetry.Reaches setting compiler)) ∧
      (∀ (before : Draft TelemetryState) (d : Draft CommandingState),
        Telemetry.Reaches setting compiler before → d.database = before.database → d.stage = {} →
        Ends (buildCommands setting) d (fun _ => Commanding.Reaches setting compiler)
          (Commanding.Reaches setting compiler)) ∧
      ∀ name, Ends (buildDatabase setting compiler) ⟨{ name := name }, [], [], ()⟩
        (fun _ d => d.database.Linked) fun d => d.database.Linked := by
  have htelemetry (d : Draft TelemetryState) (h : Telemetry.Reaches setting compiler d) :
      d.database.Linked := h.sound.wired.linked
  have hcommands (d : Draft CommandingState) (h : Commanding.Reaches setting compiler d) :
      d.database.Linked := h.sound.wired.linked
  refine ⟨htelemetry, hcommands, fun d => Telemetry.buildTelemetry_reaches,
    fun before d => Commanding.buildCommands_reaches, fun name => ?_⟩
  unfold buildDatabase
  have hversion : Ends (readVersion setting) ⟨{ name := name }, [], [], none⟩
      (fun _ t => t.database.Blank) fun t => t.database.Blank := readVersion_blank rfl
  refine Ends.bind (Ends.within (hversion.mono (fun _ d₁ _ h₁ => ?_) fun _ h₁ => h₁.wired.linked))
  have hrun : Ends (buildTelemetry setting compiler) ⟨d₁.database, d₁.errors, d₁.warnings, {}⟩
      (fun _ => Telemetry.Reaches setting compiler) (Telemetry.Reaches setting compiler) :=
    Telemetry.buildTelemetry_reaches h₁ rfl
  refine Ends.bind (Ends.within (hrun.mono (fun _ d₂ _ h₂ => ?_) htelemetry))
  have hrun' : Ends (buildCommands setting) ⟨d₂.database, d₂.errors, d₂.warnings, {}⟩
      (fun _ => Commanding.Reaches setting compiler) (Commanding.Reaches setting compiler) :=
    Commanding.buildCommands_reaches h₂ rfl rfl
  exact Ends.within (hrun'.mono (fun _ t _ => hcommands t) hcommands)

/-- Parameters, and a packet with a variable structure. -/
def nestedSetting : Setting :=
  .ofTables [
    ("pcf", "N\t\t\t\t3\t4\t\t\t\tN\tR\nA\t\t\t\t3\t4\t\t\t\tN\tR\nB\t\t\t\t3\t4\t\t\t\tN\tR\n"),
    ("pic", ""), ("pid", "3\t25\t100\t0\t0\t1\t\t\t1\t10\n"), ("tpcf", "")]

/-- A counter of four elements, the second of which counts the other two. -/
def nestedElements : List VariableElement := [
  ⟨⟨"vpd.dat", 1⟩, 1, 1, "N", 4, 0, 0⟩, ⟨⟨"vpd.dat", 2⟩, 1, 2, "A", 0, 0, 0⟩,
  ⟨⟨"vpd.dat", 3⟩, 1, 3, "N", 2, 0, 0⟩, ⟨⟨"vpd.dat", 4⟩, 1, 4, "A", 0, 0, 0⟩,
  ⟨⟨"vpd.dat", 5⟩, 1, 5, "B", 0, 0, 0⟩]

/-- The packet with the structure. -/
def nestedPacket : PacketRecord where
  location := ⟨"pid.dat", 1⟩
  key := ⟨100, 3, 25⟩
  first := 0
  second := 0
  spid := 1
  description := none
  structureId := some 1
  headerBytes := 10
  valid := true

/-- A draft with a group inside another one is reached, and linked. -/
theorem nested_groups_linked :
    ∃ d, Telemetry.Reaches nestedSetting none d ∧ d.database.containers.inner = [⟨3⟩, ⟨2⟩] ∧
      d.database.Linked := by
  have hok : (after? (do
      Telemetry.loadParameters nestedSetting
      Telemetry.loadPackets nestedSetting
      Telemetry.expandPacket nestedSetting nestedElements nestedPacket)
      ({ database := { name := "MIB" }, stage := {} } : Draft TelemetryState)).any
      (fun d => decide (d.database.containers.inner = [⟨3⟩, ⟨2⟩])) = true := by
    decide +kernel
  obtain ⟨d, hafter, hinner⟩ := (Option.any_eq_true _ _).mp hok
  obtain ⟨_, hrun⟩ := after?_eq_some.mp hafter
  obtain ⟨_, d₁, h₁, hrun⟩ := bind_eq_ok.mp hrun
  obtain ⟨_, d₂, h₂, h₃⟩ := bind_eq_ok.mp hrun
  have hadded₁ : Telemetry.Additions nestedSetting none _ d₁ :=
    Telemetry.additions_loadParameters.of_ok h₁
  have hsound₁ := hadded₁.walk.sound (Telemetry.sound_of_blank rfl rfl)
  have hadded₂ : Telemetry.Additions nestedSetting none d₁ d₂ :=
    (Telemetry.additions_loadPackets hsound₁).of_ok h₂
  have hadded₃ : Telemetry.Adding nestedSetting none d₂ d :=
    .layout nestedElements nestedPacket (.of_ok h₃)
  have hadded := (hadded₁.trans hadded₂).tail hadded₃
  have hreaches : Telemetry.Reaches nestedSetting none d :=
    ⟨{ database := { name := "MIB" }, stage := {} }, rfl, rfl, Telemetry.Additions.walk hadded⟩
  exact ⟨d, hreaches, of_decide_eq_true hinner, (linked_throughout nestedSetting none).1 d hreaches⟩

end MissionBase
