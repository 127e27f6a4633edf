import MissionBase.Compilation
import MissionBase.Proofs.Linkage
import MissionBase.Proofs.Telemetry.Givers
import MissionBase.Proofs.Telemetry.OwnTypes

/-!
# The course of a compilation

A compilation that gives a database has read the version, and both of its stages have ended without
an error. Its course is what it went through: the setting, the records of the declarations, and the
drafts where the parts of the stages begin and end. The runs that lead from one draft to the next
determine all of it.
-/

namespace MissionBase

open Run

variable {setting : Setting} {compiler : Option FormulaCompiler}

/-- A stage of its own succeeds when its work does. -/
theorem Run.within_eq_ok {σ τ α : Type} {start : σ → τ} {finish : σ → τ → σ} {work : Build τ α}
    {d e : Draft σ} {a : α} :
    Build.within start finish work d = .ok a e ↔
      ∃ t, work ⟨d.database, d.errors, d.warnings, start d.stage⟩ = .ok a t ∧
        ⟨t.database, t.errors, t.warnings, finish d.stage t.stage⟩ = e := by
  unfold Build.within
  cases work ⟨d.database, d.errors, d.warnings, start d.stage⟩ <;> simp

/-- Reads the calibrations of telemetry. -/
def loadCalibrations (setting : Setting) : TelemetryBuild Unit :=
  Build.within (fun _ => ({} : Registry)) (fun s r => { s with calibrations := r })
    (Registry.loadTelemetry setting)

/-- What a compilation goes through until it gives a database. -/
structure Course (config : Config) (files : Files) (compiler : Option FormulaCompiler)
    (out : Compiled) where
  setting : Setting
  versioned : Draft (Option DatabaseVersion)
  /-- The draft where the declarations of parameters begin. -/
  calibrated : Draft TelemetryState
  /-- The records of the declarations. -/
  rows : List Row
  telemetry : Draft TelemetryState
  commanding : Draft CommandingState
  setting_eq : Setting.of config files = .ok setting
  version_eq : readVersion setting ⟨{ name := config.spaceSystemName }, [], [], none⟩ =
    .ok () versioned
  calibrations_eq :
    loadCalibrations setting ⟨versioned.database, versioned.errors, versioned.warnings, {}⟩ =
      .ok () calibrated
  rows_eq : Build.rows setting "pcf" = .ok rows
  telemetry_eq : buildTelemetry setting compiler
    ⟨versioned.database, versioned.errors, versioned.warnings, {}⟩ = .ok () telemetry
  commanding_eq : buildCommands setting
    ⟨telemetry.database, telemetry.errors, telemetry.warnings, {}⟩ = .ok () commanding
  database_eq : out.database = commanding.database

/-- Between context calibrators and limits come packets, their layouts, and the checks. -/
theorem Telemetry.tracks_beforeLimits {R : Draft TelemetryState → Draft TelemetryState → Prop}
    [Std.Refl R] [IsTrans (Draft TelemetryState) R] (h : Telemetry.Tracks R) :
    Steps R (Telemetry.beforeLimits setting) := by
  unfold Telemetry.beforeLimits
  refine (Telemetry.tracks_loadPackets h).bind fun _ => ?_
  refine (Telemetry.tracks_loadFixedLayout h).bind fun _ => ?_
  refine (Telemetry.tracks_loadVariableLayout h).bind fun _ => ?_
  refine (Telemetry.tracks_scan h (Telemetry.tracks_declareCheck h)).bind fun _ => ?_
  exact h.stage (fun _ => rfl) fun _ => rfl

/-- Between context calibrators and limits the stage only supplies. -/
theorem Telemetry.supplies_beforeLimits :
    Steps Telemetry.Supplying (Telemetry.beforeLimits setting) :=
  Telemetry.tracks_beforeLimits Telemetry.supplying_tracks

/-- Limits bring copies of types, parameter by parameter. -/
theorem Telemetry.steps_attachAll {R : Database → Database → Prop} [Std.Refl R]
    [IsTrans Database R] (hretypes : ∀ db db' q, Telemetry.Retypes db db' q → R db db')
    (rows : List Row) : Steps (OnDatabase R) (Telemetry.attachAll setting rows) := by
  refine steps_forM (fun row => ?_) rows
  refine Steps.recover (fun d _ => Std.Refl.refl d.database) fun d => ?_
  have hsame {t : Draft TelemetryState} (h : t.database = d.database) : OnDatabase R d t := by
    unfold OnDatabase
    rw [h]
    exact Std.Refl.refl d.database
  refine Telemetry.attachLimits_ends.mono (fun _ t _ ht => ?_) fun t ht => hsame ht.database
  obtain ⟨-, r, q, -, -, ⟨-, hdb, -⟩ | ⟨-, ht⟩⟩ := ht
  · exact hsame hdb
  · exact hretypes _ _ q ht

/-- The telemetry stage begins with the calibrations, and with the records of the declarations. -/
theorem Telemetry.buildTelemetry_begin {d d' : Draft TelemetryState}
    (h : buildTelemetry setting compiler d = .ok () d') :
    ∃ d₁ rows, loadCalibrations setting d = .ok () d₁ ∧ Build.rows setting "pcf" = .ok rows := by
  obtain ⟨_, d₁, hcalibrations, h⟩ := bind_eq_ok.mp h
  obtain ⟨_, d₂, hparameters, -⟩ := bind_eq_ok.mp h
  obtain ⟨_, _, hscan, -⟩ := bind_eq_ok.mp hparameters
  obtain ⟨rows, hrows⟩ := exists_rows_of_scan hscan
  exact ⟨d₁, rows, hcalibrations, hrows⟩

/-- The files of a directory with these tables, each given as a text with one octet per character.
Tables that are not named are empty. -/
def Files.ofTables (directory : String) (tables : List (String × String)) : Files where
  contents := requiredTables.map fun table =>
    ([directory, table ++ ".dat"],
      (((tables.find? (·.1 == table)).map (·.2)).getD "").toList.map fun c => UInt8.ofNat c.toNat)

variable {config : Config} {files : Files} {out : Compiled}

/-- **A compilation that gives a database has a course.** -/
theorem exists_course (h : compile config files compiler = .ok out) :
    Nonempty (Course config files compiler out) := by
  obtain ⟨setting, hsetting, h⟩ := except_bind_eq_ok.mp h
  obtain ⟨_, -, h⟩ := except_bind_eq_ok.mp h
  dsimp only at h
  cases hrun : buildDatabase setting compiler
      { database := { name := config.spaceSystemName }, stage := () } with
  | error e d => rw [hrun] at h; cases h
  | ok x d =>
      rw [hrun] at h
      cases h
      obtain ⟨_, _, hfirst, hrun⟩ := bind_eq_ok.mp hrun
      obtain ⟨v, hversion, rfl⟩ := within_eq_ok.mp hfirst
      obtain ⟨_, _, hsecond, hthird⟩ := bind_eq_ok.mp hrun
      obtain ⟨t, htelemetry, rfl⟩ := within_eq_ok.mp hsecond
      obtain ⟨c, hcommanding, rfl⟩ := within_eq_ok.mp hthird
      obtain ⟨d₁, rows, hcalibrations, hrows⟩ := Telemetry.buildTelemetry_begin htelemetry
      exact ⟨{
        setting := setting
        versioned := v
        calibrated := d₁
        rows := rows
        telemetry := t
        commanding := c
        setting_eq := hsetting
        version_eq := hversion
        calibrations_eq := hcalibrations
        rows_eq := hrows
        telemetry_eq := htelemetry
        commanding_eq := hcommanding
        database_eq := rfl }⟩

namespace Course

variable (course : Course config files compiler out)

/-- The records that give a parameter. -/
def givers : List (ParameterRecord × ParameterRef) :=
  Telemetry.givers course.setting course.rows course.calibrated

/-- Before the stages there is no element. -/
theorem blank : course.versioned.database.Blank :=
  (readVersion_blank (d := ⟨{ name := config.spaceSystemName }, [], [], none⟩) rfl).of_ok
    course.version_eq

/-- Calibrations bring nothing into the database. -/
theorem calibrated_eq :
    course.calibrated.database = course.versioned.database ∧
      course.calibrated.stage = { calibrations := course.calibrated.stage.calibrations } := by
  obtain ⟨u, hload, heq⟩ := within_eq_ok.mp course.calibrations_eq
  have hsame := (Registry.loadTelemetry_sameDatabase course.setting _).of_ok hload
  rw [← heq]
  exact ⟨hsame, rfl⟩

/-- Where the declarations begin, nothing has been given. -/
theorem given_nil : Telemetry.Given [] course.calibrated := by
  obtain ⟨hdb, hstage⟩ := course.calibrated_eq
  have hblank := course.blank
  rw [← hdb] at hblank
  exact Telemetry.given_nil (by rw [hblank]) (by rw [hblank]) (by rw [hstage])

/-- The drafts between the parts of the telemetry stage, and the records of limits. -/
structure Parts where
  declared : Draft TelemetryState
  /-- With the formulas of synthetic parameters. -/
  computed : Draft TelemetryState
  /-- With context calibrators. -/
  contextual : Draft TelemetryState
  /-- With packets and their layouts; the checks of limits have been read. -/
  laidOut : Draft TelemetryState
  limits : List Row
  declared_eq : Telemetry.declareAll course.setting course.rows course.calibrated = .ok () declared
  computed_eq : Telemetry.compileSynthetic course.setting compiler declared = .ok () computed
  contextual_eq : Telemetry.attachContextCalibrators course.setting computed = .ok () contextual
  laidOut_eq : Telemetry.beforeLimits course.setting contextual = .ok () laidOut
  limits_eq : Build.rows course.setting "ocf" = .ok limits
  telemetry_eq : Telemetry.attachAll course.setting limits laidOut = .ok () course.telemetry

/-- **The telemetry stage has its parts**: the declarations, the formulas of synthetic parameters,
the context calibrators, what comes before the limits, and the limits. -/
theorem exists_parts : Nonempty course.Parts := by
  obtain ⟨d₁, d₂, d₃, rows, h₁, h₂, h₃, hrows, h₄⟩ :=
    Telemetry.buildTelemetry_eq_ok.mp course.telemetry_eq
  obtain ⟨_, u, hcalibrations, h₁⟩ := bind_eq_ok.mp h₁
  have hu : u = course.calibrated := by
    have hsame := course.calibrations_eq
    unfold loadCalibrations at hsame
    rw [hcalibrations] at hsame
    cases hsame
    rfl
  obtain ⟨_, declared, hdeclared, h₁⟩ := bind_eq_ok.mp h₁
  rw [hu, Telemetry.loadParameters_eq_ok course.rows_eq] at hdeclared
  exact ⟨{
    declared := declared
    computed := d₁
    contextual := d₂
    laidOut := d₃
    limits := rows
    declared_eq := hdeclared
    computed_eq := h₁
    contextual_eq := h₂
    laidOut_eq := h₃
    limits_eq := hrows
    telemetry_eq := h₄ }⟩

end Course

end MissionBase
