import MissionBase.Proofs.Leniency.Commanding
import MissionBase.Proofs.Policy.Compilation

/-!
# A lenient compilation gives a database

Neither stage fails where errors are recorded, so what is left to fail is what comes before them:
the options, tables that cannot be read, and a version table without a record that is accepted.
-/

namespace MissionBase

open Run Leniency

variable {setting : Setting}

theorem DatabaseVersion.mild_ofRow (row : Row) : Mild (DatabaseVersion.ofRow row) :=
  (row.mild_require _).bind fun _ => (row.mild_text _).bind fun _ => (row.mild_getD _ _ _ _).bind
    fun _ => (row.mild_getD _ _ _ _).bind fun _ => (row.mild_getD _ _ _ _).bind fun _ => mild_ok

/-- The versions that records tell, in their order; a record that is rejected tells none. -/
def toldVersions (rows : List Row) : List DatabaseVersion :=
  rows.filterMap fun row => (DatabaseVersion.ofRow row).toOption

/-- The version after one more record: that of the record, unless it is rejected. -/
def laterVersion (version : Option DatabaseVersion) (row : Row) : Option DatabaseVersion :=
  (DatabaseVersion.ofRow row).toOption.or version

/-- Records that are read one after the other leave the version that was told last. -/
theorem foldl_laterVersion (rows : List Row) (version : Option DatabaseVersion) :
    rows.foldl laterVersion version = (toldVersions rows).getLast?.or version := by
  induction rows generalizing version with
  | nil => rfl
  | cons row rest ih =>
      rw [List.foldl_cons, ih, laterVersion, toldVersions, toldVersions, List.filterMap_cons]
      cases (DatabaseVersion.ofRow row).toOption with
      | none => rfl
      | some v =>
          rw [List.getLast?_cons, Option.some_or]
          cases (rest.filterMap fun row => (DatabaseVersion.ofRow row).toOption).getLast? <;> rfl

/-- **Reading the version succeeds exactly if a record is accepted**, and there is one error that it
fails with otherwise. -/
theorem readVersion_lenient (hlenient : setting.config.strict = false) {rows : List Row}
    (hrows : Build.rows setting "vdf" = .ok rows) {d : Draft (Option DatabaseVersion)}
    (hd : d.stage = none) :
    match toldVersions rows with
    | [] => ∃ t, readVersion setting d = .error (.structural "the VDF table has no valid record") t
    | _ :: _ => ∃ t, readVersion setting d = .ok () t := by
  have htame (row : Row) : Tame (do
      let version ← DatabaseVersion.ofRow row
      Build.changeStage fun _ => some version : Build (Option DatabaseVersion) Unit) :=
    (tame_lift (DatabaseVersion.mild_ofRow row)).bind fun _ => tame_changeStage _
  obtain ⟨n, t, hscan⟩ := sure_scan hlenient hrows htame d
  have hlast : t.stage = (toldVersions rows).getLast? := by
    have hfold := (ends_scanFold (I := fun version t => t.stage = version) (f := laterVersion) hrows
      (fun _ _ _ h => h) (fun version row u hu => ?_) hd).of_ok hscan
    · rw [foldl_laterVersion, Option.or_none] at hfold
      exact hfold
    · subst hu
      unfold laterVersion
      cases DatabaseVersion.ofRow row with
      | ok v => exact Ends.bind (ends_pure rfl)
      | error e => exact Ends.bind (ends_throw rfl)
  unfold readVersion
  rw [bind_of_ok hscan, bind_of_ok (x := Build.stage) (a := t.stage) (t := t) rfl, hlast]
  cases toldVersions rows with
  | nil => exact ⟨t, rfl⟩
  | cons first rest => exact ⟨_, rfl⟩

/-- The same holds of a whole build: what comes after the version does not fail. -/
theorem buildDatabase_lenient (hlenient : setting.config.strict = false)
    (hreadable : setting.Readable) {rows : List Row}
    (hrows : Build.rows setting "vdf" = .ok rows) (compiler : Option FormulaCompiler)
    (d : Draft Unit) :
    match toldVersions rows with
    | [] => ∃ t, buildDatabase setting compiler d =
        .error (.structural "the VDF table has no valid record") t
    | _ :: _ => ∃ t, buildDatabase setting compiler d = .ok () t := by
  have hversion := readVersion_lenient hlenient hrows
    (d := ⟨d.database, d.errors, d.warnings, none⟩) rfl
  cases hnone : toldVersions rows with
  | nil =>
      rw [hnone] at hversion
      obtain ⟨t, ht⟩ := hversion
      refine ⟨⟨t.database, t.errors, t.warnings, ()⟩, ?_⟩
      show EStateM.bind (Build.within _ _ (readVersion setting)) _ d = _
      unfold EStateM.bind Build.within
      rw [ht]
  | cons first rest =>
      rw [hnone] at hversion
      obtain ⟨t, ht⟩ := hversion
      have hfirst : Build.within (fun _ => none) (fun _ _ => ()) (readVersion setting) d =
          .ok () ⟨t.database, t.errors, t.warnings, ()⟩ := by
        unfold Build.within
        rw [ht]
      obtain ⟨_, u, hstages⟩ := (((sure_buildTelemetry hlenient hreadable compiler).within
        (fun _ : Unit => ({} : TelemetryState)) fun _ _ => ()).bind fun _ =>
          (sure_buildCommands hlenient hreadable).within (fun _ : Unit => ({} : CommandingState))
            fun _ _ => ()) ⟨t.database, t.errors, t.warnings, ()⟩
      exact ⟨u, (bind_of_ok hfirst).trans hstages⟩

theorem Build.rows_of_read {table : String} {bytes : List UInt8}
    (h : setting.files.read (setting.config.tablePath table) = .ok bytes) :
    Build.rows setting table =
      .ok (readRows (setting.config.fileName table) setting.config.separator bytes) := by
  unfold Build.rows
  dsimp only
  rw [h]

/-- Options that are valid name an epoch. -/
theorem Config.exists_resolveEpoch {config : Config} (h : config.validate = .ok ()) :
    ∃ epoch, config.resolveEpoch = .ok epoch := by
  cases hepoch : config.resolveEpoch with
  | ok epoch => exact ⟨epoch, rfl⟩
  | error e =>
      unfold Config.validate at h
      rw [hepoch] at h
      grind [Except.map]

/-- The versions that the records of the version table tell. -/
def Config.toldVersions (config : Config) (files : Files) : List DatabaseVersion :=
  match files.read (config.tablePath "vdf") with
  | .ok bytes => MissionBase.toldVersions
      (readRows (config.fileName "vdf") config.separator bytes)
  | .error _ => []

/--
**A lenient compilation ends with a database, whatever the tables hold.**

Where the options are valid and every table is there and can be read, the compilation gives a
database if a record of the version table is accepted, and the error that there is none otherwise.
No other record and no other table ends it, nor does an answer of the compiler of formulas.
-/
theorem compile_lenient {config : Config} {files : Files} (compiler : Option FormulaCompiler)
    (hlenient : config.strict = false) (hvalid : config.validate = .ok ())
    (hthere : checkTables files config.path config.fileExtension = .ok ())
    (hreadable : ∀ table ∈ requiredTables, ∃ bytes,
      files.read (config.tablePath table) = .ok bytes) :
    match config.toldVersions files with
    | [] => compile config files compiler =
        .error (.structural "the VDF table has no valid record")
    | _ :: _ => ∃ out, compile config files compiler = .ok out := by
  obtain ⟨epoch, hepoch⟩ := Config.exists_resolveEpoch hvalid
  let setting : Setting := ⟨config, epoch, files⟩
  have hsetting : Setting.of config files = .ok setting := by
    unfold Setting.of
    rw [hvalid, hepoch]
    rfl
  have hrows {table : String} {bytes : List UInt8}
      (hread : files.read (config.tablePath table) = .ok bytes) :
      Build.rows setting table =
        .ok (readRows (config.fileName table) config.separator bytes) :=
    Build.rows_of_read hread
  have htables : setting.Readable := fun table hmem =>
    have ⟨_, hread⟩ := hreadable table hmem
    ⟨_, hrows hread⟩
  obtain ⟨bytes, hread⟩ := hreadable "vdf" (by decide)
  have hbuild := buildDatabase_lenient hlenient htables (hrows hread) compiler
    { database := { name := config.spaceSystemName }, stage := () }
  rw [compile_eq, hsetting, Config.toldVersions, hread]
  show match toldVersions (readRows (config.fileName "vdf") config.separator bytes) with
    | [] => (checkTables files config.path config.fileExtension >>= fun _ => _) = _
    | _ :: _ => ∃ out, (checkTables files config.path config.fileExtension >>= fun _ => _) = .ok out
  rw [hthere]
  cases hnone : toldVersions (readRows (config.fileName "vdf") config.separator bytes) with
  | nil =>
      rw [hnone] at hbuild
      obtain ⟨t, ht⟩ := hbuild
      exact congrArg Compiled.ofEnd ht
  | cons first rest =>
      rw [hnone] at hbuild
      obtain ⟨t, ht⟩ := hbuild
      exact ⟨_, congrArg Compiled.ofEnd ht⟩

/-- All tables with a record that is too short, but for one version. -/
def rejectedFiles : Files where
  contents := requiredTables.map fun table =>
    let text := if table = "vdf" then "X\t\tnone\nTEST\n" else "X\n"
    (["m", table ++ ".dat"], text.toList.map fun c => UInt8.ofNat c.toNat)

/-- The one version that is accepted makes a database of tables that are rejected otherwise. -/
theorem rejectedFiles_compile :
    ∃ out, compile { path := "m" } rejectedFiles none = .ok out := by
  have htables : requiredTables.all (fun table =>
      (rejectedFiles.read (Config.tablePath { path := "m" } table)).toOption.isSome) = true := by
    decide +kernel
  have hvalid : Config.validate { path := "m" } = .ok () := eq_ok_of_toOption (by decide +kernel)
  have hthere : checkTables rejectedFiles "m" "dat" = .ok () :=
    eq_ok_of_toOption (by decide +kernel)
  have hcompile := compile_lenient none rfl hvalid hthere fun table hmem => by
    obtain ⟨bytes, hbytes⟩ := Option.isSome_iff_exists.mp (List.all_eq_true.mp htables table hmem)
    exact ⟨bytes, eq_ok_of_toOption hbytes⟩
  have hversions : Config.toldVersions { path := "m" } rejectedFiles =
      [⟨"TEST", none, 0, 0, 0⟩] := by decide +kernel
  rw [hversions] at hcompile
  exact hcompile

end MissionBase
