import MissionBase.Compilation
import MissionBase.Proofs.Policy.Commanding

/-!
# Compilation under both policies

The two stages agree, so a whole build does, and what a strict compilation gives can be told from
the errors of the one that records them: none, and it gives the same; some, and it gives the first.
-/

namespace MissionBase

open Run Policy

variable {setting : Setting}

theorem agrees_readVersion (hlenient : setting.config.strict = false) :
    Agrees (readVersion setting) (readVersion setting.strictly) := by
  unfold readVersion
  refine (agrees_scan hlenient "vdf" fun row => ?_).bind fun _ => agrees_stage.bind fun v => ?_
  · exact (agrees_lift _).bind fun _ => agrees_changeStage _
  cases v with
  | none => exact agrees_throw _
  | some version => exact agrees_changeDatabase _

theorem agrees_buildDatabase (hlenient : setting.config.strict = false)
    (compiler : Option FormulaCompiler) :
    Agrees (buildDatabase setting compiler) (buildDatabase setting.strictly compiler) := by
  unfold buildDatabase
  refine ((agrees_readVersion hlenient).within _ _).bind fun _ => ?_
  refine ((agrees_buildTelemetry hlenient compiler).within _ _).bind fun _ => ?_
  exact (agrees_buildCommands hlenient).within _ _

/-- What a finished build gives. -/
def Compiled.ofEnd : EStateM.Result Error (Draft Unit) Unit → Except Error Compiled
  | .ok _ d => .ok ⟨d.database, d.errors, d.warnings⟩
  | .error e _ => .error e

/-- What a strict compilation gives where the one that records its errors gives `lenient`. -/
def Policy.Foretold (lenient strict : Except Error Compiled) : Prop :=
  match lenient with
  | .ok out => strict = match out.errors with
      | [] => .ok out
      | first :: _ => .error first
  | .error _ => ∃ e, strict = .error e

/-- What two builds give that agree from a draft without errors. -/
theorem Policy.Agree.foretold {d : Draft Unit} {r r' : EStateM.Result Error (Draft Unit) Unit}
    (hd : d.errors = []) (h : Agree d r r') : Foretold (Compiled.ofEnd r) (Compiled.ofEnd r') := by
  cases h with
  | same hnone =>
      rw [hd] at hnone
      cases r with
      | ok u t =>
          change t.errors = [] at hnone
          simp only [Foretold, Compiled.ofEnd, hnone]
      | error e t => exact ⟨e, rfl⟩
  | @failed e later d' hrecorded =>
      rw [hd] at hrecorded
      cases r with
      | ok u t =>
          change t.errors = e :: later at hrecorded
          simp only [Foretold, Compiled.ofEnd, hrecorded]
      | error e' t => exact ⟨e, rfl⟩

/-- The policy decides nothing about the options being valid. -/
theorem Setting.of_strict (config : Config) (files : Files) :
    Setting.of { config with strict := true } files =
      (Setting.of { config with strict := false } files).map Setting.strictly := by
  have hepoch : Config.resolveEpoch { config with strict := true } =
      Config.resolveEpoch { config with strict := false } := by
    simp only [Config.resolveEpoch]
  have hvalid : Config.validate { config with strict := true } =
      Config.validate { config with strict := false } := by
    simp only [Config.validate, hepoch]
  unfold Setting.of
  rw [hvalid, hepoch]
  cases Config.validate { config with strict := false } with
  | error e => rfl
  | ok u => cases Config.resolveEpoch { config with strict := false } <;> rfl

/-- A compilation is a build in the setting of its options, if the tables are there. -/
theorem compile_eq (config : Config) (files : Files) (compiler : Option FormulaCompiler) :
    compile config files compiler = (do
      let setting ← Setting.of config files
      checkTables files config.path config.fileExtension
      Compiled.ofEnd (buildDatabase setting compiler
        { database := { name := config.spaceSystemName }, stage := () })) := by
  unfold compile
  refine bind_congr fun setting => bind_congr fun _ => ?_
  dsimp only
  cases buildDatabase setting compiler _ <;> rfl

/-- **The errors of a compilation tell what the strict one gives.** Where no error is recorded, it
gives the same database with the same warnings; else it ends with the first error. Where already
the compilation that records its errors gives nothing, neither does the strict one. -/
theorem compile_strict (config : Config) (files : Files) (compiler : Option FormulaCompiler) :
    match compile { config with strict := false } files compiler with
    | .ok out => compile { config with strict := true } files compiler =
        match out.errors with
        | [] => .ok out
        | first :: _ => .error first
    | .error _ => ∃ e, compile { config with strict := true } files compiler = .error e := by
  show Policy.Foretold _ _
  rw [compile_eq, compile_eq, Setting.of_strict]
  cases hsetting : Setting.of { config with strict := false } files with
  | error e => exact ⟨e, rfl⟩
  | ok setting =>
      have hlenient : setting.config.strict = false := by rw [Setting.of_config hsetting]
      show Policy.Foretold
        (checkTables files config.path config.fileExtension >>= fun _ => Compiled.ofEnd _)
        (checkTables files config.path config.fileExtension >>= fun _ => Compiled.ofEnd _)
      cases checkTables files config.path config.fileExtension with
      | error e => exact ⟨e, rfl⟩
      | ok u => exact (agrees_buildDatabase hlenient compiler _).foretold rfl

end MissionBase
