import MissionBase.Proofs.Refusals.Commanding
import MissionBase.Proofs.Refusals.Telemetry
import MissionBase.Proofs.Telemetry.Operations

/-!
# Refusals of a compilation

Both stages begin with what is needed for their refusals to be founded: the telemetry stage with an
empty database, and the command stage without commands.
-/

namespace MissionBase

open Run

/--
**Neither stage refuses anything for what it has made itself.**

Where the version has been read, all refusals of the telemetry stage are founded in its tables, and
where the telemetry stage has come to its end, so are all refusals of the command stage. No name of
the types, parameters, algorithms and commands that declarations, limits, headers and commands add
is ever found taken, nor is anything missing that was there when it was taken up.
-/
theorem stages_foundedRefusals {setting : Setting} (compiler : Option FormulaCompiler)
    {name : String} {v : Draft (Option DatabaseVersion)}
    (h : readVersion setting ⟨{ name := name }, [], [], none⟩ = .ok () v) :
    Telemetry.FoundedRefusals setting compiler ⟨v.database, v.errors, v.warnings, {}⟩ ∧
      ∀ t, buildTelemetry setting compiler ⟨v.database, v.errors, v.warnings, {}⟩ = .ok () t →
        Commanding.FoundedRefusals setting ⟨t.database, t.errors, t.warnings, {}⟩ := by
  have hblank : v.database.Blank :=
    (readVersion_blank (d := ⟨{ name := name }, [], [], none⟩) rfl).of_ok h
  refine ⟨Telemetry.foundedRefusals compiler hblank rfl, fun t ht => ?_⟩
  -- no operation of the telemetry stage is about commands
  have hoperations : Telemetry.Operations v.database t.database :=
    (Telemetry.operates_buildTelemetry compiler).of_ok ht
  refine Commanding.foundedRefusals (fun r => ?_) rfl
  rw [hoperations.commanding.1, hblank]
  rfl

/-- Tables with a parameter that is declared twice, limits of a parameter that is unknown, a header
that is declared twice, a command without its header, and a verification stage without
expressions. -/
def refusedSetting : Setting :=
  .ofTables [
    ("vdf", "TEST\n"), ("cur", ""), ("caf", ""), ("cap", ""), ("txf", ""), ("txp", ""),
    ("mcf", ""), ("lgf", ""),
    ("pcf", "P\t\t\t\t3\t4\t\t\t\tN\tR\nP\t\t\t\t3\t4\t\t\t\tN\tR\n"),
    ("pic", ""), ("pid", ""), ("tpcf", ""), ("plf", ""), ("vpd", ""),
    ("ocp", "P\t1\tH\n"), ("ocf", "P\t1\t1\tU\tR\nQ\t1\t1\tU\tR\n"),
    ("tcp", "HDR\nHDR\n"), ("pcpc", ""), ("pcdf", ""),
    ("cca", ""), ("ccs", ""), ("paf", ""), ("pas", ""), ("prf", ""), ("prv", ""),
    ("cpc", "V\t\t3\t4\n"), ("cdf", "C\tE\t\t8\t0\t0\tV\n"),
    ("ccf", "C\tc\t\t\tN\tHDR\nD\td\t\t\tN\tNONE\n"), ("ptv", ""),
    ("cve", ""), ("cvs", "1\tA\tV\t0\t5\n"), ("cvp", "")]

/-- Limits, a command and a verification stage are refused where they have their turn, each of them
for a reason that is founded. -/
theorem refused_founded :
    ∃ (v : Draft (Option DatabaseVersion)) (t : Draft TelemetryState),
      readVersion refusedSetting ⟨{ name := "MIB" }, [], [], none⟩ = .ok () v ∧
      buildTelemetry refusedSetting none ⟨v.database, v.errors, v.warnings, {}⟩ = .ok () t ∧
      (∃ row u e w, Telemetry.attachLimits row u = .error e w ∧
        Telemetry.LimitsRefused row u e) ∧
      (∃ row u e w, Commanding.defineCommand refusedSetting row u = .error e w ∧
        Commanding.CommandRefused refusedSetting row u e) ∧
      ∃ row u e w, Commanding.declareStage refusedSetting row u = .error e w ∧
        Commanding.StageRefused refusedSetting row u e := by
  have hok : (after? (readVersion refusedSetting) ⟨{ name := "MIB" }, [], [], none⟩).any (fun v =>
      ((after? (Telemetry.beforeAlarms refusedSetting none)
          ⟨v.database, v.errors, v.warnings, {}⟩).any fun begun =>
        (Build.rows refusedSetting "ocf").toOption.any fun rows =>
          (turns refusedSetting Telemetry.attachLimits rows begun).any fun turn =>
            (error? (Telemetry.attachLimits turn.1) turn.2).isSome) &&
      (after? (buildTelemetry refusedSetting none)
          ⟨v.database, v.errors, v.warnings, {}⟩).any fun t =>
        ((after? (Commanding.beforeCommands refusedSetting)
            ⟨t.database, t.errors, t.warnings, {}⟩).any fun begun =>
          (Build.rows refusedSetting "ccf").toOption.any fun rows =>
            (turns refusedSetting (Commanding.defineCommand refusedSetting) rows begun).any
              fun turn =>
                (error? (Commanding.defineCommand refusedSetting turn.1) turn.2).isSome) &&
        (after? (Commanding.beforeStages refusedSetting)
            ⟨t.database, t.errors, t.warnings, {}⟩).any fun begun =>
          (Build.rows refusedSetting "cvs").toOption.any fun rows =>
            (turns refusedSetting (Commanding.declareStage refusedSetting) rows begun).any
              fun turn =>
                (error? (Commanding.declareStage refusedSetting turn.1) turn.2).isSome) = true := by
    decide +kernel
  obtain ⟨v, hv, hok⟩ := (Option.any_eq_true _ _).mp hok
  obtain ⟨hlimits, hok⟩ := (Bool.and_eq_true _ _).mp hok
  obtain ⟨t, ht, hok⟩ := (Option.any_eq_true _ _).mp hok
  obtain ⟨hcommands, hstages⟩ := (Bool.and_eq_true _ _).mp hok
  obtain ⟨_, hv⟩ := after?_eq_some.mp hv
  obtain ⟨_, ht⟩ := after?_eq_some.mp ht
  obtain ⟨htelemetry, hcommanding⟩ := stages_foundedRefusals none hv
  refine ⟨v, t, hv, ht, ?_, ?_, ?_⟩
  · obtain ⟨begun, hbegun, hturn⟩ := (Option.any_eq_true _ _).mp hlimits
    obtain ⟨_, hbegun⟩ := after?_eq_some.mp hbegun
    obtain ⟨row, u, e, w, hreached, hrefused⟩ := exists_refused hturn
    exact ⟨row, u, e, w, hrefused, htelemetry.limits begun hbegun row u hreached e w hrefused⟩
  · obtain ⟨begun, hbegun, hturn⟩ := (Option.any_eq_true _ _).mp hcommands
    obtain ⟨_, hbegun⟩ := after?_eq_some.mp hbegun
    obtain ⟨row, u, e, w, hreached, hrefused⟩ := exists_refused hturn
    exact ⟨row, u, e, w, hrefused,
      (hcommanding t ht).command begun hbegun row u hreached e w hrefused⟩
  · obtain ⟨begun, hbegun, hturn⟩ := (Option.any_eq_true _ _).mp hstages
    obtain ⟨_, hbegun⟩ := after?_eq_some.mp hbegun
    obtain ⟨row, u, e, w, hreached, hrefused⟩ := exists_refused hturn
    exact ⟨row, u, e, w, hrefused,
      (hcommanding t ht).stage begun hbegun row u hreached e w hrefused⟩

end MissionBase
