import MissionBase.Proofs.Supplements
import MissionBase.Proofs.Telemetry.Parts

/-!
# What the telemetry stage adds besides declared parameters

The algorithms of synthetic parameters, packets, and the layouts of packets bring nothing else than
natural numbers of some bits, the types of those, and what is neither parameter nor type.
-/

namespace MissionBase.Telemetry

open Run

variable {setting : Setting}

/-- Additions besides declared parameters, with the calibrations and the declarations left alone. -/
abbrev Supplying : Draft TelemetryState → Draft TelemetryState → Prop :=
  Supplies fun s => (s.calibrations, s.declared)

/-- **Packets and layouts are made of such additions.** -/
theorem supplying_tracks : Tracks Supplying where
  noted := fun _ _ _ => ⟨.refl, rfl⟩
  stage := fun hcalibrations hdeclared =>
    supplies_stage fun s => congrArg₂ Prod.mk (hcalibrations s) (hdeclared s)
  unsigned := supplies_addUnsigned
  container := supplies_addContainer
  changeContainer := supplies_changeContainer

end MissionBase.Telemetry
