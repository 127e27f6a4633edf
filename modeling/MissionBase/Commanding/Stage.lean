import MissionBase.Calibration.Tables
import MissionBase.Commanding.Commands
import MissionBase.Commanding.Verifiers

/-!
# The command stage

Fills the command part of the database. It comes after the telemetry stage, because arguments,
constraints and verifiers refer to telemetry parameters and containers.
-/

namespace MissionBase

/-- Reads the command tables. -/
def buildCommands (setting : Setting) : CommandingBuild Unit := do
  Commanding.loadHeaders setting
  Build.within (fun _ => ({} : Registry)) (fun s r => { s with calibrations := r })
    (Registry.loadCommanding setting)
  Commanding.loadParameters setting
  Commanding.loadElements setting
  Commanding.loadCommands setting
  Commanding.loadConstraints setting
  Commanding.loadVerifiers setting

end MissionBase
