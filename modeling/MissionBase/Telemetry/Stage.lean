import MissionBase.Telemetry.Limits
import MissionBase.Telemetry.Packets
import MissionBase.Telemetry.VariableLayout

/-!
# The telemetry stage

Fills the telemetry part of the database. Calibrations come before parameters, parameters before
packets, packets before their layouts, and limits last, because they copy the final types.
-/

namespace MissionBase

/-- Reads the telemetry tables; a compiler of formulas gives synthetic parameters an algorithm. -/
def buildTelemetry (setting : Setting) (compiler : Option FormulaCompiler) :
    TelemetryBuild Unit := do
  Build.within (fun _ => ({} : Registry)) (fun s r => { s with calibrations := r })
    (Registry.loadTelemetry setting)
  Telemetry.loadParameters setting
  Telemetry.compileSynthetic setting compiler
  Telemetry.attachContextCalibrators setting
  Telemetry.loadPackets setting
  Telemetry.loadFixedLayout setting
  Telemetry.loadVariableLayout setting
  Telemetry.loadLimits setting

end MissionBase
