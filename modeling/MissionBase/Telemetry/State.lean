import MissionBase.Build
import MissionBase.Calibration.Registry
import MissionBase.Telemetry.TypeKey

/-!
# The state of the telemetry stage

What the telemetry tables have said so far and the database does not hold.
-/

namespace MissionBase

/-- The state of the telemetry stage. -/
structure TelemetryState where
  calibrations : Registry := {}
  /-- The shared types by what determines them. -/
  sharedTypes : Index TypeKey ParameterTypeRef := {}
  /-- The declarations that gave a parameter. -/
  declared : Index String ParameterRecord := {}
  /-- The declarations of deduced parameters. -/
  deduced : Index String ParameterRecord := {}
  /-- The names of saved synthetic parameters, which the database does not hold. -/
  savedSynthetic : List String := []
  /-- The names of synthetic parameters in the order of their declaration. -/
  synthetic : List String := []
  identifications : List IdentificationRule := []
  /-- The valid packets in the order of their declaration. -/
  packets : List PacketRecord := []
  /-- The names and sizes of packets, by number. -/
  packetNames : Index Int (Option String × Option Int) := {}
  /-- The containers of packets, by number. -/
  packetContainers : Index Int ContainerRef := {}
  /-- The elements of the structures that packets use, by structure. -/
  structures : Index Int (List VariableElement) := {}
  /-- The structures that no packet uses and that an error has been recorded for. -/
  unusedStructures : List Int := []
  /-- How many containers of repeated groups have been named. -/
  groupCount : Nat := 0
  /-- The limit checks of a parameter. -/
  limitChecks : Index String (List LimitCheck) := {}

/-- A computation of the telemetry stage. -/
abbrev TelemetryBuild := Build TelemetryState

end MissionBase
