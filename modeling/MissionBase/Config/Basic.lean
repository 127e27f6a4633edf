import MissionBase.Database.Types
import MissionBase.Error
import MissionBase.Files

/-!
# Options of a compilation

Where the tables lie and how they are written, what the database is called, what times count from,
where packets carry their discriminators, and whether the first error ends the compilation.
-/

namespace MissionBase

/-- Options of telemetry packets. -/
structure TelemetryOptions where
  /-- The byte of the service type. -/
  typeOffset : Nat := 7
  /-- The byte of the service subtype. -/
  subtypeOffset : Nat := 8
  /-- The byte where a verification report echoes the request. -/
  reportDataOffset : Nat := 16
  /-- The bytes of a size tag, where a table gives none. -/
  sizeTagBytes : Int := 1
  deriving Repr, DecidableEq

/-- Options of commands. -/
structure CommandOptions where
  /-- The bytes of a size tag, where a table gives none. -/
  sizeTagBytes : Int := 1
  /-- Whether the application identifier stays editable. -/
  allowApidOverride : Bool := false
  /-- Whether the acknowledgement flags stay editable. -/
  allowAckOverride : Bool := false
  /-- The seconds added to a verification window, where a table gives none. -/
  uncertaintyPeriod : Int := 0
  deriving Repr, DecidableEq

/-- The options of a compilation. -/
structure Config where
  /-- The directory of the tables. -/
  path : String := ""
  spaceSystemName : String := "MIB"
  /-- `TAI`, `J2000`, `UNIX`, `GPS`, `TCO` or a date-time. -/
  epoch : String := "1970-01-01T00:00:00"
  /-- The time correlation service of epoch `TCO`. -/
  correlationService : Option String := none
  /-- The bytes of fractions of the correlated clock. -/
  correlationFineBytes : Option Nat := none
  /-- Whether the first error ends the compilation. -/
  strict : Bool := false
  separator : Char := '\t'
  fileExtension : String := "dat"
  /-- Whether packets and commands get aliases by service and subservice. -/
  generatePusNamespace : Bool := true
  telemetry : TelemetryOptions := {}
  command : CommandOptions := {}
  deriving Repr, DecidableEq

namespace Config

/-- The file name of a table. -/
def fileName (c : Config) (table : String) : String := table ++ "." ++ c.fileExtension

/-- The path of a table. -/
def tablePath (c : Config) (table : String) : String := joinPath c.path (c.fileName table)

/-- The options with times correlated by a service. -/
def withCorrelation (c : Config) (service : String) (fineBytes : Option Nat) : Config :=
  { c with epoch := "TCO", correlationService := some service, correlationFineBytes := fineBytes }

/-- The epochs known by name, in upper case. -/
def commonEpoch? (name : String) : Option CommonEpoch :=
  if name = "TAI" then some .tai
  else if name = "J2000" then some .j2000
  else if name = "UNIX" then some .unix
  else if name = "GPS" then some .gps
  else none

/-- An ASCII letter in upper case; every other character as it is. -/
def upperAscii (c : Char) : Char :=
  if 'a' ≤ c ∧ c ≤ 'z' then Char.ofNat (c.toNat - 32) else c

/-- What the epoch option means: a name in any case of letters, or a date-time. -/
def resolveEpoch (c : Config) : Except Error Epoch :=
  let epoch := Text.trimChars c.epoch.toList
  let name := String.ofList (epoch.map upperAscii)
  match commonEpoch? name with
  | some common => .ok (.common common)
  | none =>
    if name = "TCO" then
      match c.correlationService with
      | some service => .ok (.correlated service c.correlationFineBytes)
      | none => .error (.configuration "epoch TCO requires the tco_service option")
    else
      match DateTime.ofText? epoch with
      | some value => .ok (.dateTime value)
      | none =>
        .error (.configuration (s!"cannot parse epoch '{String.ofList epoch}': " ++
          "expected TAI, J2000, UNIX, GPS, TCO or an ISO date-time"))

/-- Fails with the first option that no compilation can run under. -/
def validate (c : Config) : Except Error Unit :=
  if c.path.isEmpty then .error (.configuration "the MIB path is not set")
  else if Text.isBlankText c.spaceSystemName.toList then
    .error (.configuration "space_system_name must not be empty")
  else if c.fileExtension.isEmpty then
    .error (.configuration "file_extension must not be empty")
  else if c.separator = '\n' ∨ c.separator = '\r' then
    .error (.configuration "the column separator cannot be a line terminator")
  else if c.telemetry.sizeTagBytes < 1 then
    .error (.configuration
      s!"tm.vbl_param_length_bytes must be at least 1, got {c.telemetry.sizeTagBytes}")
  else if c.command.sizeTagBytes < 0 then
    .error (.configuration
      s!"tc.vbl_param_length_bytes must not be negative, got {c.command.sizeTagBytes}")
  else c.resolveEpoch.map fun _ => ()

end Config

end MissionBase
