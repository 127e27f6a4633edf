import MissionBase.Config.Basic
import MissionBase.Database.Document
import MissionBase.Json.Reader

/-!
# Options as a document

The JSON form of the options, written and read. Options that a document does not give have their
defaults.
-/

namespace MissionBase

/-- The options of telemetry packets. -/
def TelemetryOptions.document (o : TelemetryOptions) : Json :=
  .object
    [("type_offset", .ofNat o.typeOffset), ("subtype_offset", .ofNat o.subtypeOffset),
      ("pus1_data_offset", .ofNat o.reportDataOffset),
      ("vbl_param_length_bytes", .integer o.sizeTagBytes)]

/-- The options of commands. -/
def CommandOptions.document (o : CommandOptions) : Json :=
  .object
    [("vbl_param_length_bytes", .integer o.sizeTagBytes),
      ("allow_apid_override", .bool o.allowApidOverride),
      ("allow_ack_override", .bool o.allowAckOverride),
      ("uncertainty_period", .integer o.uncertaintyPeriod)]

/-- The options of a compilation. -/
def Config.document (c : Config) : Json :=
  .object
    [("path", .text c.path), ("space_system_name", .text c.spaceSystemName),
      ("epoch", .text c.epoch), ("tco_service", .ofText? c.correlationService),
      ("tco_fine_bytes", .ofOption .ofNat c.correlationFineBytes), ("strict", .bool c.strict),
      ("separator", .text (String.singleton c.separator)),
      ("file_extension", .text c.fileExtension),
      ("generate_pus_namespace", .bool c.generatePusNamespace),
      ("tm", c.telemetry.document), ("tc", c.command.document)]

namespace Config

/-- A natural number of 32 bits. -/
def readNat32 : Json.Reader Nat := fun steps =>
  (Json.readInteger "u32" 0 4294967295 steps).map fun (n, rest) => (n.toNat, rest)

/-- An integer of 32 bits. -/
def readInt32 : Json.Reader Int := Json.readInteger "i32" (-2147483648) 2147483647

/-- An integer of 64 bits. -/
def readInt64 : Json.Reader Int :=
  Json.readInteger "i64" (-9223372036854775808) 9223372036854775807

/-- A number of bytes. -/
def readByteCount : Json.Reader Nat := fun steps =>
  (Json.readInteger "u8" 0 255 steps).map fun (n, rest) => (n.toNat, rest)

/-- The telemetry options of a document. -/
def readTelemetry : Json.Reader TelemetryOptions :=
  Json.readStructure "struct TmConfig"
    [.of "type_offset" readNat32 fun o x => { o with typeOffset := x },
      .of "subtype_offset" readNat32 fun o x => { o with subtypeOffset := x },
      .of "pus1_data_offset" readNat32 fun o x => { o with reportDataOffset := x },
      .of "vbl_param_length_bytes" readInt32 fun o x => { o with sizeTagBytes := x }]
    {}

/-- The command options of a document. -/
def readCommand : Json.Reader CommandOptions :=
  Json.readStructure "struct TcConfig"
    [.of "vbl_param_length_bytes" readInt32 fun o x => { o with sizeTagBytes := x },
      .of "allow_apid_override" Json.readBool fun o x => { o with allowApidOverride := x },
      .of "allow_ack_override" Json.readBool fun o x => { o with allowAckOverride := x },
      .of "uncertainty_period" readInt64 fun o x => { o with uncertaintyPeriod := x }]
    {}

/-- The options of a document. -/
def readConfig : Json.Reader Config :=
  Json.readStructure "struct MibConfig"
    [.of "path" (Json.readText "path string") fun c x => { c with path := x },
      .of "space_system_name" (Json.readText "a string") fun c x => { c with spaceSystemName := x },
      .of "epoch" (Json.readText "a string") fun c x => { c with epoch := x },
      .of "tco_service" (Json.readOption (Json.readText "a string"))
        fun c x => { c with correlationService := x },
      .of "tco_fine_bytes" (Json.readOption readByteCount)
        fun c x => { c with correlationFineBytes := x },
      .of "strict" Json.readBool fun c x => { c with strict := x },
      .of "separator" Json.readChar fun c x => { c with separator := x },
      .of "file_extension" (Json.readText "a string") fun c x => { c with fileExtension := x },
      .of "generate_pus_namespace" Json.readBool fun c x => { c with generatePusNamespace := x },
      .of "tm" readTelemetry fun c x => { c with telemetry := x },
      .of "tc" readCommand fun c x => { c with command := x }]
    {}

/-- What a reader makes of a text, with a fault as an error. -/
def ofText {α : Type} (reader : Json.Reader α) (text : String) : Except Error α :=
  let cs := text.toList
  match Json.readDocument reader cs with
  | .ok x => .ok x
  | .error f => .error (.document f.cause.category (f.message cs))

/-- The options in a file. -/
def ofFile (files : Files) (path : String) : Except Error Config :=
  match files.read path with
  | .error f => .error (.io f.message)
  | .ok bytes =>
    match String.fromUTF8? ⟨bytes.toArray⟩ with
    | some text => ofText readConfig text
    | none => .error (.io FileFault.notText.message)

end Config

end MissionBase
