import MissionBase.Build
import MissionBase.Database.Echo

/-!
# Parameters of packet headers

Parameters that no table declares: the fields of packet headers, the identification fields of
packets, and the request that a verification report echoes. Each is a natural number of some bits,
and all of one width share a type.
-/

namespace MissionBase

variable {σ : Type}

namespace PacketHeader

/-- The bits of a service type and of a subtype. -/
def serviceSize : Nat := 8

/-- The application identifier in the header of every packet. -/
def apidName : String := "ccsds_apid"

/-- The sequence count in the header of every packet. -/
def sequenceName : String := "ccsds_seqcount"

/-- The service type of a packet. -/
def typeName : String := "pus_type"

/-- The service subtype of a packet. -/
def subtypeName : String := "pus_stype"

/-- The application identifier that a verification report echoes. -/
def echoedApidName : String := "pus1_apid"

/-- The sequence count that a verification report echoes. -/
def echoedSequenceName : String := "pus1_seqcount"

end PacketHeader

/-- The type of natural numbers of some bits. -/
def unsignedType (size : Nat) : ParameterType :=
  { name := s!"mib-ptype-uint{size}"
    value := .integer false (ValueType.naturalSize size)
    encoding := some (.unsignedInteger size) }

/-- The type of natural numbers of some bits in the database, added on first use. -/
def unsignedTypeRef (size : Nat) : Build σ ParameterTypeRef := do
  let db ← Build.database
  match db.parameterTypes.find? (unsignedType size).name with
  | some type => return type
  | none => Build.add .structural fun db => db.addParameterType (unsignedType size)

/-- Adds a parameter with values of some bits. -/
def addUnsigned (name : String) (size : Nat) : Build σ ParameterRef := do
  let type ← unsignedTypeRef size
  Build.add .structural fun db => db.addParameter { name := name, type := type }

/-- The parameter of a name, added on first use. -/
def unsignedOrNew (name : String) (size : Nat) : Build σ ParameterRef := do
  let db ← Build.database
  match db.parameters.find? name with
  | some parameter => return parameter
  | none => addUnsigned name size

/-- The echoed application identifier and sequence count of verification reports. -/
def echoedRequest : Build σ (ParameterRef × ParameterRef) := do
  let apid ← unsignedOrNew PacketHeader.echoedApidName PacketHeader.apidSize
  let count ← unsignedOrNew PacketHeader.echoedSequenceName PacketHeader.sequenceSize
  return (apid, count)

end MissionBase
