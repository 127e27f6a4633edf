import MissionBase.Telemetry.HeaderParameters
import MissionBase.Telemetry.State

/-!
# Packets

The containers of packets. All extend one abstract container that exposes the application
identifier, the sequence count, the service type and the subtype. Packets are grouped by
application, type and subtype: one packet alone is told from all others by those, and several are
told apart by the identification fields of a rule, which a container between them and the root
exposes.
-/

namespace MissionBase

/-- The name of the container that all packets extend. -/
def rootContainerName : String := "ccsds-pus"

/-- The namespace of names by service and subservice. -/
def serviceSpace : String := "PUS"

/-- The container that all packets extend, with the parameters that tell packets apart. -/
structure PacketRoot where
  container : ContainerRef
  apid : ParameterRef
  type : ParameterRef
  subtype : ParameterRef
  deriving Repr

/-- An integer in hexadecimal, two digits or more; negative ones in 64 bits of two's
complement. -/
def hexText (n : Int) : String :=
  let digits := Nat.toDigits 16 (n % 18446744073709551616).toNat
  String.ofList (List.replicate (2 - digits.length) '0' ++ digits)

namespace PacketKey

/-- The name of the container of a group. -/
def groupName (k : PacketKey) : String := s!"pus_{k.apid}_{hexText k.type}{hexText k.subtype}"

/-- The name of a kind of packet by service. -/
def serviceName (k : PacketKey) : String := s!"TM({k.type},{k.subtype})"

/-- The conditions under which a packet is of a kind. -/
def comparisons (k : PacketKey) (root : PacketRoot) : List Comparison :=
  [.rawEquals root.apid (toString k.apid), .rawEquals root.type (toString k.type),
    .rawEquals root.subtype (toString k.subtype)]

end PacketKey

/-- The packets by kind, kinds and packets in the order of their declaration. -/
def groupPackets (packets : List PacketRecord) : List (PacketKey × List PacketRecord) :=
  (packets.foldl (fun groups p => groups.append p.key p)
    ({} : Index PacketKey (List PacketRecord))).entries

/-- The rule for a kind of packet: the first one for its application, else the first one for every
application. -/
def ruleFor? (rules : List IdentificationRule) (k : PacketKey) : Option IdentificationRule :=
  let candidates := rules.filter fun r => r.type == k.type && r.subtype == k.subtype
  match candidates.find? fun r => r.apid == some k.apid with
  | some rule => some rule
  | none => candidates.find? fun r => r.apid.isNone

namespace Telemetry

/-- A name of a packet as the name of a container. -/
def containerText (name : String) : String :=
  String.ofList ((Text.trimChars name.toList).map fun c =>
    if Text.isBlank c || c == '/' then '_' else c)

/-- An entry with a parameter at a bit of the packet. -/
def parameterAt (parameter : ParameterRef) (bit : Int) : Entry :=
  { place := .start bit, item := .parameter parameter }

/-! ## Tables -/

/-- Takes up a packet; a number stands for one packet. -/
def declarePacket (row : Row) (packet : PacketRecord) : TelemetryBuild Unit := do
  let state ← Build.stage
  if packet.valid then
    if state.packets.any fun p => p.spid == packet.spid then
      throw (row.data s!"duplicate SPID {packet.spid}")
    Build.changeStage fun s => { s with packets := s.packets ++ [packet] }

/-- Takes up the name and the size of a packet. -/
def namePacket (row : Row) : TelemetryBuild Unit := do
  row.require [0]
  let name := (row.text? 1).map containerText
  let size ← row.int? 2
  let spid ← row.int 0
  Build.changeStage fun s => { s with packetNames := s.packetNames.set spid (name, size) }

/-! ## Containers -/

/-- Adds the container that all packets extend. -/
def addPacketRoot (options : TelemetryOptions) : TelemetryBuild PacketRoot := do
  let apid ← addUnsigned PacketHeader.apidName PacketHeader.apidSize
  let count ← addUnsigned PacketHeader.sequenceName PacketHeader.sequenceSize
  let type ← addUnsigned PacketHeader.typeName PacketHeader.serviceSize
  let subtype ← addUnsigned PacketHeader.subtypeName PacketHeader.serviceSize
  let root : Container := {
    name := rootContainerName
    isAbstract := true
    entries := [parameterAt apid PacketHeader.apidBit, parameterAt count PacketHeader.sequenceBit,
      parameterAt type (8 * options.typeOffset), parameterAt subtype (8 * options.subtypeOffset)] }
  let container ← Build.add .structural fun db => db.addContainer root
  return ⟨container, apid, type, subtype⟩

/-- The entries of the echoed request, which the packets of service 1 carry. -/
def echoEntries (setting : Setting) (key : PacketKey) : TelemetryBuild (List Entry) := do
  if key.type = 1 then
    let (apid, count) ← echoedRequest
    let start := 8 * setting.config.telemetry.reportDataOffset
    return [parameterAt apid (start + PacketHeader.apidBit),
      parameterAt count (start + PacketHeader.sequenceBit)]
  else return []

/-- Adds a container for the packets of a kind; errors are of the packet that it is made for. -/
def addKindContainer (setting : Setting) (root : PacketRoot) (name : String)
    (packet : PacketRecord) (description : Option String) : TelemetryBuild ContainerRef := do
  let key := packet.key
  let entries ← echoEntries setting key
  let container : Container := {
    name := name
    description := description
    base := some root.container
    restriction := Criteria.ofList? (key.comparisons root)
    entries := entries
    aliases :=
      if setting.config.generatePusNamespace then [⟨serviceSpace, key.serviceName⟩] else [] }
  Build.add (.data packet.location) fun db => db.addContainer container

/-- The width of an identification field, where it is one. -/
def fieldWidth? (width : Int) : Option Nat :=
  if 0 < width ∧ width ≤ 4294967295 then some width.toNat else none

/-- Adds an identification field to the container of a group. A negative offset stands for no
field; a field without a width is an error of its rule, and is passed over. -/
def addIdentification (setting : Setting) (container : ContainerRef) (name : String)
    (field : IdentificationField) (location : Location) :
    TelemetryBuild (Option ParameterRef) := do
  if field.offset < 0 then return none
  match fieldWidth? field.width with
  | none =>
    Build.report setting (.data location
      s!"identification field at byte {field.offset} has width {field.width}")
    return none
  | some width =>
    let parameter ← addUnsigned name width
    let entry := parameterAt parameter (8 * field.offset)
    Build.changeDatabase fun db =>
      db.changeContainer container fun c => { c with entries := c.entries ++ [entry] }
    return some parameter

/-- The name of the container of a packet: its own name, or else the default, with its number
where a container has that name. -/
def packetName (state : TelemetryState) (db : Database) (packet : PacketRecord)
    (default : String) : String :=
  let name := ((state.packetNames.find? packet.spid).bind (·.1)).getD default
  if db.containers.has name then s!"{name}_spid_{packet.spid}" else name

/-- Keeps the container of a packet, which takes the size of the packet in bits. -/
def registerPacket (packet : PacketRecord) (container : ContainerRef) : TelemetryBuild Unit := do
  let state ← Build.stage
  match (state.packetNames.find? packet.spid).bind (·.2) with
  | some size =>
    if 0 ≤ size ∧ size ≤ 4294967295 then
      Build.changeDatabase fun db =>
        db.changeContainer container fun c => { c with size := some (8 * size.toNat) }
  | none => pure ()
  Build.changeStage fun s =>
    { s with packetContainers := s.packetContainers.set packet.spid container }

/-- Adds the container of a packet that is alone of its kind. -/
def addSinglePacket (setting : Setting) (root : PacketRoot) (packet : PacketRecord) :
    TelemetryBuild Unit := do
  let name := packetName (← Build.stage) (← Build.database) packet packet.key.groupName
  let container ← addKindContainer setting root name packet packet.description
  registerPacket packet container

/-- Adds the container of one of several packets of a kind. -/
def addMember (group : ContainerRef) (first second : Option ParameterRef)
    (packet : PacketRecord) : TelemetryBuild Unit := do
  let comparisons :=
    (first.map fun p => Comparison.rawEquals p (toString packet.first)).toList ++
      (second.map fun p => Comparison.rawEquals p (toString packet.second)).toList
  let default := s!"{packet.key.groupName}_spid_{packet.spid}"
  let container : Container := {
    name := packetName (← Build.stage) (← Build.database) packet default
    description := packet.description
    base := some group
    restriction := Criteria.ofList? comparisons }
  let ref ← Build.add (.data packet.location) fun db => db.addContainer container
  registerPacket packet ref

/-- Adds the containers of several packets of a kind, which a rule tells apart. -/
def addPacketGroup (setting : Setting) (root : PacketRoot) (key : PacketKey)
    (first : PacketRecord) (packets : List PacketRecord) : TelemetryBuild Unit := do
  let state ← Build.stage
  match ruleFor? state.identifications key with
  | none =>
    throw (.reference first.location (s!"no PIC record for type {key.type} subtype " ++
      s!"{key.subtype} apid {key.apid} shared by {packets.length} packets"))
  | some rule =>
    let name := key.groupName
    let group ← addKindContainer setting root name first none
    let one ← addIdentification setting group (name ++ "_pi1") rule.first rule.location
    let two ← addIdentification setting group (name ++ "_pi2") rule.second rule.location
    if one.isNone && two.isNone then
      throw (.data rule.location (s!"PIC for type {key.type} subtype {key.subtype} has no " ++
        s!"identification field to tell {packets.length} packets apart"))
    packets.forM (addMember group one two)

/-- Adds the containers of the packets of a kind. -/
def addPackets (setting : Setting) (root : PacketRoot) (key : PacketKey) :
    List PacketRecord → TelemetryBuild Unit
  | [] => pure ()
  | [packet] => addSinglePacket setting root packet
  | first :: rest => addPacketGroup setting root key first (first :: rest)

/-- Reads `PIC`, `PID` and `TPCF` and adds the containers of the packets. Without the container
that all packets extend there are none. -/
def loadPackets (setting : Setting) : TelemetryBuild Unit := do
  let _ ← Build.scan setting "pic" fun row => do
    let rule ← IdentificationRule.ofRow row
    Build.changeStage fun s => { s with identifications := s.identifications ++ [rule] }
  let _ ← Build.scan setting "pid" fun row => do declarePacket row (← PacketRecord.ofRow row)
  let _ ← Build.scan setting "tpcf" namePacket
  let root ← tryCatch (some <$> addPacketRoot setting.config.telemetry) fun e => do
    Build.report setting e
    return none
  match root with
  | none => pure ()
  | some root =>
    let state ← Build.stage
    (groupPackets state.packets).forM fun (key, packets) =>
      Build.recover setting (addPackets setting root key packets)

end Telemetry

end MissionBase
