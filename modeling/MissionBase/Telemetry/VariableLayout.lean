import MissionBase.Telemetry.FixedLayout

/-!
# Variable packet layouts

A variable packet structure is a list of elements. An element with a group size is a counter: so
many of the elements after it are repeated, as often as its value says or a fixed number of times.
A group of one element is a repeated entry; a larger one, or one that holds a counter, is a nested
container that is repeated. The first element of a structure stands at the end of the data field
header of its packet, every other one some bits after the element before it.

A structure is planned as a whole before anything of it enters the database.
-/

namespace MissionBase

/-- An entry of a planned container. -/
inductive PlannedEntry where
  | single (entry : Entry)
  /-- A container of its own, repeated. -/
  | nested (name : String) (entries : List PlannedEntry) (repetition : Repeat)

namespace Telemetry

/-- What planning needs to know: what a name stands for, and which container names are taken. -/
structure Surroundings where
  item : String → Location → Except Error EntryItem
  taken : String → Bool

/-- A computation that plans entries and counts the containers named so far. -/
abbrev Plan := EStateM Error Nat

instance : MonadLift (Except Error) Plan where
  monadLift
    | .ok x => pure x
    | .error e => throw e

/-- How often the elements that a counter counts occur. -/
def repeatCount (s : Surroundings) (counter : VariableElement) : Except Error RepeatCount :=
  if 0 < counter.fixedRepetitions then
    match countOf? 1 counter.fixedRepetitions with
    | some count => .ok (.fixed count)
    | none => .error (.data counter.location s!"invalid VPD_FIXREP {counter.fixedRepetitions}")
  else
    match s.item counter.name counter.location with
    | .error e => .error e
    | .ok (.parameter parameter) => .ok (.dynamic parameter)
    | .ok _ =>
      .error (.data counter.location
        s!"group counter '{counter.name}' must be a concrete parameter")

/-- A name for the container of a group inside another container. -/
def groupName (s : Surroundings) (parent : String) (location : Location) : Plan String := do
  modify (· + 1)
  let name := numbered parent (← get)
  if s.taken name then
    throw (.structural s!"{location.text}: container '{name}' already exists")
  return name

/-- The entry of an element. -/
def plannedEntry (s : Surroundings) (place : EntryPlace) (repetition : Option Repeat)
    (element : VariableElement) : Plan PlannedEntry := do
  let item ← s.item element.name element.location
  return .single { place := place, repetition := repetition, item := item }

/-- Where an element stands: at its offset from a bit of the container, or from the end of the
element before. -/
def placeOf (start : Option Int) (element : VariableElement) : EntryPlace :=
  match start with
  | some bit => .start (bit + element.offset)
  | none => .previous element.offset

/-- The element of a group that is one element and no counter. -/
def plainElement? : List VariableElement → Option VariableElement
  | [element] => if element.groupSize = 0 then some element else none
  | _ => none

/-- The entries of elements inside a container. The first one stands at its offset from `start`,
or from the entry before where there is no `start`. -/
def planEntries (s : Surroundings) (parent : String) (start : Option Int) :
    List VariableElement → Plan (List PlannedEntry)
  | [] => pure []
  | counter :: rest => do
    let entry ← plannedEntry s (placeOf start counter) none counter
    let size := counter.groupSize
    if size = 0 then
      return entry :: (← planEntries s parent none rest)
    if rest.length < size then
      throw (.structural (s!"{counter.location.text}: group of {size} elements counted by " ++
        s!"'{counter.name}' exceeds the {rest.length} remaining elements"))
    let repetition : Repeat := ⟨← repeatCount s counter, 0⟩
    let group ←
      match plainElement? (rest.take size) with
      | some element => plannedEntry s (.previous element.offset) (some repetition) element
      | none => do
        let name ← groupName s parent counter.location
        pure (.nested name (← planEntries s name (some 0) (rest.take size)) repetition)
    return entry :: group :: (← planEntries s parent none (rest.drop size))
  termination_by elements => elements.length
  decreasing_by all_goals simp only [List.length_cons, List.length_take, List.length_drop]; omega

mutual

/-- Adds the containers of a planned entry to the database, inner ones before outer ones. -/
def commitEntry : PlannedEntry → TelemetryBuild Entry
  | .single entry => pure entry
  | .nested name entries repetition => do
    let entries ← commitEntries entries
    let container ← Build.add .structural fun db =>
      db.addContainer { name := name, entries := entries }
    return { place := .previous 0, repetition := some repetition, item := .container container }

/-- Adds the containers of planned entries to the database. -/
def commitEntries : List PlannedEntry → TelemetryBuild (List Entry)
  | [] => pure []
  | entry :: rest => do
    let entry ← commitEntry entry
    return entry :: (← commitEntries rest)

end

/-- A plan made with the numbers that follow those given out so far. -/
def planned {α : Type} (plan : Plan α) : TelemetryBuild α := do
  let state ← Build.stage
  match plan state.groupCount with
  | .ok x count =>
    Build.changeStage fun s => { s with groupCount := count }
    return x
  | .error e count =>
    Build.changeStage fun s => { s with groupCount := count }
    throw e

/-- Adds the elements of a structure to a container, the first one after `start` bits. -/
def expandStructure (container : ContainerRef) (start : Int) (elements : List VariableElement) :
    TelemetryBuild Unit := do
  let state ← Build.stage
  let db ← Build.database
  let parent := ((db.containers.get? container).map (·.name)).getD ""
  let surroundings : Surroundings := ⟨entryItem state db, db.containers.has⟩
  let entries ← commitEntries (← planned (planEntries surroundings parent (some start) elements))
  Build.changeDatabase fun db =>
    db.changeContainer container fun c => { c with entries := c.entries ++ entries }

/-- Takes up an element. The first element of a structure that no packet uses is an error, and all
others of it are passed over. -/
def declareElement (row : Row) (element : VariableElement) : TelemetryBuild Unit := do
  let state ← Build.stage
  if state.packets.any fun p => p.structureId == some element.structureId then
    let _ ← entryItem state (← Build.database) element.name element.location
    Build.changeStage fun s =>
      { s with structures := s.structures.append element.structureId element }
  else if !state.unusedStructures.contains element.structureId then
    Build.changeStage fun s =>
      { s with unusedStructures := element.structureId :: s.unusedStructures }
    throw (row.reference s!"VPD structure {element.structureId} is not used by any packet")

/-- Adds a structure to the container of a packet that uses it. -/
def expandPacket (setting : Setting) (elements : List VariableElement) (packet : PacketRecord) :
    TelemetryBuild Unit := do
  let state ← Build.stage
  match state.packetContainers.find? packet.spid with
  | none => pure ()
  | some container =>
    Build.recover setting (expandStructure container (8 * packet.headerBytes) elements)

/-- Reads `VPD` and adds every structure to the packets that use it. -/
def loadVariableLayout (setting : Setting) : TelemetryBuild Unit := do
  let _ ← Build.scan setting "vpd" fun row => do
    declareElement row (← VariableElement.ofRow row)
  let state ← Build.stage
  let structures := state.structures.sortLists (·.position)
  structures.entries.forM fun (id, elements) =>
    (state.packets.filter fun p => p.structureId == some id).forM (expandPacket setting elements)

end Telemetry

end MissionBase
