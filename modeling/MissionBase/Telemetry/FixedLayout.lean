import MissionBase.Telemetry.Parameters

/-!
# Fixed packet layouts

The parameters that `PLF` places at fixed bits of packets.
-/

namespace MissionBase.Telemetry

/-- What an entry with a name holds: a parameter, or for a deduced one the parameter whose
identifier on board is the value of the related parameter. -/
def entryItem (state : TelemetryState) (db : Database) (name : String) (location : Location) :
    Except Error EntryItem :=
  match state.deduced.find? name with
  | some deduced =>
    let related := deduced.related.getD ""
    match db.parameters.find? related with
    | some selector => .ok (.indirect selector onBoardSpace)
    | none =>
      .error (.reference location s!"deduced parameter '{name}' relates to unknown '{related}'")
  | none =>
    match db.parameters.find? name with
    | some parameter => .ok (.parameter parameter)
    | none => .error (.reference location s!"unknown parameter '{name}'")

/-- A count of occurrences or of bits. -/
def countOf? (least : Int) (n : Int) : Option Nat :=
  if least ≤ n ∧ n ≤ 4294967295 then some n.toNat else none

/-- The repetition of an entry; one occurrence is no repetition. -/
def repetitionOf (row : Row) (occurrences gap : Int) : Except Error (Option Repeat) :=
  match countOf? 1 occurrences with
  | none => .error (row.data s!"invalid PLF_NBOCC {occurrences}")
  | some count =>
    match countOf? 0 gap with
    | none => .error (row.data s!"invalid PLF_LGOCC {gap}")
    | some gap => .ok (if 1 < count then some ⟨.fixed count, gap⟩ else none)

/-- The entry of a record for a parameter. -/
def fixedEntry (state : TelemetryState) (db : Database) (row : Row) (name : String) :
    Except Error Entry := do
  let byte ← row.int 2
  let bit ← row.int 3
  let occurrences ← row.intD 4 1
  let gap ← row.intD 5 0
  let repetition ← repetitionOf row occurrences gap
  let item ← entryItem state db name row.location
  return { place := .start (8 * byte + bit), repetition := repetition, item := item }

/-- Places the parameter of a record. Records of unknown packets and of saved synthetic parameters
are passed over. -/
def placeFixed (row : Row) : TelemetryBuild Unit := do
  row.require [0, 1, 2, 3]
  let name ← row.text 0
  let spid ← row.int 1
  let state ← Build.stage
  match state.packetContainers.find? spid with
  | none => pure ()
  | some container =>
    if !state.savedSynthetic.contains name then
      let entry ← fixedEntry state (← Build.database) row name
      Build.changeDatabase fun db =>
        db.changeContainer container fun c => { c with entries := c.entries ++ [entry] }

/-- Reads `PLF`. -/
def loadFixedLayout (setting : Setting) : TelemetryBuild Unit := do
  let _ ← Build.scan setting "plf" placeFixed

end MissionBase.Telemetry
