import MissionBase.Commanding.State
import MissionBase.Text.Octets

/-!
# Packet headers of commands

Every header template is an abstract command that commands extend. Its fields are constant bit
patterns, spare bits, and arguments; an argument plays the role of the application identifier, the
type, the subtype or the acknowledgement flags, and has the same width wherever it is placed.
-/

namespace MissionBase

/-- The roles of header arguments. -/
inductive HeaderRole where
  | apid
  | type
  | subtype
  | acknowledgement
  deriving Repr, DecidableEq

/-- The role that a flag stands for. -/
def HeaderRole.ofFlag? (flag : Char) : Option HeaderRole :=
  if flag = 'A' then some .apid
  else if flag = 'T' then some .type
  else if flag = 'S' then some .subtype
  else if flag = 'K' then some .acknowledgement
  else none

/-- The template with an argument in a role. -/
def HeaderTemplate.withRole (t : HeaderTemplate) (argument : String) :
    HeaderRole → HeaderTemplate
  | .apid => { t with apid := some argument }
  | .type => { t with type := some argument }
  | .subtype => { t with subtype := some argument }
  | .acknowledgement => { t with acknowledgement := some argument }

/-- The type of a header argument of some bits. -/
def HeaderArgument.type (a : HeaderArgument) (name : String) (size : Nat) : ArgumentType :=
  { name := name
    value := .integer a.signed (ValueType.naturalSize size)
    encoding := some (if a.signed then .signedInteger size else .unsignedInteger size) }

namespace Commanding

/-- A width in bits. -/
def sizeOf (row : Row) (col : Nat) : Except Error Nat := do
  let size ← row.int col
  if size < 0 ∨ 4294967295 < size then throw (row.data s!"invalid bit length {size}")
  return size.toNat

/-- Zeros for some bits. -/
def zeroOctets (size : Nat) : List UInt8 := List.replicate (Text.octetsFor size) 0

/-- The bit pattern that hexadecimal digits give. -/
def pattern (location : Location) (text : String) (size : Nat) : Except Error (List UInt8) :=
  match Text.octets? text size with
  | some octets => .ok octets
  | none => .error (.data location s!"invalid hexadecimal value '{text}'")

/-- Takes up a header template. -/
def declareHeader (row : Row) : CommandingBuild Unit := do
  row.require [0]
  let name ← row.text 0
  let state ← Build.stage
  if state.headers.has name then throw (row.data s!"duplicate packet header '{name}'")
  let command := { Command.named name with isAbstract := true }
  let ref ← Build.add row.data fun db => db.addCommand command
  Build.changeStage fun s => { s with headers := s.headers.set name { command := ref } }

/-- Takes up an argument of headers. -/
def declareHeaderArgument (row : Row) : CommandingBuild Unit := do
  row.require [0, 1]
  let name ← row.text 0
  let state ← Build.stage
  if state.headerArguments.has name then throw (row.data s!"duplicate header argument '{name}'")
  let code := row.flagD 2 'U'
  if code != 'U' && code != 'I' then throw (row.data s!"invalid PCPC_CODE '{code}'")
  let argument : HeaderArgument := { description := ← row.text 1, signed := code == 'I' }
  Build.changeStage fun s => { s with headerArguments := s.headerArguments.set name argument }

/-- The type of a header argument where it is placed with some bits; the first place makes it, and
every later one has to agree with its width. -/
def headerArgumentType (row : Row) (name : String) (argument : HeaderArgument) (size : Nat) :
    CommandingBuild ArgumentTypeRef := do
  match argument.layout with
  | some (type, bits) =>
    if bits = size then return type
    else throw (row.data s!"header argument '{name}' has {size} bits, {bits} elsewhere")
  | none =>
    let (type, db) := (← Build.database).addArgumentType (argument.type name size)
    Build.changeDatabase fun _ => db
    Build.changeStage fun s =>
      { s with headerArguments :=
          s.headerArguments.set name { argument with layout := some (type, size) } }
    return type

/-- The header argument of a record, declared in its header on first use. -/
def placeHeaderArgument (row : Row) (header : String) (command : CommandRef) (role : HeaderRole)
    (size : Nat) : CommandingBuild CommandItem := do
  let name ← row.text 5
  let state ← Build.stage
  match state.headerArguments.find? name with
  | none => throw (row.reference s!"PCDF references unknown PCPC '{name}'")
  | some argument =>
    let type ← headerArgumentType row name argument size
    let declared : Argument :=
      { name := name, description := some argument.description, type := type }
    Build.changeDatabase fun db => db.changeCommand command fun c =>
      if c.hasArgument name then c else { c with arguments := c.arguments ++ [declared] }
    Build.changeStage fun s =>
      { s with headers := s.headers.change header fun t =>
          (t.getD { command := command }).withRole name role }
    return .argument name

/-- What a header field holds. -/
def headerItem (row : Row) (header : String) (command : CommandRef) (size : Nat) :
    CommandingBuild CommandItem := do
  let flag := row.flagD 2 ' '
  if flag = 'F' then
    let octets ← pattern row.location (← row.text 6) size
    return .fixedValue (row.text? 1) octets size
  else if flag = 'P' then return .fixedValue (row.text? 5) (zeroOctets size) size
  else
    match HeaderRole.ofFlag? flag with
    | some role => placeHeaderArgument row header command role size
    | none => throw (row.data s!"invalid PCDF_TYPE '{flag}'")

/-- Places a field in its header. -/
def placeHeaderField (row : Row) : CommandingBuild Unit := do
  row.require [0, 2, 3, 4]
  let header ← row.text 0
  let state ← Build.stage
  match state.headers.find? header with
  | none => throw (row.reference s!"PCDF references unknown header '{header}'")
  | some template =>
    let size ← sizeOf row 3
    let bit ← row.int 4
    let item ← headerItem row header template.command size
    Build.changeDatabase fun db => db.changeCommand template.command fun c =>
      { c with entries := c.entries ++ [⟨.start bit, item⟩] }

/-- Reads `TCP`, `PCPC` and `PCDF`. -/
def loadHeaders (setting : Setting) : CommandingBuild Unit := do
  let _ ← Build.scan setting "tcp" declareHeader
  let _ ← Build.scan setting "pcpc" declareHeaderArgument
  let _ ← Build.scan setting "pcdf" placeHeaderField

end Commanding

end MissionBase
