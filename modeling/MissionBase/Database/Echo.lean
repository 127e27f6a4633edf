import MissionBase.Database.Basic

/-!
# What reports echo of a command

A verification report repeats the application identifier and the sequence count of its command.
The identifier is an argument of eleven bits at bit 5, looked for in the command and then in the
header templates that it extends.
-/

namespace MissionBase

namespace PacketHeader

/-- The first bit of the application identifier. -/
def apidBit : Nat := 5

/-- The bits of the application identifier. -/
def apidSize : Nat := 11

/-- The first bit of the sequence count. -/
def sequenceBit : Nat := 18

/-- The bits of the sequence count. -/
def sequenceSize : Nat := 14

end PacketHeader

namespace Database

/-- Whether an argument of a command has an encoding of some bits. -/
def argumentHasSize (db : Database) (c : Command) (name : String) (size : Nat) : Bool :=
  match (c.argument? name).bind fun a => db.argumentTypes.get? a.type with
  | some t => (t.encoding.bind Encoding.sizeInBits?) == some size
  | none => false

/-- The argument that an entry places where the application identifier belongs. -/
def apidOfEntry? (db : Database) (c : Command) (e : CommandEntry) : Option String :=
  match e.place, e.item with
  | .start bit, .argument name =>
    if bit = PacketHeader.apidBit ∧ db.argumentHasSize c name PacketHeader.apidSize then some name
    else none
  | _, _ => none

/-- The argument with the application identifier, in a command or in the commands it extends. A
command extends an earlier one, so its place bounds the number of steps. -/
def apidArgument? (db : Database) : Nat → CommandRef → Option String
  | 0, _ => none
  | fuel + 1, r =>
    match db.commands.get? r with
    | none => none
    | some c =>
      match c.entries.findSome? (db.apidOfEntry? c) with
      | some name => some name
      | none =>
        match c.base with
        | some base => db.apidArgument? fuel base
        | none => none

/-- What the reports of a command echo. -/
def commandEcho (db : Database) (r : CommandRef) : CommandEcho :=
  ⟨db.apidArgument? (r.index + 1) r, PacketHeader.sequenceBit, PacketHeader.sequenceSize⟩

end Database

end MissionBase
