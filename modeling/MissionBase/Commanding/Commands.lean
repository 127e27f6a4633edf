import MissionBase.Commanding.Elements
import MissionBase.Telemetry.Packets

/-!
# Commands

The commands of `CCF`. A command extends the header template that it names and binds its
discriminators; the application identifier and the acknowledgement flags stay editable where the
options say so. The connection test, service 17 subservice 1, is verified by its report.
-/

namespace MissionBase.Commanding

/-- The header name of commands without a header. -/
def noHeader : String := "NOHEADER"

/-- A header argument that a command binds. -/
structure Discriminator where
  /-- The argument in this role, where the header has one. -/
  argument : Option String
  /-- The column with the value. -/
  column : Nat
  required : Bool
  /-- Whether the argument stays editable, with the value as its initial value. -/
  editable : Bool
  deriving Repr, DecidableEq

/-- What a command binds of a header, in order. -/
def discriminators (options : CommandOptions) (header : HeaderTemplate) : List Discriminator :=
  [⟨header.apid, 8, true, options.allowApidOverride⟩, ⟨header.type, 6, true, false⟩,
    ⟨header.subtype, 7, true, false⟩, ⟨header.acknowledgement, 19, false, options.allowAckOverride⟩]

/-- The command with a header argument bound to a value, or redeclared with it as its initial
value. -/
def bindValue (db : Database) (row : Row) (header : CommandRef) (command : Command)
    (argument : String) (value : Int) (editable : Bool) : Except Error Command :=
  if editable then
    match (db.commands.get? header).bind fun c => c.argument? argument with
    | some a =>
      .ok { command with arguments :=
              command.arguments ++ [{ a with initialValue := some (toString value) }] }
    | none => .error (row.reference s!"unknown header argument '{argument}'")
  else
    .ok { command with assignments := command.assignments ++ [⟨argument, toString value⟩] }

/-- The command with a header argument bound to the value of its column. -/
def bindDiscriminator (db : Database) (row : Row) (header : CommandRef) (command : Command)
    (d : Discriminator) : Except Error Command := do
  match d.argument with
  | none => return command
  | some argument =>
    match ← row.int? d.column with
    | some value => bindValue db row header command argument value d.editable
    | none =>
      if d.required then
        throw (row.data
          s!"command '{command.name}' gives no value for header argument '{argument}'")
      return command

/-- The command with its header, whose discriminators it binds. -/
def withHeader (setting : Setting) (db : Database) (state : CommandingState) (row : Row)
    (command : Command) : Except Error Command := do
  let name ← row.text 5
  if name = noHeader then return command
  match state.headers.find? name with
  | none => throw (row.reference s!"CCF references unknown packet header '{name}'")
  | some header =>
    (discriminators setting.config.command header).foldlM
      (bindDiscriminator db row header.command)
      { command with base := some header.command }

/-- Whether criteria ask for a raw value of a parameter. -/
def asksFor (criteria : Criteria) (parameter : ParameterRef) (value : Int) : Bool :=
  criteria.toList.any fun c =>
    c.parameter == parameter && c.relation == .equality && c.value == toString value

/-- The first container of the packets of a service and a subservice. -/
def reportContainer? (db : Database) (service subservice : Int) : Option ContainerRef := do
  let type ← db.parameters.find? PacketHeader.typeName
  let subtype ← db.parameters.find? PacketHeader.subtypeName
  let index ← db.containers.toList.findIdx? fun c =>
    match c.restriction with
    | some criteria => asksFor criteria type service && asksFor criteria subtype subservice
    | none => false
  return ⟨index⟩

/-- The verifier of connection tests: their report within fifteen seconds. -/
def connectionVerifier? (db : Database) : Option Verifier :=
  (reportContainer? db 17 2).map fun container =>
    { stage := "PUS17_Report", window := ⟨0, 15000⟩, check := .container container }

/-- The command with what its service and its subservice bring. -/
def withService (setting : Setting) (db : Database) (row : Row) (command : Command) :
    Except Error Command := do
  let service ← row.int? 6
  let subservice ← row.int? 7
  match service, subservice with
  | some service, some subservice =>
    let name : Alias := ⟨serviceSpace, s!"TC({service},{subservice})"⟩
    let verifiers := if service = 17 ∧ subservice = 1 then (connectionVerifier? db).toList else []
    return { command with
      aliases := command.aliases ++ if setting.config.generatePusNamespace then [name] else []
      verifiers := command.verifiers ++ verifiers }
  | _, _ => return command

/-- Adds the command of a record. Commands of binary data are passed over. -/
def defineCommand (setting : Setting) (row : Row) : CommandingBuild Unit := do
  row.require [0, 1, 5]
  let name ← row.text 0
  if !isBinaryCommand name then
    let state ← Build.stage
    let db ← Build.database
    if db.commands.has name then throw (row.data s!"duplicate command '{name}'")
    let critical := row.flagD 4 'N'
    let command := { Command.named name with
      description := row.text? 1
      longDescription := row.text? 2
      critical := critical == 'Y' || critical == 'y' }
    let command ← withHeader setting db state row command
    let command ← placeElements setting command ((state.elements.find? name).getD [])
    let command ← withService setting (← Build.database) row command
    let _ ← Build.add row.data fun db => db.addCommand command

/-- Reads `CCF`. -/
def loadCommands (setting : Setting) : CommandingBuild Unit := do
  let _ ← Build.scan setting "ccf" (defineCommand setting)

end MissionBase.Commanding
