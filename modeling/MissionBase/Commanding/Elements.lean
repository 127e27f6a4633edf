import MissionBase.Commanding.ArgumentTypes
import MissionBase.Commanding.Headers

/-!
# Elements of commands

The elements of `CDF`, placed one after the other by bit: constant areas, arguments, and groups of
arguments that are repeated as often as a counter before them says. A group of one argument is an
array of its type, a larger one an array of a record of them. Groups inside groups have no form;
the counter of the outer one is then bound to one, and its members are placed one by one.
-/

namespace MissionBase.Commanding

/-- What the names of commands begin with that consist of binary data. -/
def binaryCommandStart : String := "BINCMD"

/-- Whether a command consists of binary data and is passed over. -/
def isBinaryCommand (name : String) : Bool := name.startsWith binaryCommandStart

/-- Takes up an element of a command. -/
def declareElement (setting : Setting) (row : Row) : CommandingBuild Unit := do
  let command ← row.text 0
  if !isBinaryCommand command then
    let element ← CommandElement.ofRow row setting.config.command.sizeTagBytes
    let state ← Build.stage
    match element.parameter with
    | some name =>
      if element.isArgument && !state.parameters.has name then
        throw (row.reference s!"CDF references unknown command parameter '{name}'")
    | none => pure ()
    Build.changeStage fun s => { s with elements := s.elements.append command element }

/-- Reads `CDF`. -/
def loadElements (setting : Setting) : CommandingBuild Unit := do
  let _ ← Build.scan setting "cdf" (declareElement setting)
  Build.changeStage fun s => { s with elements := s.elements.sortLists (·.bit) }

/-! ## Arguments -/

/-- A name that no argument of a command has: the base, or the first of the names with a number
after it. -/
def freeName (command : Command) (base : String) : String :=
  if command.hasArgument base then
    firstFree command.hasArgument base (command.allArguments.length + 1) 1
  else base

/-- The telemetry parameter whose value is the default of an element. -/
def dynamicDefault (db : Database) (element : CommandElement) : Except Error ParameterRef :=
  match element.telemetryParameter with
  | none => .error (element.dataError "telemetry default without CDF_TMID")
  | some name =>
    match db.parameters.find? name with
    | some parameter => .ok parameter
    | none =>
      .error (.reference element.location s!"CDF_TMID references unknown parameter '{name}'")

/-- The command parameter of an element. -/
def parameterOf (state : CommandingState) (element : CommandElement) :
    Except Error CommandParameter :=
  let name := element.parameter.getD ""
  match state.parameters.find? name with
  | some p => .ok p
  | none => .error (.reference element.location s!"unknown command parameter '{name}'")

/-- The argument with the default value that an editable element has. -/
def withDefault (db : Database) (element : CommandElement) (p : CommandParameter)
    (argument : Argument) : Except Error Argument :=
  if element.kind = .editable then
    match element.origin with
    | .parameterDefault => .ok { argument with initialValue := p.defaultValue }
    | .telemetry => (dynamicDefault db element).map fun t =>
        { argument with dynamicDefault := some t }
    | .raw | .engineering => .ok { argument with initialValue := element.value }
  else .ok argument

/-- The argument of an element, with the name of its command parameter. -/
def argumentOf (setting : Setting) (element : CommandElement) : CommandingBuild Argument := do
  let p ← parameterOf (← Build.stage) element
  let type ← argumentTypeFor setting p element.sizeTagBytes
  withDefault (← Build.database) element p
    { name := p.name, description := p.description <|> element.description, type := type }

/-- The value that a fixed argument is bound to. -/
def fixedValue (state : CommandingState) (element : CommandElement) : Except Error String :=
  let value? := match element.origin with
    | .parameterDefault =>
      (element.parameter.bind fun name => state.parameters.find? name).bind (·.defaultValue)
    | _ => element.value
  if element.origin = .telemetry then
    .error (element.dataError "fixed argument cannot take its value from telemetry")
  else
    match value? with
    | some value => .ok value
    | none => .error (element.dataError "fixed argument without value")

/-- The name of the fixed set of a command. -/
def fixedSetName (command : String) : String := command ++ "_abstract"

/-- The command with one more item after its last entry. -/
def withItem (command : Command) (item : CommandItem) : Command :=
  { command with entries := command.entries ++ [⟨.previous 0, item⟩] }

/-- The command with one more argument, after its last entry. -/
def withArgument (command : Command) (argument : Argument) : Command :=
  withItem { command with arguments := command.arguments ++ [argument] } (.argument argument.name)

/-- The command with one more argument bound to a value, after its last entry. -/
def withFixed (command : Command) (argument : Argument) (value : String) : Command :=
  let set := command.fixedArguments.getD { name := fixedSetName command.name }
  let set := { set with
    arguments := set.arguments ++ [argument]
    assignments := set.assignments ++ [⟨argument.name, value⟩] }
  withItem { command with fixedArguments := some set } (.argument argument.name)

/-- Places the argument of an element; the command with it, and its name there. -/
def placeArgument (setting : Setting) (command : Command) (element : CommandElement) :
    CommandingBuild (Command × String) := do
  let argument ← argumentOf setting element
  let argument := { argument with name := freeName command argument.name }
  if element.kind = .fixed then
    let value ← fixedValue (← Build.stage) element
    return (withFixed command argument value, argument.name)
  else return (withArgument command argument, argument.name)

/-! ## Groups -/

/-- Assignments with the first one of an argument changed to a value, if there is one. -/
def rebound? (argument value : String) : List Assignment → Option (List Assignment)
  | [] => none
  | a :: rest =>
    if a.argument = argument then some (⟨argument, value⟩ :: rest)
    else (rebound? argument value rest).map (a :: ·)

/-- The command with a counter bound to one, in place of the value that it may be bound to. -/
def fixCount (command : Command) (counter : String) : Command :=
  match command.fixedArguments.bind fun set =>
      (rebound? counter "1" set.assignments).map fun as => { set with assignments := as } with
  | some set => { command with fixedArguments := some set }
  | none =>
    match rebound? counter "1" command.assignments with
    | some assignments => { command with assignments := assignments }
    | none => { command with assignments := command.assignments ++ [⟨counter, "1"⟩] }

/-- Fails with the first element that cannot be repeated. -/
def checkMembers (counter : String) (members : List CommandElement) : Except Error Unit :=
  match members.find? fun m => !m.isArgument with
  | some area => .error (area.dataError s!"fixed area inside group '{counter}'")
  | none =>
    match members.find? fun m => decide (m.kind = .fixed) with
    | some fixed => .error (fixed.dataError s!"fixed argument inside group '{counter}'")
    | none => .ok ()

/-- The name and the type of what a group repeats: its only member, or a record of its members. -/
def groupElement (counter : String) : List RecordMember →
    CommandingBuild (String × ArgumentTypeRef)
  | [member] => return (member.name, member.type)
  | members => do
    let type ← addArgumentType
      { name := s!"{counter}_group_record", value := .record members }
    return (s!"{counter}_group", type)

/-- Places an array of elements that a counter counts. -/
def placeGroup (setting : Setting) (command : Command) (counter : String)
    (members : List CommandElement) : CommandingBuild Command := do
  checkMembers counter members
  let fields ← members.mapM fun m => do
    let argument ← argumentOf setting m
    return (⟨argument.name, argument.type⟩ : RecordMember)
  let (name, element) ← groupElement counter fields
  let array ← addArgumentType { name := s!"{name}_array", value := .array element counter }
  return withArgument command { name := freeName command name, type := array }

/-- The bit pattern of a constant area; zeros where it gives none. -/
def areaOctets (element : CommandElement) : Except Error (List UInt8) :=
  match element.value with
  | some text => pattern element.location text element.size
  | none => .ok (zeroOctets element.size)

/-- Places the elements of a command one after the other. -/
def placeElements (setting : Setting) (command : Command) :
    List CommandElement → CommandingBuild Command
  | [] => pure command
  | element :: rest => do
    if !element.isArgument then
      let octets ← areaOctets element
      let area := CommandItem.fixedValue element.description octets element.size
      placeElements setting (withItem command area) rest
    else
      let (command, counter) ← placeArgument setting command element
      let size := element.groupSize
      if size = 0 then placeElements setting command rest
      else if rest.length < size then
        throw (element.dataError
          s!"group '{counter}' of {size} elements overruns command '{command.name}'")
      else if (rest.take size).any fun m => 0 < m.groupSize then
        Build.limitation (s!"{element.location.text}: nested groups are not supported, group " ++
          s!"'{counter}' of command '{command.name}' is fixed to one occurrence")
        placeElements setting (fixCount command counter) rest
      else
        let command ← placeGroup setting command counter (rest.take size)
        placeElements setting command (rest.drop size)
  termination_by elements => elements.length
  decreasing_by all_goals simp only [List.length_cons, List.length_drop]; omega

end MissionBase.Commanding
