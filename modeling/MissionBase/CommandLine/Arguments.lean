import MissionBase.Config.Document

/-!
# Command line arguments

Options may stand anywhere before `--`; a long one takes its value after an equals sign or as the
next argument, a short one also right after its letter, and letters of options without value can be
joined. A value is settled only when the next argument shows that it is complete, so of two faults
the one met first while reading counts.
-/

namespace MissionBase.CommandLine

/-- The arguments of a call. -/
structure Arguments where
  path : String
  config : Option String := none
  output : Option String := none
  name : Option String := none
  epoch : Option String := none
  strict : Bool := false
  /-- How often more messages are asked for. -/
  verbose : Nat := 0
  quiet : Bool := false
  deriving Repr, DecidableEq

/-- Why arguments are not accepted, or that only a text is asked for. -/
inductive Refusal where
  | unknownArgument
  | invalidValue
  | tooManyValues
  | argumentConflict
  | missingRequiredArgument
  | displayHelp
  | displayVersion
  deriving Repr, DecidableEq

/-- What takes a value: an option, or the one argument without a name. -/
inductive Slot where
  | path
  | config
  | output
  | name
  | epoch
  deriving Repr, DecidableEq

/-- What takes no value. -/
inductive Switch where
  | strict
  | verbose
  | quiet
  | help
  | version
  deriving Repr, DecidableEq

/-- A named argument. -/
inductive NamedArgument where
  | slot (s : Slot)
  | switch (s : Switch)

/-- What has been read so far. -/
structure Progress where
  values : List (Slot × String) := []
  strict : Bool := false
  verbose : Nat := 0
  quiet : Bool := false
  /-- The option whose value may still come, or an argument not settled yet. -/
  pending : Option (Slot × Option String) := none
  deriving Repr

/-- A named argument by its long name. -/
def long? (name : String) : Option NamedArgument :=
  if name = "config" then some (.slot .config)
  else if name = "output" then some (.slot .output)
  else if name = "name" then some (.slot .name)
  else if name = "epoch" then some (.slot .epoch)
  else if name = "strict" then some (.switch .strict)
  else if name = "verbose" then some (.switch .verbose)
  else if name = "quiet" then some (.switch .quiet)
  else if name = "help" then some (.switch .help)
  else if name = "version" then some (.switch .version)
  else none

/-- A named argument by its letter. -/
def short? (letter : Char) : Option NamedArgument :=
  if letter = 'c' then some (.slot .config)
  else if letter = 'o' then some (.slot .output)
  else if letter = 'n' then some (.slot .name)
  else if letter = 'v' then some (.switch .verbose)
  else if letter = 'q' then some (.switch .quiet)
  else if letter = 'h' then some (.switch .help)
  else if letter = 'V' then some (.switch .version)
  else none

/-- Whether a value names a file or a directory, and so cannot be empty. -/
def Slot.isPath : Slot → Bool
  | path | config | output => true
  | _ => false

namespace Progress

/-- Gives a slot its value: once only, and no empty path. -/
def give (p : Progress) (slot : Slot) (value : String) : Except Refusal Progress :=
  if p.values.any fun v => v.1 == slot then .error .argumentConflict
  else if slot.isPath && value.isEmpty then .error .invalidValue
  else .ok { p with values := p.values ++ [(slot, value)] }

/-- Settles what is pending. -/
def settle (p : Progress) : Except Refusal Progress :=
  match p.pending with
  | none => .ok p
  | some (_, none) => .error .invalidValue
  | some (slot, some value) => { p with pending := none }.give slot value

/-- Turns a switch on. -/
def turn (p : Progress) (s : Switch) : Except Refusal Progress := do
  let p ← p.settle
  match s with
  | .strict => if p.strict then throw .argumentConflict else return { p with strict := true }
  | .quiet => if p.quiet then throw .argumentConflict else return { p with quiet := true }
  | .verbose => return { p with verbose := min 255 (p.verbose + 1) }
  | .help => throw .displayHelp
  | .version => throw .displayVersion

/-- Starts an option with the value attached to it, or waits for the next argument. -/
def start (p : Progress) (slot : Slot) (attached : Option String) : Except Refusal Progress := do
  let p ← p.settle
  match attached with
  | some value => p.give slot value
  | none => return { p with pending := some (slot, none) }

/-- Reads the letters after a single dash. -/
def readLetters (p : Progress) : List Char → Except Refusal Progress
  | [] => .ok p
  | c :: rest =>
    match short? c with
    | none => .error .unknownArgument
    | some (.switch s) => do (← p.turn s).readLetters rest
    | some (.slot slot) =>
      match rest with
      | [] => p.start slot none
      | '=' :: value => p.start slot (some (String.ofList value))
      | value => p.start slot (some (String.ofList value))

/-- Reads what follows two dashes. -/
def readLong (p : Progress) (cs : List Char) : Except Refusal Progress :=
  let name := cs.takeWhile (· ≠ '=')
  let value := match cs.dropWhile (· ≠ '=') with
    | [] => none
    | _ :: value => some (String.ofList value)
  match long? (String.ofList name), value with
  | none, _ => .error .unknownArgument
  | some (.slot slot), value => p.start slot value
  | some (.switch _), some _ => .error .tooManyValues
  | some (.switch s), none => p.turn s

/-- Takes an argument without a name; there is one place for it. -/
def readPlain (p : Progress) (value : String) : Except Refusal Progress := do
  let taken := p.values.any (fun v => v.1 == .path) ||
    (match p.pending with
      | some (.path, _) => true
      | _ => false)
  if taken then throw .unknownArgument
  let p ← p.settle
  return { p with pending := some (.path, some value) }

/-- Reads arguments; `literal` tells that `--` has been met. -/
def read (p : Progress) (literal : Bool) : List String → Except Refusal Progress
  | [] => p.settle
  | arg :: rest =>
    match literal, arg.toList with
    | true, _ => do (← p.readPlain arg).read true rest
    | false, ['-', '-'] => p.read true rest
    | false, '-' :: '-' :: cs => do (← p.readLong cs).read false rest
    | false, '-' :: c :: cs => do (← p.readLetters (c :: cs)).read false rest
    | false, _ =>
      match p.pending with
      | some (slot, none) => { p with pending := some (slot, some arg) }.read false rest
      | _ => do (← p.readPlain arg).read false rest

/-- The value of a slot. -/
def value? (p : Progress) (slot : Slot) : Option String :=
  (p.values.find? fun v => v.1 == slot).map (·.2)

end Progress

/-- Reads the arguments of a call. -/
def Arguments.parse (args : List String) : Except Refusal Arguments := do
  let p ← Progress.read {} false args
  if p.quiet && 0 < p.verbose then throw .argumentConflict
  match p.value? .path with
  | none => throw .missingRequiredArgument
  | some path => return {
      path := path
      config := p.value? .config
      output := p.value? .output
      name := p.value? .name
      epoch := p.value? .epoch
      strict := p.strict
      verbose := p.verbose
      quiet := p.quiet }

namespace Arguments

/-- How much is reported. -/
def logLevel (a : Arguments) : String :=
  if a.quiet then "error"
  else if a.verbose = 0 then "warn"
  else if a.verbose = 1 then "info"
  else if a.verbose = 2 then "debug"
  else "trace"

/-- Whether progress is shown. -/
def showProgress (a : Arguments) : Bool := !a.quiet

/-- The options of the configuration file, with those of the command line over them. -/
def toConfig (a : Arguments) (files : Files) : Except Error Config := do
  let config ← match a.config with
    | some path => Config.ofFile files path
    | none => pure {}
  return { config with
    path := a.path
    spaceSystemName := a.name.getD config.spaceSystemName
    epoch := a.epoch.getD config.epoch
    strict := a.strict || config.strict }

end Arguments

end MissionBase.CommandLine
