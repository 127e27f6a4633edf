import MissionBase.Database.Container

/-!
# Commands

A command lays out arguments and fixed bit patterns. It may extend a header template, whose
arguments it binds by assignments; arguments that it binds once and for all are declared in a
fixed set of its own. Verifiers tell how its execution is followed, constraints what has to hold
before it is sent.
-/

namespace MissionBase

/-- An argument of a command. -/
structure Argument where
  name : String
  description : Option String := none
  type : ArgumentTypeRef
  initialValue : Option String := none
  /-- The parameter whose current value is the default. -/
  dynamicDefault : Option ParameterRef := none
  deriving Repr, DecidableEq

/-- A value bound to an argument. -/
structure Assignment where
  argument : String
  value : String
  deriving Repr, DecidableEq

/-- What stands at an entry of a command. -/
inductive CommandItem where
  | argument (name : String)
  /-- A bit pattern, right aligned in its octets. -/
  | fixedValue (name : Option String) (value : List UInt8) (size : Nat)
  deriving Repr, DecidableEq

/-- An entry of a command. -/
structure CommandEntry where
  place : EntryPlace
  item : CommandItem
  deriving Repr, DecidableEq

/-- The arguments that a command binds once and for all: declared and assigned together. -/
structure FixedArguments where
  name : String
  arguments : List Argument := []
  assignments : List Assignment := []
  deriving Repr, DecidableEq

/-- A time window from the release of a command, in milliseconds. -/
structure CheckWindow where
  start : Int
  stop : Int
  deriving Repr, DecidableEq

/-- Where a command carries what its reports echo. -/
structure CommandEcho where
  /-- The argument with the application identifier. -/
  apidArgument : Option String
  sequenceOffset : Nat
  sequenceSize : Nat
  deriving Repr, DecidableEq

/-- What a verifier looks at. -/
inductive VerifierCheck where
  /-- A packet of the container is received. -/
  | container (container : ContainerRef)
  /-- An algorithm finds a report that matches the command. -/
  | algorithm (algorithm : AlgorithmRef) (echo : CommandEcho)
  /-- Parameters reach expected values. -/
  | parameters (criteria : Criteria)
  deriving Repr, DecidableEq

/-- One stage of the verification of a command. -/
structure Verifier where
  stage : String
  window : CheckWindow
  check : VerifierCheck
  deriving Repr, DecidableEq

/-- What has to hold before a command is sent. -/
structure Constraint where
  criteria : Criteria
  timeout : Nat
  deriving Repr, DecidableEq

/-- A command, or the header template of commands. -/
structure Command where
  name : String
  description : Option String := none
  longDescription : Option String := none
  isAbstract : Bool := false
  /-- The header template that it extends. -/
  base : Option CommandRef := none
  fixedArguments : Option FixedArguments := none
  arguments : List Argument := []
  assignments : List Assignment := []
  containerName : String
  entries : List CommandEntry := []
  critical : Bool := false
  constraints : List Constraint := []
  verifiers : List Verifier := []
  aliases : List Alias := []
  deriving Repr, DecidableEq

namespace Command

/-- An empty command; its container has its name. -/
def named (name : String) : Command := { name := name, containerName := name }

/-- The arguments declared by the command and then by its fixed set. -/
def allArguments (c : Command) : List Argument :=
  c.arguments ++ (c.fixedArguments.map (·.arguments)).getD []

/-- The assignments of the command and then of its fixed set. -/
def allAssignments (c : Command) : List Assignment :=
  c.assignments ++ (c.fixedArguments.map (·.assignments)).getD []

/-- The argument of a name. -/
def argument? (c : Command) (name : String) : Option Argument :=
  c.allArguments.find? fun a => a.name == name

/-- Whether an argument of a name is declared. -/
def hasArgument (c : Command) (name : String) : Bool := (c.argument? name).isSome

/-- The value bound to an argument. -/
def assignment? (c : Command) (argument : String) : Option String :=
  (c.allAssignments.find? fun a => a.argument == argument).map (·.value)

end Command

end MissionBase
