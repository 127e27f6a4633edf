import MissionBase.Database.Catalog
import MissionBase.Database.Command
import MissionBase.Database.Types

/-!
# The mission database

One catalog per kind of element, and the aliases of parameters. An alias may be registered more
than once: the latest registration decides which parameter it names, and every parameter keeps
the aliases registered for it.
-/

namespace MissionBase

/-- How a parameter gets its value. -/
inductive DataSource where
  | telemetered
  | derived
  | constant
  deriving Repr, DecidableEq

/-- A parameter. -/
structure Parameter where
  name : String
  description : Option String := none
  type : ParameterTypeRef
  source : DataSource := .telemetered
  aliases : List Alias := []
  deriving Repr, DecidableEq

/-- What an algorithm does. -/
inductive AlgorithmKind where
  /-- Computes a derived parameter from a formula. -/
  | synthetic
  /-- Matches reports of a verification stage with commands. -/
  | acknowledgementCheck (stageCode : Nat)
  deriving Repr, DecidableEq

/-- A parameter that an algorithm reads. -/
structure AlgorithmInput where
  parameter : ParameterRef
  inputName : Option String
  mandatory : Bool
  deriving Repr, DecidableEq

/-- An algorithm. -/
structure Algorithm where
  name : String
  kind : AlgorithmKind
  source : Option String := none
  inputs : List AlgorithmInput := []
  /-- The parameters whose updates make it run. -/
  triggers : List ParameterRef := []
  outputs : List ParameterRef := []
  deriving Repr, DecidableEq

instance : Named ParameterType := ⟨ParameterType.name⟩
instance : Named Parameter := ⟨Parameter.name⟩
instance : Named Container := ⟨Container.name⟩
instance : Named ArgumentType := ⟨ArgumentType.name⟩
instance : Named Command := ⟨Command.name⟩
instance : Named Algorithm := ⟨Algorithm.name⟩

/-- The typed database of a mission. -/
structure Database where
  name : String
  version : Option String := none
  description : Option String := none
  parameterTypes : Catalog .parameterType ParameterType := {}
  parameters : Catalog .parameter Parameter := {}
  containers : Catalog .container Container := {}
  argumentTypes : Catalog .argumentType ArgumentType := {}
  commands : Catalog .command Command := {}
  algorithms : Catalog .algorithm Algorithm := {}
  /-- The registered aliases with their owners, the latest registration first. -/
  aliasOwners : List (Alias × ParameterRef) := []
  deriving Repr

namespace Database

/-! ## Parameter types -/

/-- The database with one more parameter type and its place. -/
def addParameterType (db : Database) (t : ParameterType) :
    Except DuplicateName (ParameterTypeRef × Database) :=
  (db.parameterTypes.add t).map fun (r, c) => (r, { db with parameterTypes := c })

/-- The database with a parameter type changed. -/
def changeParameterType (db : Database) (r : ParameterTypeRef)
    (change : ParameterType → ParameterType) : Database :=
  { db with parameterTypes := db.parameterTypes.modify r change }

/-- The first of the names `base_1`, `base_2` and so on that no parameter type has. -/
def uniqueTypeName (db : Database) (base : String) : String :=
  firstFree db.parameterTypes.has base (db.parameterTypes.items.size + 1) 1

/-! ## Parameters -/

/-- The owners of aliases after registering those of a parameter in their order. -/
def registerAliases (owners : List (Alias × ParameterRef)) (r : ParameterRef)
    (aliases : List Alias) : List (Alias × ParameterRef) :=
  aliases.foldl (fun owners a => (a, r) :: owners) owners

/-- The database with one more parameter, its aliases registered, and its place. -/
def addParameter (db : Database) (p : Parameter) : Except DuplicateName (ParameterRef × Database) :=
  (db.parameters.add p).map fun (r, c) =>
    (r, { db with parameters := c, aliasOwners := registerAliases db.aliasOwners r p.aliases })

/-- The database with a parameter changed. -/
def changeParameter (db : Database) (r : ParameterRef) (change : Parameter → Parameter) :
    Database :=
  { db with parameters := db.parameters.modify r change }

/-- The database with one more alias of a parameter. -/
def addAlias (db : Database) (r : ParameterRef) (a : Alias) : Database :=
  { db.changeParameter r (fun p => { p with aliases := p.aliases ++ [a] }) with
    aliasOwners := (a, r) :: db.aliasOwners }

/-- The parameter of the latest registration of an alias. -/
def ownerOf? (db : Database) (a : Alias) : Option ParameterRef :=
  (db.aliasOwners.find? fun o => o.1 == a).map (·.2)

/-- The type of a parameter. -/
def typeOf? (db : Database) (r : ParameterRef) : Option ParameterType :=
  (db.parameters.get? r).bind fun p => db.parameterTypes.get? p.type

/-! ## Containers -/

/-- The database with one more container and its place. -/
def addContainer (db : Database) (c : Container) : Except DuplicateName (ContainerRef × Database) :=
  (db.containers.add c).map fun (r, c) => (r, { db with containers := c })

/-- The database with a container changed. -/
def changeContainer (db : Database) (r : ContainerRef) (change : Container → Container) :
    Database :=
  { db with containers := db.containers.modify r change }

/-- The containers that extend a container, in the order of their arrival. -/
def childrenOf (db : Database) (parent : ContainerRef) : List ContainerRef :=
  db.containers.toList.zipIdx.filterMap fun (c, i) =>
    if c.base = some parent then some ⟨i⟩ else none

/-! ## Argument types -/

/-- The database with one more argument type and its place; a type whose name is taken gets the
first free of the names with a number after it. -/
def addArgumentType (db : Database) (t : ArgumentType) : ArgumentTypeRef × Database :=
  let name :=
    if db.argumentTypes.has t.name then
      firstFree db.argumentTypes.has t.name (db.argumentTypes.items.size + 1) 1
    else t.name
  (db.argumentTypes.next,
    { db with argumentTypes := db.argumentTypes.push { t with name := name } })

/-! ## Commands and algorithms -/

/-- The database with one more command and its place. -/
def addCommand (db : Database) (c : Command) : Except DuplicateName (CommandRef × Database) :=
  (db.commands.add c).map fun (r, c) => (r, { db with commands := c })

/-- The database with a command changed. -/
def changeCommand (db : Database) (r : CommandRef) (change : Command → Command) : Database :=
  { db with commands := db.commands.modify r change }

/-- The database with one more algorithm and its place. -/
def addAlgorithm (db : Database) (a : Algorithm) : Except DuplicateName (AlgorithmRef × Database) :=
  (db.algorithms.add a).map fun (r, c) => (r, { db with algorithms := c })

end Database

end MissionBase
