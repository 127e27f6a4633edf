import MissionBase.Database.Basic

/-!
# Formulas of synthetic parameters

The formula of a synthetic parameter is a text in a language of its own. Its compiler is given
from outside: from the name of the parameter, the text and the types of the parameters known so
far it tells what the formula reads, or why it is not accepted.
-/

namespace MissionBase

/-- A parameter that a formula reads. -/
structure FormulaInput where
  parameter : String
  /-- Whether its updates make the formula run. -/
  trigger : Bool
  deriving Repr, DecidableEq

/-- A compiler of formulas. -/
abbrev FormulaCompiler :=
  (parameter source : String) → (typeOf : String → Option ParameterType) →
    Except String (List FormulaInput)

/-- The type of a parameter by its name. -/
def Database.typeNamed? (db : Database) (name : String) : Option ParameterType :=
  (db.parameters.find? name).bind db.typeOf?

end MissionBase
