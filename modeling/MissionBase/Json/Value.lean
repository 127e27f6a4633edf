/-!
# Document values

The values of a JSON document. Integers and fractional numbers are kept apart, and the fields of
an object keep their order.
-/

namespace MissionBase

/-- A JSON value. -/
inductive Json where
  | null
  | bool (value : Bool)
  | integer (value : Int)
  | number (value : Float)
  | text (value : String)
  | list (items : List Json)
  | object (fields : List (String × Json))
  deriving Inhabited

namespace Json

/-- The field of a name, if the value is an object that has it. -/
def field? (name : String) : Json → Option Json
  | .object fields => (fields.find? fun f => f.1 == name).map (·.2)
  | _ => none

/-- The value, or null for an absent one. -/
def ofOption {α : Type} (f : α → Json) : Option α → Json
  | some x => f x
  | none => .null

/-- A natural number. -/
def ofNat (n : Nat) : Json := .integer n

/-- An object of one field, the form of an alternative that carries data. -/
def tagged (name : String) (value : Json) : Json := .object [(name, value)]

/-- A list of encoded items. -/
def ofList {α : Type} (f : α → Json) (xs : List α) : Json := .list (xs.map f)

end Json

end MissionBase
