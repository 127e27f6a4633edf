/-!
# References between elements

The elements of a database live in one list per kind and point at each other by their places in
those lists. A reference carries the kind in its type, so a parameter is never looked up among
containers.
-/

namespace MissionBase

/-- The kinds of elements. -/
inductive Kind where
  | parameterType
  | parameter
  | container
  | argumentType
  | command
  | algorithm
  deriving Repr, DecidableEq

/-- The name of a kind in messages. -/
def Kind.text : Kind → String
  | parameterType => "parameter type"
  | parameter => "parameter"
  | container => "container"
  | argumentType => "argument type"
  | command => "command"
  | algorithm => "algorithm"

/-- A place in the list of elements of a kind. -/
structure Ref (kind : Kind) where
  index : Nat
  deriving Repr, DecidableEq

abbrev ParameterTypeRef := Ref .parameterType
abbrev ParameterRef := Ref .parameter
abbrev ContainerRef := Ref .container
abbrev ArgumentTypeRef := Ref .argumentType
abbrev CommandRef := Ref .command
abbrev AlgorithmRef := Ref .algorithm

end MissionBase
