import MissionBase.Database.Ref

/-!
# Conditions on parameters

A comparison holds a parameter against a value given as text. Criteria are one comparison or the
conjunction of several; no criteria stand for no condition.
-/

namespace MissionBase

/-- The relations of a comparison. -/
inductive Relation where
  | equality
  | inequality
  | largerThan
  | largerOrEqual
  | smallerThan
  | smallerOrEqual
  deriving Repr, DecidableEq

/-- A condition on the current value of a parameter. -/
structure Comparison where
  parameter : ParameterRef
  relation : Relation
  value : String
  /-- Whether the engineering value is compared, and not the raw one. -/
  calibrated : Bool
  deriving Repr, DecidableEq

/-- The condition that the raw value of a parameter equals a value. -/
def Comparison.rawEquals (parameter : ParameterRef) (value : String) : Comparison :=
  ⟨parameter, .equality, value, false⟩

/-- One comparison, or the conjunction of several. -/
inductive Criteria where
  | one (comparison : Comparison)
  | all (comparisons : List Comparison)
  deriving Repr, DecidableEq

/-- The criteria that ask for every comparison of a list. -/
def Criteria.ofList? : List Comparison → Option Criteria
  | [] => none
  | [c] => some (.one c)
  | cs => some (.all cs)

/-- The comparisons that have to hold. -/
def Criteria.toList : Criteria → List Comparison
  | one c => [c]
  | all cs => cs

theorem Criteria.toList_ofList? {cs : List Comparison} {criteria : Criteria}
    (h : Criteria.ofList? cs = some criteria) : criteria.toList = cs := by
  match cs, h with
  | [_], h => cases h; rfl
  | _ :: _ :: _, h => cases h; rfl

end MissionBase
