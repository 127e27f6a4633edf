import MissionBase.Decimal.Binary64

/-!
# Piecewise linear curves

A curve goes through points given by their raw and calibrated values. `Curve.ofPoints` sorts the
points by raw value, points of equal raw value keeping their order; `Curve.value?` interpolates
between neighbours and, for a curve that extrapolates, follows the outermost segment beyond its
ends.

The numbers are left open: a curve runs over binary64 values, and the same definitions read over
the rationals say what it approximates.
-/

namespace MissionBase

/-- The comparisons that a curve makes between numbers. -/
class CurveOrder (α : Type) where
  lt : α → α → Bool
  le : α → α → Bool
  eq : α → α → Bool
  /-- The total order by which points are sorted. -/
  before : α → α → Bool

/-- Binary64 values compare as numbers and are sorted by their total order. -/
instance : CurveOrder Float where
  lt a b := decide (a < b)
  le a b := decide (a ≤ b)
  eq a b := a == b
  before a b := decide (Decimal.orderKey a ≤ Decimal.orderKey b)

/-- A point of a curve. -/
structure CurvePoint (α : Type) where
  raw : α
  calibrated : α
  deriving Repr

/-- A point with its coordinates exchanged. -/
def CurvePoint.swap {α : Type} (p : CurvePoint α) : CurvePoint α := ⟨p.calibrated, p.raw⟩

/-- Points in the order of their raw values. -/
structure Curve (α : Type) where
  points : List (CurvePoint α)
  extrapolate : Bool
  deriving Repr

namespace Curve

variable {α : Type} [Add α] [Sub α] [Mul α] [Div α] [CurveOrder α]

/-- The curve through points given in any order. -/
def ofPoints (points : List (CurvePoint α)) (extrapolate : Bool) : Curve α :=
  ⟨points.mergeSort fun a b => CurveOrder.before a.raw b.raw, extrapolate⟩

/-- The value at `x` of the line through two points; the first point's value where the line is
vertical. -/
def interpolate (a b : CurvePoint α) (x : α) : α :=
  if CurveOrder.eq b.raw a.raw then a.calibrated
  else a.calibrated + (x - a.raw) * (b.calibrated - a.calibrated) / (b.raw - a.raw)

/-- The value at `x` on the segment that ends at the first point not below it; `previous` is the
point before the list. -/
def valueAfter (x : α) (previous : CurvePoint α) : List (CurvePoint α) → Option α
  | [] => none
  | b :: rest =>
    if CurveOrder.le x b.raw then
      some (if CurveOrder.eq b.raw x then b.calibrated else interpolate previous b x)
    else valueAfter x b rest

/-- The last two points of a list that starts with two. -/
def lastSegment (a b : CurvePoint α) : List (CurvePoint α) → CurvePoint α × CurvePoint α
  | [] => (a, b)
  | c :: rest => lastSegment b c rest

/-- The value of the curve at a raw value, where it has one. -/
def value? (c : Curve α) (x : α) : Option α :=
  match c.points with
  | [] => none
  | [p] => if CurveOrder.eq x p.raw || c.extrapolate then some p.calibrated else none
  | first :: second :: rest =>
    let (a, b) := lastSegment first second rest
    if CurveOrder.lt x first.raw then
      if c.extrapolate then some (interpolate first second x) else none
    else if CurveOrder.lt b.raw x then
      if c.extrapolate then some (interpolate a b x) else none
    else if CurveOrder.le x first.raw then some first.calibrated
    else valueAfter x first (second :: rest)

end Curve

end MissionBase
