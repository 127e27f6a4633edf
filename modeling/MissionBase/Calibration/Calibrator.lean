import MissionBase.Calibration.Curve
import MissionBase.Database.Criteria
import MissionBase.Text.Blank
import MissionBase.Text.Numeral

/-!
# Calibrators

The conversions of raw values: numeric calibrators give a number, labels give a text, and among
context calibrators the first one whose condition holds is applied.
-/

namespace MissionBase

/-- A conversion of raw into engineering numbers. -/
inductive Calibrator where
  | spline (curve : Curve Float)
  /-- The coefficients from the constant one up. -/
  | polynomial (coefficients : List Float)
  /-- The reciprocal of a polynomial in the natural logarithm. -/
  | logarithmic (coefficients : List Float)
  deriving Repr

namespace Calibrator

/-- The calibrator of a curve through points given in any order. -/
def ofPoints (points : List (CurvePoint Float)) (extrapolate : Bool) : Calibrator :=
  .spline (Curve.ofPoints points extrapolate)

/-- The value of a polynomial, from the highest coefficient down. -/
def horner (coefficients : List Float) (x : Float) : Float :=
  coefficients.foldr (fun c acc => acc * x + c) 0.0

/-- The engineering value of a raw value, where it is defined. -/
def value? (c : Calibrator) (raw : Float) : Option Float :=
  match c with
  | spline curve => curve.value? raw
  | polynomial coefficients => some (horner coefficients raw)
  | logarithmic coefficients =>
    if raw ≤ 0.0 then none
    else
      let value := 1.0 / horner coefficients raw.log
      if Decimal.isFinite value then some value else none

end Calibrator

/-- The label of one value. -/
structure ValueLabel where
  value : Int
  label : String
  deriving Repr, DecidableEq

/-- The label of the values between two bounds, both included. -/
structure RangeLabel where
  min : Float
  max : Float
  label : String
  deriving Repr

/-- The labels of raw values. -/
structure Labels where
  values : List ValueLabel := []
  ranges : List RangeLabel := []
  deriving Repr

namespace Labels

/-- No labels at all. -/
def isEmpty (l : Labels) : Bool := l.values.isEmpty && l.ranges.isEmpty

/-- The label of a raw value: single values come before ranges, and earlier ones first. -/
def label? (l : Labels) (raw : Float) : Option String :=
  match l.values.find? fun v => Decimal.ofInt v.value == raw with
  | some v => some v.label
  | none =>
    (l.ranges.find? fun r => decide (r.min ≤ raw) && decide (raw ≤ r.max)).map (·.label)

end Labels

/-- A calibrator that applies while its condition holds. -/
structure ContextCalibrator where
  context : Comparison
  calibrator : Calibrator
  deriving Repr

/-- The integer that a comparison's value writes. -/
def Comparison.integer? (c : Comparison) : Option Int :=
  Text.int64? (Text.trimChars c.value.toList)

/-- The first calibrator whose parameter has the raw value that its condition names. -/
def selectCalibrator? (calibrators : List ContextCalibrator) (raw : ParameterRef → Option Int) :
    Option Calibrator :=
  (calibrators.find? fun c =>
    match c.context.integer? with
    | some expected => raw c.context.parameter == some expected
    | none => false).map (·.calibrator)

/-- Every kind of calibration that a parameter can refer to. -/
inductive Calibration where
  | numeric (calibrator : Calibrator)
  | textual (labels : Labels)
  | contexts (calibrators : List ContextCalibrator)
  deriving Repr

/-- The calibrator of a numeric calibration. -/
def Calibration.numeric? : Calibration → Option Calibrator
  | numeric c => some c
  | _ => none

end MissionBase
