import MissionBase.Calibration.Calibrator
import MissionBase.Database.Types
import MissionBase.Error
import MissionBase.Index

/-!
# Calibrations by name

What the calibration tables define, found by name. A later definition of a name takes the place of
an earlier one, whose points are lost with it.
-/

namespace MissionBase

/-- A curve of a calibration or of a decalibration table, its points in table order. -/
structure CurveDefinition where
  name : String
  description : Option String
  /-- The format of engineering values: `R`, `I` or `U`. -/
  engineeringFormat : Char
  /-- The format of raw values: `R`, `I` or `U`. -/
  rawFormat : Char
  radix : Char
  unit : Option String
  extrapolate : Bool
  points : List (CurvePoint Float) := []
  deriving Repr

namespace CurveDefinition

/-- The conversion of raw into engineering values. -/
def calibrator (d : CurveDefinition) : Calibrator := .ofPoints d.points d.extrapolate

/-- The conversion of engineering into raw values: the curve through the swapped points. -/
def decalibrator (d : CurveDefinition) : Calibrator :=
  .ofPoints (d.points.map CurvePoint.swap) d.extrapolate

/-- The engineering type of the values of a curve with a format. -/
def valueType (format : Option Char) : ValueType :=
  if format = some 'I' then .integer true 64
  else if format = some 'U' then .integer false 64
  else .float 64

end CurveDefinition

/-- The labels of a textual calibration or of a set of argument aliases. -/
structure LabelDefinition where
  name : String
  description : Option String
  rawFormat : Char
  labels : Labels := {}
  deriving Repr

/-- The use of a calibration while a parameter has a value. -/
structure ContextRule where
  location : Location
  position : Int
  /-- The parameter that decides. -/
  reference : String
  value : Int
  /-- The calibration to use. -/
  select : String
  deriving Repr, DecidableEq

/-- The ranges of accepted argument values. -/
structure RangeSet where
  name : String
  description : Option String
  /-- Whether the values are engineering (`E`) or raw values. -/
  interpretation : Char
  displayFormat : Char
  radix : Char
  ranges : List ValueRange := []
  deriving Repr

namespace RangeSet

/-- Whether the ranges are of engineering values. -/
def isCalibrated (s : RangeSet) : Bool := s.interpretation == 'E'

/-- Whether the values are numbers, so that ranges make sense. -/
def isNumeric (s : RangeSet) : Bool :=
  s.displayFormat == 'I' || s.displayFormat == 'U' || s.displayFormat == 'R'

end RangeSet

/-- The calibrations of a compilation. -/
structure Registry where
  curves : Index String CurveDefinition := {}
  polynomials : Index String (List Float) := {}
  /-- Five coefficients each. -/
  logarithms : Index String (List Float) := {}
  texts : Index String LabelDefinition := {}
  /-- The rules of a parameter, by position. -/
  contexts : Index String (List ContextRule) := {}
  decalibrations : Index String CurveDefinition := {}
  aliases : Index String LabelDefinition := {}
  rangeSets : Index String RangeSet := {}
  deriving Repr

namespace Registry

/-- The calibration of a name: a polynomial, else a curve, else a logarithm, else labels. -/
def resolve? (r : Registry) (name : String) : Option Calibration :=
  match r.polynomials.find? name with
  | some coefficients => some (.numeric (.polynomial coefficients))
  | none =>
    match r.curves.find? name with
    | some curve => some (.numeric curve.calibrator)
    | none =>
      match r.logarithms.find? name with
      | some coefficients => some (.numeric (.logarithmic coefficients))
      | none => (r.texts.find? name).map fun d => .textual d.labels

/-- The calibrator of a name, where it names a numeric calibration. -/
def numeric? (r : Registry) (name : String) : Option Calibrator :=
  (r.resolve? name).bind Calibration.numeric?

/-- The format of the engineering values of a curve. -/
def engineeringFormat? (r : Registry) (name : String) : Option Char :=
  (r.curves.find? name).map (·.engineeringFormat)

/-- The context rules of a parameter, by position. -/
def contextRules (r : Registry) (parameter : String) : List ContextRule :=
  (r.contexts.find? parameter).getD []

/-- Whether a parameter has context rules. -/
def hasContext (r : Registry) (parameter : String) : Bool := !(r.contextRules parameter).isEmpty

end Registry

end MissionBase
