import MissionBase.Build
import MissionBase.Calibration.Registry

/-!
# Reading the calibration tables

Each table fills its part of the registry, record by record. Records of points refer to a
definition that has to come first; a point goes to the definition that has the name at that time.
-/

namespace MissionBase

namespace Registry

/-- Whether a format is that of numbers: real (`R`), signed (`I`) or natural (`U`). -/
def isNumberFormat (format : Char) : Bool := format == 'R' || format == 'I' || format == 'U'

/-- A curve without its points, as `CAF` and `CCA` define it. -/
def curveOfRow (row : Row) : Except Error CurveDefinition := do
  row.require [0]
  let engineeringFormat := row.flagD 2 'R'
  if !isNumberFormat engineeringFormat then
    throw (row.data s!"invalid engineering format '{engineeringFormat}'")
  let rawFormat := row.flagD 3 'U'
  if !isNumberFormat rawFormat then
    throw (row.data s!"invalid raw format '{rawFormat}'")
  return {
    name := ← row.text 0
    description := row.text? 1
    engineeringFormat := engineeringFormat
    rawFormat := rawFormat
    radix := row.flagD 4 'D'
    unit := row.text? 5
    extrapolate := row.flagD 7 'F' == 'P' }

/-- A point of `CAP`: the raw value comes first. -/
def calibrationPoint (row : Row) (curve : CurveDefinition) : Except Error (CurvePoint Float) := do
  let raw ← row.rawValue 1 curve.rawFormat curve.radix
  let calibrated ← row.rawValue 2 curve.engineeringFormat curve.radix
  return ⟨raw, calibrated⟩

/-- A point of `CCS`: the engineering value comes first, yet the raw value is read first. -/
def decalibrationPoint (row : Row) (curve : CurveDefinition) : Except Error (CurvePoint Float) := do
  let raw ← row.rawValue 2 curve.rawFormat curve.radix
  let calibrated ← row.rawValue 1 curve.engineeringFormat curve.radix
  return ⟨raw, calibrated⟩

/-- The definition of a name, or the error of the record that refers to it. -/
def defined {α : Type} (row : Row) (index : Index String α) (name kind definition : String) :
    Except Error α :=
  match index.find? name with
  | some d => .ok d
  | none => .error (row.reference s!"{kind} references unknown {definition} '{name}'")

/-- The index with a point added to a curve. -/
def addPoint (row : Row) (curves : Index String CurveDefinition) (kind definition : String)
    (point : Row → CurveDefinition → Except Error (CurvePoint Float)) :
    Except Error (Index String CurveDefinition) := do
  row.require [0, 1, 2]
  let name ← row.text 0
  let curve ← defined row curves name kind definition
  let p ← point row curve
  return curves.set name { curve with points := curve.points ++ [p] }

/-- The coefficients of `MCF`: the columns up to the last set one, with zero for those unset. -/
def polynomialOfRow (row : Row) : Except Error (String × List Float) := do
  row.require [0, 2]
  match [6, 5, 4, 3, 2].find? row.has with
  | none => throw (row.data "polynomial calibration without coefficients")
  | some last =>
    let coefficients ← (List.range' 2 (last - 1)).mapM fun col => row.floatD col 0.0
    return (← row.text 0, coefficients)

/-- The five coefficients of `LGF`. -/
def logarithmOfRow (row : Row) : Except Error (String × List Float) := do
  row.require [0, 2]
  let coefficients ← (List.range' 2 5).mapM fun col => row.floatD col 0.0
  return (← row.text 0, coefficients)

/-- The rule of a record of `CUR`, with its parameter. -/
def contextOfRow (row : Row) : Except Error (String × ContextRule) := do
  row.require [0, 1, 2, 3, 4]
  let rule : ContextRule := {
    location := row.location
    position := ← row.int 1
    reference := ← row.text 2
    value := ← row.int 3
    select := ← row.text 4 }
  return (← row.text 0, rule)

/-- A textual calibration without its labels, as `TXF` defines it. -/
def textOfRow (row : Row) : Except Error LabelDefinition := do
  row.require [0, 2]
  return { name := ← row.text 0, description := row.text? 1, rawFormat := row.flagD 2 'U' }

/-- The texts with a label of `TXP` added: for one value where both bounds are the same text and
the raw format is an integer one, and else for the range between them. -/
def addLabel (row : Row) (texts : Index String LabelDefinition) :
    Except Error (Index String LabelDefinition) := do
  row.require [0, 1, 2]
  let name ← row.text 0
  let text ← defined row texts name "TXP" "TXF"
  let label := row.textD 3 ""
  let low ← row.text 1
  let high ← row.text 2
  let labels := text.labels
  if low = high ∧ (text.rawFormat = 'I' ∨ text.rawFormat = 'U') then
    let value ← row.int 1
    return texts.set name
      { text with labels := { labels with values := labels.values ++ [⟨value, label⟩] } }
  else
    let min ← row.float 1
    let max ← row.float 2
    return texts.set name
      { text with labels := { labels with ranges := labels.ranges ++ [⟨min, max, label⟩] } }

/-- A set of aliases without its labels, as `PAF` defines it. -/
def aliasesOfRow (row : Row) : Except Error LabelDefinition := do
  row.require [0]
  let rawFormat := row.flagD 2 'U'
  if !isNumberFormat rawFormat then
    throw (row.data s!"invalid PAF_RAWFMT '{rawFormat}'")
  return { name := ← row.text 0, description := row.text? 1, rawFormat := rawFormat }

/-- The sets of aliases with a label of `PAS` added; a real value is a range of one point. -/
def addAliasLabel (row : Row) (sets : Index String LabelDefinition) :
    Except Error (Index String LabelDefinition) := do
  row.require [0, 1, 2]
  let name ← row.text 0
  let set ← defined row sets name "PAS" "PAF"
  let label ← row.text 1
  let labels := set.labels
  if set.rawFormat = 'U' then
    let value ← row.nat 2
    if 9223372036854775807 < value then
      throw (row.data s!"alias value of '{label}' exceeds 63 bits")
    return sets.set name
      { set with labels := { labels with values := labels.values ++ [⟨value, label⟩] } }
  else if set.rawFormat = 'I' then
    let value ← row.int 2
    return sets.set name
      { set with labels := { labels with values := labels.values ++ [⟨value, label⟩] } }
  else
    let value ← row.float 2
    return sets.set name
      { set with labels := { labels with ranges := labels.ranges ++ [⟨value, value, label⟩] } }

/-- A set of ranges without its ranges, as `PRF` defines it. -/
def rangeSetOfRow (row : Row) : Except Error RangeSet := do
  row.require [0]
  return {
    name := ← row.text 0
    description := row.text? 1
    interpretation := row.flagD 2 'R'
    displayFormat := row.flagD 3 'U'
    radix := row.flagD 4 'D' }

/-- The sets with a range of `PRV` added. A record of a set that is not numeric is passed over; one
without a maximum is a range of one value. -/
def addRange (row : Row) (sets : Index String RangeSet) : Except Error (Index String RangeSet) := do
  row.require [0, 1]
  let name ← row.text 0
  let set ← defined row sets name "PRV" "PRF"
  if !set.isNumeric then return sets
  let min ← row.rawValue 1 set.displayFormat set.radix
  let max ← if row.has 2 then row.rawValue 2 set.displayFormat set.radix else pure min
  return sets.set name { set with ranges := set.ranges ++ [⟨min, max⟩] }

/-- A record handler that changes the registry, or leaves it as it is with an error. -/
def updating (change : Row → Registry → Except Error Registry) (row : Row) :
    Build Registry Unit := do
  let registry ← change row (← Build.stage)
  Build.changeStage fun _ => registry

/-- The registry with the context rules of each parameter sorted by position. -/
def sortContexts (r : Registry) : Registry :=
  { r with contexts := r.contexts.sortLists (·.position) }

/-- Reads `CUR`, `CAF` and `CAP`, `TXF` and `TXP`, `MCF` and `LGF`. -/
def loadTelemetry (setting : Setting) : Build Registry Unit := do
  let _ ← Build.scan setting "cur" <| updating fun row r => do
    let (parameter, rule) ← contextOfRow row
    return { r with contexts := r.contexts.append parameter rule }
  Build.changeStage sortContexts
  let _ ← Build.scan setting "caf" <| updating fun row r => do
    let curve ← curveOfRow row
    return { r with curves := r.curves.set curve.name curve }
  let _ ← Build.scan setting "cap" <| updating fun row r => do
    return { r with curves := ← addPoint row r.curves "CAP" "CAF" calibrationPoint }
  let _ ← Build.scan setting "txf" <| updating fun row r => do
    let text ← textOfRow row
    return { r with texts := r.texts.set text.name text }
  let _ ← Build.scan setting "txp" <| updating fun row r => do
    return { r with texts := ← addLabel row r.texts }
  let _ ← Build.scan setting "mcf" <| updating fun row r => do
    let (name, coefficients) ← polynomialOfRow row
    return { r with polynomials := r.polynomials.set name coefficients }
  let _ ← Build.scan setting "lgf" <| updating fun row r => do
    let (name, coefficients) ← logarithmOfRow row
    return { r with logarithms := r.logarithms.set name coefficients }

/-- Reads `CCA` and `CCS`, `PAF` and `PAS`, `PRF` and `PRV`. -/
def loadCommanding (setting : Setting) : Build Registry Unit := do
  let _ ← Build.scan setting "cca" <| updating fun row r => do
    let curve ← curveOfRow row
    return { r with decalibrations := r.decalibrations.set curve.name curve }
  let _ ← Build.scan setting "ccs" <| updating fun row r => do
    return { r with
      decalibrations := ← addPoint row r.decalibrations "CCS" "CCA" decalibrationPoint }
  let _ ← Build.scan setting "paf" <| updating fun row r => do
    let set ← aliasesOfRow row
    return { r with aliases := r.aliases.set set.name set }
  let _ ← Build.scan setting "pas" <| updating fun row r => do
    return { r with aliases := ← addAliasLabel row r.aliases }
  let _ ← Build.scan setting "prf" <| updating fun row r => do
    let set ← rangeSetOfRow row
    return { r with rangeSets := r.rangeSets.set set.name set }
  let _ ← Build.scan setting "prv" <| updating fun row r => do
    return { r with rangeSets := ← addRange row r.rangeSets }

end Registry

end MissionBase
