import MissionBase.Calendar
import MissionBase.Calibration.Calibrator
import MissionBase.Encoding

/-!
# Types of values

A type says what a value means: its engineering type, the encoding of its raw form, the
conversions between them, and for parameters the limits that raise alarms.
-/

namespace MissionBase

/-- The epochs known by name. -/
inductive CommonEpoch where
  | tai
  | j2000
  | unix
  | gps
  deriving Repr, DecidableEq

/-- What absolute times count from. -/
inductive Epoch where
  | common (epoch : CommonEpoch)
  | dateTime (value : DateTime)
  /-- Times correlated by a service, against a clock with the given bytes of fractions. -/
  | correlated (service : String) (fineBytes : Option Nat)
  deriving Repr, DecidableEq

/-- The bytes of fractions of the reference clock. -/
def Epoch.referenceFineBytes? : Epoch → Option Nat
  | correlated _ fineBytes => fineBytes
  | _ => none

/-- A field of an embedded packet header. -/
structure HeaderMember where
  name : String
  typeName : String
  size : Nat
  deriving Repr, DecidableEq

namespace HeaderMember

/-- A natural number of some bits. -/
def uint (name : String) (size : Nat) : HeaderMember := ⟨name, s!"mib-ptype-uint{size}", size⟩

/-- The fields that every packet has. -/
def primary : List HeaderMember :=
  [uint "ccsds_version" 3, uint "ccsds_packettype" 1, uint "ccsds_shflag" 1, uint "ccsds_apid" 11,
    uint "ccsds_seqcount" 16, uint "ccsds_length" 16]

/-- The header of a telemetry packet for format code 0, of a command packet for format code 1. -/
def packetHeader? (pfc : Int) : Option (List HeaderMember) :=
  if pfc = 0 then
    some (primary ++ [uint "pus_version" 4, uint "pus_time_ref" 4, uint "pus_type" 8,
      uint "pus_stype" 8, uint "pus_counter" 16, uint "pus_destination_id" 16, uint "pus_time" 64])
  else if pfc = 1 then
    some (primary ++ [uint "pus_version" 4, uint "pus_ackflags" 4, uint "pus_type" 8,
      uint "pus_stype" 8, uint "pus_source_id" 16])
  else none

end HeaderMember

/-- A member of a group of arguments that is repeated as a whole. -/
structure RecordMember where
  name : String
  type : ArgumentTypeRef
  deriving Repr, DecidableEq

/-- The type of an engineering value. -/
inductive ValueType where
  | boolean
  | integer (signed : Bool) (size : Nat)
  | float (size : Nat)
  | enumerated (labels : Labels)
  | string
  | binary
  | absoluteTime (epoch : Epoch) (scale : Float)
  | relativeTime (scale : Float)
  /-- An embedded packet header. -/
  | aggregate (members : List HeaderMember)
  /-- Elements of one type, as many as another argument says. -/
  | array (element : ArgumentTypeRef) (countArgument : String)
  /-- Arguments that are repeated together. -/
  | record (members : List RecordMember)
  deriving Repr

namespace ValueType

/-- A number. -/
def isNumeric : ValueType → Bool
  | integer .. | float _ => true
  | _ => false

/-- A truth value. -/
def isBoolean : ValueType → Bool
  | boolean => true
  | _ => false

/-- A value with labels. -/
def isEnumerated : ValueType → Bool
  | enumerated _ => true
  | _ => false

/-- The labels of an enumerated value. -/
def labels? : ValueType → Option Labels
  | enumerated labels => some labels
  | _ => none

/-- The width of an engineering number whose raw form has some bits. -/
def naturalSize (size : Nat) : Nat := if 32 < size then 64 else 32

/-- The engineering type that a raw encoding has by itself. -/
def natural? : Encoding → Option ValueType
  | .unsignedInteger size => some (integer false (naturalSize size))
  | .signedInteger size => some (integer true (naturalSize size))
  | .float size _ => some (float (naturalSize size))
  | .fixedBinary _ | .leadingSizeBinary _ => some binary
  | .fixedString _ | .leadingSizeString _ => some string
  | _ => none

end ValueType

/-- How serious an alarm is. -/
inductive AlarmLevel where
  | warning
  | critical
  deriving Repr, DecidableEq

/-- A label that raises an alarm. -/
structure LabelAlarm where
  context : Option Comparison
  label : String
  level : AlarmLevel
  deriving Repr, DecidableEq

/-- An interval outside which an alarm is raised. -/
structure AlarmRange where
  low : Option Float
  high : Option Float
  level : AlarmLevel
  deriving Repr

/-- The intervals that apply in one context. -/
structure RangeAlarm where
  context : Option Comparison
  /-- How many violations in a row raise the alarm. -/
  minViolations : Nat
  ranges : List AlarmRange
  deriving Repr

/-- The limits of a type. -/
inductive Alarm where
  | enumeration (items : List LabelAlarm)
  | numeric (alarms : List RangeAlarm)
  deriving Repr

/-- The type of parameters. -/
structure ParameterType where
  name : String
  value : ValueType
  encoding : Option Encoding := none
  calibrator : Option Calibrator := none
  contextCalibrators : List ContextCalibrator := []
  unit : Option String := none
  initialValue : Option String := none
  alarm : Option Alarm := none
  deriving Repr

namespace ParameterType

/-- A type with a calibration: a numeric one is its calibrator, labels make it an enumeration. -/
def calibrated (t : ParameterType) : Calibration → ParameterType
  | .numeric c => { t with calibrator := some c }
  | .textual labels => { t with value := .enumerated labels }
  | .contexts calibrators => { t with contextCalibrators := calibrators }

/-- The alarms with the one of a context changed; one with no ranges is added where there is
none. -/
def changeAlarm (context : Option Comparison) (change : RangeAlarm → RangeAlarm) :
    List RangeAlarm → List RangeAlarm
  | [] => [change ⟨context, 1, []⟩]
  | a :: rest =>
    if a.context = context then change a :: rest else a :: changeAlarm context change rest

/-- The type with the numeric alarm of a context changed; none where it has an enumeration
alarm. -/
def changeRangeAlarm? (t : ParameterType) (context : Option Comparison)
    (change : RangeAlarm → RangeAlarm) : Option ParameterType :=
  match t.alarm with
  | none => some { t with alarm := some (.numeric (changeAlarm context change [])) }
  | some (.numeric alarms) =>
    some { t with alarm := some (.numeric (changeAlarm context change alarms)) }
  | some (.enumeration _) => none

/-- The numeric alarm of a context, if it has one. -/
def rangeAlarm? (t : ParameterType) (context : Option Comparison) : Option RangeAlarm :=
  match t.alarm with
  | some (.numeric alarms) => alarms.find? fun a => a.context == context
  | _ => none

/-- The type with one more label alarm; none where it has a numeric alarm. -/
def addLabelAlarm? (t : ParameterType) (item : LabelAlarm) : Option ParameterType :=
  match t.alarm with
  | none => some { t with alarm := some (.enumeration [item]) }
  | some (.enumeration items) => some { t with alarm := some (.enumeration (items ++ [item])) }
  | some (.numeric _) => none

end ParameterType

/-- An interval of accepted argument values, both ends included. -/
structure ValueRange where
  min : Float
  max : Float
  deriving Repr

/-- The type of arguments. -/
structure ArgumentType where
  name : String
  value : ValueType
  encoding : Option Encoding := none
  /-- The conversion of engineering into raw values. -/
  decalibrator : Option Calibrator := none
  unit : Option String := none
  validRanges : List ValueRange := []
  /-- Whether the ranges are of engineering values. -/
  rangesCalibrated : Bool := false
  deriving Repr

end MissionBase
