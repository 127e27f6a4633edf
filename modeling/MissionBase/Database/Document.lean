import MissionBase.Database.Basic
import MissionBase.Json.Writer

/-!
# The database as a document

The JSON form of a database and of its parts. An alternative without data is a text, one with data
an object of one field; references are the places of what they point at; an absent value is null.
The order of fields is the order in which they are written here.
-/

namespace MissionBase

/-- A text or null. -/
def Json.ofText? (s : Option String) : Json := Json.ofOption .text s

/-- The form of a reference. -/
def Ref.document {kind : Kind} (r : Ref kind) : Json := .integer r.index

/-- A reference or null. -/
def Ref.document? {kind : Kind} (r : Option (Ref kind)) : Json := Json.ofOption Ref.document r

/-- The form of a layout that has a size. -/
def Json.sized (name field : String) (size : Nat) : Json :=
  .tagged name (.object [(field, .ofNat size)])

/-- A floating point format by its name. -/
def FloatFormat.document : FloatFormat → Json
  | ieee754 => .text "Ieee754"
  | milStd1750a => .text "MilStd1750a"

/-- A time format, with its widths where it has some. -/
def TimeFormat.document : TimeFormat → Json
  | cucExplicit => .text "CucExplicit"
  | cds microseconds => .tagged "Cds" (.object [("microseconds", .bool microseconds)])
  | cuc coarse fine =>
    .tagged "Cuc" (.object [("coarse_bytes", .ofNat coarse), ("fine_bytes", .ofNat fine)])
  | extended64 => .text "Extended64"

/-- A layout of raw values. -/
def Encoding.document : Encoding → Json
  | unsignedInteger size => .sized "UnsignedInteger" "size_in_bits" size
  | signedInteger size => .sized "SignedInteger" "size_in_bits" size
  | float size format =>
    .tagged "Float" (.object
      [("size_in_bits", .ofNat size), ("representation", format.document)])
  | fixedBinary size => .sized "FixedBinary" "size_in_bits" size
  | leadingSizeBinary size => .sized "LeadingSizeBinary" "size_tag_bits" size
  | fixedString size => .sized "FixedString" "size_in_bits" size
  | leadingSizeString size => .sized "LeadingSizeString" "size_tag_bits" size
  | absoluteTime format shift =>
    .tagged "AbsoluteTime" (.object [("format", format.document), ("shift_bits", .ofNat shift)])
  | relativeTime format => .tagged "RelativeTime" (.object [("format", format.document)])
  | aggregate => .text "Aggregate"
  | deduced => .text "Deduced"

/-- A point of a curve. -/
def CurvePoint.document (p : CurvePoint Float) : Json :=
  .object [("raw", .number p.raw), ("calibrated", .number p.calibrated)]

/-- A numeric calibrator by its kind. -/
def Calibrator.document : Calibrator → Json
  | spline curve =>
    .tagged "Spline" (.object
      [("points", .ofList CurvePoint.document curve.points),
        ("extrapolate", .bool curve.extrapolate)])
  | polynomial coefficients =>
    .tagged "Polynomial" (.object [("coefficients", .ofList .number coefficients)])
  | logarithmic coefficients =>
    .tagged "Logarithmic" (.object [("coefficients", .ofList .number coefficients)])

/-- The label of one value. -/
def ValueLabel.document (v : ValueLabel) : Json :=
  .object [("value", .integer v.value), ("label", .text v.label)]

/-- The label of a range of values. -/
def RangeLabel.document (r : RangeLabel) : Json :=
  .object [("min", .number r.min), ("max", .number r.max), ("label", .text r.label)]

/-- Labels, those of single values first. -/
def Labels.document (l : Labels) : Json :=
  .object [("values", .ofList ValueLabel.document l.values),
    ("ranges", .ofList RangeLabel.document l.ranges)]

/-- A relation by its name. -/
def Relation.document : Relation → Json
  | equality => .text "Equality"
  | inequality => .text "Inequality"
  | largerThan => .text "LargerThan"
  | largerOrEqual => .text "LargerOrEqual"
  | smallerThan => .text "SmallerThan"
  | smallerOrEqual => .text "SmallerOrEqual"

/-- A comparison. -/
def Comparison.document (c : Comparison) : Json :=
  .object [("parameter", c.parameter.document), ("operator", c.relation.document),
    ("value", .text c.value), ("use_calibrated", .bool c.calibrated)]

/-- Criteria: one comparison, or a list of them. -/
def Criteria.document : Criteria → Json
  | one c => .tagged "Comparison" c.document
  | all cs => .tagged "All" (.ofList Comparison.document cs)

/-- A calibrator with its condition. -/
def ContextCalibrator.document (c : ContextCalibrator) : Json :=
  .object [("context", c.context.document), ("calibrator", c.calibrator.document)]

/-- A numeric calibration is named for the kind of its calibrator. -/
def Calibration.document : Calibration → Json
  | numeric c =>
    let name := match c with
      | .spline _ => "Spline"
      | .polynomial _ => "Polynomial"
      | .logarithmic _ => "Logarithmic"
    .tagged name c.document
  | textual labels => .tagged "TextEnumeration" labels.document
  | contexts cs => .tagged "ContextSelected" (.ofList ContextCalibrator.document cs)

/-- What times count from. -/
def Epoch.document : Epoch → Json
  | common epoch =>
    let name := match epoch with
      | .tai => "Tai"
      | .j2000 => "J2000"
      | .unix => "Unix"
      | .gps => "Gps"
    .tagged "Common" (.text name)
  | dateTime value => .tagged "DateTime" (.text value.text)
  | correlated service fineBytes =>
    .tagged "Correlated" (.object
      [("service", .text service), ("fine_bytes", .ofOption .ofNat fineBytes)])

/-- A field of an embedded packet header. -/
def HeaderMember.document (m : HeaderMember) : Json :=
  .object [("name", .text m.name), ("type_name", .text m.typeName),
    ("size_in_bits", .ofNat m.size)]

/-- A member of a repeated group. -/
def RecordMember.document (m : RecordMember) : Json :=
  .object [("name", .text m.name), ("type_id", m.type.document)]

/-- A type of engineering values. -/
def ValueType.document : ValueType → Json
  | boolean => .text "Boolean"
  | integer signed size =>
    .tagged "Integer" (.object [("signed", .bool signed), ("size_in_bits", .ofNat size)])
  | float size => .sized "Float" "size_in_bits" size
  | enumerated labels => .tagged "Enumerated" labels.document
  | string => .text "String"
  | binary => .text "Binary"
  | absoluteTime epoch scale =>
    .tagged "AbsoluteTime" (.object [("epoch", epoch.document), ("scale", .number scale)])
  | relativeTime scale => .tagged "RelativeTime" (.object [("scale", .number scale)])
  | aggregate members =>
    .tagged "Aggregate" (.object [("members", .ofList HeaderMember.document members)])
  | array element countArgument =>
    .tagged "Array" (.object
      [("element", element.document), ("count_argument", .text countArgument)])
  | record members =>
    .tagged "Record" (.object [("members", .ofList RecordMember.document members)])

/-- A level of alarm by its name. -/
def AlarmLevel.document : AlarmLevel → Json
  | warning => .text "Warning"
  | critical => .text "Critical"

/-- A label that raises an alarm. -/
def LabelAlarm.document (a : LabelAlarm) : Json :=
  .object [("context", .ofOption Comparison.document a.context), ("label", .text a.label),
    ("level", a.level.document)]

/-- An interval outside which an alarm is raised. -/
def AlarmRange.document (r : AlarmRange) : Json :=
  .object [("low", .ofOption .number r.low), ("high", .ofOption .number r.high),
    ("level", r.level.document)]

/-- The intervals of one context. -/
def RangeAlarm.document (a : RangeAlarm) : Json :=
  .object [("context", .ofOption Comparison.document a.context),
    ("min_violations", .ofNat a.minViolations), ("ranges", .ofList AlarmRange.document a.ranges)]

/-- The limits of a type by their kind. -/
def Alarm.document : Alarm → Json
  | enumeration items => .tagged "Enumeration" (.ofList LabelAlarm.document items)
  | numeric alarms => .tagged "Numeric" (.ofList RangeAlarm.document alarms)

/-- A type of parameters. -/
def ParameterType.document (t : ParameterType) : Json :=
  .object
    [("name", .text t.name), ("eng", t.value.document),
      ("encoding", .ofOption Encoding.document t.encoding),
      ("calibrator", .ofOption Calibrator.document t.calibrator),
      ("context_calibrators", .ofList ContextCalibrator.document t.contextCalibrators),
      ("unit", .ofText? t.unit), ("initial_value", .ofText? t.initialValue),
      ("alarm", .ofOption Alarm.document t.alarm)]

/-- An interval of accepted values. -/
def ValueRange.document (r : ValueRange) : Json :=
  .object [("min", .number r.min), ("max", .number r.max)]

/-- A type of arguments. -/
def ArgumentType.document (t : ArgumentType) : Json :=
  .object
    [("name", .text t.name), ("eng", t.value.document),
      ("encoding", .ofOption Encoding.document t.encoding),
      ("decalibrator", .ofOption Calibrator.document t.decalibrator),
      ("unit", .ofText? t.unit), ("valid_ranges", .ofList ValueRange.document t.validRanges),
      ("ranges_calibrated", .bool t.rangesCalibrated)]

/-- A source of values by its name. -/
def DataSource.document : DataSource → Json
  | telemetered => .text "Telemetered"
  | derived => .text "Derived"
  | constant => .text "Constant"

/-- A name in a namespace. -/
def Alias.document (a : Alias) : Json :=
  .object [("namespace", .text a.space), ("name", .text a.name)]

/-- A parameter. -/
def Parameter.document (p : Parameter) : Json :=
  .object
    [("name", .text p.name), ("description", .ofText? p.description),
      ("type_id", p.type.document), ("data_source", p.source.document),
      ("aliases", .ofList Alias.document p.aliases)]

/-- The place of an entry, in bits. -/
def EntryPlace.document : EntryPlace → Json
  | start bit => .tagged "ContainerStart" (.integer bit)
  | previous gap => .tagged "PreviousEntry" (.integer gap)

/-- A number of occurrences, or the parameter that tells it. -/
def RepeatCount.document : RepeatCount → Json
  | fixed count => .tagged "Fixed" (.ofNat count)
  | dynamic parameter => .tagged "Dynamic" parameter.document

/-- A repetition. -/
def Repeat.document (r : Repeat) : Json :=
  .object [("count", r.count.document), ("offset_bits", .ofNat r.gap)]

/-- What stands at an entry. -/
def EntryItem.document : EntryItem → Json
  | parameter p => .tagged "Parameter" p.document
  | indirect selector space =>
    .tagged "IndirectParameter" (.object
      [("selector", selector.document), ("namespace", .text space)])
  | container c => .tagged "Container" c.document

/-- An entry of a container. -/
def Entry.document (e : Entry) : Json :=
  .object [("location", e.place.document), ("repeat", .ofOption Repeat.document e.repetition),
    ("item", e.item.document)]

/-- A container. -/
def Container.document (c : Container) : Json :=
  .object
    [("name", .text c.name), ("description", .ofText? c.description),
      ("base", Ref.document? c.base), ("restriction", .ofOption Criteria.document c.restriction),
      ("is_abstract", .bool c.isAbstract), ("size_in_bits", .ofOption .ofNat c.size),
      ("entries", .ofList Entry.document c.entries),
      ("aliases", .ofList Alias.document c.aliases)]

/-- An argument of a command. -/
def Argument.document (a : Argument) : Json :=
  .object
    [("name", .text a.name), ("description", .ofText? a.description),
      ("type_id", a.type.document), ("initial_value", .ofText? a.initialValue),
      ("dynamic_default", Ref.document? a.dynamicDefault)]

/-- A value bound to an argument. -/
def Assignment.document (a : Assignment) : Json :=
  .object [("argument", .text a.argument), ("value", .text a.value)]

/-- What stands at an entry of a command; a bit pattern as a list of octets. -/
def CommandItem.document : CommandItem → Json
  | argument name => .tagged "Argument" (.text name)
  | fixedValue name value size =>
    .tagged "FixedValue" (.object
      [("name", .ofText? name), ("value", .ofList (fun b => .ofNat b.toNat) value),
        ("size_in_bits", .ofNat size)])

/-- An entry of a command. -/
def CommandEntry.document (e : CommandEntry) : Json :=
  .object [("location", e.place.document), ("item", e.item.document)]

/-- The arguments that a command binds once and for all. -/
def FixedArguments.document (f : FixedArguments) : Json :=
  .object
    [("name", .text f.name), ("arguments", .ofList Argument.document f.arguments),
      ("assignments", .ofList Assignment.document f.assignments)]

/-- A time window in milliseconds. -/
def CheckWindow.document (w : CheckWindow) : Json :=
  .object [("start_ms", .integer w.start), ("stop_ms", .integer w.stop)]

/-- What the reports of a command echo. -/
def CommandEcho.document (e : CommandEcho) : Json :=
  .object
    [("apid_argument", .ofText? e.apidArgument), ("seqcount_bit_offset", .ofNat e.sequenceOffset),
      ("seqcount_bits", .ofNat e.sequenceSize)]

/-- What a verifier looks at. -/
def VerifierCheck.document : VerifierCheck → Json
  | container c => .tagged "Container" c.document
  | algorithm a echo =>
    .tagged "Algorithm" (.object [("algorithm", a.document), ("echo", echo.document)])
  | parameters criteria => .tagged "Parameter" criteria.document

/-- One stage of a verification. -/
def Verifier.document (v : Verifier) : Json :=
  .object [("stage", .text v.stage), ("window", v.window.document), ("check", v.check.document)]

/-- What has to hold before a command is sent. -/
def Constraint.document (c : Constraint) : Json :=
  .object [("criteria", c.criteria.document), ("timeout_ms", .ofNat c.timeout)]

/-- A command; its container has a name of its own. -/
def Command.document (c : Command) : Json :=
  .object
    [("name", .text c.name), ("description", .ofText? c.description),
      ("long_description", .ofText? c.longDescription), ("is_abstract", .bool c.isAbstract),
      ("base", Ref.document? c.base),
      ("fixed", .ofOption FixedArguments.document c.fixedArguments),
      ("arguments", .ofList Argument.document c.arguments),
      ("assignments", .ofList Assignment.document c.assignments),
      ("container", .object [("name", .text c.containerName),
        ("entries", .ofList CommandEntry.document c.entries)]),
      ("critical", .bool c.critical),
      ("transmission_constraints", .ofList Constraint.document c.constraints),
      ("verifiers", .ofList Verifier.document c.verifiers),
      ("aliases", .ofList Alias.document c.aliases)]

/-- What an algorithm does. -/
def AlgorithmKind.document : AlgorithmKind → Json
  | synthetic => .text "Synthetic"
  | acknowledgementCheck code => .sized "AcknowledgementCheck" "stage_code" code

/-- A parameter that an algorithm reads. -/
def AlgorithmInput.document (i : AlgorithmInput) : Json :=
  .object [("parameter", i.parameter.document), ("input_name", .ofText? i.inputName),
    ("mandatory", .bool i.mandatory)]

/-- An algorithm. -/
def Algorithm.document (a : Algorithm) : Json :=
  .object
    [("name", .text a.name), ("kind", a.kind.document), ("source", .ofText? a.source),
      ("inputs", .ofList AlgorithmInput.document a.inputs),
      ("triggers", .ofList Ref.document a.triggers), ("outputs", .ofList Ref.document a.outputs)]

/-- The document of a whole database. -/
def Database.document (db : Database) : Json :=
  .object
    [("name", .text db.name), ("version", .ofText? db.version),
      ("description", .ofText? db.description),
      ("parameter_types", .ofList ParameterType.document db.parameterTypes.toList),
      ("parameters", .ofList Parameter.document db.parameters.toList),
      ("containers", .ofList Container.document db.containers.toList),
      ("argument_types", .ofList ArgumentType.document db.argumentTypes.toList),
      ("commands", .ofList Command.document db.commands.toList),
      ("algorithms", .ofList Algorithm.document db.algorithms.toList)]

end MissionBase
