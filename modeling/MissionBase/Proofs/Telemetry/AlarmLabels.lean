import MissionBase.Proofs.Telemetry.PlainTypes
import MissionBase.Proofs.Turns

/-!
# Labels that raise alarms

Limits give a type an alarm of the kind of its values: ranges to numbers, labels to enumerations. A
label comes from a check in one of two ways. Where checks are coded as raw values it is looked up
among the labels of the type, so it is one of them. Where they are coded as labels it is copied as
it stands, and nothing asks whether the type has it. An alarm on a label that no value has is never
raised. `NamesUnknownLabel` says when a record of limits brings one, and it is the only way in which
one gets into a database.

No type has an alarm before the limits, and no type loses one, so it is enough to say what one
record does.
-/

namespace MissionBase

open Run

/-! ## Alarms and values -/

/-- One of the labels. -/
def Labels.Has (l : Labels) (label : String) : Prop :=
  label ∈ l.values.map (·.label) ∨ label ∈ l.ranges.map (·.label)

/-- A raw value has one of the labels, if any. -/
theorem Labels.has_of_label? {l : Labels} {raw : Float} {label : String}
    (h : l.label? raw = some label) : l.Has label := by
  unfold label? at h
  cases hvalue : l.values.find? fun v => Decimal.ofInt v.value == raw with
  | some v =>
      rw [hvalue] at h
      cases h
      exact .inl (List.mem_map_of_mem (List.mem_of_find?_eq_some hvalue))
  | none =>
      rw [hvalue] at h
      obtain ⟨r, hr, rfl⟩ := Option.map_eq_some_iff.mp h
      exact .inr (List.mem_map_of_mem (List.mem_of_find?_eq_some hr))

/-- A label of an enumeration. -/
def ValueType.HasLabel (value : ValueType) (label : String) : Prop :=
  ∃ l, value.labels? = some l ∧ l.Has label

namespace ParameterType

/-- The labels that raise alarms, in their order. -/
def alarmLabels (t : ParameterType) : List String :=
  match t.alarm with
  | some (.enumeration items) => items.map (·.label)
  | _ => []

/-- The alarms of a type are of the kind of its values. -/
structure AlarmFits (t : ParameterType) : Prop where
  numeric : ∀ alarms, t.alarm = some (.numeric alarms) → t.value.isNumeric = true
  enumeration : ∀ items, t.alarm = some (.enumeration items) → t.value.isEnumerated = true

/-- Every label that raises an alarm is the label of some values. -/
def AlarmsLabelled (t : ParameterType) : Prop := ∀ label ∈ t.alarmLabels, t.value.HasLabel label

variable {t : ParameterType}

theorem alarmFits_of_none (h : t.alarm = none) : t.AlarmFits := by
  refine ⟨fun alarms ha => ?_, fun items hi => ?_⟩
  · rw [h] at ha
    cases ha
  · rw [h] at hi
    cases hi

theorem alarmsLabelled_of_none (h : t.alarm = none) : t.AlarmsLabelled := by
  unfold AlarmsLabelled alarmLabels
  rw [h]
  exact fun label hlabel => nomatch hlabel

end ParameterType

namespace Telemetry

variable {setting : Setting} {d t : Draft TelemetryState}

/-! ## One check -/

/-- The label that a check names, where its values are labels. -/
def namedLabel? (coding : LimitCoding) (value : ValueType) (check : LimitCheck) : Option String :=
  if coding = .numeric then none else (checkLabel check coding value).toOption.join

/-- A label that is looked up is one of the type; one that is copied is what the check says. -/
theorem namedLabel?_eq_some {coding : LimitCoding} {value : ValueType} {check : LimitCheck}
    {label : String} (h : namedLabel? coding value check = some label) :
    value.HasLabel label ∨ coding = .labels ∧ check.low = some label := by
  unfold namedLabel? checkLabel at h
  split at h
  · cases h
  · cases hlow : check.low with
    | none =>
        rw [hlow] at h
        cases h
    | some text =>
        rw [hlow] at h
        dsimp only at h
        by_cases hcoding : coding = .labels
        · rw [if_pos hcoding] at h
          exact .inr ⟨hcoding, h⟩
        · rw [if_neg hcoding] at h
          cases hraw : Decimal.float? (Text.trimChars text.toList) with
          | none =>
              rw [hraw] at h
              cases h
          | some raw =>
              rw [hraw] at h
              have h : (value.labels?.bind fun l => l.label? raw) = some label := h
              obtain ⟨l, hl, hlabel⟩ := Option.bind_eq_some_iff.mp h
              exact .inl ⟨l, hl, Labels.has_of_label? hlabel⟩

theorem namedLabel?_labels {value : ValueType} {check : LimitCheck} {label : String}
    (h : check.low = some label) : namedLabel? .labels value check = some label := by
  unfold namedLabel? checkLabel
  rw [h]
  rfl

/-- A coding is one for values of its kind. -/
theorem codingFor?_kind {r : LimitRecord} {value : ValueType} {coding : LimitCoding}
    (h : codingFor? r value = some coding) :
    if coding = .numeric then value.isNumeric = true else value.isEnumerated = true := by
  unfold codingFor? at h
  split at h
  · split at h
    · rename_i hraw
      cases h
      exact (Bool.and_eq_true _ _ ▸ hraw).1
    · split at h
      · rename_i hnumeric
        cases h
        exact hnumeric
      · cases h
  · split at h
    · rename_i hlabels
      cases h
      exact (Bool.and_eq_true _ _ ▸ hlabels).2
    · cases h

/-- What checks do to a type: they add labels that raise alarms, and the alarm stays one of the kind
of the values. -/
structure Alarmed (coding : LimitCoding) (labels : List String) (type type' : ParameterType) :
    Prop where
  value : type'.value = type.value
  labels : type'.alarmLabels = type.alarmLabels ++ labels
  fits : (if coding = .numeric then type.value.isNumeric = true
    else type.value.isEnumerated = true) → type.AlarmFits → type'.AlarmFits

theorem Alarmed.refl (coding : LimitCoding) (type : ParameterType) :
    Alarmed coding [] type type :=
  ⟨rfl, (List.append_nil _).symm, fun _ h => h⟩

theorem Alarmed.trans {coding : LimitCoding} {labels labels' : List String}
    {type type' type'' : ParameterType} (h : Alarmed coding labels type type')
    (h' : Alarmed coding labels' type' type'') :
    Alarmed coding (labels ++ labels') type type'' where
  value := h'.value.trans h.value
  labels := by rw [h'.labels, h.labels, List.append_assoc]
  fits := fun hkind hfits => h'.fits (by rw [h.value]; exact hkind) (h.fits hkind hfits)

/-- **One check adds the label that it names, or a range.** -/
theorem withCheck_alarmed {db : Database} {coding : LimitCoding} {violations : Nat}
    {type type' : ParameterType} {check : LimitCheck}
    (h : withCheck db coding violations type check = .ok type') :
    Alarmed coding (namedLabel? coding type.value check).toList type type' := by
  unfold namedLabel?
  cases withCheck_eq_ok h with
  | range hcoding _ _ halarms =>
      have hold : type.alarmLabels = [] := by
        unfold ParameterType.alarmLabels
        rcases halarms with ⟨hnone, -⟩ | hsome
        · rw [hnone]
        · rw [hsome]
      rw [if_pos hcoding]
      refine ⟨rfl, hold.symm ▸ rfl, fun hkind _ => ⟨fun _ _ => ?_, nofun⟩⟩
      rwa [if_pos hcoding] at hkind
  | @label item items hcoding _ hlabel hitems =>
      have hold : type.alarmLabels = items.map (·.label) := by
        unfold ParameterType.alarmLabels
        rcases hitems with ⟨hnone, rfl⟩ | hsome
        · rw [hnone]
          rfl
        · rw [hsome]
      rw [if_neg hcoding, hlabel]
      refine ⟨rfl, ?_, fun hkind _ => ⟨nofun, fun _ _ => ?_⟩⟩
      · rw [hold]
        exact List.map_append
      · rwa [if_neg hcoding] at hkind
  | unlabelled hcoding hlabel =>
      rw [if_neg hcoding, hlabel]
      exact .refl coding type

/-! ## One record -/

/-- The labels that the checks of a parameter name. -/
def namedLabels (coding : LimitCoding) (value : ValueType) (checks : List LimitCheck) :
    List String :=
  (checks.filter (·.isSupported)).filterMap (namedLabel? coding value)

theorem withChecks_alarmed (coding : LimitCoding) (violations : Nat) (checks : List LimitCheck)
    (type : ParameterType) :
    Ends (withChecks coding violations checks type) d
      (fun type' _ => Alarmed coding (namedLabels coding type.value checks) type type')
      fun _ => True := by
  unfold withChecks namedLabels
  induction checks generalizing type d with
  | nil => exact ends_pure (.refl coding type)
  | cons check rest ih =>
      rw [List.foldlM_cons]
      refine Ends.bind ?_
      by_cases hsupported : check.isSupported = true
      · rw [if_pos hsupported, List.filter_cons_of_pos hsupported]
        refine Ends.bind (ends_database (ends_lift (fun type₁ h => ?_) trivial))
        have hone := withCheck_alarmed h
        refine (ih type₁).mono (fun type' _ _ hrest => ?_) fun _ h => h
        rw [hone.value] at hrest
        have hboth := hone.trans hrest
        cases hlabel : namedLabel? coding type.value check with
        | none =>
            rw [List.filterMap_cons_none hlabel]
            rwa [hlabel] at hboth
        | some label =>
            rw [List.filterMap_cons_some hlabel]
            rwa [hlabel] at hboth
      · rw [if_neg hsupported, List.filter_cons_of_neg hsupported]
        refine Ends.bind (ends_limitation fun _ _ _ => ?_)
        exact ends_pure (ih type)

/-- **What a record of limits brings**: nothing if it is passed over, and else a copy of the type of
its parameter, with the labels that its checks name among those that raise alarms. -/
theorem attachLimits_labels (row : Row) (d : Draft TelemetryState) :
    Ends (attachLimits row) d
      (fun _ t => ∃ r q, LimitRecord.ofRow row = .ok r ∧
        d.database.parameters.find? r.parameter = some q ∧
        (r.PassedOver d ∧ t.database = d.database ∨
          ¬ r.PassedOver d ∧ ∃ checks type coding copy,
            d.stage.limitChecks.find? r.parameter = some checks ∧
            d.database.typeOf? q = some type ∧ codingFor? r type.value = some coding ∧
            t.database.parameterTypes = d.database.parameterTypes.push copy ∧
            Alarmed coding (namedLabels coding type.value checks) type copy))
      fun t => t.database = d.database := by
  refine attachLimits_cases rfl (fun r q _ hr hfind hover => ⟨r, q, hr, hfind, .inl ⟨hover, rfl⟩⟩)
    fun r q checks type coding hr hfind hdone hchecks htype hcoding => ?_
  unfold attachChecks
  refine Ends.bind (ends_database (Ends.bind ?_))
  have hcopy := withChecks_alarmed (d := d) coding r.violations checks
    { type with name := d.database.uniqueTypeName type.name }
  refine (withChecks_ends.both hcopy).mono (fun copy t _ ht => ?_) fun t ht => ht.1.database
  obtain ⟨⟨hnoted, -⟩, halarmed⟩ := ht
  refine Ends.bind (ends_add (fun ref db hadd => ?_) hnoted.database)
  obtain ⟨-, hplace⟩ := Database.addParameterType_eq_ok.mp hadd
  obtain ⟨rfl, rfl⟩ := Prod.mk.inj hplace
  refine ⟨r, q, hr, hfind, .inr ⟨hdone, checks, type, coding, copy, hchecks, htype, hcoding, ?_,
    halarmed.value, halarmed.labels, fun hkind hfits => halarmed.fits hkind ?_⟩⟩
  · show t.database.parameterTypes.push copy = _
    rw [hnoted.database]
  · exact ⟨hfits.numeric, hfits.enumeration⟩

/-- A record of limits that names a label that its parameter does not have. It is accepted, its
checks are coded as labels, and one of those with a form in a type has a label that no value of the
parameter has. -/
def NamesUnknownLabel (turn : Row × Draft TelemetryState) : Prop :=
  ∃ r q checks type t, LimitRecord.ofRow turn.1 = .ok r ∧
    turn.2.database.parameters.find? r.parameter = some q ∧ ¬ r.PassedOver turn.2 ∧
    turn.2.stage.limitChecks.find? r.parameter = some checks ∧
    turn.2.database.typeOf? q = some type ∧ codingFor? r type.value = some .labels ∧
    attachLimits turn.1 turn.2 = .ok () t ∧
    ∃ check ∈ checks, check.isSupported = true ∧
      ∃ label, check.low = some label ∧ ¬ type.value.HasLabel label

/-- The copy that a record brings is labelled if the type was, unless a label is unknown. -/
theorem Alarmed.labelled {coding : LimitCoding} {checks : List LimitCheck}
    {type copy : ParameterType}
    (h : Alarmed coding (namedLabels coding type.value checks) type copy)
    (htype : type.AlarmsLabelled)
    (hknown : coding = .labels → ∀ check ∈ checks, check.isSupported = true →
      ∀ label, check.low = some label → type.value.HasLabel label) : copy.AlarmsLabelled := by
  intro label hlabel
  rw [h.value]
  rw [h.labels, List.mem_append] at hlabel
  rcases hlabel with hold | hnew
  · exact htype label hold
  · obtain ⟨check, hcheck, hnamed⟩ := List.mem_filterMap.mp hnew
    obtain ⟨hmem, hsupported⟩ := List.mem_filter.mp hcheck
    rcases namedLabel?_eq_some hnamed with hhas | ⟨hcoding, hlow⟩
    · exact hhas
    · exact hknown hcoding check hmem hsupported label hlow

/-- A copy that is labelled has no label that is unknown. -/
theorem Alarmed.known {checks : List LimitCheck} {type copy : ParameterType}
    (h : Alarmed .labels (namedLabels .labels type.value checks) type copy)
    (hcopy : copy.AlarmsLabelled) {check : LimitCheck} (hmem : check ∈ checks)
    (hsupported : check.isSupported = true) {label : String} (hlow : check.low = some label) :
    type.value.HasLabel label := by
  rw [← h.value]
  refine hcopy label ?_
  rw [h.labels, List.mem_append]
  refine .inr (List.mem_filterMap.mpr ⟨check, List.mem_filter.mpr ⟨hmem, hsupported⟩, ?_⟩)
  exact namedLabel?_labels hlow

/-! ## All records -/

/-- A later database that has all types of the earlier one. -/
def ExtendsTypes (db db' : Database) : Prop :=
  ∀ r x, db.parameterTypes.get? r = some x → db'.parameterTypes.get? r = some x

instance : Std.Refl ExtendsTypes := ⟨fun _ _ _ h => h⟩

instance : IsTrans Database ExtendsTypes := ⟨fun _ _ _ h h' r x hx => h' r x (h r x hx)⟩

theorem extends_attachLimits (row : Row) : Steps (OnDatabase ExtendsTypes) (attachLimits row) := by
  intro d
  have hsame {t : Draft TelemetryState} (h : t.database = d.database) :
      OnDatabase ExtendsTypes d t := by
    unfold OnDatabase
    rw [h]
    exact Std.Refl.refl _
  refine (attachLimits_labels row d).mono (fun _ t _ ht => ?_) fun t => hsame
  obtain ⟨_, _, -, -, ⟨-, ht⟩ | ⟨-, _, _, _, copy, -, -, -, ht, -⟩⟩ := ht
  · exact hsame ht
  · intro r x hx
    rw [ht]
    exact Catalog.get?_push_of_some hx copy

/-- The type of a parameter is one of all types. -/
theorem allTypes_typeOf? {P : ParameterType → Prop} {db : Database} (h : db.AllTypes P)
    {q : ParameterRef} {x : ParameterType} (hx : db.typeOf? q = some x) : P x := by
  obtain ⟨p, -, hp⟩ := Option.bind_eq_some_iff.mp hx
  exact h p.type x hp

/-- **Records of limits keep alarms of the kind of the values.** -/
theorem attachLimits_fits (row : Row) (hall : d.database.AllTypes ParameterType.AlarmFits) :
    Ends (attachLimits row) d (fun _ t => t.database.AllTypes ParameterType.AlarmFits)
      fun t => t.database.AllTypes ParameterType.AlarmFits := by
  refine (attachLimits_labels row d).mono (fun _ t _ ht => ?_) fun t ht => ht ▸ hall
  obtain ⟨r, q, -, -, ⟨-, ht⟩ | ⟨-, checks, type, coding, copy, -, htype, hcoding, ht, halarmed⟩⟩ :=
    ht
  · exact ht ▸ hall
  · have hcopy := halarmed.fits (codingFor?_kind hcoding) (allTypes_typeOf? hall htype)
    unfold Database.AllTypes
    rw [ht]
    exact Catalog.forall_get?_push.mpr ⟨hall, hcopy⟩

/-- **A run of records leaves all alarms labelled, exactly if none of them names an unknown label**,
where they were labelled before. -/
theorem attachAll_labelled_iff {rows : List Row} {d' : Draft TelemetryState}
    (hrun : inTurn setting attachLimits rows d = .ok () d')
    (hbefore : d.database.AllTypes ParameterType.AlarmsLabelled) :
    d'.database.AllTypes ParameterType.AlarmsLabelled ↔
      ∀ turn ∈ turns setting attachLimits rows d, ¬ NamesUnknownLabel turn := by
  constructor
  · rintro hall turn hturn
      ⟨r, q, checks, type, t, hr, hfind, hdone, hchecks, htype, hcoding, ht, check, hmem,
        hsupported, label, hlow, hunknown⟩
    -- the copy of this record is still there in the end
    have hlater := (turn_related (R := OnDatabase ExtendsTypes) (fun _ _ => Std.Refl.refl _)
      extends_attachLimits hrun turn hturn).2 t ht
    obtain ⟨r', q', hr', hfind', hover | ⟨-, checks', type', coding, copy, hchecks', htype',
      hcoding', hpush, halarmed⟩⟩ := (attachLimits_labels turn.1 turn.2).of_ok ht
    · cases hr.symm.trans hr'
      exact hdone hover.1
    · cases hr.symm.trans hr'
      cases hfind.symm.trans hfind'
      cases hchecks.symm.trans hchecks'
      cases htype.symm.trans htype'
      cases hcoding.symm.trans hcoding'
      have hthere : t.database.parameterTypes.get? turn.2.database.parameterTypes.next =
          some copy := by
        rw [hpush]
        exact Catalog.get?_push_next _ _
      exact hunknown (halarmed.known (hall _ copy (hlater _ copy hthere)) hmem hsupported hlow)
  · intro hnone
    by_contra hafter
    have hrefused (row : Row) (d : Draft TelemetryState) (e : Error) (u : Draft TelemetryState)
        (hfails : attachLimits row d = .error e u) : u.database = d.database :=
      (ends_iff.mp (attachLimits_labels row d)).2 e u hfails
    -- a type that is not labelled has come with some record
    obtain ⟨turn, hturn, hfirst, t, ht, hlast⟩ := exists_turn
      (P := fun d : Draft TelemetryState => ¬ d.database.AllTypes ParameterType.AlarmsLabelled)
      (fun _ _ h => h) (fun row d e u hfails h => hrefused row d e u hfails ▸ h) hrun
      (not_not_intro hbefore) hafter
    have hfirst := not_not.mp hfirst
    obtain ⟨r, q, hr, hfind, ⟨-, hsame⟩ | ⟨hdone, checks, type, coding, copy, hchecks, htype,
      hcoding, hpush, halarmed⟩⟩ := (attachLimits_labels turn.1 turn.2).of_ok ht
    · exact hlast (hsame ▸ hfirst)
    · refine hlast ?_
      unfold Database.AllTypes
      rw [hpush]
      refine Catalog.forall_get?_push.mpr ⟨hfirst, halarmed.labelled
        (allTypes_typeOf? hfirst htype) fun hlabels check hmem hsupported label hlow => ?_⟩
      by_contra hunknown
      exact hnone turn hturn ⟨r, q, checks, type, t, hr, hfind, hdone, hchecks, htype,
        hlabels ▸ hcoding, ht, check, hmem, hsupported, label, hlow, hunknown⟩

/-- **Attaching context calibrators keeps what does not depend on them.** -/
theorem keepsAll_attachContextCalibrators {P : ParameterType → Prop}
    (hP : ∀ x calibrators, P (x.calibrated (.contexts calibrators)) ↔ P x) :
    Steps (OnDatabase (Database.KeepsAll P)) (attachContextCalibrators setting) := by
  unfold attachContextCalibrators
  refine steps_stage.bind fun state => steps_forM (fun name => ?_) _
  refine Steps.recover (fun _ _ => Iff.rfl) fun d => ?_
  refine (attachContexts_ends name d).mono (fun _ t _ ht => ?_) fun t ht => ht ▸ Iff.rfl
  obtain rfl | ⟨q, p, calibrators, -, -, -, -, rfl⟩ := ht
  · exact Iff.rfl
  · refine ⟨fun hall r x hx => ?_, fun hall r y hy => ?_⟩
    · obtain ⟨y, hy, hxy⟩ := Catalog.exists_get?_modify hx p.type
        fun type => type.calibrated (.contexts calibrators)
      rcases hxy with rfl | rfl
      · exact (hP x calibrators).mp (hall r _ hy)
      · exact hall r _ hy
    · obtain ⟨x, hx, ⟨-, rfl⟩ | ⟨-, rfl⟩⟩ := Catalog.get?_modify_eq_some hy
      · exact (hP x calibrators).mpr (hall r x hx)
      · exact hall r _ hx

/-- Nothing between the declarations and the limits brings an alarm. -/
theorem unalarmed_beforeLimits {compiler : Option FormulaCompiler}
    {declared computed contextual laidOut : Draft TelemetryState}
    (h : declared.database.AllTypes (·.alarm = none))
    (hcomputed : compileSynthetic setting compiler declared = .ok () computed)
    (hcontextual : attachContextCalibrators setting computed = .ok () contextual)
    (hlaidOut : beforeLimits setting contextual = .ok () laidOut) :
    laidOut.database.AllTypes (·.alarm = none) := by
  have h₁ : computed.database.AllTypes (·.alarm = none) :=
    (Database.keepsAll_of_eq ((untouched_compileSynthetic compiler).of_ok hcomputed).types).mpr h
  have h₂ : contextual.database.AllTypes (·.alarm = none) :=
    ((keepsAll_attachContextCalibrators fun _ _ => Iff.rfl).of_ok hcontextual).mpr h₁
  exact (Supplement.induct (R := Database.KeepsAll (·.alarm = none))
    (supplies_beforeLimits.of_ok hlaidOut).database
    fun _ _ => Database.keepsAll_of_supplement fun _ => rfl).mpr h₂

end Telemetry

variable {config : Config} {files : Files} {compiler : Option FormulaCompiler} {out : Compiled}

/-- Where the limits begin, no type has an alarm. -/
theorem Course.Parts.laidOut_unalarmed {course : Course config files compiler out}
    (parts : course.Parts) : parts.laidOut.database.AllTypes (·.alarm = none) :=
  Telemetry.unalarmed_beforeLimits (fun r x hx => (parts.declared_plain r x hx).alarm)
    parts.computed_eq parts.contextual_eq parts.laidOut_eq

/--
**Alarms fit the types that have them, and are labelled but for one kind of record.**

In a compiled database numeric alarms belong to numbers and alarms of enumerations to enumerations.
Every label that raises an alarm is the label of some values of its type, exactly if no record of
limits, at its turn, names a label that its parameter does not have.
-/
theorem compile_alarms (h : compile config files compiler = .ok out) :
    ∃ (course : Course config files compiler out) (parts : course.Parts),
      out.database.AllTypes ParameterType.AlarmFits ∧
      (out.database.AllTypes ParameterType.AlarmsLabelled ↔
        ∀ turn ∈ turns course.setting Telemetry.attachLimits parts.limits parts.laidOut,
          ¬ Telemetry.NamesUnknownLabel turn) := by
  obtain ⟨course⟩ := exists_course h
  obtain ⟨parts⟩ := course.exists_parts
  have hbegin := parts.laidOut_unalarmed
  have hend (P : ParameterType → Prop) (hP : ∀ size, P (unsignedType size)) :
      out.database.AllTypes P ↔ course.telemetry.database.AllTypes P := by
    rw [course.database_eq]
    exact Supplement.induct (R := Database.KeepsAll P)
      (Commanding.furnishes_buildCommands.of_ok course.commanding_eq).supplements
      fun _ _ => Database.keepsAll_of_supplement hP
  have hplain (size : Nat) : (unsignedType size).alarm = none := rfl
  refine ⟨course, parts, ?_, ?_⟩
  · rw [hend _ fun size => ParameterType.alarmFits_of_none (hplain size)]
    let fits (d : Draft TelemetryState) : Prop := d.database.AllTypes ParameterType.AlarmFits
    refine (ends_forM_mem (I := fits) (E := fits) (fun row _ d hall => ?_)
      fun r x hx => ?_).of_ok parts.telemetry_eq
    · exact (Telemetry.attachLimits_fits row hall).recover fun _ _ h => h
    · exact ParameterType.alarmFits_of_none (hbegin r x hx)
  · rw [hend _ fun size => ParameterType.alarmsLabelled_of_none (hplain size)]
    exact Telemetry.attachAll_labelled_iff parts.telemetry_eq
      fun r x hx => ParameterType.alarmsLabelled_of_none (hbegin r x hx)

/-- An enumeration with one label, and a check on another label. -/
def unknownLabelFiles : Files :=
  .ofTables "m" [
    ("vdf", "TEST\n"),
    ("txf", "TX\ttext\tU\t1\n"),
    ("txp", "TX\t1\t1\tON\n"),
    ("pcf", "P\t\t\t\t3\t4\t\t\t\tS\tR\tTX\n"),
    ("ocp", "P\t1\tH\tNOPE\n"),
    ("ocf", "P\t1\t1\tU\tA\n")]

/-- The label is unknown, and the record is accepted without an error. -/
theorem unknownLabel_raised :
    ∃ (out : Compiled) (course : Course { path := "m" } unknownLabelFiles none out)
      (parts : course.Parts),
      compile { path := "m" } unknownLabelFiles none = .ok out ∧ out.errors = [] ∧
      out.warnings = [] ∧ ¬ out.database.AllTypes ParameterType.AlarmsLabelled ∧
      ∃ turn ∈ turns course.setting Telemetry.attachLimits parts.limits parts.laidOut,
        Telemetry.NamesUnknownLabel turn := by
  have hok : ((compile { path := "m" } unknownLabelFiles none).toOption.any fun out =>
      decide (out.errors.isEmpty ∧ out.warnings = []) &&
        (out.database.typeOf? ⟨0⟩).any fun t =>
          decide (t.alarmLabels = ["NOPE"]) && t.value.labels?.any fun l =>
            decide (l.values.map (·.label) = ["ON"] ∧ l.ranges.map (·.label) = [])) = true := by
    decide +kernel
  obtain ⟨out, hout, hfacts⟩ := (Option.any_eq_true _ _).mp hok
  obtain ⟨hclean, hfacts⟩ := (Bool.and_eq_true _ _).mp hfacts
  obtain ⟨herrors, hwarnings⟩ := of_decide_eq_true hclean
  obtain ⟨t, ht, hfacts⟩ := (Option.any_eq_true _ _).mp hfacts
  obtain ⟨hlabels, hfacts⟩ := (Bool.and_eq_true _ _).mp hfacts
  obtain ⟨l, hl, hfacts⟩ := (Option.any_eq_true _ _).mp hfacts
  obtain ⟨hvalues, hranges⟩ := of_decide_eq_true hfacts
  have hrun := eq_ok_of_toOption hout
  obtain ⟨course, parts, -, hiff⟩ := compile_alarms hrun
  have hnot : ¬ out.database.AllTypes ParameterType.AlarmsLabelled := by
    intro hall
    have hmem : "NOPE" ∈ t.alarmLabels := by
      rw [of_decide_eq_true hlabels]
      exact List.mem_singleton_self _
    obtain ⟨l', hl', hhas⟩ := Telemetry.allTypes_typeOf? hall ht "NOPE" hmem
    cases hl.symm.trans hl'
    unfold Labels.Has at hhas
    rw [hvalues, hranges] at hhas
    exact absurd hhas (by decide)
  refine ⟨out, course, parts, hrun, List.isEmpty_iff.mp herrors, hwarnings, hnot, ?_⟩
  by_contra hnone
  exact hnot (hiff.mpr fun turn hturn hnames => hnone ⟨turn, hturn, hnames⟩)

end MissionBase
