import MissionBase.Proofs.Algorithms
import MissionBase.Proofs.Refusals.Basic
import MissionBase.Proofs.Telemetry.AlarmLabels
import MissionBase.Proofs.Telemetry.HiddenErrors

/-!
# Refusals that the telemetry stage never makes

The stage looks whether a name is free before it adds a type, a parameter or an algorithm, and
whether an alarm is of the kind of its type before it gets another range or label. It never finds
that it is not so: what it adds under a name of its own has a name that was searched for, what has
the name of a declaration is new because the declaration is, and alarms have the kind of the values
that they are of. So whatever is refused, is refused for what the tables say.
-/

namespace MissionBase

open Run

namespace Telemetry

variable {setting : Setting} {compiler : Option FormulaCompiler} {formulas : FormulaCompiler}
  {d t u : Draft TelemetryState} {r : ParameterRecord} {row : Row}

/-! ## Names of types -/

/-- **Finding the type of a declaration fails only where the type cannot be built**: a new type gets
a name that is free. -/
theorem raises_typeFor (r : ParameterRecord) (d : Draft TelemetryState) :
    Raises (typeFor setting r) d fun e =>
      ∃ t, r.buildType setting d.stage.calibrations d = .error e t := by
  intro e t hrun
  by_cases hfind : d.stage.calibrations.hasContext r.name = false →
      d.stage.sharedTypes.find? (TypeKey.ofRecord r) = none
  · obtain ⟨-, hbuilt⟩ := typeFor_eq_of_none setting hfind
    cases hbuild : r.buildType setting d.stage.calibrations d with
    | error e' u =>
        rw [(typeFor_eq_of_none setting hfind).1 e' u hbuild] at hrun
        cases hrun
        exact ⟨t, rfl⟩
    | ok type u =>
        obtain ⟨ref, v, hok, -⟩ := hbuilt type u hbuild
        rw [hok] at hrun
        cases hrun
  · obtain ⟨hplain, hsome⟩ := Classical.not_imp.mp hfind
    obtain ⟨ref, href⟩ := Option.ne_none_iff_exists'.mp hsome
    rw [typeFor_eq_of_find? hplain href] at hrun
    cases hrun

/-- **Attaching checks fails only where a check cannot be used**: the copy of a type gets a name
that is free. -/
theorem raises_attachChecks (row : Row) (r : LimitRecord) (q : ParameterRef) (coding : LimitCoding)
    (checks : List LimitCheck) (type : ParameterType) (d : Draft TelemetryState) :
    Raises (attachChecks row r q coding checks type) d fun e =>
      ∃ t, withChecks coding r.violations checks
        { type with name := d.database.uniqueTypeName type.name } d = .error e t := by
  unfold attachChecks
  refine Raises.database (Raises.bind (fun e t h => ⟨t, h⟩) fun alarmed t hrun => ?_)
  obtain ⟨hnoted, alarm, rfl⟩ := withChecks_ends.of_ok hrun
  refine Raises.bind (raises_add fun dup hdup => ?_) fun _ _ _ => raises_modify
  -- the checks change neither the database nor the name
  obtain ⟨htaken, -⟩ := Catalog.map_add_eq_error.mp hdup
  rw [hnoted.database] at htaken
  exact absurd htaken (Bool.eq_false_iff.mp (has_uniqueTypeName _ _))

/-! ## Names of parameters -/

/-- Why a declaration is refused: its name is taken by another one, it is to be deduced from
nothing, or its type cannot be built. -/
inductive DeclarationRefused (setting : Setting) (d : Draft TelemetryState) (r : ParameterRecord)
    (e : Error) : Prop where
  | duplicate : (d.stage.declared.has r.name || d.stage.deduced.has r.name ||
        d.stage.savedSynthetic.contains r.name) = true →
      e = r.dataError s!"duplicate parameter '{r.name}'" → DeclarationRefused setting d r e
  | unrelated : r.ptc = 11 → r.related = none →
      e = r.dataError s!"deduced parameter '{r.name}' has no PCF_RELATED" →
      DeclarationRefused setting d r e
  | type {t : Draft TelemetryState} : r.buildType setting d.stage.calibrations d = .error e t →
      DeclarationRefused setting d r e

/-- **A declaration is refused for nothing else**: no parameter has the name of one that is new. -/
theorem raises_declare {calibrations : Registry} (h : Shared setting calibrations d) :
    Raises (declare setting r) d (DeclarationRefused setting d r) := by
  unfold declare
  refine Raises.stage ?_
  dsimp only
  refine Raises.ite (fun htaken => raises_throw (.duplicate htaken rfl)) fun hnew => ?_
  refine Raises.ite (fun _ => raises_modify) fun _ => Raises.ite (fun hptc => ?_) fun _ => ?_
  · refine Raises.ite (fun hnone => ?_) fun _ => raises_modify
    exact raises_throw (.unrelated hptc (Option.isNone_iff_eq_none.mp hnone) rfl)
  · unfold addDeclared
    refine Raises.bind (fun e t htype => ?_) fun ref t htype => ?_
    · obtain ⟨u, hbuild⟩ := raises_typeFor r d e t htype
      exact .type hbuild
    · have hfresh : d.stage.declared.find? r.name = none := by
        rw [Bool.or_assoc, Bool.or_eq_true, not_or] at hnew
        simpa [Index.has] using hnew.1
      refine Raises.bind (raises_add fun dup hdup => ?_) fun _ _ _ => ?_
      · obtain ⟨htaken, -⟩ := Catalog.map_add_eq_error.mp hdup
        rw [((typeFor_ends h).of_ok htype).parameters] at htaken
        exact absurd htaken (Bool.eq_false_iff.mp (h.free hfresh))
      · cases r.onBoardId with
        | some id => exact raises_modify.bind fun _ _ _ => raises_modify
        | none => exact raises_modify

/-! ## What the declarations leave -/

/-- What holds between two declarations: no type has an alarm, there is no algorithm, and the names
of synthetic parameters are those of different declarations. -/
structure Declaring (d : Draft TelemetryState) : Prop where
  unalarmed : d.database.AllTypes (·.alarm = none)
  algorithms : d.database.algorithms = {}
  distinct : d.stage.synthetic.Nodup
  declared : ∀ name ∈ d.stage.synthetic, d.stage.declared.has name = true

/-- What finding a type leaves alone. -/
structure Finding (d t : Draft TelemetryState) : Prop where
  unalarmed : d.database.AllTypes (·.alarm = none) → t.database.AllTypes (·.alarm = none)
  algorithms : t.database.algorithms = d.database.algorithms
  synthetic : t.stage.synthetic = d.stage.synthetic
  declared : t.stage.declared = d.stage.declared

theorem Noted.finding (h : Noted d t) : Finding d t :=
  ⟨fun hall => h.database ▸ hall, by rw [h.database], by rw [h.stage], by rw [h.stage]⟩

/-- A type without alarms may be added, and remembered. -/
theorem Finding.push (h : Finding d t) {type : ParameterType}
    (hdb : u.database =
      { t.database with parameterTypes := t.database.parameterTypes.push type })
    (hstage : ∃ types, u.stage = { t.stage with sharedTypes := types })
    (htype : type.alarm = none) : Finding d u := by
  obtain ⟨types, hstage⟩ := hstage
  refine ⟨fun hall => ?_, ?_, ?_, ?_⟩
  · rw [hdb]
    exact Catalog.forall_get?_push.mpr ⟨h.unalarmed hall, htype⟩
  · rw [hdb]
    exact h.algorithms
  · rw [hstage]
    exact h.synthetic
  · rw [hstage]
    exact h.declared

theorem typeFor_finding (r : ParameterRecord) (d : Draft TelemetryState) :
    Ends (typeFor setting r) d (fun _ => Finding d) (Finding d) := by
  have hrefl : Noted d d := Std.Refl.refl d
  refine ends_typeFor (fun _ _ _ => hrefl.finding) (fun _ => Noted.finding)
    fun type name t hrun _ => ?_
  exact hrefl.finding.push rfl ⟨_, typeKept_eq _ _ _⟩ (ParameterRecord.plain_buildType hrun).alarm

theorem Declaring.found (h : Declaring d) (ht : Finding d t) : Declaring t :=
  ⟨ht.unalarmed h.unalarmed, ht.algorithms.trans h.algorithms, ht.synthetic ▸ h.distinct,
    fun name hname => ht.declared ▸ h.declared name (ht.synthetic ▸ hname)⟩

/-- A declaration that is new adds its name to those that are there. -/
theorem Declaring.add (h : Declaring t) (hfresh : t.stage.declared.find? r.name = none)
    (htypes : u.database.parameterTypes = t.database.parameterTypes)
    (hnone : u.database.algorithms = t.database.algorithms)
    (hstage : u.stage = { t.stage with
      synthetic := if r.isSynthetic then t.stage.synthetic ++ [r.name] else t.stage.synthetic
      declared := t.stage.declared.set r.name r }) : Declaring u := by
  have hnew : r.name ∉ t.stage.synthetic := by
    intro hmem
    have hhas := h.declared _ hmem
    rw [Index.has, hfresh] at hhas
    cases hhas
  refine ⟨?_, hnone.trans h.algorithms, ?_, fun name hname => ?_⟩
  · unfold Database.AllTypes
    rw [htypes]
    exact h.unalarmed
  · rw [hstage]
    dsimp only
    split
    · exact List.nodup_append.mpr ⟨h.distinct, List.nodup_singleton _, fun a ha b hb heq =>
        hnew (List.mem_singleton.mp hb ▸ heq ▸ ha)⟩
    · exact h.distinct
  · rw [hstage] at hname ⊢
    refine Index.has_set r ?_
    dsimp only at hname
    split at hname
    · rcases List.mem_append.mp hname with hold | hlast
      · exact .inl (h.declared name hold)
      · exact .inr (List.mem_singleton.mp hlast)
    · exact .inl (h.declared name hname)

/-- **A declaration keeps what holds between declarations**, however it ends. -/
theorem declare_declaring (h : Declaring d) :
    Ends (declare setting r) d (fun _ => Declaring) Declaring := by
  have htype : Ends (typeFor setting r) d (fun _ => Finding d) Declaring :=
    (typeFor_finding r d).mono (fun _ _ _ ht => ht) fun _ => h.found
  refine ends_declare h (fun _ _ => ⟨h.unalarmed, h.algorithms, h.distinct, h.declared⟩)
    fun hfresh => ends_addDeclared htype (fun _ _ ht _ => h.found ht) fun ref t ht _ => ?_
  rw [← ht.declared] at hfresh
  exact (h.found ht).add hfresh rfl rfl rfl

/-! ## Names of algorithms -/

/-- The work on the name of a synthetic parameter. -/
def synthesize (setting : Setting) (formulas : FormulaCompiler)
    (declared : Index String ParameterRecord) (name : String) : TelemetryBuild Unit :=
  match declared.find? name with
  | some record => Build.recover setting (addSynthetic setting formulas name record.location)
  | none => pure ()

/-- With a compiler of formulas, the pass over synthetic parameters is this work on every name. -/
theorem compileSynthetic_eq (d : Draft TelemetryState) :
    compileSynthetic setting (some formulas) d =
      d.stage.synthetic.forM (synthesize setting formulas d.stage.declared) d := by
  unfold compileSynthetic
  rw [show ∀ f : TelemetryState → TelemetryBuild Unit, (Build.stage >>= f) d = f d.stage d from
    fun _ => rfl]
  cases d.stage.synthetic <;> rfl

/-- **An algorithm is refused for its formula**, where none has its name. -/
theorem raises_addSynthetic {name : String} (hfree : d.database.algorithms.has name = false)
    (location : Location) :
    Raises (addSynthetic setting formulas name location) d fun e =>
      formulaText setting name location = .error e ∨
        ∃ source, formulaText setting name location = .ok source ∧
          syntheticAlgorithm d.database formulas name source = .error e := by
  unfold addSynthetic
  refine Raises.lift (fun e he => .inl he) fun source hsource => ?_
  refine Raises.database (Raises.lift (fun e he => .inr ⟨source, hsource, he⟩) fun a ha => ?_)
  refine Raises.bind (raises_add fun dup hdup => ?_) fun _ _ _ => raises_pure
  obtain ⟨htaken, -⟩ := Catalog.map_add_eq_error.mp hdup
  rw [show Named.name a = name from (syntheticAlgorithm_named ha).2, hfree] at htaken
  cases htaken

/-- The work on a name brings an algorithm of this name, if any. -/
theorem synthesize_brings {declared : Index String ParameterRecord} (name : String)
    (d : Draft TelemetryState) :
    Ends (synthesize setting formulas declared name) d
      (fun _ t => ∀ x, t.database.algorithms.has x = true →
        d.database.algorithms.has x = true ∨ x = name) fun _ => True := by
  unfold synthesize
  split
  · refine (Ends.recover (fun _ _ h => h) ?_).mono (fun _ _ _ h => h) fun _ _ => trivial
    have hsame (x : String) (hx : d.database.algorithms.has x = true) :
        d.database.algorithms.has x = true ∨ x = name := .inl hx
    unfold addSynthetic
    refine Ends.bind (ends_lift (fun source _ => Ends.bind (ends_database ?_)) hsame)
    refine Ends.bind (ends_lift (fun a ha => Ends.bind (ends_add (fun ref db hadd => ?_) hsame))
      hsame)
    obtain ⟨-, heq⟩ := Catalog.map_add_eq_ok.mp hadd
    cases heq
    intro x hx
    exact (Catalog.eq_or_has_of_has_push hx).imp id (·.trans (syntheticAlgorithm_named ha).2)
  · exact fun x hx => .inl hx

/-- **No algorithm has the name whose turn it is**, if no name comes twice: the algorithms are those
of the names before it. -/
theorem synthesize_free {names before after : List String} {name : String}
    {declared : Index String ParameterRecord} (hnames : names.Nodup)
    (hsplit : names = before ++ name :: after) (hnone : d.database.algorithms = {})
    (hrun : before.forM (synthesize setting formulas declared) d = .ok () t) :
    t.database.algorithms.has name = false := by
  let Seen (rest : List String) (t : Draft TelemetryState) : Prop :=
    ∃ seen, before = seen ++ rest ∧ ∀ x, t.database.algorithms.has x = true → x ∈ seen
  have hall : Ends (before.forM (synthesize setting formulas declared)) d (fun _ => Seen [])
      fun _ => True := by
    refine ends_forM (I := Seen) (fun other rest u hu => ?_) ⟨[], rfl, fun x hx => ?_⟩
    · obtain ⟨seen, hseen, hu⟩ := hu
      refine (synthesize_brings other u).mono (fun _ v _ hv => ?_) fun _ h => h
      refine ⟨seen ++ [other], by rw [hseen, List.append_assoc]; rfl, fun x hx => ?_⟩
      rw [List.mem_append, List.mem_singleton]
      exact (hv x hx).imp (hu x) id
    · rw [hnone] at hx
      obtain ⟨r, a, ha, -⟩ := Catalog.exists_of_has hx
      cases ha
  obtain ⟨seen, hseen, ht⟩ := hall.of_ok hrun
  rw [List.append_nil] at hseen
  rw [Bool.eq_false_iff]
  intro htaken
  have hmem : name ∈ before := hseen ▸ ht name htaken
  rw [hsplit] at hnames
  exact (List.nodup_append.mp hnames).2.2 name hmem name List.mem_cons_self rfl

/-! ## Kinds of alarms -/

/-- Why a check is refused: its condition names no parameter, one of its bounds is no number, or it
names no label. -/
inductive CheckRefused (db : Database) (coding : LimitCoding) (value : ValueType)
    (check : LimitCheck) (e : Error) : Prop where
  | condition : checkContext db check = .error e → CheckRefused db coding value check e
  | bound {text : Option String} : coding = .numeric → text = check.low ∨ text = check.high →
      bound check text = .error e → CheckRefused db coding value check e
  | label : coding ≠ .numeric → checkLabel check coding value = .error e →
      CheckRefused db coding value check e

/-- No value is a number and one of an enumeration. -/
theorem not_isEnumerated {value : ValueType} (h : value.isNumeric = true) :
    ¬ value.isEnumerated = true := by
  cases value with
  | integer size isSigned => exact Bool.false_ne_true
  | float size => exact Bool.false_ne_true
  | _ => cases h

/-- A number has room for ranges. -/
theorem exists_changeRangeAlarm? {type : ParameterType} (hkind : type.value.isNumeric = true)
    (hfits : type.AlarmFits) (context : Option Comparison) (change : RangeAlarm → RangeAlarm) :
    ∃ type', type.changeRangeAlarm? context change = some type' := by
  unfold ParameterType.changeRangeAlarm?
  cases halarm : type.alarm with
  | none => exact ⟨_, rfl⟩
  | some alarm =>
      cases alarm with
      | numeric alarms => exact ⟨_, rfl⟩
      | enumeration items => exact absurd (hfits.enumeration items halarm) (not_isEnumerated hkind)

/-- An enumeration has room for labels. -/
theorem exists_addLabelAlarm? {type : ParameterType} (hkind : type.value.isEnumerated = true)
    (hfits : type.AlarmFits) (item : LabelAlarm) :
    ∃ type', type.addLabelAlarm? item = some type' := by
  unfold ParameterType.addLabelAlarm?
  cases halarm : type.alarm with
  | none => exact ⟨_, rfl⟩
  | some alarm =>
      cases alarm with
      | enumeration items => exact ⟨_, rfl⟩
      | numeric alarms => exact absurd hkind (not_isEnumerated (hfits.numeric alarms halarm))

/-- **A check is refused for nothing else**: the alarm of the type is of the kind of the check. -/
theorem withCheck_eq_error {db : Database} {coding : LimitCoding} {violations : Nat}
    {type : ParameterType} {check : LimitCheck} {e : Error}
    (hkind : if coding = .numeric then type.value.isNumeric = true
      else type.value.isEnumerated = true)
    (hfits : type.AlarmFits) (h : withCheck db coding violations type check = .error e) :
    CheckRefused db coding type.value check e := by
  unfold withCheck at h
  rcases except_bind_eq_error.mp h with hcontext | ⟨context, -, h⟩
  · exact .condition hcontext
  dsimp only at h
  by_cases hcoding : coding = .numeric
  · rw [if_pos hcoding] at h hkind
    unfold withRange at h
    rcases except_bind_eq_error.mp h with hlow | ⟨low, -, h⟩
    · exact .bound hcoding (.inl rfl) hlow
    rcases except_bind_eq_error.mp h with hhigh | ⟨high, -, h⟩
    · exact .bound hcoding (.inr rfl) hhigh
    split at h
    · cases h
    · rename_i hnone
      obtain ⟨_, hsome⟩ := exists_changeRangeAlarm? hkind hfits context _
      cases hsome.symm.trans hnone
  · rw [if_neg hcoding] at h hkind
    unfold withLabel at h
    rcases except_bind_eq_error.mp h with hlabel | ⟨label?, -, h⟩
    · exact .label hcoding hlabel
    cases label? with
    | none => cases h
    | some label =>
        dsimp only at h
        split at h
        · cases h
        · rename_i hnone
          obtain ⟨_, hsome⟩ := exists_addLabelAlarm? hkind hfits _
          cases hsome.symm.trans hnone

/-- **Checks are refused for nothing else**: each leaves the alarm of the kind of the values. -/
theorem raises_withChecks {coding : LimitCoding} (violations : Nat) {type : ParameterType}
    (hfits : type.AlarmFits)
    (hkind : if coding = .numeric then type.value.isNumeric = true
      else type.value.isEnumerated = true) (checks : List LimitCheck) :
    Raises (withChecks coding violations checks type) d fun e =>
      ∃ check ∈ checks, check.isSupported = true ∧
        CheckRefused d.database coding type.value check e := by
  unfold withChecks
  induction checks generalizing type d with
  | nil => exact raises_pure
  | cons check rest ih =>
      rw [List.foldlM_cons]
      have hthen {type' : ParameterType} {t : Draft TelemetryState}
          (hvalue : type'.value = type.value) (hfits' : type'.AlarmFits)
          (hdb : t.database = d.database) :
          Raises (withChecks coding violations rest type') t fun e =>
            ∃ other ∈ check :: rest, other.isSupported = true ∧
              CheckRefused d.database coding type.value other e := by
        intro e u hrun
        have hkind' := hkind
        rw [← hvalue] at hkind'
        obtain ⟨other, hmem, hrefused⟩ := ih hfits' hkind' e u hrun
        rw [hdb, hvalue] at hrefused
        exact ⟨other, List.mem_cons_of_mem _ hmem, hrefused⟩
      by_cases hsupported : check.isSupported = true
      · rw [if_pos hsupported]
        refine Raises.bind (Raises.database (raises_lift fun e he => ?_)) fun type' t hrun => ?_
        · exact ⟨check, List.mem_cons_self, hsupported, withCheck_eq_error hkind hfits he⟩
        · obtain ⟨_, _, hdb, hlift⟩ := bind_eq_ok.mp hrun
          obtain ⟨rfl, rfl⟩ := database_eq_ok.mp hdb
          obtain ⟨hone, rfl⟩ := lift_eq_ok.mp hlift
          have halarmed := withCheck_alarmed hone
          exact hthen halarmed.value (halarmed.fits hkind hfits) rfl
      · rw [if_neg hsupported]
        refine Raises.bind (raises_modify.bind fun _ _ _ => raises_pure) fun type' t hrun => ?_
        obtain ⟨_, u, hnote, hpure⟩ := bind_eq_ok.mp hrun
        obtain ⟨rfl, rfl⟩ := pure_eq_ok.mp hpure
        rw [← modify_eq_ok.mp hnote]
        exact hthen rfl hfits rfl

/-- Why a record of limits is refused: it cannot be read, its parameter is unknown or has no checks,
its coding is not for values of the parameter, or one of its checks is refused. -/
inductive LimitsRefused (row : Row) (d : Draft TelemetryState) (e : Error) : Prop where
  | unread : LimitRecord.ofRow row = .error e → LimitsRefused row d e
  | unknown {r : LimitRecord} : LimitRecord.ofRow row = .ok r →
      d.database.parameters.find? r.parameter = none →
      e = row.reference s!"OCF references unknown parameter '{r.parameter}'" →
      LimitsRefused row d e
  | unchecked {r : LimitRecord} {q : ParameterRef} : LimitRecord.ofRow row = .ok r →
      d.database.parameters.find? r.parameter = some q →
      (∀ checks type, d.stage.limitChecks.find? r.parameter = some checks →
        d.database.typeOf? q ≠ some type) →
      e = row.reference s!"no OCP checks for parameter '{r.parameter}'" → LimitsRefused row d e
  | coding {r : LimitRecord} {q : ParameterRef} {type : ParameterType} :
      LimitRecord.ofRow row = .ok r → d.database.parameters.find? r.parameter = some q →
      d.database.typeOf? q = some type → codingFor? r type.value = none →
      e = row.data s!"OCF_CODIN '{r.coding}' does not apply to the type of '{r.parameter}'" →
      LimitsRefused row d e
  | check {r : LimitRecord} {q : ParameterRef} {type : ParameterType} {checks : List LimitCheck}
      {coding : LimitCoding} {check : LimitCheck} : LimitRecord.ofRow row = .ok r →
      d.database.parameters.find? r.parameter = some q → d.database.typeOf? q = some type →
      d.stage.limitChecks.find? r.parameter = some checks → codingFor? r type.value = some coding →
      check ∈ checks → check.isSupported = true →
      CheckRefused d.database coding type.value check e → LimitsRefused row d e

/-- **A record of limits is refused for nothing else**, where alarms fit the types that have
them. -/
theorem raises_attachLimits (row : Row) (hall : d.database.AllTypes ParameterType.AlarmFits) :
    Raises (attachLimits row) d (LimitsRefused row d) := by
  unfold attachLimits
  refine Raises.lift (fun e he => .unread he) fun r hr => ?_
  refine Raises.stage (Raises.database ?_)
  dsimp only
  split
  · rename_i hfind
    exact raises_throw (.unknown hr hfind rfl)
  · rename_i q hfind
    refine Raises.ite (fun _ => raises_modify) fun _ => ?_
    split
    · rename_i checks type hchecks htype
      refine Raises.ite (fun _ => raises_modify) fun _ => ?_
      split
      · rename_i coding hcoding
        intro e u hrun
        obtain ⟨v, hwith⟩ := raises_attachChecks row r q coding checks type d e u hrun
        have hfits := allTypes_typeOf? hall htype
        have hcopy : ({ type with name := d.database.uniqueTypeName type.name } :
            ParameterType).AlarmFits := ⟨hfits.numeric, hfits.enumeration⟩
        obtain ⟨check, hmem, hsupported, hrefused⟩ :=
          raises_withChecks r.violations hcopy (codingFor?_kind hcoding) checks e v hwith
        exact .check hr hfind htype hchecks hcoding hmem hsupported hrefused
      · rename_i hcoding
        exact raises_throw (.coding hr hfind htype hcoding rfl)
    · rename_i hnone
      exact raises_throw (.unchecked hr hfind hnone rfl)

/-! ## The stage -/

/-- What the stage does before the records of limits. -/
def beforeAlarms (setting : Setting) (compiler : Option FormulaCompiler) : TelemetryBuild Unit := do
  beforeContexts setting compiler
  attachContextCalibrators setting
  beforeLimits setting

/-- Whatever the stage refuses, from a draft on, is refused for a reason that is found in the
tables. -/
structure FoundedRefusals (setting : Setting) (compiler : Option FormulaCompiler)
    (d : Draft TelemetryState) : Prop where
  number : ∀ (r : ParameterRecord) calibrations e, 2 ≤ r.ptc ∧ r.ptc ≤ 5 →
    r.numericType calibrations setting.epoch = .error e → r.encoding = .error e ∨
      ∃ encoding, r.encoding = .ok encoding ∧ r.calibratedType calibrations encoding = .error e
  declaration : ∀ begun, loadCalibrations setting d = .ok () begun →
    ∀ row t, ScanReaches setting "pcf" (declareRow setting) begun row t →
      Raises (declareRow setting row) t fun e =>
        ParameterRecord.ofRow row setting.config.telemetry.sizeTagBytes = .error e ∨
          ∃ r, ParameterRecord.ofRow row setting.config.telemetry.sizeTagBytes = .ok r ∧
            DeclarationRefused setting t r e
  /-- The names of synthetic parameters have their turn one after the other. -/
  formulas : ∀ formulas begun, compileSynthetic setting (some formulas) begun =
    begun.stage.synthetic.forM (synthesize setting formulas begun.stage.declared) begun
  algorithm : ∀ begun,
    (do loadCalibrations setting; loadParameters setting : TelemetryBuild Unit) d = .ok () begun →
    ∀ formulas before name after t, begun.stage.synthetic = before ++ name :: after →
      before.forM (synthesize setting formulas begun.stage.declared) begun = .ok () t →
      ∀ location, Raises (addSynthetic setting formulas name location) t fun e =>
        formulaText setting name location = .error e ∨
          ∃ source, formulaText setting name location = .ok source ∧
            syntheticAlgorithm t.database formulas name source = .error e
  limits : ∀ begun, beforeAlarms setting compiler d = .ok () begun →
    ∀ row t, ScanReaches setting "ocf" attachLimits begun row t →
      Raises (attachLimits row) t (LimitsRefused row t)

/-- Where the declarations begin, there is nothing but calibrations. -/
theorem loadCalibrations_eq (hblank : d.database.Blank) (hstage : d.stage = {})
    (h : loadCalibrations setting d = .ok () t) :
    t.database.Blank ∧ t.stage = { calibrations := t.stage.calibrations } := by
  obtain ⟨u, hload, rfl⟩ := within_eq_ok.mp h
  have hsame := (Registry.loadTelemetry_sameDatabase setting _).of_ok hload
  have hsame : u.database = d.database := hsame
  exact ⟨hsame ▸ hblank, by rw [hstage]⟩

/-- What holds between declarations holds before the first one. -/
theorem declaring_start (hblank : d.database.Blank) (hstage : d.stage.synthetic = []) :
    Declaring d := by
  refine ⟨fun r x hx => ?_, ?_, by rw [hstage]; exact List.nodup_nil, fun name hname => ?_⟩
  · rw [hblank] at hx
    cases hx
  · rw [hblank]
  · rw [hstage] at hname
    cases hname

theorem loadParameters_declaring (hd : Declaring d) :
    Ends (loadParameters setting) d (fun _ => Declaring) Declaring :=
  loadParameters_keeps (fun _ _ h => ⟨h.unalarmed, h.algorithms, h.distinct, h.declared⟩)
    (fun _ _ h => declare_declaring h) hd

/-- **Where the records of limits begin, no type has an alarm.** -/
theorem beforeAlarms_unalarmed (hblank : d.database.Blank) (hstage : d.stage = {})
    (h : beforeAlarms setting compiler d = .ok () t) : t.database.AllTypes (·.alarm = none) := by
  obtain ⟨_, computed, hbefore, h⟩ := bind_eq_ok.mp h
  obtain ⟨_, contextual, hcontexts, hlimits⟩ := bind_eq_ok.mp h
  obtain ⟨_, calibrated, hcalibrations, hbefore⟩ := bind_eq_ok.mp hbefore
  obtain ⟨_, declared, hdeclarations, hcompute⟩ := bind_eq_ok.mp hbefore
  obtain ⟨hblank', hstage'⟩ := loadCalibrations_eq hblank hstage hcalibrations
  have hdeclared := (loadParameters_declaring
    (declaring_start hblank' (by rw [hstage']))).of_ok hdeclarations
  exact unalarmed_beforeLimits hdeclared.unalarmed hcompute hcontexts hlimits

/--
**All refusals of the stage are founded.**

Wherever a record has its turn, or the formula of a synthetic parameter, it is refused only for what
it says itself and for what is missing. The name of a new type, parameter or algorithm is never
taken, a number never lacks a natural type, and a check never meets an alarm of another kind.
-/
theorem foundedRefusals (compiler : Option FormulaCompiler) (hblank : d.database.Blank)
    (hstage : d.stage = {}) : FoundedRefusals setting compiler d where
  number _ _ _ hptc h := ParameterRecord.numericType_eq_error h hptc
  declaration begun hbegun row t hturn := by
    obtain ⟨hblank', hstage'⟩ := loadCalibrations_eq hblank hstage hbegun
    have hshared : Shared setting begun.stage.calibrations t := by
      refine hturn.keeps (fun _ _ h => h.noted ⟨rfl, rfl⟩) (fun row u hu => ?_)
        (shared_start (by rw [hblank']; rfl) hstage')
      exact Ends.bind (ends_lift (fun record _ => declare_ends hu) hu)
    unfold declareRow
    refine Raises.lift (fun e he => .inl he) fun r hr => ?_
    exact fun e u hrun => .inr ⟨r, hr, raises_declare hshared e u hrun⟩
  formulas _ begun := compileSynthetic_eq begun
  algorithm begun hbegun formulas before name after t hsplit hrun location := by
    obtain ⟨_, calibrated, hcalibrations, hdeclarations⟩ := bind_eq_ok.mp hbegun
    obtain ⟨hblank', hstage'⟩ := loadCalibrations_eq hblank hstage hcalibrations
    have hdeclared := (loadParameters_declaring
      (declaring_start hblank' (by rw [hstage']))).of_ok hdeclarations
    exact raises_addSynthetic
      (synthesize_free hdeclared.distinct hsplit hdeclared.algorithms hrun) location
  limits begun hbegun row t hturn := by
    refine raises_attachLimits row (hturn.keeps
      (P := fun t => t.database.AllTypes ParameterType.AlarmFits) (fun _ _ h => h)
      (fun row _ => attachLimits_fits row) fun r x hx => ?_)
    exact ParameterType.alarmFits_of_none (beforeAlarms_unalarmed hblank hstage hbegun r x hx)

end Telemetry

end MissionBase
