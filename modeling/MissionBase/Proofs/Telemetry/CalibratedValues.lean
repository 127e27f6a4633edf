import MissionBase.Proofs.DeclaredTypes
import MissionBase.Proofs.Telemetry.Operations

/-!
# The type and the calibrator of a calibrated number

A number is declared with the name of its calibration, and two things are looked up by this name:
the calibrator, among polynomials, curves and logarithms in this order, and the format of the
engineering values, among curves alone. Where both searches find the same calibration, the type of
the parameter is made from one thing. They come apart in one case, a name that is given both to a
polynomial and to a curve of integers (`Shadowed`): the polynomial becomes the calibrator, and its
values get the integer type of the curve.

A type is made when its declaration is read, or was made for an earlier declaration with the same
key, which names the same calibration. Later on context calibrators are written into it and limits
into a copy of it, and neither touches its value or its calibrator (`Retains`). So what the two
searches found is what the parameter has in the end.
-/

namespace MissionBase

open Run

/-! ## Two searches for one name -/

/-- A name that a polynomial and a curve of integers have in common. -/
def Registry.Shadowed (calibrations : Registry) (name : String) : Prop :=
  ∃ coefficients curve, calibrations.polynomials.find? name = some coefficients ∧
    calibrations.curves.find? name = some curve ∧
    (curve.engineeringFormat = 'I' ∨ curve.engineeringFormat = 'U')

/-- The engineering type of values goes with the calibrator that gives them: a polynomial or a
logarithm gives real values, and a curve gives values of its own format. -/
structure ParameterType.FromOne (type : ParameterType) (calibrations : Registry) (name : String) :
    Prop where
  polynomial : ∀ coefficients, type.calibrator = some (.polynomial coefficients) →
    type.value = .float 64
  logarithmic : ∀ coefficients, type.calibrator = some (.logarithmic coefficients) →
    type.value = .float 64
  spline : ∀ curve, type.calibrator = some (.spline curve) →
    ∃ definition, calibrations.curves.find? name = some definition ∧
      definition.calibrator = .spline curve ∧
      (definition.engineeringFormat = 'I' → type.value = .integer true 64) ∧
      (definition.engineeringFormat = 'U' → type.value = .integer false 64) ∧
      (definition.engineeringFormat = 'R' → type.value = .float 64)

/-- What the two searches for a name have found makes up a type. -/
structure ParameterType.LookedUp (type : ParameterType) (calibrations : Registry) (name : String) :
    Prop where
  calibrator : type.calibrator = calibrations.numeric? name
  found : type.calibrator.isSome = true
  value : type.value = CurveDefinition.valueType (calibrations.engineeringFormat? name)

namespace ParameterType

variable {type : ParameterType} {calibrations : Registry} {name : String}

/-- The engineering type of a curve is real but for a curve of integers. -/
theorem valueType_eq_float_iff {format : Char} :
    CurveDefinition.valueType (some format) = .float 64 ↔ ¬(format = 'I' ∨ format = 'U') := by
  unfold CurveDefinition.valueType
  by_cases hsigned : format = 'I'
  · simp [hsigned]
  · by_cases hunsigned : format = 'U'
    · simp [hunsigned]
    · simp [hsigned, hunsigned]

/-- Polynomials and logarithms ask for real values, and for nothing else. -/
theorem fromOne_iff_of_polynomial {coefficients : List Float}
    (h : type.calibrator = some (.polynomial coefficients)) :
    type.FromOne calibrations name ↔ type.value = .float 64 := by
  constructor
  · intro hone
    exact hone.polynomial coefficients h
  · intro hvalue
    exact ⟨fun _ _ => hvalue, fun _ _ => hvalue, fun curve hcurve => by simp [h] at hcurve⟩

theorem fromOne_of_logarithmic {coefficients : List Float}
    (h : type.calibrator = some (.logarithmic coefficients)) (hvalue : type.value = .float 64) :
    type.FromOne calibrations name :=
  ⟨fun _ _ => hvalue, fun _ _ => hvalue, fun curve hcurve => by simp [h] at hcurve⟩

theorem fromOne_of_curve {definition : CurveDefinition}
    (hfind : calibrations.curves.find? name = some definition)
    (h : type.calibrator = some definition.calibrator)
    (hvalue : type.value = CurveDefinition.valueType (some definition.engineeringFormat)) :
    type.FromOne calibrations name := by
  refine ⟨fun _ hother => ?_, fun _ hother => ?_, fun curve hcurve => ?_⟩
  · rw [h] at hother
    cases hother
  · rw [h] at hother
    cases hother
  · rw [h] at hcurve
    refine ⟨definition, hfind, Option.some.inj hcurve, fun heq => ?_, fun heq => ?_, fun heq => ?_⟩
    · rw [hvalue, heq]
      rfl
    · rw [hvalue, heq]
      rfl
    · rw [hvalue, heq]
      rfl

/-- **The two searches agree but for a polynomial before a curve of integers.** -/
theorem LookedUp.fromOne_iff (h : type.LookedUp calibrations name) :
    type.FromOne calibrations name ↔ ¬ calibrations.Shadowed name := by
  obtain ⟨hcalibrator, hfound, hvalue⟩ := h
  unfold Registry.numeric? Registry.resolve? at hcalibrator
  unfold Registry.engineeringFormat? at hvalue
  cases hpolynomial : calibrations.polynomials.find? name with
  | some coefficients =>
      rw [hpolynomial] at hcalibrator
      rw [fromOne_iff_of_polynomial hcalibrator]
      cases hcurve : calibrations.curves.find? name with
      | none =>
          rw [hcurve] at hvalue
          have hno : ¬ calibrations.Shadowed name := by
            rintro ⟨_, curve, -, hfind, -⟩
            rw [hcurve] at hfind
            cases hfind
          exact iff_of_true hvalue hno
      | some definition =>
          rw [hcurve, Option.map_some] at hvalue
          rw [hvalue, valueType_eq_float_iff, not_iff_not]
          constructor
          · intro hformat
            exact ⟨coefficients, definition, hpolynomial, hcurve, hformat⟩
          · rintro ⟨_, curve, -, hfind, hformat⟩
            rw [hcurve] at hfind
            cases hfind
            exact hformat
  | none =>
      rw [hpolynomial] at hcalibrator
      have hno : ¬ calibrations.Shadowed name := by
        rintro ⟨_, _, hfind, -⟩
        rw [hpolynomial] at hfind
        cases hfind
      refine iff_of_true ?_ hno
      cases hcurve : calibrations.curves.find? name with
      | some definition =>
          rw [hcurve] at hcalibrator hvalue
          exact fromOne_of_curve hcurve hcalibrator hvalue
      | none =>
          rw [hcurve] at hcalibrator hvalue
          cases hlogarithm : calibrations.logarithms.find? name with
          | some coefficients =>
              rw [hlogarithm] at hcalibrator
              exact fromOne_of_logarithmic hcalibrator hvalue
          | none =>
              -- labels are no numeric calibration
              rw [hlogarithm] at hcalibrator
              cases htext : calibrations.texts.find? name with
              | none => simp [hcalibrator, htext] at hfound
              | some text => simp [hcalibrator, htext, Calibration.numeric?] at hfound

end ParameterType

/-! ## The type that a declaration asks for -/

/-- A declaration of a number with a calibration. -/
structure ParameterRecord.Calibrated (r : ParameterRecord) (calibration : String) : Prop where
  category : r.category = 'N'
  codes : 2 ≤ r.ptc ∧ r.ptc ≤ 5
  calibration : r.calibration = some calibration

namespace ParameterRecord.Calibrated

variable {r : ParameterRecord} {calibration : String} {calibrations : Registry} {setting : Setting}

/-- **The type that a declaration asks for is made of what its name is looked up as.** -/
theorem buildType (h : r.Calibrated calibration) {σ : Type} {type : ParameterType}
    (hgives : Gives (r.buildType setting calibrations : Build σ ParameterType) type)
    (d : Draft σ) : type.LookedUp calibrations calibration := by
  obtain ⟨_, hrun⟩ := hgives d
  obtain ⟨own, hmade, rfl⟩ := buildType_eq_ok hrun
  have hcategory {c : Char} (hc : r.category = c) (hne : c ≠ 'N') : False :=
    hne (hc.symm.trans h.category)
  cases hmade with
  | numeric _ _ hmade =>
      cases hmade with
      | calibrated _ hok =>
          obtain ⟨format, hfound, rfl⟩ := calibratedType_eq_ok hok
          obtain ⟨hnumeric, rfl⟩ := hfound calibration h.calibration
          have hcalibrator : r.calibration.bind calibrations.numeric? =
              calibrations.numeric? calibration := by rw [h.calibration, Option.bind_some]
          exact ⟨hcalibrator, by rwa [hcalibrator], rfl⟩
      | natural hnone => cases hnone.1.symm.trans h.calibration
      | plain hnone => cases hnone.1.symm.trans h.calibration
  | raw hS => exact (hcategory hS (by decide)).elim
  | labelled hS => exact (hcategory hS (by decide)).elim
  | text hT => exact (hcategory hT (by decide)).elim

/-- Declarations with one key name the same calibration. -/
theorem sameKey (h : r.Calibrated calibration) {q : ParameterRecord}
    (hsame : SameKey calibrations q r) : q.Calibrated calibration := by
  refine ⟨?_, ?_, ?_⟩
  · rw [hsame.category]
    exact h.category
  · rw [hsame.ptc]
    exact h.codes
  · rw [hsame.calibration]
    exact h.calibration

end ParameterRecord.Calibrated

namespace Telemetry

variable {setting : Setting} {compiler : Option FormulaCompiler} {calibrations : Registry}
  {d t u : Draft TelemetryState}

/-- Every number that is declared with a calibration has a type made of what the name is looked up
as. -/
def TypedByNames (d : Draft TelemetryState) : Prop :=
  ∀ i name r calibration, d.stage.declared.entries[i]? = some (name, r) →
    r.Calibrated calibration →
    ∃ p type, d.database.parameters.get? ⟨i⟩ = some p ∧ p.name = name ∧
      d.database.typeOf? ⟨i⟩ = some type ∧ type.LookedUp d.stage.calibrations calibration

theorem Shared.typedByNames (h : Shared setting calibrations d) : TypedByNames d := by
  intro i name r calibration hi hr
  obtain ⟨p, hp, hname, -, type, own, htype, hown, heq⟩ := h.parameters i name r hi
  refine ⟨p, type, hp, hname, ?_, ?_⟩
  · exact Option.bind_eq_some_iff.mpr ⟨p, hp, htype⟩
  · obtain ⟨hcalibrator, hfound, hvalue⟩ := (hr.sameKey sameKey_founder).buildType hown d
    rw [heq, h.registry]
    exact ⟨hcalibrator, hfound, hvalue⟩

/-! ## What happens to types later on -/

/-- A step that may change types, but not the value and the calibrator of the type that a parameter
has. -/
structure Retains (d t : Draft TelemetryState) : Prop where
  calibrations : t.stage.calibrations = d.stage.calibrations
  declared : t.stage.declared = d.stage.declared
  types : ∀ q p x, d.database.parameters.get? q = some p → d.database.typeOf? q = some x →
    ∃ p' x', t.database.parameters.get? q = some p' ∧ p'.name = p.name ∧
      t.database.typeOf? q = some x' ∧ x'.value = x.value ∧ x'.calibrator = x.calibrator

theorem Retains.of_keepsTypes (h : d.database.KeepsTypes t.database)
    (hcalibrations : t.stage.calibrations = d.stage.calibrations)
    (hdeclared : t.stage.declared = d.stage.declared) : Retains d t := by
  refine ⟨hcalibrations, hdeclared, fun q p x hp hx => ?_⟩
  obtain ⟨p', hp', hname, -⟩ := h.parameters q p hp
  exact ⟨p', x, hp', hname, h.typeOf? hx, rfl, rfl⟩

theorem Retains.of_same (hdb : t.database = d.database) (hstage : t.stage = d.stage) :
    Retains d t :=
  .of_keepsTypes (.of_eq (by rw [hdb]) (by rw [hdb])) (by rw [hstage]) (by rw [hstage])

instance : Std.Refl Retains := ⟨fun _ => .of_same rfl rfl⟩

instance : IsTrans (Draft TelemetryState) Retains := by
  refine ⟨fun d t u h h' => ⟨h'.calibrations.trans h.calibrations,
    h'.declared.trans h.declared, fun q p x hp hx => ?_⟩⟩
  obtain ⟨p', x', hp', hname, hx', hvalue, hcalibrator⟩ := h.types q p x hp hx
  obtain ⟨p'', x'', hp'', hname', hx'', hvalue', hcalibrator'⟩ := h'.types q p' x' hp' hx'
  exact ⟨p'', x'', hp'', hname'.trans hname, hx'', hvalue'.trans hvalue,
    hcalibrator'.trans hcalibrator⟩

/-- **What is retained is what the names were looked up as.** -/
theorem TypedByNames.retained (h : TypedByNames d) (ht : Retains d t) : TypedByNames t := by
  intro i name r calibration hi hr
  rw [ht.declared] at hi
  obtain ⟨p, type, hp, hname, htype, hcalibrator, hfound, hvalue⟩ := h i name r calibration hi hr
  obtain ⟨p', type', hp', hname', htype', hvalue', hcalibrator'⟩ := ht.types _ p type hp htype
  refine ⟨p', type', hp', hname'.trans hname, htype', ?_⟩
  rw [ht.calibrations]
  exact ⟨hcalibrator'.trans hcalibrator, hcalibrator' ▸ hfound, hvalue'.trans hvalue⟩

/-- Packets and layouts are made of additions, which leave types alone. -/
theorem retains_of_supplying {α : Type} {x : TelemetryBuild α} (h : Steps Supplying x) :
    Steps Retains x := by
  refine h.mono fun d t hst => ?_
  obtain ⟨hcalibrations, hdeclared⟩ := Prod.mk.inj hst.stage
  exact .of_keepsTypes (Supplement.induct hst.database fun _ _ => .of_supplement) hcalibrations
    hdeclared

/-- Context calibrators are added to a type. -/
theorem Calibrates.retains {name : String} (h : Calibrates name d t) : Retains d t := by
  obtain ⟨q₀, p₀, calibrators, -, -, -, -, rfl⟩ := h
  refine ⟨rfl, rfl, fun q p x hp hx => ?_⟩
  obtain ⟨p₁, hp₁, hx⟩ := Option.bind_eq_some_iff.mp hx
  cases hp.symm.trans hp₁
  obtain ⟨x', hx', hkept⟩ := Catalog.exists_get?_modify hx p₀.type fun type =>
    type.calibrated (.contexts calibrators)
  refine ⟨p, x', hp, rfl, Option.bind_eq_some_iff.mpr ⟨p, hp, hx'⟩, ?_⟩
  rcases hkept with rfl | rfl
  · exact ⟨rfl, rfl⟩
  · exact ⟨rfl, rfl⟩

/-- Limits go into a copy with the same value and calibrator. -/
theorem Retypes.retains {q₀ : ParameterRef} (h : Retypes d.database t.database q₀)
    (hstage : t.stage = d.stage) : Retains d t := by
  refine ⟨by rw [hstage], by rw [hstage], fun q p x hp hx => ?_⟩
  by_cases heq : q₀ = q
  · subst heq
    obtain ⟨y, name, alarm, hy, -, hdb⟩ := h
    cases hx.symm.trans hy
    have hp' : t.database.parameters.get? q₀ =
        some { p with type := d.database.parameterTypes.next } := by
      rw [hdb]
      exact (Catalog.get?_modify_self _ _ _).trans (congrArg (Option.map _) hp)
    have hx' : t.database.typeOf? q₀ = some { x with name := name, alarm := alarm } := by
      refine Option.bind_eq_some_iff.mpr ⟨_, hp', ?_⟩
      rw [hdb]
      exact Catalog.get?_push_next _ _
    exact ⟨_, _, hp', rfl, hx', rfl, rfl⟩
  · have hp' : t.database.parameters.get? q = some p := by
      obtain ⟨y, name, alarm, -, -, hdb⟩ := h
      rw [hdb]
      refine (Catalog.get?_modify_of_ne _ (fun hindex => heq ?_) _).trans hp
      exact congrArg Ref.mk hindex
    exact ⟨p, x, hp', rfl, h.typeOf? heq hx, rfl, rfl⟩

theorem retains_attachContexts (name : String) : Steps Retains (attachContexts name) := by
  refine fun d => (attachContexts_ends name d).mono (fun _ t _ ht => ?_) fun t ht => ?_
  · rcases ht with rfl | ht
    · exact Std.Refl.refl t
    · exact ht.retains
  · rw [ht]
    exact Std.Refl.refl d

theorem retains_attachLimits (row : Row) : Steps Retains (attachLimits row) := by
  intro d
  refine attachLimits_ends.mono (fun _ t _ ht => ?_) fun t ht => .of_same ht.database ht.stage
  obtain ⟨hstage, r, q, -, -, ⟨-, hdb, -⟩ | ⟨-, hretypes⟩⟩ := ht
  · exact .of_same hdb hstage
  · exact hretypes.retains hstage

/-! ## The whole stage -/

/-- What the stage does once the declarations are read. -/
def afterDeclarations (setting : Setting) (compiler : Option FormulaCompiler) :
    TelemetryBuild Unit := do
  compileSynthetic setting compiler
  attachContextCalibrators setting
  loadPackets setting
  loadFixedLayout setting
  loadVariableLayout setting
  loadLimits setting

/-- **Nothing that follows the declarations touches the value or the calibrator of a type.** -/
theorem retains_afterDeclarations (compiler : Option FormulaCompiler) :
    Steps Retains (afterDeclarations setting compiler) := by
  have hrecord (d : Draft TelemetryState) (e : Error) :
      Retains d { d with errors := d.errors ++ [e] } := .of_same rfl rfl
  unfold afterDeclarations
  refine (retains_of_supplying
    (tracks_compileSynthetic supplying_tracks supplies_addAlgorithm compiler)).bind fun _ => ?_
  refine Steps.bind ?_ fun _ => ?_
  · unfold attachContextCalibrators
    refine steps_stage.bind fun state => steps_forM (fun name => ?_) _
    exact (retains_attachContexts name).recover hrecord
  refine (retains_of_supplying (tracks_loadPackets supplying_tracks)).bind fun _ => ?_
  refine (retains_of_supplying (tracks_loadFixedLayout supplying_tracks)).bind fun _ => ?_
  refine (retains_of_supplying (tracks_loadVariableLayout supplying_tracks)).bind fun _ => ?_
  unfold loadLimits
  refine (retains_of_supplying (tracks_scan supplying_tracks
    (tracks_declareCheck supplying_tracks))).bind fun _ => ?_
  refine Steps.bind ?_ fun _ => ?_
  · apply retains_of_supplying
    exact supplying_tracks.stage (fun _ => rfl) fun _ => rfl
  exact (steps_scan hrecord retains_attachLimits).bind fun _ => steps_pure _

/-- **The stage gives every number with a calibration a type made of what the name is looked up
as**, however it ends. -/
theorem buildTelemetry_typedByNames (hblank : d.database.Blank) (hstage : d.stage = {}) :
    Ends (buildTelemetry setting compiler) d (fun _ => TypedByNames) TypedByNames := by
  have hsize : d.database.parameters.size = 0 := by
    rw [hblank]
    rfl
  have hdeclared (u : Draft Registry) (hu : u.database = d.database) :
      Shared setting u.stage
        ⟨u.database, u.errors, u.warnings, { d.stage with calibrations := u.stage }⟩ := by
    refine shared_start ?_ (by rw [hstage])
    rw [hu]
    exact hsize
  unfold buildTelemetry
  refine Ends.bind (Ends.within ((Registry.loadTelemetry_sameDatabase setting _).mono
    (fun _ u _ hu => ?_) fun u hu => (hdeclared u hu).typedByNames))
  refine Ends.bind ((loadParameters_ends (hdeclared u hu)).mono (fun _ t _ ht => ?_)
    fun t ht => ht.typedByNames)
  exact (retains_afterDeclarations compiler t).mono
    (fun _ _ _ hrest => ht.typedByNames.retained hrest)
    fun _ hrest => ht.typedByNames.retained hrest

/-- What a number with a calibration means in the end: its type goes with its calibrator unless the
name of the calibration is shadowed. -/
def TypedByCalibrations (d : Draft TelemetryState) : Prop :=
  ∀ i name r calibration, d.stage.declared.entries[i]? = some (name, r) →
    r.Calibrated calibration →
    ∃ p type, d.database.parameters.get? ⟨i⟩ = some p ∧ p.name = name ∧
      d.database.typeOf? ⟨i⟩ = some type ∧ type.calibrator.isSome = true ∧
      (type.FromOne d.stage.calibrations calibration ↔
        ¬ d.stage.calibrations.Shadowed calibration)

/-- **The type and the calibrator of a number come from one calibration, unless a polynomial hides a
curve of integers of the same name.** Every number with a calibration has a calibrator in the end,
and its type is that of real values for a polynomial or a logarithm, and of the format of the curve
for a spline, exactly where the name is not shadowed. -/
theorem buildTelemetry_fromOne_iff (hblank : d.database.Blank) (hstage : d.stage = {}) :
    Ends (buildTelemetry setting compiler) d (fun _ => TypedByCalibrations)
      TypedByCalibrations := by
  have hnames (t : Draft TelemetryState) (ht : TypedByNames t) : TypedByCalibrations t := by
    intro i name r calibration hi hr
    obtain ⟨p, type, hp, hname, htype, hlooked⟩ := ht i name r calibration hi hr
    exact ⟨p, type, hp, hname, htype, hlooked.found, hlooked.fromOne_iff⟩
  exact (buildTelemetry_typedByNames hblank hstage).mono (fun _ t _ => hnames t) hnames

/-- A number whose calibration is the name of a polynomial and of a curve of signed integers. -/
def shadowedSetting : Setting :=
  .ofTables [
    ("cur", ""), ("caf", "CAL\t\tI\tU\tD\n"), ("cap", ""), ("txf", ""), ("txp", ""),
    ("mcf", "CAL\t\t1\n"), ("lgf", ""), ("pcf", "A\t\t\t\t3\t4\t\t\t\tN\tR\tCAL\n"),
    ("pic", ""), ("pid", ""), ("tpcf", ""), ("plf", ""), ("vpd", ""), ("ocp", ""), ("ocf", "")]

/-- The values of the polynomial are given an integer type. -/
theorem polynomial_with_integers :
    ∃ (d d' : Draft TelemetryState) (p : Parameter) (type : ParameterType),
      d.database.Blank ∧ d.stage = {} ∧
      buildTelemetry shadowedSetting none d = .ok () d' ∧
      d'.database.parameters.get? ⟨0⟩ = some p ∧ p.name = "A" ∧
      d'.database.typeOf? ⟨0⟩ = some type ∧ type.calibrator.isSome = true ∧
      ¬ type.FromOne d'.stage.calibrations "CAL" := by
  have hrun : (after? (buildTelemetry shadowedSetting none)
      ⟨{ name := "MIB" }, [], [], {}⟩).any (fun d' =>
        (d'.stage.calibrations.polynomials.find? "CAL").isSome &&
        ((d'.stage.calibrations.curves.find? "CAL").any fun curve =>
          decide (curve.engineeringFormat = 'I')) &&
        d'.stage.declared.entries[0]?.any fun e => decide (e.1 = "A" ∧ e.2.category = 'N' ∧
          (2 ≤ e.2.ptc ∧ e.2.ptc ≤ 5) ∧ e.2.calibration = some "CAL")) = true := by
    decide +kernel
  obtain ⟨d', hafter, hfacts⟩ := (Option.any_eq_true _ _).mp hrun
  rw [Bool.and_eq_true, Bool.and_eq_true] at hfacts
  obtain ⟨⟨hpolynomial, hcurve⟩, hentry⟩ := hfacts
  obtain ⟨coefficients, hpolynomial⟩ := Option.isSome_iff_exists.mp hpolynomial
  obtain ⟨curve, hcurve, hformat⟩ := (Option.any_eq_true _ _).mp hcurve
  obtain ⟨⟨name, r⟩, hentry, hdeclared⟩ := (Option.any_eq_true _ _).mp hentry
  obtain ⟨rfl, hcategory, hcodes, hcalibration⟩ := of_decide_eq_true hdeclared
  obtain ⟨_, hok⟩ := after?_eq_some.mp hafter
  have hblank : Database.Blank { name := "MIB" } := rfl
  have htyped := (buildTelemetry_fromOne_iff (d := ⟨{ name := "MIB" }, [], [], {}⟩) hblank
    rfl).of_ok hok
  obtain ⟨p, type, hp, hname, htype, hfound, hiff⟩ :=
    htyped 0 _ r "CAL" hentry ⟨hcategory, hcodes, hcalibration⟩
  refine ⟨_, d', p, type, hblank, rfl, hok, hp, hname, htype, hfound, fun hone => hiff.mp hone ?_⟩
  exact ⟨coefficients, curve, hpolynomial, hcurve, .inl (of_decide_eq_true hformat)⟩

end Telemetry

end MissionBase
