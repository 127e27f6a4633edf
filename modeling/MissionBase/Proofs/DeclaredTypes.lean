import MissionBase.Commanding.ArgumentTypes
import MissionBase.Proofs.Telemetry.SharedTypes

/-!
# The types that declarations ask for

Which types a declaration can be given, and from what: a number is calibrated or has the natural
type of its encoding, an enumeration has labels or stands for its raw value, and every other value
is plain. What holds of all types as they are made is read off these cases, for parameters
(`buildType_eq_ok`) and for arguments alike.
-/

namespace MissionBase

open Run

/-- A value that is neither a number nor a label, and is not made of arguments. -/
def ValueType.isPlain : ValueType → Bool
  | boolean | string | binary | absoluteTime .. | relativeTime _ | aggregate _ => true
  | integer .. | float _ | enumerated _ | array .. | record _ => false

namespace ParameterRecord

variable {σ : Type} {setting : Setting} {calibrations : Registry} {r : ParameterRecord}
  {e : Encoding} {t : ParameterType}

/-! ## Numbers and plain values of parameters -/

/-- A calibrated number has the calibrator that its calibration is found as, and an engineering type
that is its own if it has a calibration. -/
theorem calibratedType_eq_ok (h : r.calibratedType calibrations e = .ok t) :
    ∃ format, (∀ name, r.calibration = some name →
        (calibrations.numeric? name).isSome = true ∧
          format = calibrations.engineeringFormat? name) ∧
      t = { name := "", value := CurveDefinition.valueType format, encoding := some e
            calibrator := r.calibration.bind calibrations.numeric? } := by
  unfold calibratedType at h
  cases hcalibration : r.calibration with
  | none =>
      rw [hcalibration] at h
      cases h
      exact ⟨_, nofun, rfl⟩
  | some name =>
      rw [hcalibration] at h
      dsimp only at h
      cases hnumeric : calibrations.numeric? name with
      | none =>
          rw [hnumeric] at h
          cases h
      | some calibrator =>
          rw [hnumeric] at h
          cases h
          refine ⟨calibrations.engineeringFormat? name, ?_, by rw [← hnumeric]; rfl⟩
          rintro _ ⟨⟩
          exact ⟨by rw [hnumeric, Option.isSome_some], rfl⟩

/-- A declaration with no calibration at all. -/
def Uncalibrated (r : ParameterRecord) (calibrations : Registry) : Prop :=
  r.calibration = none ∧ calibrations.hasContext r.name = false

/-- How a type that is neither an enumeration nor a text comes about. -/
inductive NumericMade (r : ParameterRecord) (calibrations : Registry) (e : Encoding) :
    ParameterType → Prop where
  | calibrated {t : ParameterType} : 2 ≤ r.ptc ∧ r.ptc ≤ 5 →
      r.calibratedType calibrations e = .ok t → NumericMade r calibrations e t
  | natural {value : ValueType} : r.Uncalibrated calibrations →
      ValueType.natural? e = some value →
      NumericMade r calibrations e { name := "", value := value, encoding := some e }
  | plain {value : ValueType} {encoding : Option Encoding} : r.Uncalibrated calibrations →
      ¬ (2 ≤ r.ptc ∧ r.ptc ≤ 5) → value.isPlain = true →
      NumericMade r calibrations e { name := "", value := value, encoding := encoding }

/-- **Numbers are calibrated or natural, and only numbers are.** -/
theorem numericType_eq_ok {epoch : Epoch} (h : r.numericType calibrations epoch = .ok t) :
    ∃ e, r.encoding = .ok e ∧ r.NumericMade calibrations e t := by
  unfold numericType at h
  obtain ⟨e, he, h⟩ := except_bind_eq_ok.mp h
  refine ⟨e, he, ?_⟩
  dsimp only at h
  have huncalibrated
      (hnone : ¬ (r.calibration.isSome || calibrations.hasContext r.name) = true) :
      r.Uncalibrated calibrations := by simpa [Uncalibrated] using hnone
  by_cases hnumber : 2 ≤ r.ptc ∧ r.ptc ≤ 5
  · rw [if_neg (by omega), if_pos hnumber] at h
    split at h
    · exact .calibrated hnumber h
    · rename_i hnone
      split at h
      · rename_i value hvalue
        cases h
        exact .natural (huncalibrated hnone) hvalue
      · cases h
  · rw [if_neg hnumber] at h
    have hplain {value : ValueType} {encoding : Option Encoding} (hvalue : value.isPlain = true)
        (hnone : ¬ (r.calibration.isSome || calibrations.hasContext r.name) = true)
        (hx : (Except.ok { name := "", value := value, encoding := encoding } :
          Except Error ParameterType) = .ok t) : r.NumericMade calibrations e t := by
      cases hx
      exact .plain (huncalibrated hnone) hnumber hvalue
    split at h
    · split at h
      · cases h
      · exact hplain rfl ‹_› h
    · split at h
      · cases h
      · rename_i hnone
        -- the kinds that have no calibration, one after the other
        split at h
        · exact hplain rfl hnone h
        · split at h
          · exact hplain rfl hnone h
          · split at h
            · exact hplain rfl hnone h
            · split at h
              · exact hplain rfl hnone h
              · split at h
                · split at h
                  · exact hplain rfl hnone h
                  · cases h
                · cases h

/-! ## Types of parameters -/

/-- How the type that a declaration asks for comes about, before it gets its unit and its start. -/
inductive TypeMade (r : ParameterRecord) (setting : Setting) (calibrations : Registry) :
    ParameterType → Prop where
  | numeric {e : Encoding} {t : ParameterType} : r.category = 'N' → r.encoding = .ok e →
      r.NumericMade calibrations e t → TypeMade r setting calibrations t
  | raw {e : Encoding} : r.category = 'S' → r.encoding = .ok e →
      r.calibration.bind calibrations.texts.find? = none →
      TypeMade r setting calibrations (rawType e)
  | labelled {e : Encoding} {text : LabelDefinition} : r.category = 'S' → r.encoding = .ok e →
      r.calibration.bind calibrations.texts.find? = some text →
      TypeMade r setting calibrations ((rawType e).calibrated (.textual text.labels))
  | text {e : Encoding} : r.category = 'T' → r.ptc = 8 → r.encoding = .ok e →
      TypeMade r setting calibrations
        { name := "", value := .string, encoding := some e, initialValue := r.value }

theorem textualType_eq_ok {d d' : Draft σ} (hcategory : r.category = 'S')
    (h : (r.textualType setting calibrations : Build σ ParameterType) d = .ok t d') :
    r.TypeMade setting calibrations t := by
  unfold textualType at h
  obtain ⟨e, _, hread, h⟩ := bind_eq_ok.mp h
  obtain ⟨he, rfl⟩ := lift_eq_ok.mp hread
  -- whatever is noted on the way, the raw type is what comes out
  have hraw {x : Build σ PUnit} (hnone : r.calibration.bind calibrations.texts.find? = none)
      (hx : (x >>= fun _ => pure (rawType e)) d = .ok t d') :
      r.TypeMade setting calibrations t := by
    obtain ⟨_, _, -, hx⟩ := bind_eq_ok.mp hx
    obtain ⟨rfl, -⟩ := pure_eq_ok.mp hx
    exact .raw hcategory he hnone
  cases hcalibration : r.calibration with
  | none =>
      rw [hcalibration] at h
      dsimp only at h
      split at h
      · exact hraw (by rw [hcalibration]; rfl) h
      · exact hraw (by rw [hcalibration]; rfl) h
  | some name =>
      rw [hcalibration] at h
      dsimp only at h
      have hfind : r.calibration.bind calibrations.texts.find? =
          calibrations.texts.find? name := by rw [hcalibration, Option.bind_some]
      cases htext : calibrations.texts.find? name with
      | none =>
          rw [htext] at h
          exact hraw (hfind.trans htext) h
      | some text =>
          rw [htext] at h
          obtain ⟨rfl, -⟩ := pure_eq_ok.mp h
          exact .labelled hcategory he (hfind.trans htext)

theorem stringType_eq_ok (hcategory : r.category = 'T') (h : r.stringType = .ok t) :
    r.TypeMade setting calibrations t := by
  unfold stringType at h
  by_cases hptc : r.ptc = 8
  · rw [if_neg (not_not_intro hptc)] at h
    obtain ⟨e, he, h⟩ := except_bind_eq_ok.mp h
    cases h
    exact .text hcategory hptc he
  · rw [if_pos hptc] at h
    cases h

/-- The unit and the start of a type come last. -/
theorem buildType_eq : (r.buildType setting calibrations : Build σ ParameterType) =
    (if r.category = 'N' then Build.ofExcept (r.numericType calibrations setting.epoch)
      else if r.category = 'S' then r.textualType setting calibrations
      else if r.category = 'T' then Build.ofExcept r.stringType
      else throw (r.dataError s!"invalid PCF_CATEG '{r.category}'")) >>= fun own =>
        pure { own with unit := r.unit, initialValue := r.constant?.or own.initialValue } := by
  unfold buildType
  cases r.constant? <;> split_ifs <;> rfl

/-- **The type that a declaration asks for is one of these**, with its unit and its start. -/
theorem buildType_eq_ok {d d' : Draft σ}
    (h : (r.buildType setting calibrations : Build σ ParameterType) d = .ok t d') :
    ∃ own, r.TypeMade setting calibrations own ∧
      t = { own with unit := r.unit, initialValue := r.constant?.or own.initialValue } := by
  rw [buildType_eq] at h
  obtain ⟨own, u, hown, h⟩ := bind_eq_ok.mp h
  obtain ⟨rfl, -⟩ := pure_eq_ok.mp h
  refine ⟨own, ?_, rfl⟩
  split at hown
  · rename_i hN
    obtain ⟨e, he, hmade⟩ := numericType_eq_ok (lift_eq_ok.mp hown).1
    exact .numeric hN he hmade
  · split at hown
    · exact textualType_eq_ok ‹_› hown
    · split at hown
      · exact stringType_eq_ok ‹_› (lift_eq_ok.mp hown).1
      · exact (throw_eq_ok.mp hown).elim

end ParameterRecord

/-! ## Types of arguments -/

namespace CommandParameter

variable {p : CommandParameter} {calibrations : Registry} {epoch : Epoch} {tag : Int}
  {e : Encoding} {t type : ArgumentType}

/-- How the type that a command parameter asks for comes about, before it gets its unit and its
ranges. -/
inductive TypeMade (p : CommandParameter) (calibrations : Registry) (tag : Int) :
    ArgumentType → Prop where
  | calibrated {e : Encoding} {curve : CurveDefinition} : p.encoding tag = .ok e →
      e.isNumeric = true → TypeMade p calibrations tag
        { p.typeOf (CurveDefinition.valueType (some curve.engineeringFormat)) e with
          decalibrator := some curve.decalibrator }
  | labelled {e : Encoding} {labels : Labels} : p.encoding tag = .ok e → e.isNumeric = true →
      TypeMade p calibrations tag (p.typeOf (.enumerated labels) e)
  | natural {e : Encoding} {value : ValueType} : p.encoding tag = .ok e →
      ValueType.natural? e = some value → TypeMade p calibrations tag (p.typeOf value e)
  | plain {value : ValueType} {encoding : Option Encoding} : value.isPlain = true →
      TypeMade p calibrations tag { name := p.name, value := value, encoding := encoding }

theorem decalibratedType_eq_ok (he : p.encoding tag = .ok e)
    (h : p.decalibratedType calibrations e = .ok t) : p.TypeMade calibrations tag t := by
  unfold decalibratedType at h
  split at h
  · cases h
  · split at h
    · cases h
    · split at h
      · cases h
        exact .calibrated he ‹_›
      · cases h

theorem enumeratedType_eq_ok (he : p.encoding tag = .ok e)
    (h : p.enumeratedType calibrations e = .ok t) : p.TypeMade calibrations tag t := by
  unfold enumeratedType at h
  split at h
  · cases h
  · split at h
    · cases h
    · split at h
      · cases h
      · rename_i hnumeric
        split at h
        · cases h
          exact .labelled he (by simpa using hnumeric)
        · cases h

theorem naturalType_eq_ok (he : p.encoding tag = .ok e) (h : p.naturalType epoch e = .ok t) :
    p.TypeMade calibrations tag t := by
  unfold naturalType at h
  obtain ⟨value, hvalue, h⟩ := except_bind_eq_ok.mp h
  cases h
  have hplain {x : ValueType} (hx : x.isPlain = true)
      (hvalue : (.ok x : Except Error ValueType) = .ok value) (encoding : Encoding) :
      p.TypeMade calibrations tag (p.typeOf value encoding) := by
    cases hvalue
    exact .plain hx
  unfold naturalValue at hvalue
  split at hvalue
  · exact hplain rfl hvalue _
  · split at hvalue
    · rename_i hnumber
      rw [if_neg (by omega)]
      split at hvalue
      · cases hvalue
        exact .natural he ‹_›
      · cases hvalue
    -- the codes that stand for themselves, one after the other
    · split at hvalue
      · exact hplain rfl hvalue _
      · split at hvalue
        · exact hplain rfl hvalue _
        · split at hvalue
          · exact hplain rfl hvalue _
          · split at hvalue
            · exact hplain rfl hvalue _
            · cases hvalue

theorem headerType_eq_ok (h : p.headerType = .ok t) : p.TypeMade calibrations tag t := by
  unfold headerType at h
  split at h
  · split at h
    · cases h
      exact .plain rfl
    · cases h
  · cases h

theorem withRanges_eq_ok (h : p.withRanges calibrations type = .ok t) :
    ∃ ranges isCalibrated,
      t = { type with validRanges := ranges, rangesCalibrated := isCalibrated } := by
  unfold withRanges at h
  split at h
  · cases h
    exact ⟨_, _, rfl⟩
  · split at h
    · cases h
      exact ⟨_, _, rfl⟩
    · cases h

/-- **The type that a command parameter asks for is one of these**, with a unit and ranges. -/
theorem buildType_eq_ok (h : p.buildType epoch calibrations tag = .ok t) :
    ∃ own unit ranges isCalibrated, p.TypeMade calibrations tag own ∧
      t = { own with unit := unit, validRanges := ranges, rangesCalibrated := isCalibrated } := by
  unfold buildType at h
  split at h
  · exact ⟨t, _, _, _, headerType_eq_ok h, rfl⟩
  · obtain ⟨e, he, h⟩ := except_bind_eq_ok.mp h
    have hfinish {x : Except Error ArgumentType}
        (hx : ∀ own, x = .ok own → p.TypeMade calibrations tag own)
        (hrun : (x >>= fun type => p.withRanges calibrations { type with unit := p.unit }) =
          .ok t) : ∃ own unit ranges isCalibrated, p.TypeMade calibrations tag own ∧
            t = { own with unit := unit, validRanges := ranges
                           rangesCalibrated := isCalibrated } := by
      obtain ⟨own, hown, hranges⟩ := except_bind_eq_ok.mp hrun
      obtain ⟨ranges, isCalibrated, rfl⟩ := withRanges_eq_ok hranges
      exact ⟨own, _, ranges, isCalibrated, hx own hown, rfl⟩
    dsimp only at h
    split at h
    · exact hfinish (fun _ => decalibratedType_eq_ok he) h
    · split at h
      · exact hfinish (fun _ => enumeratedType_eq_ok he) h
      · split at h
        · exact hfinish (fun _ => naturalType_eq_ok he) h
        · split at h
          · refine hfinish (x := pure (p.typeOf .binary e)) (fun own hown => ?_) h
            cases hown
            exact .plain rfl
          · exact hfinish (x := .error _) (fun _ => nofun) h

end CommandParameter

/-! ## Where the type of an argument is found -/

namespace Commanding

variable {setting : Setting} {d : Draft CommandingState} {p : CommandParameter} {tag : Int}
  {Q : ArgumentTypeRef → Draft CommandingState → Prop} {E : Draft CommandingState → Prop}

/-- The draft where a type has been made, which comes last, and the stage keeps it. -/
def withType (d : Draft CommandingState) (type : ArgumentType)
    (keep : ArgumentTypeRef → CommandingState → CommandingState) : Draft CommandingState :=
  { d with
    database := (d.database.addArgumentType type).2
    stage := keep d.database.argumentTypes.next d.stage }

/-- The stage that keeps a type of parameter identifiers by their format. -/
def keepIdentifiers (pfc : Int) (r : ArgumentTypeRef) (s : CommandingState) : CommandingState :=
  { s with identifierTypes := s.identifierTypes.set pfc r }

/-- The stage that keeps the type of a command parameter by its name and a size tag. -/
def keepShared (key : String × Int) (r : ArgumentTypeRef) (s : CommandingState) :
    CommandingState :=
  { s with argumentTypes := s.argumentTypes.set key r }

/-- The enumeration of the parameter identifiers that there are, in some encoding. -/
def identifierEnumeration (db : Database) (pfc : Int) (e : Encoding) : ArgumentType :=
  { name := identifierTypeName pfc, value := .enumerated db.identifierLabels, encoding := some e }

/-- **The enumeration of parameter identifiers** is the one kept for its format, or it is made with
the labels that there are now. -/
theorem ends_identifierType (hfails : E d)
    (hkept : p.ptc = 3 → ∀ r, d.stage.identifierTypes.find? p.pfc = some r → Q r d)
    (hmade : p.ptc = 3 → d.stage.identifierTypes.find? p.pfc = none →
      ∀ e, p.encoding tag = .ok e → Q d.database.argumentTypes.next
        (withType d (identifierEnumeration d.database p.pfc e) (keepIdentifiers p.pfc))) :
    Ends (identifierType p tag) d Q E := by
  unfold identifierType
  split
  · exact ends_throw hfails
  · rename_i hptc
    have hptc : p.ptc = 3 := not_not.mp hptc
    refine Ends.bind (ends_stage ?_)
    cases hfind : d.stage.identifierTypes.find? p.pfc with
    | some r => exact hkept hptc r hfind
    | none => exact Ends.bind (ends_lift (fun e he => hmade hptc hfind e he) hfails)

/-- **The type of an argument** is an enumeration of parameter identifiers, or the one kept for its
command parameter, or it is made as the parameter asks for it. -/
theorem ends_argumentTypeFor
    (hidentifier : p.category = 'P' → Ends (identifierType p tag) d Q E) (hfails : E d)
    (hkept : p.category ≠ 'P' → ∀ r,
      d.stage.argumentTypes.find? (p.name, tag) = some r → Q r d)
    (hmade : p.category ≠ 'P' → d.stage.argumentTypes.find? (p.name, tag) = none →
      ∀ t, p.buildType setting.epoch d.stage.calibrations tag = .ok t →
        Q d.database.argumentTypes.next (withType d t (keepShared (p.name, tag)))) :
    Ends (argumentTypeFor setting p tag) d Q E := by
  unfold argumentTypeFor
  refine Ends.ite hidentifier fun hcategory => Ends.bind (ends_stage ?_)
  dsimp only
  cases hfind : d.stage.argumentTypes.find? (p.name, tag) with
  | some r => exact hkept hcategory r hfind
  | none => exact Ends.bind (ends_lift (fun t ht => hmade hcategory hfind t ht) hfails)

end Commanding

end MissionBase
