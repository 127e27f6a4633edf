import MissionBase.Commanding.Elements
import MissionBase.Proofs.DeclaredTypes

/-!
# Types that fit their encodings

A number or a label is made from a raw number, and so is whatever a calibration takes or gives. A
type is compatible if its encoding holds numbers wherever its values or its calibrations ask for
them. The types of arguments are compatible whatever the tables say. So are the types of declared
parameters, but for enumerations: nothing asks whether the encoding of one holds numbers
(`Mismatched`).
-/

namespace MissionBase

open Run

/-- A type with values of some kind and an encoding: numbers and labels need an encoding that holds
numbers. -/
def ValueType.Fits (value : ValueType) (encoding : Option Encoding) : Prop :=
  value.isNumeric = true ∨ value.isEnumerated = true → encoding.any Encoding.isNumeric = true

/-- The encoding of a parameter type holds numbers where its values or its calibrators need them. -/
structure ParameterType.Compatible (t : ParameterType) : Prop where
  value : t.value.Fits t.encoding
  calibrators : t.calibrator.isSome = true ∨ t.contextCalibrators ≠ [] →
    t.encoding.any Encoding.isNumeric = true

/-- The encoding of an argument type holds numbers where its values or its decalibrator need
them. -/
structure ArgumentType.Compatible (t : ArgumentType) : Prop where
  value : t.value.Fits t.encoding
  decalibrator : t.decalibrator.isSome = true → t.encoding.any Encoding.isNumeric = true

/-! ## Encodings and their natural types -/

/-- A numeric encoding is all that values or calibrations can ask for. -/
theorem ParameterType.compatible_of_numeric {t : ParameterType}
    (h : t.encoding.any Encoding.isNumeric = true) : t.Compatible := ⟨fun _ => h, fun _ => h⟩

theorem ArgumentType.compatible_of_numeric {t : ArgumentType}
    (h : t.encoding.any Encoding.isNumeric = true) : t.Compatible := ⟨fun _ => h, fun _ => h⟩

/-- Names and alarms play no role. -/
theorem ParameterType.compatible_renamed (t : ParameterType) (name : String)
    (alarm : Option Alarm) :
    ({ t with name := name, alarm := alarm } : ParameterType).Compatible ↔ t.Compatible :=
  ⟨fun h => ⟨h.value, h.calibrators⟩, fun h => ⟨h.value, h.calibrators⟩⟩

/-- Units and start values play no role. -/
theorem ParameterType.compatible_finished (t : ParameterType) (unit start : Option String) :
    ({ t with unit := unit, initialValue := start } : ParameterType).Compatible ↔ t.Compatible :=
  ⟨fun h => ⟨h.value, h.calibrators⟩, fun h => ⟨h.value, h.calibrators⟩⟩

/-- Values that are neither numbers nor labels fit every encoding. -/
theorem ValueType.fits_of_plain {value : ValueType} {encoding : Option Encoding}
    (hnumeric : value.isNumeric = false) (henumerated : value.isEnumerated = false) :
    value.Fits encoding := by
  rintro (h | h)
  · exact absurd h (by simp [hnumeric])
  · exact absurd h (by simp [henumerated])

theorem ValueType.fits_of_isPlain {value : ValueType} {encoding : Option Encoding}
    (h : value.isPlain = true) : value.Fits encoding := by
  cases value <;> first | exact fits_of_plain rfl rfl | cases h

/-- The natural type of an encoding fits it. -/
theorem ValueType.fits_natural? {encoding : Encoding} {value : ValueType}
    (h : ValueType.natural? encoding = some value) : value.Fits (some encoding) := by
  cases encoding with
  | unsignedInteger size => exact fun _ => rfl
  | signedInteger size => exact fun _ => rfl
  | float size format => exact fun _ => rfl
  | fixedBinary size => cases h; exact fits_of_plain rfl rfl
  | leadingSizeBinary size => cases h; exact fits_of_plain rfl rfl
  | fixedString size => cases h; exact fits_of_plain rfl rfl
  | leadingSizeString size => cases h; exact fits_of_plain rfl rfl
  | absoluteTime format shift => cases h
  | relativeTime format => cases h
  | aggregate => cases h
  | deduced => cases h

/-- The type codes of numbers name encodings of numbers. -/
theorem Encoding.isNumeric_of_resolve {ptc pfc width : Int} {e : Encoding}
    (h : Encoding.resolve ptc pfc width = .ok e) (hptc : 2 ≤ ptc ∧ ptc ≤ 5) :
    e.isNumeric = true := by
  have hcases : ptc = 2 ∨ ptc = 3 ∨ ptc = 4 ∨ ptc = 5 := by omega
  unfold Encoding.resolve at h
  rcases hcases with rfl | rfl | rfl | rfl
  · dsimp only at h
    by_cases hpfc : 1 ≤ pfc ∧ pfc ≤ 32
    · rw [if_pos hpfc] at h; cases h; rfl
    · rw [if_neg hpfc] at h; cases h
  · dsimp only at h
    cases hsize : integerSize? pfc with
    | none => rw [hsize] at h; cases h
    | some size => rw [hsize] at h; cases h; rfl
  · dsimp only at h
    cases hsize : integerSize? pfc with
    | none => rw [hsize] at h; cases h
    | some size => rw [hsize] at h; cases h; rfl
  · dsimp only at h
    unfold float? at h
    grind [isNumeric, isFloat]

/-! ## Declared parameters -/

namespace ParameterRecord

variable {σ : Type} {setting : Setting} {calibrations : Registry} {q r : ParameterRecord}

theorem isNumeric_of_encoding {e : Encoding} (h : r.encoding = .ok e)
    (hptc : 2 ≤ r.ptc ∧ r.ptc ≤ 5) : e.isNumeric = true := by
  unfold ParameterRecord.encoding at h
  cases hresolve : Encoding.resolve r.ptc r.pfc r.sizeTagBytes with
  | ok e' =>
      rw [hresolve] at h
      cases h
      exact Encoding.isNumeric_of_resolve hresolve hptc
  | error fault =>
      rw [hresolve] at h
      cases h

/-- An enumeration whose encoding holds no numbers, although its values are labels, or numbers for
want of a natural type. -/
def Mismatched (calibrations : Registry) (r : ParameterRecord) : Prop :=
  r.category = 'S' ∧ ∃ e, r.encoding = .ok e ∧ e.isNumeric = false ∧
    (((r.calibration.bind calibrations.texts.find?).isSome = true) ∨ ValueType.natural? e = none)

theorem SameKey.symm (h : SameKey calibrations q r) : SameKey calibrations r q :=
  ⟨h.key.symm, h.contexts.symm⟩

theorem SameKey.mismatched (h : SameKey calibrations q r) (hq : q.Mismatched calibrations) :
    r.Mismatched calibrations := by
  obtain ⟨hcategory, e, he, hnumeric, hvalue⟩ := hq
  refine ⟨h.category ▸ hcategory, e, h.encoding he, hnumeric, ?_⟩
  rw [← h.calibration]
  exact hvalue

/-- The key of a declaration decides whether it is mismatched. -/
theorem SameKey.mismatched_iff (h : SameKey calibrations q r) :
    q.Mismatched calibrations ↔ r.Mismatched calibrations := ⟨h.mismatched, h.symm.mismatched⟩

/-- A type without calibrators is compatible if its value fits. -/
theorem compatible_plain {name : String} {value : ValueType} {encoding : Option Encoding}
    (h : value.Fits encoding) :
    ({ name := name, value := value, encoding := encoding } : ParameterType).Compatible :=
  ⟨h, fun hc => by simp at hc⟩

/-- Numbers get numeric encodings, with or without a calibration; all else gets neither. -/
theorem NumericMade.compatible {e : Encoding} {t : ParameterType}
    (h : r.NumericMade calibrations e t) (he : r.encoding = .ok e) : t.Compatible := by
  cases h with
  | calibrated hptc hok =>
      obtain ⟨_, -, rfl⟩ := calibratedType_eq_ok hok
      exact ParameterType.compatible_of_numeric (isNumeric_of_encoding he hptc)
  | natural _ hvalue => exact compatible_plain (ValueType.fits_natural? hvalue)
  | plain _ _ hvalue => exact compatible_plain (ValueType.fits_of_isPlain hvalue)

/-- The raw value of an enumeration fits, unless there is no natural type for it. -/
theorem rawType_compatible_iff (e : Encoding) :
    (rawType e).Compatible ↔ (e.isNumeric = false → ValueType.natural? e ≠ none) := by
  unfold rawType
  cases hvalue : ValueType.natural? e with
  | some value =>
      exact iff_of_true (compatible_plain (ValueType.fits_natural? hvalue)) fun _ => nofun
  | none =>
      constructor
      · intro h hnumeric
        have hany : e.isNumeric = true := h.value (.inl rfl)
        rw [hnumeric] at hany
        cases hany
      · intro h
        refine compatible_plain fun _ => ?_
        cases hnumeric : e.isNumeric with
        | true => exact hnumeric
        | false => exact absurd rfl (h hnumeric)

/-- Labels fit an encoding of numbers only. -/
theorem labelled_compatible_iff (e : Encoding) (labels : Labels) :
    ((rawType e).calibrated (.textual labels)).Compatible ↔ e.isNumeric = true :=
  ⟨fun h => h.value (.inr rfl), fun h => ParameterType.compatible_of_numeric h⟩

/-- **A type is compatible as it is made, unless it is that of a mismatched enumeration.** -/
theorem TypeMade.compatible_iff {t : ParameterType} (h : r.TypeMade setting calibrations t) :
    t.Compatible ↔ ¬ r.Mismatched calibrations := by
  have hother (hcategory : r.category ≠ 'S') : ¬ r.Mismatched calibrations :=
    fun hm => hcategory hm.1
  cases h with
  | numeric hN he hmade => exact iff_of_true (hmade.compatible he) (hother (by rw [hN]; decide))
  | @raw e hS he hnone =>
      rw [rawType_compatible_iff]
      constructor
      · rintro hfits ⟨-, e', he', hnumeric, hvalue⟩
        rw [he] at he'
        cases he'
        rcases hvalue with hsome | hnatural
        · rw [hnone] at hsome
          cases hsome
        · exact hfits hnumeric hnatural
      · exact fun hnot hnumeric hnatural => hnot ⟨hS, e, he, hnumeric, .inr hnatural⟩
  | @labelled e text hS he htext =>
      rw [labelled_compatible_iff]
      constructor
      · rintro hnumeric ⟨-, e', he', hnot, -⟩
        rw [he] at he'
        cases he'
        rw [hnumeric] at hnot
        cases hnot
      · intro hnot
        cases hnumeric : e.isNumeric with
        | true => rfl
        | false =>
            refine absurd ⟨hS, e, he, hnumeric, .inl ?_⟩ hnot
            rw [htext, Option.isSome_some]
  | text hT =>
      exact iff_of_true ⟨ValueType.fits_of_isPlain rfl, fun hc => by simp at hc⟩
        (hother (by rw [hT]; decide))

/-- **The type that a declaration asks for is compatible unless the declaration is mismatched.** -/
theorem buildType_compatible_iff {d d' : Draft σ} {t : ParameterType}
    (h : (r.buildType setting calibrations : Build σ ParameterType) d = .ok t d') :
    t.Compatible ↔ ¬ r.Mismatched calibrations := by
  obtain ⟨own, hmade, rfl⟩ := buildType_eq_ok h
  exact (own.compatible_finished _ _).trans hmade.compatible_iff

/-- The encoding of a number with context rules holds numbers. -/
theorem buildType_encoding {d d' : Draft σ} {t : ParameterType} (hcategory : r.category = 'N')
    (hcontext : calibrations.hasContext r.name = true)
    (h : (r.buildType setting calibrations : Build σ ParameterType) d = .ok t d') :
    t.encoding.any Encoding.isNumeric = true := by
  have hother {c : Char} (hc : r.category = c) (hne : c ≠ 'N') : False :=
    hne (hc.symm.trans hcategory)
  obtain ⟨own, hmade, rfl⟩ := buildType_eq_ok h
  cases hmade with
  | numeric _ he hmade =>
      -- a number with rules is calibrated
      cases hmade with
      | calibrated hptc hok =>
          obtain ⟨_, -, rfl⟩ := calibratedType_eq_ok hok
          exact isNumeric_of_encoding he hptc
      | natural hnone => simp [hnone.2] at hcontext
      | plain hnone => simp [hnone.2] at hcontext
  | raw hS => exact (hother hS (by decide)).elim
  | labelled hS => exact (hother hS (by decide)).elim
  | text hT => exact (hother hT (by decide)).elim

end ParameterRecord

/-! ## Arguments -/

namespace CommandParameter

variable {p : CommandParameter} {calibrations : Registry}

theorem isNumeric_of_encoding {tag : Int} {e : Encoding} (h : p.encoding tag = .ok e)
    (hptc : 2 ≤ p.ptc ∧ p.ptc ≤ 5) : e.isNumeric = true := by
  unfold CommandParameter.encoding at h
  cases hresolve : Encoding.resolve p.ptc p.pfc tag with
  | ok e' =>
      rw [hresolve] at h
      cases h
      exact Encoding.isNumeric_of_resolve hresolve hptc
  | error fault =>
      rw [hresolve] at h
      cases h

theorem compatible_plain {name : String} {value : ValueType} {encoding : Option Encoding}
    (h : value.Fits encoding) :
    ({ name := name, value := value, encoding := encoding } : ArgumentType).Compatible :=
  ⟨h, nofun⟩

/-- **The type that a declaration asks for is compatible.** -/
theorem buildType_compatible {epoch : Epoch} {tag : Int} {t : ArgumentType}
    (h : p.buildType epoch calibrations tag = .ok t) : t.Compatible := by
  obtain ⟨own, _, _, _, hmade, rfl⟩ := buildType_eq_ok h
  have hown : own.Compatible := by
    cases hmade with
    | calibrated _ hnumeric => exact ArgumentType.compatible_of_numeric hnumeric
    | labelled _ hnumeric => exact ArgumentType.compatible_of_numeric hnumeric
    | natural _ hvalue => exact compatible_plain (ValueType.fits_natural? hvalue)
    | plain hvalue => exact compatible_plain (ValueType.fits_of_isPlain hvalue)
  exact ⟨hown.value, hown.decalibrator⟩

end CommandParameter

/-- The type of a header argument is compatible. -/
theorem HeaderArgument.type_compatible (a : HeaderArgument) (name : String) (size : Nat) :
    (a.type name size).Compatible := by
  refine ArgumentType.compatible_of_numeric ?_
  unfold HeaderArgument.type
  dsimp only
  split <;> rfl

end MissionBase
