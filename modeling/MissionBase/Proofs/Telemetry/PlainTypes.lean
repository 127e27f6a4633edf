import MissionBase.Proofs.CompatibleTypes

/-!
# Plain types

A type is made without alarms and without context calibrators, whatever it is made for. Both come
later, each in its own part of the telemetry stage, so where that part begins no type has them. What
the stages add besides are natural numbers of some bits, which never get either.
-/

namespace MissionBase

open Run

variable {σ : Type} {setting : Setting}

/-! ## What holds of all types -/

namespace Database

/-- All types of parameters have a property. -/
def AllTypes (P : ParameterType → Prop) (db : Database) : Prop :=
  ∀ r x, db.parameterTypes.get? r = some x → P x

/-- A later database whose types all have a property where those of the earlier have. -/
def KeepsAll (P : ParameterType → Prop) (db db' : Database) : Prop :=
  db'.AllTypes P ↔ db.AllTypes P

variable {P : ParameterType → Prop} {db db' : Database}

instance : Std.Refl (KeepsAll P) := ⟨fun _ => Iff.rfl⟩

instance : IsTrans Database (KeepsAll P) := ⟨fun _ _ _ h h' => h'.trans h⟩

theorem keepsAll_of_eq (h : db'.parameterTypes = db.parameterTypes) : db.KeepsAll P db' := by
  unfold KeepsAll AllTypes
  rw [h]

/-- A type that has the property if all others have. -/
theorem keepsAll_of_push {x : ParameterType} (hx : db.AllTypes P → P x)
    (h : db'.parameterTypes = db.parameterTypes.push x) : db.KeepsAll P db' := by
  unfold KeepsAll AllTypes
  rw [h, Catalog.forall_get?_push]
  exact and_iff_left_of_imp hx

/-- What is added besides declared parameters has every property of natural numbers. -/
theorem keepsAll_of_supplement (hP : ∀ size, P (unsignedType size)) (h : Supplement db db') :
    db.KeepsAll P db' := by
  cases h with
  | elsewhere htypes _ _ _ => exact keepsAll_of_eq htypes
  | unsignedType size h =>
      obtain ⟨-, heq⟩ := addParameterType_eq_ok.mp h
      cases heq
      exact keepsAll_of_push (fun _ => hP size) rfl
  | parameter _ h =>
      obtain ⟨-, heq⟩ := addParameter_eq_ok.mp h
      cases heq
      exact keepsAll_of_eq rfl
  | argumentType _ => exact keepsAll_of_eq rfl

end Database

/-- What the command stage adds to parameters and types are such additions, too. -/
theorem Commanding.Furnishing.supplements {d t : Draft CommandingState}
    (h : Commanding.Furnishing d t) :
    Relation.ReflTransGen Supplement d.database t.database := by
  induction h with
  | refl => exact .refl
  | tail _ hlast ih =>
      cases hlast with
      | supplying h => exact ih.trans h.database
      | identifiers _ h _ => exact ih.tail (.argumentType h)

/-! ## Types as they are made -/

/-- A type without alarms and without context calibrators. -/
structure ParameterType.Plain (t : ParameterType) : Prop where
  alarm : t.alarm = none
  contexts : t.contextCalibrators = []

namespace ParameterRecord

variable {calibrations : Registry} {r : ParameterRecord} {t : ParameterType}

theorem TypeMade.plain (h : r.TypeMade setting calibrations t) : t.Plain := by
  cases h with
  | numeric _ _ hmade =>
      cases hmade with
      | calibrated _ hok =>
          obtain ⟨_, -, rfl⟩ := calibratedType_eq_ok hok
          exact ⟨rfl, rfl⟩
      | natural => exact ⟨rfl, rfl⟩
      | plain => exact ⟨rfl, rfl⟩
  | raw => exact ⟨rfl, rfl⟩
  | labelled => exact ⟨rfl, rfl⟩
  | text => exact ⟨rfl, rfl⟩

/-- **The type that a declaration asks for is plain.** -/
theorem plain_buildType {d d' : Draft σ}
    (h : (r.buildType setting calibrations : Build σ ParameterType) d = .ok t d') : t.Plain := by
  obtain ⟨own, hmade, rfl⟩ := buildType_eq_ok h
  exact ⟨hmade.plain.alarm, hmade.plain.contexts⟩

end ParameterRecord

/-! ## Where the parts of the telemetry stage begin -/

namespace Course.Parts

variable {config : Config} {files : Files} {compiler : Option FormulaCompiler} {out : Compiled}
  {course : Course config files compiler out} (parts : course.Parts)

/-- **Where the declarations end, all types are plain.** -/
theorem declared_plain : parts.declared.database.AllTypes ParameterType.Plain := by
  obtain ⟨hshared, hsparse⟩ := parts.declared_sparse
  intro ref x hx
  obtain ⟨q, p, hp, rfl⟩ := hsparse.used ref x hx
  obtain ⟨r, -, -, type, own, htype, hown, heq⟩ := hshared.declaration hp
  cases hx.symm.trans htype
  obtain ⟨u, hrun⟩ := hown parts.declared
  have hplain := ParameterRecord.plain_buildType hrun
  rw [heq]
  exact ⟨hplain.alarm, hplain.contexts⟩

end Course.Parts

end MissionBase
