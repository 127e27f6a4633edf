import MissionBase.Proofs.Commanding.RecordSteps

/-!
# What the command stage is made of before verification

Before it comes to verification, the command stage is made of few operations: it adds types of
arguments and commands, it changes commands, and it notes what it has read. A relation between
drafts that tracks each of these operations tracks all the work that is made of them, up to the
constraints. So what those operations leave alone is what it was when verification begins. Only
groups of elements bring types of arguments that are records.
-/

namespace MissionBase.Commanding

open Run

variable {setting : Setting} {R : Draft CommandingState → Draft CommandingState → Prop}

/-- What the stage keeps in mind of verification. -/
def verification (s : CommandingState) : Index String (List Comparison) × List String ×
    Index String VerificationStage × List String :=
  (s.expressions, s.unsupportedExpressions, s.stages, s.unsupportedStages)

/-- A relation in which each of the operations steps that headers, commands and constraints are made
of, apart from groups of elements. -/
structure Tracks (R : Draft CommandingState → Draft CommandingState → Prop) : Prop where
  noted : ∀ d errors warnings, R d { d with errors := errors, warnings := warnings }
  /-- What is kept in mind of verification stays what it is. -/
  stage : ∀ {change : CommandingState → CommandingState},
    (∀ s, verification (change s) = verification s) → Steps R (Build.changeStage change)
  argumentType : ∀ d (t : ArgumentType), t.value.isRecord = false →
    R d { d with database := (d.database.addArgumentType t).2 }
  command : ∀ refused c, Steps R (Build.add refused fun db => db.addCommand c)
  changeCommand : ∀ r change, Steps R (Build.changeDatabase fun db => db.changeCommand r change)

namespace Tracks

variable (h : Tracks R)
include h

theorem recorded (d : Draft CommandingState) (e : Error) :
    R d { d with errors := d.errors ++ [e] } := h.noted d _ d.warnings

theorem headerSteps : HeaderSteps R where
  template := h.command
  headers := fun _ => h.stage fun _ => rfl
  arguments := fun _ => h.stage fun _ => rfl
  type := fun a name size d => h.argumentType d (a.type name size) rfl
  changeCommand := h.changeCommand

theorem gatheringSteps : GatheringSteps R where
  parameters := fun _ => h.stage fun _ => rfl
  elements := fun _ => h.stage fun _ => rfl
  conditions := fun _ => h.stage fun _ => rfl
  constraint := fun r _ => h.changeCommand r _

theorem loadCalibrations [IsTrans (Draft CommandingState) R] : Steps R (Build.within
    (fun _ => ({} : Registry)) (fun (s : CommandingState) r => { s with calibrations := r })
    (Registry.loadCommanding setting)) := by
  refine steps_calibrations fun d errors warnings registry => ?_
  have hstage : Steps R (Build.changeStage fun (s : CommandingState) =>
      { s with calibrations := registry }) := h.stage fun _ => rfl
  exact IsTrans.trans _ _ _ (h.noted d errors warnings) (hstage.of_ok rfl)

end Tracks

variable [Std.Refl R] [IsTrans (Draft CommandingState) R]

/-- Commands bring the types of their groups as well. -/
theorem tracks_loadCommands (h : Tracks R)
    (hgroup : ∀ d t, R d { d with database := (d.database.addArgumentType t).2 }) :
    Steps R (loadCommands setting) := by
  have htype (t : ArgumentType) : Steps R (addArgumentType t) := fun d => hgroup d t
  have hargument (p : CommandParameter) (tag : Int) : Steps R (argumentTypeFor setting p tag) :=
    steps_argumentTypeFor (fun t _ => htype t) (fun _ _ => h.stage fun _ => rfl)
      (fun _ _ => h.stage fun _ => rfl) p tag
  refine steps_loadCommands (fun elements command => ?_) h.command h.recorded
  exact steps_placeElements hargument (fun _ _ _ _ => htype _)
    (fun _ => steps_modify fun d => h.noted d d.errors _) elements command

/-- What the stage does before it comes to verification. -/
def beforeVerifiers (setting : Setting) : CommandingBuild Unit := do
  loadHeaders setting
  Build.within (fun _ => ({} : Registry)) (fun s r => { s with calibrations := r })
    (Registry.loadCommanding setting)
  loadParameters setting
  loadElements setting
  loadCommands setting
  loadConstraints setting

/-- **Before verification the stage is made of the operations that are tracked.** -/
theorem tracks_beforeVerifiers (h : Tracks R)
    (hgroup : ∀ d t, R d { d with database := (d.database.addArgumentType t).2 }) :
    Steps R (beforeVerifiers setting) :=
  (h.headerSteps.loadHeaders h.recorded).bind fun _ => h.loadCalibrations.bind fun _ =>
    (h.gatheringSteps.loadParameters h.recorded).bind fun _ =>
      (h.gatheringSteps.loadElements h.recorded).bind fun _ =>
        (tracks_loadCommands h hgroup).bind fun _ => h.gatheringSteps.loadConstraints h.recorded

/-- The stage ends with verification. -/
theorem buildCommands_eq_ok {d d' : Draft CommandingState} :
    buildCommands setting d = .ok () d' ↔
      ∃ u, beforeVerifiers setting d = .ok () u ∧ loadVerifiers setting u = .ok () d' := by
  have hstage : buildCommands setting =
      beforeVerifiers setting >>= fun _ => loadVerifiers setting := by
    unfold buildCommands beforeVerifiers
    simp only [bind_assoc]
  rw [hstage, bind_eq_ok]
  exact ⟨fun ⟨_, u, h, h'⟩ => ⟨u, h, h'⟩, fun ⟨u, h, h'⟩ => ⟨(), u, h, h'⟩⟩

end MissionBase.Commanding
