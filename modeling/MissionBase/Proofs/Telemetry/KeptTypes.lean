import MissionBase.Proofs.Telemetry.Supplements
import MissionBase.Proofs.Telemetry.Units

/-!
# Units that keep types

Every unit of the telemetry stage that only adds keeps the types that are there, and the name and
the type of every parameter. So what a parameter means between two such units is what it means
after all of them.
-/

namespace MissionBase

open Run

variable {σ : Type} {setting : Setting}

/-- A later database in which types and the types of parameters are what they were. -/
structure Database.KeepsTypes (db db' : Database) : Prop where
  types : ∀ r x, db.parameterTypes.get? r = some x → db'.parameterTypes.get? r = some x
  parameters : ∀ q p, db.parameters.get? q = some p →
    ∃ p', db'.parameters.get? q = some p' ∧ p'.name = p.name ∧ p'.type = p.type

namespace Database.KeepsTypes

variable {db db' db'' : Database}

theorem of_eq (htypes : db'.parameterTypes = db.parameterTypes)
    (hparameters : db'.parameters = db.parameters) : db.KeepsTypes db' :=
  ⟨fun _ _ h => by rw [htypes]; exact h, fun _ p h => ⟨p, by rw [hparameters]; exact h, rfl, rfl⟩⟩

theorem trans (h : db.KeepsTypes db') (h' : db'.KeepsTypes db'') : db.KeepsTypes db'' := by
  refine ⟨fun r x hx => h'.types r x (h.types r x hx), fun q p hp => ?_⟩
  obtain ⟨p', hp', hname, htype⟩ := h.parameters q p hp
  obtain ⟨p'', hp'', hname', htype'⟩ := h'.parameters q p' hp'
  exact ⟨p'', hp'', hname'.trans hname, htype'.trans htype⟩

/-- **What a parameter means stays what it was.** -/
theorem typeOf? (h : db.KeepsTypes db') {q : ParameterRef} {x : ParameterType}
    (hx : db.typeOf? q = some x) : db'.typeOf? q = some x := by
  obtain ⟨p, hp, htype⟩ := Option.bind_eq_some_iff.mp hx
  obtain ⟨p', hp', -, heq⟩ := h.parameters q p hp
  unfold Database.typeOf?
  rw [hp', Option.bind_some, heq]
  exact h.types _ _ htype

theorem addParameterType {t : ParameterType} {r : ParameterTypeRef}
    (h : db.addParameterType t = .ok (r, db')) : db.KeepsTypes db' := by
  obtain ⟨-, heq⟩ := addParameterType_eq_ok.mp h
  cases heq
  exact ⟨fun _ _ hx => Catalog.get?_push_of_some hx t, fun _ p hp => ⟨p, hp, rfl, rfl⟩⟩

theorem addParameter {p : Parameter} {r : ParameterRef}
    (h : db.addParameter p = .ok (r, db')) : db.KeepsTypes db' := by
  obtain ⟨-, heq⟩ := addParameter_eq_ok.mp h
  cases heq
  exact ⟨fun _ _ hx => hx, fun _ p' hp => ⟨p', Catalog.get?_push_of_some hp p, rfl, rfl⟩⟩

theorem addAlias (r : ParameterRef) (a : Alias) : db.KeepsTypes (db.addAlias r a) := by
  refine ⟨fun _ _ hx => hx, fun q p hp => ?_⟩
  obtain ⟨p', hp', rfl | rfl⟩ :=
    Catalog.exists_get?_modify hp r fun p => { p with aliases := p.aliases ++ [a] }
  · exact ⟨_, hp', rfl, rfl⟩
  · exact ⟨_, hp', rfl, rfl⟩

instance : Std.Refl Database.KeepsTypes := ⟨fun _ => .of_eq rfl rfl⟩

instance : IsTrans Database Database.KeepsTypes := ⟨fun _ _ _ => .trans⟩

/-- What is added besides declared parameters changes no type. -/
theorem of_supplement (h : Supplement db db') : db.KeepsTypes db' := by
  cases h with
  | elsewhere htypes hparameters _ _ => exact .of_eq htypes hparameters
  | unsignedType size h => exact .addParameterType h
  | parameter _ h => exact .addParameter h
  | argumentType _ => exact .of_eq rfl rfl

end Database.KeepsTypes

namespace Telemetry

/-- A step between databases of which the later keeps types. -/
def Keeping (d t : Draft σ) : Prop := d.database.KeepsTypes t.database

instance : Std.Refl (@Keeping σ) := ⟨fun _ => .of_eq rfl rfl⟩

instance : IsTrans (Draft σ) Keeping := ⟨fun _ _ _ => Database.KeepsTypes.trans⟩

/-- Additions besides declared parameters change no type. -/
theorem keeping_of_supplies {α τ : Type} {key : σ → τ} {x : Build σ α}
    (h : Steps (Supplies key) x) : Steps Keeping x :=
  h.mono fun _ _ hst => Supplement.induct hst.database fun _ _ => .of_supplement

/-! ## Parameters -/

section

variable {R : Draft TelemetryState → Draft TelemetryState → Prop}

/-- Calibrations do not show in the database. -/
theorem steps_calibrations (hsame : ∀ d t, t.database = d.database → R d t) :
    Steps R (Build.within (fun _ => ({} : Registry)) (fun s r => { s with calibrations := r })
      (Registry.loadTelemetry setting)) :=
  fun d => Ends.within ((Registry.loadTelemetry_sameDatabase setting _).mono
    (fun _ _ _ h => hsame d _ h) fun _ h => hsame d _ h)

/-- **Declarations bring types, parameters and aliases**, and nothing else into the database. -/
theorem steps_declare [Std.Refl R] [IsTrans (Draft TelemetryState) R]
    (hsame : ∀ d t, t.database = d.database → R d t)
    (htype : ∀ refused t, Steps R (Build.add refused fun db => db.addParameterType t))
    (hparameter : ∀ refused p, Steps R (Build.add refused fun db => db.addParameter p))
    (halias : ∀ r a, Steps R (Build.changeDatabase fun db => db.addAlias r a))
    (r : ParameterRecord) : Steps R (declare setting r) := by
  have hstage (change : TelemetryState → TelemetryState) :
      Steps R (Build.changeStage change : TelemetryBuild Unit) :=
    steps_modify fun d => hsame d { d with stage := change d.stage } rfl
  unfold declare
  refine steps_stage.bind fun state => Steps.unless ?_
  split
  · exact hstage _
  · split
    · exact Steps.unless (hstage _)
    · unfold addDeclared
      refine Steps.bind ?_ fun type => (hparameter _ _).bind fun ref => ?_
      · unfold typeFor
        refine steps_stage.bind fun state => ?_
        dsimp only
        split
        · exact steps_pure _
        · refine (noted_buildType.mono fun d t h => hsame d t h.database).bind fun type => ?_
          refine steps_database.bind fun db => (htype _ _).bind fun ref => ?_
          split
          · exact (hstage _).bind fun _ => steps_pure _
          · exact steps_pure _
      · dsimp only
        split
        · exact (halias _ _).bind fun _ => hstage _
        · exact hstage _

end

theorem keeping_of_same {d t : Draft TelemetryState} (h : t.database = d.database) :
    Keeping d t := .of_eq (congrArg _ h) (congrArg _ h)

theorem keeping_declare (r : ParameterRecord) : Steps Keeping (declare setting r) :=
  steps_declare (fun _ _ => keeping_of_same) (fun _ _ => steps_add fun _ _ _ => .addParameterType)
    (fun _ _ => steps_add fun _ _ _ => .addParameter)
    (fun _ _ => steps_modify fun _ => .addAlias _ _) r

/-! ## Units -/

variable {compiler : Option FormulaCompiler} {d t : Draft TelemetryState}

/-- **A unit that only adds keeps types.** -/
theorem Adding.keeping (h : Adding setting compiler d t) : Keeping d t := by
  have hsupplies {α : Type} {x : TelemetryBuild α} (hx : Steps Supplying x) (hleads : Leads x d t) :
      Keeping d t := (keeping_of_supplies hx).of_leads hleads
  cases h with
  | recorded e => exact .of_eq rfl rfl
  | limitation m => exact .of_eq rfl rfl
  | calibrations h => exact (steps_calibrations fun _ _ => keeping_of_same).of_leads h
  | parameter row h =>
      exact Steps.of_leads ((steps_lift _).bind fun record => keeping_declare record) h
  | synthetic name location _ h =>
      exact hsupplies (steps_addSynthetic supplies_addAlgorithm _ name location) h
  | rule row h => exact hsupplies (tracks_declareRule supplying_tracks row) h
  | packet row h => exact hsupplies (tracks_declarePacket supplying_tracks row) h
  | packetName row h => exact hsupplies (supplying_tracks.packetSteps.namePacket row) h
  | root h =>
      have hroot := steps_addPacketRoot supplying_tracks.unsigned supplying_tracks.container
      exact hsupplies (hroot _) h
  | packets key packets _ h => exact hsupplies (tracks_addPackets supplying_tracks _ key packets) h
  | fixedEntry row h => exact hsupplies (supplying_tracks.packetSteps.placeFixed row) h
  | element row h => exact hsupplies (tracks_declareElement supplying_tracks row) h
  | layout elements packet h =>
      exact hsupplies (tracks_expandPacket supplying_tracks elements packet) h
  | check row h => exact hsupplies (tracks_declareCheck supplying_tracks row) h
  | sorted h =>
      refine hsupplies ?_ h
      exact supplies_stage fun _ => rfl

/-- **So do any number of them.** -/
theorem Additions.keeping (h : Additions setting compiler d t) : Keeping d t := by
  induction h with
  | refl => exact .of_eq rfl rfl
  | tail _ hunit ih => exact ih.trans hunit.keeping

end Telemetry

end MissionBase
