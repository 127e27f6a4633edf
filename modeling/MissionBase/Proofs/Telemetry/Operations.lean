import MissionBase.Proofs.Telemetry.OwnTypes
import MissionBase.Proofs.Telemetry.Supplements

/-!
# What the telemetry stage does to a database

The stage adds parameter types, parameters, aliases, containers and algorithms, and it changes
parameter types, parameters and containers that are there. Whatever it reads, it does nothing else
to the database, so the commands and the types of their arguments are what they were before.

- **`operates_buildTelemetry`**: a run of the stage is a sequence of such operations.
- **`Operations.commanding`**: none of them is about commands.
-/

namespace MissionBase.Telemetry

open Run

variable {σ : Type} {setting : Setting}

/-- One operation of the stage on a database. -/
inductive Operation : Database → Database → Prop where
  | parameterType {db db' : Database} {t : ParameterType} {r : ParameterTypeRef} :
      db.addParameterType t = .ok (r, db') → Operation db db'
  | parameter {db db' : Database} {p : Parameter} {r : ParameterRef} :
      db.addParameter p = .ok (r, db') → Operation db db'
  | registerAlias {db : Database} (r : ParameterRef) (a : Alias) : Operation db (db.addAlias r a)
  | container {db db' : Database} {c : Container} {r : ContainerRef} :
      db.addContainer c = .ok (r, db') → Operation db db'
  | algorithm {db db' : Database} {a : Algorithm} {r : AlgorithmRef} :
      db.addAlgorithm a = .ok (r, db') → Operation db db'
  | changeParameterType {db : Database} (r : ParameterTypeRef)
      (change : ParameterType → ParameterType) : Operation db (db.changeParameterType r change)
  | changeParameter {db : Database} (r : ParameterRef) (change : Parameter → Parameter) :
      Operation db (db.changeParameter r change)
  | changeContainer {db : Database} (r : ContainerRef) (change : Container → Container) :
      Operation db (db.changeContainer r change)

/-- Any number of operations. -/
abbrev Operations : Database → Database → Prop := Relation.ReflTransGen Operation

/-- An operation leaves commands and the types of their arguments alone. -/
theorem Operation.commanding {db db' : Database} (h : Operation db db') :
    db'.commands = db.commands ∧ db'.argumentTypes = db.argumentTypes := by
  cases h with
  | parameterType h =>
      obtain ⟨-, heq⟩ := Database.addParameterType_eq_ok.mp h
      cases heq
      exact ⟨rfl, rfl⟩
  | parameter h =>
      obtain ⟨-, heq⟩ := Database.addParameter_eq_ok.mp h
      cases heq
      exact ⟨rfl, rfl⟩
  | container h =>
      obtain ⟨-, heq⟩ := Database.addContainer_eq_ok.mp h
      cases heq
      exact ⟨rfl, rfl⟩
  | algorithm h =>
      obtain ⟨-, heq⟩ := Catalog.map_add_eq_ok.mp h
      cases heq
      exact ⟨rfl, rfl⟩
  | registerAlias | changeParameterType | changeParameter | changeContainer => exact ⟨rfl, rfl⟩

/-- **So does any number of them.** -/
theorem Operations.commanding {db db' : Database} (h : Operations db db') :
    db'.commands = db.commands ∧ db'.argumentTypes = db.argumentTypes := by
  induction h with
  | refl => exact ⟨rfl, rfl⟩
  | tail _ hlast ih => exact ⟨hlast.commanding.1.trans ih.1, hlast.commanding.2.trans ih.2⟩

/-! ## The parts of the stage -/

/-- Operations on the database of a draft. -/
abbrev Operating : Draft σ → Draft σ → Prop := OnDatabase Operations

theorem operating_of_same (d t : Draft σ) (h : t.database = d.database) : Operating d t := by
  show Operations d.database t.database
  rw [h]

/-- Packets and layouts are made of such operations. -/
theorem operating_tracks : Tracks Operating where
  noted := fun _ _ _ => .refl
  stage := fun _ _ => steps_modify fun _ => .refl
  unsigned := steps_addUnsigned (fun _ => steps_add fun _ _ _ h => .single (.parameterType h))
    fun _ _ => steps_add fun _ _ _ h => .single (.parameter h)
  container := fun _ _ => steps_add fun _ _ _ h => .single (.container h)
  changeContainer := fun r change => steps_modify fun _ => .single (.changeContainer r change)

theorem operates_declare (r : ParameterRecord) : Steps Operating (declare setting r) :=
  steps_declare operating_of_same (fun _ _ => steps_add fun _ _ _ h => .single (.parameterType h))
    (fun _ _ => steps_add fun _ _ _ h => .single (.parameter h))
    (fun r a => steps_modify fun _ => .single (.registerAlias r a)) r

/-- Context rules change a type. -/
theorem operates_attachContexts (name : String) : Steps Operating (attachContexts name) := by
  refine fun d => (attachContexts_ends name d).mono (fun _ t _ ht => ?_) fun t ht => ?_
  · rcases ht with rfl | ht
    · exact .refl
    · obtain ⟨_, p, _, -, -, -, -, rfl⟩ := ht
      exact .single (.changeParameterType p.type _)
  · rw [ht]
    exact Std.Refl.refl d

/-- Limits bring a copy of a type and give it to a parameter. -/
theorem operates_attachLimits (row : Row) : Steps Operating (attachLimits row) := by
  intro d
  refine attachLimits_ends.mono (fun _ t _ ht => ?_) fun t ht => operating_of_same d t ht.database
  obtain ⟨-, r, q, -, -, ⟨-, hdb, -⟩ | ⟨-, x, name, alarm, -, hfree, hdb⟩⟩ := ht
  · exact operating_of_same d t hdb
  · have hadd : d.database.addParameterType { x with name := name, alarm := alarm } =
        .ok (d.database.parameterTypes.next, { d.database with
          parameterTypes :=
            d.database.parameterTypes.push { x with name := name, alarm := alarm } }) :=
      Database.addParameterType_eq_ok.mpr ⟨hfree, rfl⟩
    show Operations d.database t.database
    rw [hdb]
    exact .tail (.single (.parameterType hadd)) (.changeParameter q _)

/-! ## The whole stage -/

/-- **The stage does nothing else to the database.** -/
theorem operates_buildTelemetry (compiler : Option FormulaCompiler) :
    Steps Operating (buildTelemetry setting compiler) := by
  unfold buildTelemetry
  refine (steps_calibrations operating_of_same).bind fun _ => Steps.bind ?_ fun _ => ?_
  · refine (tracks_scan operating_tracks fun row => ?_).bind fun _ => steps_pure _
    exact (steps_lift _).bind fun record => operates_declare record
  refine (tracks_compileSynthetic operating_tracks
    (fun _ _ => steps_add fun _ _ _ h => .single (.algorithm h)) compiler).bind fun _ =>
      Steps.bind ?_ fun _ => ?_
  · unfold attachContextCalibrators
    refine steps_stage.bind fun state => steps_forM (fun name => ?_) _
    exact tracks_recover operating_tracks (operates_attachContexts name)
  refine (tracks_loadPackets operating_tracks).bind fun _ => ?_
  refine (tracks_loadFixedLayout operating_tracks).bind fun _ => ?_
  refine (tracks_loadVariableLayout operating_tracks).bind fun _ => ?_
  unfold loadLimits
  refine (tracks_scan operating_tracks (tracks_declareCheck operating_tracks)).bind fun _ => ?_
  refine Steps.bind (operating_tracks.stage (fun _ => rfl) fun _ => rfl) fun _ => ?_
  exact (tracks_scan operating_tracks operates_attachLimits).bind fun _ => steps_pure _

end MissionBase.Telemetry
