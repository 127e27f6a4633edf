import MissionBase.Proofs.Coherence
import MissionBase.Proofs.Commanding.Parts
import MissionBase.Proofs.CompatibleTypes
import MissionBase.Proofs.Rearrangement.Telemetry

/-!
# Algorithms before verification

The algorithms that a compilation has when it comes to verification are those of synthetic
parameters. Each has the name of its parameter, which is a word, as all names of declared parameters
are. Nothing else adds an algorithm before, and nothing changes one.
-/

namespace MissionBase

open Run

/-- The algorithm of a synthetic parameter, whose name is a word. -/
structure Algorithm.Synthetic (a : Algorithm) : Prop where
  kind : a.kind = .synthetic
  word : Text.isWord a.name.toList = true

/-- All algorithms are those of synthetic parameters, and they are found by their names. -/
structure Database.AllSynthetic (db : Database) : Prop where
  coherent : db.algorithms.Coherent
  synthetic : ∀ r a, db.algorithms.get? r = some a → a.Synthetic

/-- Databases with the same algorithms. -/
def Database.SameAlgorithms (db db' : Database) : Prop := db'.algorithms = db.algorithms

namespace Database.SameAlgorithms

variable {db db' : Database}

instance : Std.Refl Database.SameAlgorithms := ⟨fun _ => rfl⟩

instance : IsTrans Database Database.SameAlgorithms := ⟨fun _ _ _ h h' => Eq.trans h' h⟩

theorem allSynthetic (h : db.SameAlgorithms db') (hall : db.AllSynthetic) : db'.AllSynthetic := by
  have h : db'.algorithms = db.algorithms := h
  exact ⟨h ▸ hall.coherent, fun r a ha => hall.synthetic r a (h ▸ ha)⟩

end Database.SameAlgorithms

/-- Databases with the same algorithms, the same commands and the same types of arguments. -/
structure Database.SameCommanding (db db' : Database) : Prop where
  algorithms : db'.algorithms = db.algorithms
  commands : db'.commands = db.commands
  argumentTypes : db'.argumentTypes = db.argumentTypes

instance : Std.Refl Database.SameCommanding := ⟨fun _ => ⟨rfl, rfl, rfl⟩⟩

instance : IsTrans Database Database.SameCommanding :=
  ⟨fun _ _ _ h h' => ⟨h'.algorithms.trans h.algorithms, h'.commands.trans h.commands,
    h'.argumentTypes.trans h.argumentTypes⟩⟩

/-- A parameter of some bits brings none of them. -/
theorem sameCommanding_addUnsigned {σ : Type} (name : String) (size : Nat) :
    Steps (OnDatabase Database.SameCommanding) (addUnsigned name size : Build σ ParameterRef) :=
  steps_addUnsigned (fun _ => steps_addParameterType fun _ _ => ⟨rfl, rfl, rfl⟩)
    (fun _ _ => steps_addParameter fun _ _ => ⟨rfl, rfl, rfl⟩) name size

namespace Telemetry

variable {setting : Setting} {compiler : Option FormulaCompiler} {d d' : Draft TelemetryState}

/-! ## Telemetry -/

/-- Packets and layouts bring no algorithms. -/
theorem sameAlgorithms_tracks : Tracks (OnDatabase Database.SameAlgorithms) where
  noted := fun _ _ _ => rfl
  stage := fun _ _ => steps_modify fun _ => rfl
  unsigned := fun name size => (sameCommanding_addUnsigned name size).mono fun _ _ h => h.algorithms
  container := fun _ _ => steps_addContainer fun _ _ => rfl
  changeContainer := fun _ _ => steps_modify fun _ => rfl

/-- Declarations bring no algorithms. -/
theorem sameAlgorithms_declareAll (rows : List Row) :
    Steps (OnDatabase Database.SameAlgorithms) (declareAll setting rows) := by
  refine steps_forM (fun row => Steps.recover (fun _ _ => rfl) ?_) rows
  refine (steps_lift _).bind fun record => ?_
  exact steps_declare (fun _ _ h => congrArg Database.algorithms h)
    (fun _ _ => steps_addParameterType fun _ _ => rfl)
    (fun _ _ => steps_addParameter fun _ _ => rfl)
    (fun _ _ => steps_modify fun _ => rfl) record

/-- Context rules bring no algorithms. -/
theorem sameAlgorithms_attachContextCalibrators :
    Steps (OnDatabase Database.SameAlgorithms) (attachContextCalibrators setting) := by
  unfold attachContextCalibrators
  refine steps_stage.bind fun state => steps_forM (fun name => ?_) _
  refine Steps.recover (fun _ _ => rfl) fun d => ?_
  refine (attachContexts_ends name d).mono (fun _ t _ ht => ?_) fun t ht => ht ▸ rfl
  obtain rfl | ⟨_, _, _, -, -, -, -, rfl⟩ := ht <;> rfl

/-- The algorithm of a formula has the name of its parameter. -/
theorem syntheticAlgorithm_named {db : Database} {formulas : FormulaCompiler}
    {name source : String} {a : Algorithm}
    (h : syntheticAlgorithm db formulas name source = .ok a) :
    a.kind = .synthetic ∧ a.name = name := by
  unfold syntheticAlgorithm at h
  dsimp only at h
  split at h
  · obtain ⟨inputs, -, h⟩ := except_bind_eq_ok.mp h
    split at h
    · cases h
    · obtain ⟨read, -, h⟩ := except_bind_eq_ok.mp h
      cases h
      exact ⟨rfl, rfl⟩
  · cases h

theorem syntheticAlgorithm_synthetic {db : Database} {formulas : FormulaCompiler}
    {name source : String} {a : Algorithm} (hword : Text.isWord name.toList = true)
    (h : syntheticAlgorithm db formulas name source = .ok a) : a.Synthetic := by
  obtain ⟨hkind, hname⟩ := syntheticAlgorithm_named h
  exact ⟨hkind, hname ▸ hword⟩

/-- **Every formula brings the algorithm of its parameter**, or none. -/
theorem compileSynthetic_synthetic
    (hwords : ∀ name r, d.stage.declared.find? name = some r → Text.isWord name.toList = true)
    (hall : d.database.AllSynthetic) :
    Ends (compileSynthetic setting compiler) d (fun _ t => t.database.AllSynthetic)
      fun t => t.database.AllSynthetic := by
  unfold compileSynthetic
  refine Ends.bind (ends_stage ?_)
  split
  · exact hall
  · exact hall
  · refine ends_forM_mem (I := fun t : Draft TelemetryState => t.database.AllSynthetic)
      (fun name _ t ht => ?_) hall
    split
    · rename_i r hr
      refine Ends.recover (fun _ _ hu => hu) ?_
      unfold addSynthetic
      refine Ends.bind (ends_lift (fun source _ => Ends.bind (ends_database ?_)) ht)
      refine Ends.bind (ends_lift (fun a ha => Ends.bind (ends_add (fun ref db hadd => ?_) ht)) ht)
      obtain ⟨hfree, heq⟩ := Catalog.map_add_eq_ok.mp hadd
      cases heq
      have hnew := syntheticAlgorithm_synthetic (hwords name r hr) ha
      exact ⟨ht.coherent.push hfree, Catalog.forall_get?_push.mpr ⟨ht.synthetic, hnew⟩⟩
    · exact ht

/-- The name of a giver is a word. -/
theorem isWord_of_mem_givers {rows : List Row} {g : ParameterRecord × ParameterRef}
    (hg : g ∈ givers setting rows d) : Text.isWord g.1.name.toList = true := by
  induction rows generalizing d with
  | nil => cases hg
  | cons row rest ih =>
      unfold givers at hg
      rcases List.mem_append.mp hg with hfirst | hrest
      · have hgiver : giver? setting row d = some g := by simpa using hfirst
        unfold giver? at hgiver
        split at hgiver
        · rename_i r t hr ht
          split at hgiver
          · cases hgiver
          · cases hgiver
            exact isWord_of_ofRow hr
        · cases hgiver
      · split at hrest
        · exact ih hrest
        · cases hrest

end Telemetry

/-! ## Commands -/

/-- What comes before verification brings no algorithms, and keeps nothing in mind of it. -/
structure Commanding.Unverifying (d t : Draft CommandingState) : Prop where
  algorithms : d.database.SameAlgorithms t.database
  stage : Commanding.verification t.stage = Commanding.verification d.stage

namespace Commanding

instance : Std.Refl Unverifying := ⟨fun _ => ⟨rfl, rfl⟩⟩

instance : IsTrans (Draft CommandingState) Unverifying :=
  ⟨fun _ _ _ h h' => ⟨IsTrans.trans _ _ _ h.algorithms h'.algorithms, h'.stage.trans h.stage⟩⟩

theorem unverifying_tracks : Tracks Unverifying where
  noted := fun _ _ _ => ⟨rfl, rfl⟩
  stage := fun hsame => steps_modify fun d => ⟨rfl, hsame d.stage⟩
  argumentType := fun _ _ _ => ⟨rfl, rfl⟩
  command := fun _ _ => steps_addCommand fun _ _ => ⟨rfl, rfl⟩
  changeCommand := fun _ _ => steps_modify fun _ => ⟨rfl, rfl⟩

end Commanding

/-! ## A whole compilation -/

variable {config : Config} {files : Files} {compiler : Option FormulaCompiler} {out : Compiled}

/-- After telemetry, all algorithms are those of synthetic parameters. -/
theorem Course.telemetry_synthetic (course : Course config files compiler out) :
    course.telemetry.database.AllSynthetic := by
  obtain ⟨parts⟩ := course.exists_parts
  have hstart : course.calibrated.database.AllSynthetic := by
    have hblank := course.blank
    rw [← course.calibrated_eq.1] at hblank
    rw [hblank]
    exact ⟨Catalog.coherent_empty,
      fun r a ha => absurd (Catalog.lt_size_of_get? ha) (Nat.not_lt_zero _)⟩
  have hdeclared := Database.SameAlgorithms.allSynthetic
    ((Telemetry.sameAlgorithms_declareAll course.rows).of_ok parts.declared_eq) hstart
  have hwords (name : String) (r : ParameterRecord)
      (hr : parts.declared.stage.declared.find? name = some r) :
      Text.isWord name.toList = true := by
    have hmem := Index.mem_of_find? hr
    rw [(Telemetry.declareAll_given course.given_nil parts.declared_eq).declared] at hmem
    obtain ⟨g, hg, heq⟩ := List.mem_map.mp hmem
    rw [← (Prod.mk.inj heq).1]
    exact Telemetry.isWord_of_mem_givers hg
  -- formulas bring all the algorithms that there are, and what follows brings none
  have hcomputed :=
    (Telemetry.compileSynthetic_synthetic hwords hdeclared).of_ok parts.computed_eq
  have hcontexts : parts.computed.database.SameAlgorithms parts.contextual.database :=
    Telemetry.sameAlgorithms_attachContextCalibrators.of_ok parts.contextual_eq
  have hpackets : parts.contextual.database.SameAlgorithms parts.laidOut.database :=
    (Telemetry.tracks_beforeLimits Telemetry.sameAlgorithms_tracks).of_ok parts.laidOut_eq
  have hlimits : parts.laidOut.database.SameAlgorithms course.telemetry.database :=
    (Telemetry.steps_attachAll (R := Database.SameAlgorithms)
      (fun _ _ _ ⟨_, _, _, _, _, hdb⟩ => by rw [hdb]; rfl) parts.limits).of_ok parts.telemetry_eq
  exact (IsTrans.trans _ _ _ (IsTrans.trans _ _ _ hcontexts hpackets) hlimits :
    Database.SameAlgorithms _ _).allSynthetic hcomputed

/-- **Where verification begins, all algorithms are those of synthetic parameters**, and nothing has
been read of verification. -/
theorem Course.exists_beforeVerifiers (course : Course config files compiler out) :
    ∃ d : Draft CommandingState,
      Commanding.beforeVerifiers course.setting
        ⟨course.telemetry.database, course.telemetry.errors, course.telemetry.warnings, {}⟩ =
          .ok () d ∧
      Commanding.loadVerifiers course.setting d = .ok () course.commanding ∧
      d.database.AllSynthetic ∧ Commanding.verification d.stage = ({}, [], {}, []) := by
  obtain ⟨d, hbefore, hverifiers⟩ := Commanding.buildCommands_eq_ok.mp course.commanding_eq
  have hunverifying : Steps Commanding.Unverifying (Commanding.beforeVerifiers course.setting) :=
    Commanding.tracks_beforeVerifiers Commanding.unverifying_tracks fun _ _ => ⟨rfl, rfl⟩
  have hsame := hunverifying.of_ok hbefore
  exact ⟨d, hbefore, hverifiers, hsame.algorithms.allSynthetic course.telemetry_synthetic,
    hsame.stage⟩

end MissionBase
