import MissionBase.Proofs.Commanding.Soundness
import Mathlib.Logic.Relation

/-!
# The units of the command stage

Like the telemetry stage, the command stage is a walk along units of work, and every unit leads from
sound drafts to sound drafts.
-/

namespace MissionBase.Commanding

open Run Upkeep

variable {setting : Setting} {d t : Draft CommandingState}

/-- One unit of work of the command stage, with the record of an error as a unit of its own. -/
inductive Step (setting : Setting) : Draft CommandingState → Draft CommandingState → Prop where
  | recorded {d : Draft CommandingState} (e : Error) :
      Step setting d { d with errors := d.errors ++ [e] }
  | header {d t : Draft CommandingState} (row : Row) :
      Leads (declareHeader row) d t → Step setting d t
  | headerArgument {d t : Draft CommandingState} (row : Row) :
      Leads (declareHeaderArgument row) d t → Step setting d t
  | headerField {d t : Draft CommandingState} (row : Row) :
      Leads (placeHeaderField row) d t → Step setting d t
  | calibrations {d t : Draft CommandingState} :
      Leads (Build.within (fun _ => ({} : Registry)) (fun s r => { s with calibrations := r })
        (Registry.loadCommanding setting)) d t → Step setting d t
  | parameter {d t : Draft CommandingState} (row : Row) :
      Leads (do
        let p ← CommandParameter.ofRow row
        let state ← Build.stage
        if state.parameters.has p.name then
          throw (row.data s!"duplicate command parameter '{p.name}'")
        Build.changeStage fun s => { s with parameters := s.parameters.set p.name p }) d t →
      Step setting d t
  | element {d t : Draft CommandingState} (row : Row) :
      Leads (declareElement setting row) d t → Step setting d t
  | sorted {d t : Draft CommandingState} :
      Leads (Build.changeStage fun s => { s with elements := s.elements.sortLists (·.bit) }) d t →
      Step setting d t
  | command {d t : Draft CommandingState} (row : Row) :
      Leads (defineCommand setting row) d t → Step setting d t
  | condition {d t : Draft CommandingState} (row : Row) :
      Leads (declareCondition row) d t → Step setting d t
  /-- The conditions of a command have been taken up before they become its constraint. -/
  | constraint {d t : Draft CommandingState} {command : CommandRef}
      {comparisons : List Comparison} : (command, comparisons) ∈ d.stage.conditions.entries →
      Leads (addConstraint command comparisons) d t → Step setting d t
  | expression {d t : Draft CommandingState} (row : Row) :
      Leads (declareExpression row) d t → Step setting d t
  | stage {d t : Draft CommandingState} (row : Row) :
      Leads (declareStage setting row) d t → Step setting d t
  | verifier {d t : Draft CommandingState} (row : Row) :
      Leads (attachStage row) d t → Step setting d t

/-- A walk along units. -/
abbrev Walk (setting : Setting) : Draft CommandingState → Draft CommandingState → Prop :=
  Relation.ReflTransGen (Step setting)

/-! ## Soundness -/

theorem safe_calibrations : upkeep.Safe d (Build.within (fun _ => ({} : Registry))
    (fun s r => { s with calibrations := r }) (Registry.loadCommanding setting))
    fun _ _ => True := by
  intro hd
  have hsame {u : Draft Registry} (h : u.database = d.database) :
      upkeep.Sound ⟨u.database, u.errors, u.warnings, { d.stage with calibrations := u.stage }⟩ ∧
        d.database.Kept u.database := by
    rw [h]
    exact ⟨⟨hd.wired, { hd.stage with }⟩, .refl _⟩
  refine Ends.within ((Registry.loadCommanding_sameDatabase setting _).mono (fun _ u _ h => ?_)
    fun u h => hsame h)
  exact ⟨(hsame h).1, (hsame h).2, trivial⟩

/-- **Every unit leads from sound drafts to sound drafts.** -/
theorem Step.sound (hstep : Step setting d t) (hd : upkeep.Sound d) :
    upkeep.Sound t ∧ d.database.Kept t.database := by
  cases hstep with
  | recorded e => exact ⟨hd.of_same rfl rfl, .refl _⟩
  | header row h => exact (safe_declareHeader row).leads hd h
  | headerArgument row h => exact (safe_declareHeaderArgument row).leads hd h
  | headerField row h => exact (safe_placeHeaderField row).leads hd h
  | calibrations h => exact safe_calibrations.leads hd h
  | parameter row h =>
      refine Safe.leads (Q := fun _ _ => True) ?_ hd h
      refine Safe.read fun _ _ => Safe.stage fun _ => Safe.unless fun _ => ?_
      exact safe_changeStage (fun ht => { ht.stage with }) trivial
  | element row h => exact (safe_declareElement row).leads hd h
  | sorted h =>
      refine Safe.leads (Q := fun _ _ => True) ?_ hd h
      exact safe_changeStage (fun ht => { ht.stage with }) trivial
  | command row h => exact (safe_defineCommand row).leads hd h
  | condition row h => exact (safe_declareCondition row).leads hd h
  | constraint hmem h =>
      have hcriteria := Database.resolves_index.mp hd.stage.conditions _ hmem
      exact (safe_addConstraint _ hcriteria).leads hd h
  | expression row h => exact (safe_declareExpression row).leads hd h
  | stage row h => exact (safe_declareStage row).leads hd h
  | verifier row h => exact (safe_attachStage row).leads hd h

/-- **So does every walk.** -/
theorem Walk.sound (hwalk : Walk setting d t) (hd : upkeep.Sound d) : upkeep.Sound t := by
  induction hwalk with
  | refl => exact hd
  | tail _ hunit ih => exact (hunit.sound ih).1

/-! ## The stage as a walk -/

theorem walk_unit {α : Type} {x : CommandingBuild α} (h : ∀ d t, Leads x d t → Step setting d t) :
    Steps (Walk setting) x :=
  steps_of_leads fun d t hleads => .single (h d t hleads)

theorem walk_scan {table : String} {handle : Row → CommandingBuild Unit}
    (h : ∀ row d t, Leads (handle row) d t → Step setting d t) :
    Steps (Walk setting) (Build.scan setting table handle) :=
  steps_scan (fun _ e => .single (.recorded e)) fun row => walk_unit (h row)

theorem walk_loadHeaders : Steps (Walk setting) (loadHeaders setting) := by
  unfold loadHeaders
  refine (walk_scan fun row _ _ => .header row).bind fun _ => ?_
  refine (walk_scan fun row _ _ => .headerArgument row).bind fun _ => ?_
  exact (walk_scan fun row _ _ => .headerField row).bind fun _ => steps_pure _

theorem walk_loadElements : Steps (Walk setting) (loadElements setting) :=
  (walk_scan fun row _ _ => .element row).bind fun _ => walk_unit fun _ _ => .sorted

theorem walk_loadConstraints : Steps (Walk setting) (loadConstraints setting) := by
  unfold loadConstraints
  refine (walk_scan fun row _ _ => .condition row).bind fun _ d => Ends.bind (ends_stage ?_)
  -- making constraints leaves the conditions as they are
  refine (ends_forM_mem (I := fun t => Walk setting d t ∧ t.stage = d.stage)
    (fun entry hentry t ht => ?_) ⟨.refl, rfl⟩).mono (fun _ _ _ ht => ht.1) fun _ ht => ht
  obtain ⟨hwalk, hstage⟩ := ht
  have hmem : (entry.1, entry.2) ∈ t.stage.conditions.entries := by
    rw [hstage]
    exact hentry
  have hunit : Steps (fun t u => (entry.1, entry.2) ∈ t.stage.conditions.entries →
      Step setting t u) (addConstraint entry.1 entry.2) :=
    steps_of_leads fun _ _ hleads hmem => .constraint hmem hleads
  have hsame : Steps (fun t u => u.stage = t.stage) (addConstraint entry.1 entry.2) := by
    unfold addConstraint
    split
    · exact fun _ => rfl
    · exact steps_modify fun _ => rfl
  refine (hunit t).mono (fun _ u hrun hu => ?_) fun u hu => hwalk.tail (hu hmem)
  exact ⟨hwalk.tail (hu hmem), (hsame.of_ok hrun).trans hstage⟩

theorem walk_loadVerifiers : Steps (Walk setting) (loadVerifiers setting) := by
  unfold loadVerifiers
  refine (walk_scan fun row _ _ => .expression row).bind fun _ => ?_
  refine (walk_scan fun row _ _ => .stage row).bind fun _ => ?_
  exact (walk_scan fun row _ _ => .verifier row).bind fun _ => steps_pure _

/-- **The stage, as it is run, is a walk.** -/
theorem walk_buildCommands : Steps (Walk setting) (buildCommands setting) := by
  unfold buildCommands
  refine walk_loadHeaders.bind fun _ => ?_
  refine (walk_unit fun _ _ => .calibrations).bind fun _ => ?_
  refine ((walk_scan fun row _ _ => .parameter row).bind fun _ => steps_pure _ :
    Steps (Walk setting) (loadParameters setting)).bind fun _ => ?_
  refine walk_loadElements.bind fun _ => ?_
  refine ((walk_scan fun row _ _ => .command row).bind fun _ => steps_pure _ :
    Steps (Walk setting) (loadCommands setting)).bind fun _ => ?_
  exact walk_loadConstraints.bind fun _ => walk_loadVerifiers

end MissionBase.Commanding
