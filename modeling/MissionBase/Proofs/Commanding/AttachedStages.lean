import MissionBase.Proofs.Commanding.VerificationStages

/-!
# Stages attached to commands

A record that attaches a stage to a command appends one verifier to the command, and a record that
does not changes nothing, whether it is passed over or refused. Verifiers matter neither for the
names of commands nor for what reports echo of them, so every record has the effect that it would
have had as the first one. Hence a command ends with the verifiers that it had and one for each
record that attaches a stage to it, in the order of the records.
-/

namespace MissionBase

open Run

/-- Catalogs with the same names find the same places. -/
theorem Catalog.find?_of_names {kind : Kind} {α : Type} [Named α] {c c' : Catalog kind α}
    (h : c'.names = c.names) (name : String) : c'.find? name = c.find? name := by
  have hnames (c : Catalog kind α) : c.find? name =
      (c.names.findIdx? fun n => n == name).map fun i => ⟨i⟩ := by
    unfold find? names toList
    rw [List.findIdx?_map, ← List.findIdx?_toArray, Array.toArray_toList]
    rfl
  rw [hnames, hnames, h]

/-- Databases whose commands differ in their verifiers at most, and that have the same types of
arguments. -/
structure Database.SameButVerifiers (db db' : Database) : Prop where
  names : db'.commands.names = db.commands.names
  argumentTypes : db'.argumentTypes = db.argumentTypes
  commands : ∀ r, ∃ verifiers : Command → List Verifier, db'.commands.get? r =
    (db.commands.get? r).map fun c => { c with verifiers := verifiers c }

namespace Database.SameButVerifiers

variable {db db' : Database}

/-- **Verifiers do not matter for the application identifier of a command.** -/
theorem apidArgument? (h : db.SameButVerifiers db') (fuel : Nat) (r : CommandRef) :
    db'.apidArgument? fuel r = db.apidArgument? fuel r := by
  have hentry (c : Command) (verifiers : List Verifier) :
      db'.apidOfEntry? { c with verifiers := verifiers } = db.apidOfEntry? c := by
    funext e
    unfold apidOfEntry? argumentHasSize
    rw [h.argumentTypes]
    rfl
  induction fuel generalizing r with
  | zero => rfl
  | succ fuel ih =>
      obtain ⟨verifiers, hr⟩ := h.commands r
      unfold Database.apidArgument?
      rw [hr]
      cases db.commands.get? r with
      | none => rfl
      | some c =>
          rw [Option.map_some]
          dsimp only
          rw [hentry]
          cases c.entries.findSome? (db.apidOfEntry? c) with
          | some name => rfl
          | none =>
              cases c.base with
              | none => rfl
              -- the header is one command further, and the fuel one less
              | some base => exact ih base

theorem verifierOf (h : db.SameButVerifiers db') (r : CommandRef) (stage : VerificationStage) :
    Commanding.verifierOf db' r stage = Commanding.verifierOf db r stage := by
  unfold Commanding.verifierOf commandEcho
  rw [h.apidArgument?]

end Database.SameButVerifiers

namespace Commanding

variable {setting : Setting} {row : Row} {rows : List Row} {r : CommandRef}
  {stage : VerificationStage} {d d' t u : Draft CommandingState}

/-! ## One record -/

/-- The stage that a record attaches to a command: the record is one of commands, names this one,
and names a stage that exists. -/
def attached? (d : Draft CommandingState) (r : CommandRef) (row : Row) : Option VerificationStage :=
  if row.flagD 1 'C' = 'C' ∧ (row.text 0).toOption.bind d.database.commands.find? = some r then
    (row.text 2).toOption.bind d.stage.stages.find?
  else none

/-- A draft with one more verifier of a command. -/
def withVerifier (d : Draft CommandingState) (r : CommandRef) (stage : VerificationStage) :
    Draft CommandingState :=
  { d with database := d.database.changeCommand r fun c =>
      { c with verifiers := c.verifiers ++ [verifierOf d.database r stage] } }

/-- **A record that attaches a stage to a command appends its verifier.** -/
theorem attachStage_of_attached (h : attached? d r row = some stage) :
    attachStage row d = .ok () (withVerifier d r stage) := by
  unfold attached? at h
  split at h
  · rename_i hcommand
    obtain ⟨hflag, hcommand⟩ := hcommand
    obtain ⟨task, htask, hcommand⟩ := Option.bind_eq_some_iff.mp hcommand
    obtain ⟨id, hid, hstage⟩ := Option.bind_eq_some_iff.mp h
    have htask := eq_ok_of_toOption htask
    have hid := eq_ok_of_toOption hid
    have hends : Ends (attachStage row) d (fun _ t => t = withVerifier d r stage)
        fun _ => False := by
      unfold attachStage
      refine Ends.bind (ends_of_ok (lift_eq_ok.mpr ⟨Row.require_of_text hid (by decide), rfl⟩) ?_)
      refine Ends.bind (ends_of_ok (lift_eq_ok.mpr ⟨htask, rfl⟩) ?_)
      rw [if_pos hflag]
      refine Ends.bind (ends_database ?_)
      rw [hcommand]
      refine Ends.bind (ends_of_ok (lift_eq_ok.mpr ⟨hid, rfl⟩) ?_)
      refine Ends.bind (ends_stage ?_)
      rw [hstage]
      exact ends_of_ok (a := ()) (changeDatabase_eq_ok.mpr rfl) rfl
    obtain ⟨_, t, ht, rfl⟩ := hends.exists_ok
    exact ht
  · cases h

/-- **Any other record changes nothing**, whether it is passed over or refused. -/
theorem attachStage_of_not_attached (h : ∀ r, attached? d r row = none) :
    Leads (attachStage row) d d := by
  unfold Leads attachStage
  refine Ends.bind (ends_lift (fun _ _ => ?_) rfl)
  refine Ends.bind (ends_lift (fun task htask => ?_) rfl)
  refine Ends.ite (fun hflag => ?_) fun _ => ends_pure rfl
  refine Ends.bind (ends_database ?_)
  cases hcommand : d.database.commands.find? task with
  | none => exact ends_throw rfl
  | some r =>
      refine Ends.bind (ends_lift (fun id hid => ?_) rfl)
      refine Ends.bind (ends_stage ?_)
      cases hstage : d.stage.stages.find? id with
      | none => exact Ends.ite (fun _ => ends_throw rfl) fun _ => ends_pure rfl
      | some stage =>
          have hattached : attached? d r row = some stage := by
            unfold attached?
            rw [htask, hid]
            exact (if_pos ⟨hflag, hcommand⟩).trans hstage
          rw [h r] at hattached
          cases hattached

/-- A record that names a stage that was dropped is passed over. -/
theorem attachStage_of_dropped {task id : String} (hflag : row.flagD 1 'C' = 'C')
    (htask : row.text 0 = .ok task) (hcommand : d.database.commands.find? task = some r)
    (hid : row.text 2 = .ok id) (hnone : d.stage.stages.find? id = none)
    (hdropped : id ∈ d.stage.unsupportedStages) : attachStage row d = .ok () d := by
  have hends : Ends (attachStage row) d (fun _ t => t = d) fun _ => False := by
    unfold attachStage
    refine Ends.bind (ends_of_ok (lift_eq_ok.mpr ⟨Row.require_of_text hid (by decide), rfl⟩) ?_)
    refine Ends.bind (ends_of_ok (lift_eq_ok.mpr ⟨htask, rfl⟩) ?_)
    rw [if_pos hflag]
    refine Ends.bind (ends_database ?_)
    rw [hcommand]
    refine Ends.bind (ends_of_ok (lift_eq_ok.mpr ⟨hid, rfl⟩) ?_)
    refine Ends.bind (ends_stage ?_)
    rw [hnone]
    refine Ends.ite (fun hunknown => ?_) fun _ => ends_pure rfl
    rw [List.contains_iff_mem.mpr hdropped] at hunknown
    cases hunknown
  obtain ⟨_, t, ht, rfl⟩ := hends.exists_ok
  exact ht

/-- What records that attach stages leave alone. -/
structure Attaching (d t : Draft CommandingState) : Prop where
  stage : t.stage = d.stage
  names : t.database.commands.names = d.database.commands.names

instance : Std.Refl Attaching := ⟨fun _ => ⟨rfl, rfl⟩⟩

instance : IsTrans (Draft CommandingState) Attaching :=
  ⟨fun _ _ _ h h' => ⟨h'.stage.trans h.stage, h'.names.trans h.names⟩⟩

theorem attaching_withVerifier (d : Draft CommandingState) (r : CommandRef)
    (stage : VerificationStage) : Attaching d (withVerifier d r stage) :=
  ⟨rfl, Catalog.names_modify _ r fun _ => rfl⟩

theorem attaching_attachStage (row : Row) : Steps Attaching (attachStage row) := by
  intro d
  by_cases hattached : ∃ r stage, attached? d r row = some stage
  · obtain ⟨r, stage, hattached⟩ := hattached
    exact ends_of_ok (attachStage_of_attached hattached) (attaching_withVerifier d r stage)
  · have hnone (r : CommandRef) : attached? d r row = none :=
      Option.eq_none_iff_forall_ne_some.mpr fun stage h => hattached ⟨r, stage, h⟩
    refine (attachStage_of_not_attached hnone).mono (fun _ t _ ht => ?_) fun t ht => ?_
    · rw [ht]
      exact Std.Refl.refl d
    · rw [ht]
      exact Std.Refl.refl d

/-! ## All records -/

/-- The verifiers that records attach to a command, in the order of the records. -/
def verifiersOf (d : Draft CommandingState) (rows : List Row) (r : CommandRef) : List Verifier :=
  (rows.filterMap (attached? d r)).map (verifierOf d.database r)

/-- What a draft has become when stages have been attached to commands. -/
structure Attached (d : Draft CommandingState) (rows : List Row) (t : Draft CommandingState) :
    Prop where
  same : Attaching d t
  algorithms : t.database.algorithms = d.database.algorithms
  argumentTypes : t.database.argumentTypes = d.database.argumentTypes
  commands : ∀ r, t.database.commands.get? r = (d.database.commands.get? r).map fun c =>
    { c with verifiers := c.verifiers ++ verifiersOf d rows r }

namespace Attached

theorem start (d : Draft CommandingState) : Attached d [] d := by
  refine ⟨Std.Refl.refl d, rfl, rfl, fun r => ?_⟩
  have hsame (c : Command) : { c with verifiers := c.verifiers ++ verifiersOf d [] r } = c := by
    unfold verifiersOf
    rw [List.filterMap_nil, List.map_nil, List.append_nil]
  simp only [hsame, Option.map_id']

theorem sameButVerifiers (h : Attached d rows t) : d.database.SameButVerifiers t.database :=
  ⟨h.same.names, h.argumentTypes,
    fun r => ⟨fun c => c.verifiers ++ verifiersOf d rows r, h.commands r⟩⟩

/-- A record attaches what it would have attached as the first one. -/
theorem attached?_eq (h : Attached d rows t) (r : CommandRef) (row : Row) :
    attached? t r row = attached? d r row := by
  have hfind : t.database.commands.find? = d.database.commands.find? :=
    funext fun name => Catalog.find?_of_names h.same.names name
  unfold attached?
  rw [hfind, h.same.stage]

theorem skip (h : Attached d rows t) (hrow : ∀ r, attached? d r row = none)
    (errors : List Error) : Attached d (rows ++ [row]) { t with errors := errors } := by
  refine ⟨⟨h.same.stage, h.same.names⟩, h.algorithms, h.argumentTypes, fun r => ?_⟩
  have hsame : verifiersOf d (rows ++ [row]) r = verifiersOf d rows r := by
    unfold verifiersOf
    rw [List.filterMap_append, List.filterMap_cons_none (hrow r), List.filterMap_nil,
      List.append_nil]
  rw [hsame]
  exact h.commands r

theorem attach (h : Attached d rows t) (hrow : attached? d r row = some stage) :
    Attached d (rows ++ [row]) (withVerifier t r stage) := by
  refine ⟨IsTrans.trans _ _ _ h.same (attaching_withVerifier t r stage), h.algorithms,
    h.argumentTypes, fun q => ?_⟩
  have hone (q : CommandRef) : verifiersOf d (rows ++ [row]) q =
      verifiersOf d rows q ++ ((attached? d q row).map (verifierOf d.database q)).toList := by
    unfold verifiersOf
    rw [List.filterMap_append, List.map_append, List.filterMap_cons, List.filterMap_nil]
    cases attached? d q row <;> rfl
  show (t.database.commands.modify r _).get? q = _
  by_cases hq : r.index = q.index
  · -- the verifier is made in this draft, and it is the one of the first draft
    obtain rfl : r = q := by
      cases r
      cases q
      cases hq
      rfl
    rw [Catalog.get?_modify_self, h.commands r, Option.map_map, hone, hrow]
    refine congrArg (fun f => (d.database.commands.get? r).map f) (funext fun c => ?_)
    rw [h.sameButVerifiers.verifierOf]
    simp only [Function.comp, Option.map_some, Option.toList_some, List.append_assoc]
  · -- a record names one command
    have hother : attached? d q row = none := by
      unfold attached? at hrow ⊢
      split at hrow
      · rename_i hr
        refine if_neg fun hq' => hq ?_
        rw [Option.some.inj (hr.2.symm.trans hq'.2)]
      · cases hrow
    rw [Catalog.get?_modify_of_ne _ hq, h.commands q, hone, hother]
    simp only [Option.map_none, Option.toList_none, List.append_nil]

end Attached

/-- **When all records have been read, every command has the verifiers that it had and those that
the records attach to it.** -/
theorem inTurn_attached (hrun : inTurn setting attachStage rows d = .ok () d') :
    Attached d rows d' := by
  refine inTurn_induct (fun before row t u hbefore hrow => ?_) (Attached.start d) hrun
  by_cases hattached : ∃ r stage, attached? d r row = some stage
  · obtain ⟨r, stage, hattached⟩ := hattached
    have hsame := (hbefore.attached?_eq r row).trans hattached
    rw [recover_of_ok (attachStage_of_attached hsame)] at hrow
    cases hrow
    exact hbefore.attach hattached
  · have hnone (r : CommandRef) : attached? d r row = none :=
      Option.eq_none_iff_forall_ne_some.mpr fun stage h => hattached ⟨r, stage, h⟩
    have hleads := attachStage_of_not_attached fun r => (hbefore.attached?_eq r row).trans (hnone r)
    rcases recover_cases hrow with hwork | ⟨e, v, hwork, rfl⟩
    · obtain rfl : u = t := (ends_iff.mp hleads).1 () u hwork
      exact hbefore.skip hnone u.errors
    · obtain rfl : v = t := (ends_iff.mp hleads).2 e v hwork
      exact hbefore.skip hnone (v.errors ++ [e])

end Commanding

end MissionBase
