import MissionBase.Proofs.Coherence
import MissionBase.Proofs.Steps
import MissionBase.Proofs.Telemetry.Grammar

/-!
# The expansion of a structure is all or nothing

A structure is planned first: every name is looked up, every group is counted, and every nested
container gets a name that is free in the database as it stands, before any of them is there. Only
then are the containers added, one by one and inner ones before outer ones. `Commitment` has one
case for each kind of entry that a plan can begin with, and a run that gives entries is one
(`commitment_of_eq_ok`).

There always is such a run. Two containers of one plan could only clash by their names. These end in
numbers that are given out once, so they differ wherever in the structure the groups stand
(`Planned.nodup`). A container that is added takes up its own name and no other (`Committed`), so
the names of the rest are still free when their turn comes, and nothing that was planned is refused.
What fails, fails in the plan.
-/

namespace MissionBase

namespace Telemetry

/-! ## Runs that give entries -/

/-- The draft where a group has become the last of the containers. -/
def withGroup (d : Draft TelemetryState) (name : String) (entries : List Entry) :
    Draft TelemetryState :=
  { d with database := { d.database with
      containers := d.database.containers.push { name := name, entries := entries } } }

/-- How a plan is committed: the entries that it gives, and the draft with its containers. -/
inductive Commitment : List PlannedEntry → Draft TelemetryState → List Entry →
    Draft TelemetryState → Prop where
  | nil (d : Draft TelemetryState) : Commitment [] d [] d
  | single {entry : Entry} {rest : List PlannedEntry} {entries : List Entry}
      {d d' : Draft TelemetryState} : Commitment rest d entries d' →
      Commitment (.single entry :: rest) d (entry :: entries) d'
  | nested {name : String} {inner rest : List PlannedEntry} {repetition : Repeat}
      {inside entries : List Entry} {d d₁ d' : Draft TelemetryState} :
      Commitment inner d inside d₁ → d₁.database.containers.has name = false →
      Commitment rest (withGroup d₁ name inside) entries d' →
      Commitment (.nested name inner repetition :: rest) d
        ({ place := .previous 0, repetition := some repetition
           item := .container d₁.database.containers.next } :: entries) d'

/-- **A run that gives entries is the commitment of its plan.** -/
theorem commitment_of_eq_ok (ps : List PlannedEntry) {entries : List Entry}
    {d d' : Draft TelemetryState} (h : commitEntries ps d = .ok entries d') :
    Commitment ps d entries d' := by
  match ps with
  | [] =>
      rw [commitEntries] at h
      obtain ⟨rfl, rfl⟩ := Run.pure_eq_ok.mp h
      exact .nil d
  | .single entry :: rest =>
      rw [commitEntries, commitEntry] at h
      obtain ⟨_, _, hfirst, h⟩ := Run.bind_eq_ok.mp h
      obtain ⟨rfl, rfl⟩ := Run.pure_eq_ok.mp hfirst
      obtain ⟨_, _, hrest, h⟩ := Run.bind_eq_ok.mp h
      obtain ⟨rfl, rfl⟩ := Run.pure_eq_ok.mp h
      exact .single (commitment_of_eq_ok rest hrest)
  | .nested name inner repetition :: rest =>
      rw [commitEntries, commitEntry] at h
      obtain ⟨_, _, hgroup, h⟩ := Run.bind_eq_ok.mp h
      obtain ⟨inside, d₁, hinner, hgroup⟩ := Run.bind_eq_ok.mp hgroup
      obtain ⟨k, _, hadd, hgroup⟩ := Run.bind_eq_ok.mp hgroup
      obtain ⟨rfl, rfl⟩ := Run.pure_eq_ok.mp hgroup
      obtain ⟨_, _, hrest, h⟩ := Run.bind_eq_ok.mp h
      obtain ⟨rfl, rfl⟩ := Run.pure_eq_ok.mp h
      obtain ⟨db, hnew, rfl⟩ := Run.add_eq_ok.mp hadd
      obtain ⟨hfree, hnew⟩ := Database.addContainer_eq_ok.mp hnew
      cases hnew
      exact .nested (commitment_of_eq_ok inner hinner) hfree (commitment_of_eq_ok rest hrest)
  termination_by sizeOf ps

/-! ## Runs of either outcome -/

/-- A plan gives out numbers and does nothing else, whether it is made or fails. -/
theorem planned_ends {α : Type} (plan : Plan α) (d : Draft TelemetryState) :
    Run.Ends (planned plan) d
      (fun x t => ∃ n, plan d.stage.groupCount = .ok x n ∧
        t = { d with stage := { d.stage with groupCount := n } })
      fun t => ∃ n, t = { d with stage := { d.stage with groupCount := n } } := by
  unfold planned
  refine Run.Ends.bind (Run.ends_stage ?_)
  split
  · rename_i x n hplan
    exact ⟨n, hplan, rfl⟩
  · rename_i n _
    exact ⟨n, rfl⟩

section

variable {R : Draft TelemetryState → Draft TelemetryState → Prop} [Std.Refl R]
  [IsTrans (Draft TelemetryState) R]

/-- Planning goes no further than giving out numbers. -/
theorem steps_planned (hcount : ∀ n, Run.Steps R
      (Build.changeStage fun s => { s with groupCount := n } : TelemetryBuild Unit))
    {α : Type} (plan : Plan α) : Run.Steps R (planned plan) := by
  unfold planned
  refine Run.steps_stage.bind fun state => ?_
  cases plan state.groupCount with
  | ok x n => exact (hcount n).bind fun _ => Run.steps_pure x
  | error e n => exact (hcount n).bind fun _ => Run.steps_throw e

mutual

/-- Committing goes no further than adding containers. -/
theorem steps_commitEntry (hadd : ∀ (refused : String → Error) (k : Container), Run.Steps R
      (Build.add refused fun db => db.addContainer k : TelemetryBuild ContainerRef)) :
    ∀ entry : PlannedEntry, Run.Steps R (commitEntry entry)
  | .single entry => Run.steps_pure entry
  | .nested _ entries _ =>
      (steps_commitEntries hadd entries).bind fun _ => (hadd _ _).bind fun _ => Run.steps_pure _

theorem steps_commitEntries (hadd : ∀ (refused : String → Error) (k : Container), Run.Steps R
      (Build.add refused fun db => db.addContainer k : TelemetryBuild ContainerRef)) :
    ∀ entries : List PlannedEntry, Run.Steps R (commitEntries entries)
  | [] => Run.steps_pure []
  | entry :: rest =>
      (steps_commitEntry hadd entry).bind fun _ =>
        (steps_commitEntries hadd rest).bind fun _ => Run.steps_pure _

end

end

/-! ## The names of a plan -/

mutual

/-- The names of the containers that a plan makes, inner ones before outer ones. -/
def madeNames : List PlannedEntry → List String
  | [] => []
  | entry :: rest => madeNamesOf entry ++ madeNames rest

/-- The names of the containers that an entry makes. -/
def madeNamesOf : PlannedEntry → List String
  | .single _ => []
  | .nested name entries _ => madeNames entries ++ [name]

end

/-- Numbers of groups are given out once, in a row. -/
theorem Planned.numbered {s : Surroundings} {parent : String} {start : Option Int} {n m : Nat}
    {elements : List VariableElement} {ps : List PlannedEntry}
    (h : Planned s parent start n elements ps m) :
    n ≤ m ∧ ∀ name ∈ madeNames ps, s.taken name = false ∧
      ∃ base k, name = MissionBase.numbered base k ∧ n < k ∧ k ≤ m := by
  induction h with
  | nil => exact ⟨Nat.le_refl _, by simp [madeNames]⟩
  | plain _ _ _ ih => simpa only [madeNames, madeNamesOf, List.nil_append] using ih
  | lone _ _ _ _ _ _ ih => simpa only [madeNames, madeNamesOf, List.nil_append] using ih
  | @nest parent _ n k m _ _ _ _ _ inner after _ _ _ _ _ hfree _ _ ihInner ih =>
      obtain ⟨hnk, hinner⟩ := ihInner
      obtain ⟨hkm, hafter⟩ := ih
      refine ⟨by omega, fun name hname => ?_⟩
      simp only [madeNames, madeNamesOf, List.nil_append, List.mem_append, List.mem_cons,
        List.not_mem_nil, or_false] at hname
      rcases hname with (hname | rfl) | hname
      · obtain ⟨htaken, base, i, rfl, hlow, hhigh⟩ := hinner name hname
        exact ⟨htaken, base, i, rfl, by omega, by omega⟩
      · exact ⟨hfree, parent, n + 1, rfl, by omega, by omega⟩
      · obtain ⟨htaken, base, i, rfl, hlow, hhigh⟩ := hafter name hname
        exact ⟨htaken, base, i, rfl, by omega, by omega⟩

/-- **No name is planned twice**: the numbers in them are different. -/
theorem Planned.nodup {s : Surroundings} {parent : String} {start : Option Int} {n m : Nat}
    {elements : List VariableElement} {ps : List PlannedEntry}
    (h : Planned s parent start n elements ps m) : (madeNames ps).Nodup := by
  induction h with
  | nil => exact List.nodup_nil
  | plain _ _ _ ih => exact ih
  | lone _ _ _ _ _ _ ih => exact ih
  | @nest parent _ n k m _ _ _ _ _ inner after _ _ _ _ _ _ hinner hafter ihInner ih =>
      have hne {base base' : String} {i j : Nat} (hij : i ≠ j) :
          MissionBase.numbered base i ≠ MissionBase.numbered base' j :=
        fun heq => hij (eq_of_numbered_eq heq)
      have hnk := hinner.numbered.1
      show (madeNames inner ++ [MissionBase.numbered parent (n + 1)] ++ madeNames after).Nodup
      rw [List.append_assoc, List.nodup_append, List.singleton_append, List.nodup_cons]
      refine ⟨ihInner, ⟨fun hmem => ?_, ih⟩, fun a ha b hb => ?_⟩
      · obtain ⟨-, base, i, heq, hlow, -⟩ := hafter.numbered.2 _ hmem
        exact hne (by omega) heq
      · obtain ⟨-, base, i, rfl, hlow, hhigh⟩ := hinner.numbered.2 a ha
        rcases List.mem_cons.mp hb with rfl | hb
        · exact hne (by omega)
        · obtain ⟨-, base', j, rfl, hlow', -⟩ := hafter.numbered.2 b hb
          exact hne (by omega)

/-! ## No commitment fails -/

/-- The containers of a plan are there: those that were there before stand first and unchanged,
then come new ones with the names that were made, and nothing else is different. -/
structure Committed (made : List String) (d d' : Draft TelemetryState) : Prop where
  names : d'.database.containers.names = d.database.containers.names ++ made
  kept : ∀ r c, d.database.containers.get? r = some c → d'.database.containers.get? r = some c
  rest : d' = { d with database := { d.database with containers := d'.database.containers } }

theorem Committed.refl (d : Draft TelemetryState) : Committed [] d d where
  names := (List.append_nil _).symm
  kept := fun _ _ h => h
  rest := rfl

theorem Committed.trans {made made' : List String} {d d' d'' : Draft TelemetryState}
    (h : Committed made d d') (h' : Committed made' d' d'') : Committed (made ++ made') d d'' where
  names := by rw [h'.names, h.names, List.append_assoc]
  kept := fun r c hc => h'.kept r c (h.kept r c hc)
  rest := by
    have hrest := h'.rest
    rw [h.rest] at hrest
    exact hrest

/-- A name that is free and not among those that were made is free afterwards. -/
theorem Committed.free {made : List String} {d d' : Draft TelemetryState}
    (h : Committed made d d') {name : String}
    (hfree : d.database.containers.has name = false) (hnew : name ∉ made) :
    d'.database.containers.has name = false := by
  rw [Bool.eq_false_iff, ne_eq, ← Catalog.mem_names_iff, h.names, List.mem_append]
  rintro (hold | hmade)
  · rw [Catalog.mem_names_iff, hfree] at hold
    cases hold
  · exact hnew hmade

/-- A container with a free name is added. -/
theorem addContainer_committed {d : Draft TelemetryState} {c : Container}
    (hfree : d.database.containers.has c.name = false) :
    ∃ d', (Build.add .structural fun db => db.addContainer c : TelemetryBuild ContainerRef) d =
        .ok d.database.containers.next d' ∧ Committed [c.name] d d' := by
  refine ⟨{ d with database := { d.database with containers := d.database.containers.push c } },
    Run.add_eq_ok.mpr ⟨_, Database.addContainer_eq_ok.mpr ⟨hfree, rfl⟩, rfl⟩, ?_, ?_, rfl⟩
  · exact Catalog.names_push _ c
  · exact fun _ _ hc => Catalog.get?_push_of_some hc c

mutual

/-- **A planned entry is committed** if its names are different and free: the inner containers take
their own names, which leaves the name of the outer one. -/
theorem commitEntry_committed : ∀ (p : PlannedEntry) {d : Draft TelemetryState},
    (madeNamesOf p).Nodup → (∀ name ∈ madeNamesOf p, d.database.containers.has name = false) →
    ∃ entry d', commitEntry p d = .ok entry d' ∧ Committed (madeNamesOf p) d d'
  | .single entry, d, _, _ => by
      refine ⟨entry, d, ?_, .refl d⟩
      rw [commitEntry]
      rfl
  | .nested name inner repetition, d, hnodup, hfree => by
      rw [madeNamesOf] at hnodup hfree
      obtain ⟨hinner, -, hdisjoint⟩ := List.nodup_append.mp hnodup
      obtain ⟨entries, d₁, hrun, hcommitted⟩ := commitEntries_committed inner (d := d) hinner
        fun x hx => hfree x (List.mem_append_left _ hx)
      have hname : name ∉ madeNames inner :=
        fun hmem => hdisjoint name hmem name List.mem_cons_self rfl
      have hfree₁ : d₁.database.containers.has name = false :=
        hcommitted.free (hfree name (List.mem_append_right _ List.mem_cons_self)) hname
      obtain ⟨d₂, hadd, hadded⟩ :=
        addContainer_committed (c := { name := name, entries := entries }) hfree₁
      refine ⟨⟨.previous 0, some repetition, .container d₁.database.containers.next⟩, d₂, ?_,
        hcommitted.trans hadded⟩
      rw [commitEntry]
      exact Run.bind_eq_ok.mpr ⟨entries, d₁, hrun, Run.bind_eq_ok.mpr
        ⟨_, d₂, hadd, Run.pure_eq_ok.mpr ⟨rfl, rfl⟩⟩⟩

/-- **Planned entries are committed** one after the other: what the first of them adds leaves the
names of the others free. -/
theorem commitEntries_committed : ∀ (ps : List PlannedEntry) {d : Draft TelemetryState},
    (madeNames ps).Nodup → (∀ name ∈ madeNames ps, d.database.containers.has name = false) →
    ∃ entries d', commitEntries ps d = .ok entries d' ∧ Committed (madeNames ps) d d'
  | [], d, _, _ => by
      refine ⟨[], d, ?_, .refl d⟩
      rw [commitEntries]
      rfl
  | p :: ps, d, hnodup, hfree => by
      rw [madeNames] at hnodup hfree
      obtain ⟨hfirst, hrest, hdisjoint⟩ := List.nodup_append.mp hnodup
      obtain ⟨entry, d₁, hrun₁, hcommitted₁⟩ := commitEntry_committed p (d := d) hfirst
        fun x hx => hfree x (List.mem_append_left _ hx)
      have hfree₁ : ∀ x ∈ madeNames ps, d₁.database.containers.has x = false := by
        intro x hx
        have hnew : x ∉ madeNamesOf p := fun hmem => hdisjoint x hmem x hx rfl
        exact hcommitted₁.free (hfree x (List.mem_append_right _ hx)) hnew
      obtain ⟨entries, d₂, hrun₂, hcommitted₂⟩ := commitEntries_committed ps hrest hfree₁
      refine ⟨entry :: entries, d₂, ?_, hcommitted₁.trans hcommitted₂⟩
      rw [commitEntries]
      exact Run.bind_eq_ok.mpr ⟨entry, d₁, hrun₁, Run.bind_eq_ok.mpr
        ⟨entries, d₂, hrun₂, Run.pure_eq_ok.mpr ⟨rfl, rfl⟩⟩⟩

end

/-- A plan whose names are free when it is made can be committed to any draft with the same
database. -/
theorem Planned.committed {s : Surroundings} {parent : String} {start : Option Int} {n m : Nat}
    {elements : List VariableElement} {ps : List PlannedEntry}
    (h : Planned s parent start n elements ps m) {d : Draft TelemetryState}
    (htaken : s.taken = d.database.containers.has) :
    ∃ entries d', commitEntries ps d = .ok entries d' ∧ Committed (madeNames ps) d d' := by
  refine commitEntries_committed ps h.nodup ?_
  intro name hname
  rw [← htaken]
  exact (h.numbered.2 name hname).1

/-! ## All or nothing -/

/-- **A structure that cannot be expanded leaves nothing behind.** Only the plan can fail, and then
nothing is different but the numbers given out. Whatever structure is planned, for a container of
any name and at any depth, the names it makes differ from each other and from those of the
containers that there are; committing it never fails, and adds exactly the containers of these
names. -/
theorem expandStructure_all_or_nothing (d : Draft TelemetryState) (container : ContainerRef)
    (start : Int) (elements : List VariableElement) :
    (∀ e d', expandStructure container start elements d = .error e d' →
      d'.database = d.database ∧
        ∃ n, d' = { d with stage := { d.stage with groupCount := n } }) ∧
    ∀ parent place members n ps m,
      planEntries ⟨entryItem d.stage d.database, d.database.containers.has⟩ parent place members n =
        .ok ps m →
      (madeNames ps).Nodup ∧
        (∀ name ∈ madeNames ps, d.database.containers.has name = false ∧
          ∃ base k, name = numbered base k) ∧
        ∀ t : Draft TelemetryState, t.database = d.database →
          ∃ entries t', commitEntries ps t = .ok entries t' ∧ Committed (madeNames ps) t t' := by
  constructor
  · intro e d' hrun
    have hends : Run.Ends (expandStructure container start elements) d (fun _ _ => True)
        fun t => ∃ n, t = { d with stage := { d.stage with groupCount := n } } := by
      unfold expandStructure
      refine Run.Ends.bind (Run.ends_stage (Run.Ends.bind (Run.ends_database (Run.Ends.bind ?_))))
      refine (planned_ends _ d).mono ?_ fun _ h => h
      rintro ps t - ⟨n, hplan, rfl⟩
      -- what was planned is committed, so the run does not end here
      obtain ⟨entries, t', hcommit, -⟩ := (planned_of_eq_ok hplan).committed
        (d := { d with stage := { d.stage with groupCount := n } }) rfl
      refine Run.Ends.bind ?_
      unfold Run.Ends
      rw [hcommit]
      trivial
    obtain ⟨n, rfl⟩ := (Run.ends_iff.mp hends).2 e d' hrun
    exact ⟨rfl, n, rfl⟩
  · intro parent place members n ps m hplan
    have hplanned := planned_of_eq_ok hplan
    refine ⟨hplanned.nodup, ?_, ?_⟩
    · intro name hname
      obtain ⟨hfree, base, k, heq, -⟩ := hplanned.numbered.2 name hname
      exact ⟨hfree, base, k, heq⟩
    · intro t ht
      exact hplanned.committed (by rw [ht])

end Telemetry

end MissionBase
