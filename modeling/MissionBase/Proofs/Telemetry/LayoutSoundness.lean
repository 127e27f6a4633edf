import MissionBase.Proofs.Telemetry.Soundness

/-!
# Layouts and limits keep the database wired

A fixed layout adds entries to the container of a packet. The structure of a variable one is planned
with all of its names before the first of its groups is added, so that no group is left behind
without a container. Limits give a parameter a copy of its type.
-/

namespace MissionBase

open Run Refers Upkeep

namespace Telemetry

variable {setting : Setting} {d : Draft TelemetryState}

/-! ## Fixed layouts -/

theorem entryItem_resolves {state : TelemetryState} {db : Database} {name : String}
    {location : Location} {x : EntryItem} (h : entryItem state db name location = .ok x) :
    db.Resolves x := by
  unfold entryItem at h
  split at h
  · dsimp only at h
    split at h
    · rename_i selector hfind
      cases h
      exact Database.resolves_ref.mpr (Catalog.lt_size_of_find? hfind)
    · cases h
  · split at h
    · rename_i parameter hfind
      cases h
      exact Database.resolves_ref.mpr (Catalog.lt_size_of_find? hfind)
    · cases h

theorem entryItem_container? {state : TelemetryState} {db : Database} {name : String}
    {location : Location} {x : EntryItem} (h : entryItem state db name location = .ok x) :
    x.container? = none := by
  cases x with
  | container k => exact absurd rfl (entryItem_ne_container h k)
  | _ => rfl

theorem fixedEntry_simple {state : TelemetryState} {db : Database} {row : Row} {name : String}
    {e : Entry} (h : fixedEntry state db row name = .ok e) : Simple e db := by
  unfold fixedEntry at h
  obtain ⟨_, -, h⟩ := except_bind_eq_ok.mp h
  obtain ⟨_, -, h⟩ := except_bind_eq_ok.mp h
  obtain ⟨occurrences, -, h⟩ := except_bind_eq_ok.mp h
  obtain ⟨gap, -, h⟩ := except_bind_eq_ok.mp h
  obtain ⟨repetition, hrepetition, h⟩ := except_bind_eq_ok.mp h
  obtain ⟨item, hitem, h⟩ := except_bind_eq_ok.mp h
  cases h
  refine ⟨Database.resolves_entry.mpr ⟨?_, entryItem_resolves hitem⟩, entryItem_container? hitem⟩
  -- a repetition of the table has a fixed count
  unfold repetitionOf at hrepetition
  split at hrepetition
  · cases hrepetition
  · split at hrepetition
    · cases hrepetition
    · cases hrepetition
      split
      · exact Database.resolves_of_eq_nil rfl
      · exact Database.resolves_none

theorem safe_placeFixed (row : Row) : upkeep.Safe d (placeFixed row) fun _ _ => True := by
  unfold placeFixed
  refine Safe.read fun _ _ => Safe.read fun name _ => Safe.read fun spid _ => ?_
  refine Safe.stage fun _ => ?_
  split
  · exact safe_pure trivial
  · split
    · refine Safe.database fun _ => Safe.read fun e he => ?_
      have hsimple := fixedEntry_simple he
      exact safe_changeDatabase (fun hd => hd.wired.addEntry hsimple.1 hsimple.2) trivial
    · exact safe_pure trivial

/-! ## Variable layouts -/

/-- A plan whose entries refer to what is in a database, and hold no container but those that the
plan makes. -/
inductive Ready (db : Database) : List PlannedEntry → Prop where
  | nil : Ready db []
  | single {entry : Entry} {rest : List PlannedEntry} :
      Simple entry db → Ready db rest → Ready db (.single entry :: rest)
  | nested {name : String} {repetition : Repeat} {inner rest : List PlannedEntry} :
      db.Resolves repetition → Ready db inner → Ready db rest →
      Ready db (.nested name inner repetition :: rest)

theorem Ready.kept {db db' : Database} {ps : List PlannedEntry} (h : Ready db ps)
    (hkept : db.Kept db') : Ready db' ps := by
  induction h with
  | nil => exact .nil
  | single hentry _ ih => exact .single (lasting_simple hkept hentry) ih
  | nested hrepetition _ _ ihInner ih => exact .nested (hrepetition.kept hkept) ihInner ih

theorem Counts.resolves {db : Database} {counter : VariableElement} {item : EntryItem}
    {count : RepeatCount} (h : Counts counter item count) (hitem : db.Resolves item) :
    db.Resolves count := by
  cases count with
  | fixed n => exact Database.resolves_of_eq_nil rfl
  | dynamic p =>
      obtain ⟨-, rfl⟩ := h
      exact hitem

/-- **A plan refers to what names stand for.** -/
theorem Planned.ready {s : Surroundings} {db : Database}
    (hitem : ∀ name l x, s.item name l = .ok x → db.Resolves x ∧ x.container? = none)
    {parent : String} {start : Option Int} {n m : Nat} {elements : List VariableElement}
    {ps : List PlannedEntry} (h : Planned s parent start n elements ps m) : Ready db ps := by
  have hsimple {place : EntryPlace} {repetition : Option Repeat} {name : String} {l : Location}
      {x : EntryItem} (hx : s.item name l = .ok x) (hrepetition : db.Resolves repetition) :
      Simple ⟨place, repetition, x⟩ db :=
    ⟨Database.resolves_entry.mpr ⟨hrepetition, (hitem _ _ _ hx).1⟩, (hitem _ _ _ hx).2⟩
  induction h with
  | nil => exact .nil
  | plain _ hx _ ih => exact .single (hsimple hx Database.resolves_none) ih
  | lone _ _ hx hcount hx' _ ih =>
      refine .single (hsimple hx Database.resolves_none) (.single (hsimple hx' ?_) ih)
      exact Database.resolves_some.mpr (hcount.resolves (hitem _ _ _ hx).1)
  | nest _ _ _ hx hcount _ _ _ ihInner ih =>
      refine .single (hsimple hx Database.resolves_none) (.nested ?_ ihInner ih)
      exact hcount.resolves (hitem _ _ _ hx).1

/-- What committing a plan gives: entries whose groups are pending, in a database with no other
names than before and the planned ones. -/
structure Commits (pending : List ContainerRef) (ps : List PlannedEntry) (entries : List Entry)
    (d d' : Draft TelemetryState) : Prop where
  wired : d'.database.Wired (pending ++ entries.filterMap (·.item.container?))
  kept : d.database.Kept d'.database
  resolves : d'.database.Resolves entries
  names : ∀ name, d'.database.containers.has name = true →
    d.database.containers.has name = true ∨ name ∈ madeNames ps

/-- **The container of a group takes the groups inside it**, and is pending itself. -/
theorem Commits.withGroup {pending : List ContainerRef} {inner : List PlannedEntry}
    {inside : List Entry} {d d₁ : Draft TelemetryState} (h : Commits pending inner inside d d₁)
    (name : String) :
    (withGroup d₁ name inside).database.Wired (pending ++ [d₁.database.containers.next]) ∧
      d.database.Kept (withGroup d₁ name inside).database ∧
      (withGroup d₁ name inside).database.Resolves d₁.database.containers.next ∧
      ∀ x, (withGroup d₁ name inside).database.containers.has x = true →
        d.database.containers.has x = true ∨ x ∈ madeNames inner ∨ x = name := by
  let group : Container := { name := name, entries := inside }
  have hgroup : d₁.database.Resolves group := Database.resolves_container.mpr
    ⟨Database.resolves_none, Database.resolves_none, h.resolves⟩
  refine ⟨h.wired.addGroup hgroup rfl, h.kept.trans (Database.kept_push group), ?_, fun x hx => ?_⟩
  · rw [Database.resolves_ref]
    show d₁.database.containers.size < (d₁.database.containers.push group).size
    rw [Catalog.size_push]
    exact Nat.lt_succ_self _
  · rcases Catalog.eq_or_has_of_has_push hx with hold | rfl
    · exact (h.names x hold).imp_right .inl
    · exact .inr (.inr rfl)

/-- **A plan that refers to what is there leaves its groups pending**, and nothing without a
container. -/
theorem Commitment.commits {ps : List PlannedEntry} {entries : List Entry}
    {d d' : Draft TelemetryState} (h : Commitment ps d entries d') :
    ∀ {pending : List ContainerRef}, d.database.Wired pending → Ready d.database ps →
      Commits pending ps entries d d' := by
  induction h with
  | nil d =>
      intro pending hwired _
      refine ⟨?_, .refl _, Database.resolves_nil, fun _ h => .inl h⟩
      rwa [List.filterMap_nil, List.append_nil]
  | single _ ih =>
      intro pending hwired hready
      obtain _ | ⟨hentry, hrest⟩ := hready
      have hcommits := ih hwired hrest
      refine ⟨?_, hcommits.kept, ?_, hcommits.names⟩
      · rw [List.filterMap_cons, hentry.2]
        exact hcommits.wired
      · exact Database.resolves_cons.mpr ⟨hentry.1.kept hcommits.kept, hcommits.resolves⟩
  | @nested name inner rest _ _ _ _ _ _ _ _ _ ihInner ih =>
      intro pending hwired hready
      obtain _ | _ | ⟨hrepetition, hinner, hrest⟩ := hready
      obtain ⟨hwired₂, hkept₂, hr, hnames₂⟩ := (ihInner hwired hinner).withGroup name
      have hcommits := ih hwired₂ (hrest.kept hkept₂)
      refine ⟨?_, hkept₂.trans hcommits.kept, ?_, fun x hx => ?_⟩
      · have hwired₃ := hcommits.wired
        rwa [List.append_assoc] at hwired₃
      · refine Database.resolves_cons.mpr ⟨Database.resolves_entry.mpr ⟨?_, ?_⟩, hcommits.resolves⟩
        · exact Database.resolves_some.mpr ((hrepetition.kept hkept₂).kept hcommits.kept)
        · exact hr.kept hcommits.kept
      · rw [madeNames, madeNamesOf, List.append_assoc, List.singleton_append, List.mem_append,
          List.mem_cons]
        rcases hcommits.names x hx with hold | hold
        · rcases hnames₂ x hold with hold | hold | rfl
          · exact .inl hold
          · exact .inr (.inl hold)
          · exact .inr (.inr (.inl rfl))
        · exact .inr (.inr (.inr hold))

/-- **A structure is added as a whole or not at all**: a plan that is made is committed, and its
groups end in the container of the packet. -/
theorem safe_expandStructure {container : ContainerRef} (hcontainer : IsPacket container d.database)
    (start : Int) (elements : List VariableElement) :
    upkeep.Safe d (expandStructure container start elements) fun _ _ => True := by
  intro hd
  obtain ⟨hwired, hstage⟩ := hd
  unfold expandStructure
  refine Ends.bind (ends_stage (Ends.bind (ends_database (Ends.bind ?_))))
  refine (planned_ends _ d).mono (fun ps t _ ht => ?_) fun t ht => ?_
  · obtain ⟨n, hplan, rfl⟩ := ht
    have hplanned := planned_of_eq_ok hplan
    have hready : Ready d.database ps := hplanned.ready fun name l x hx =>
      ⟨entryItem_resolves hx, entryItem_container? hx⟩
    obtain ⟨entries, u, hrun, hcommitted⟩ := hplanned.committed
      (d := { d with stage := { d.stage with groupCount := n } }) rfl
    have hcommits := (commitment_of_eq_ok ps hrun).commits hwired hready
    -- the container of the packet still is one, and takes the groups that are pending
    obtain ⟨k, hk, hbase⟩ := lasting_isPacket hcommits.kept hcontainer
    have hfollows := hcommits.wired.addEntries hk hbase hcommits.resolves rfl
    have hkept := hcommits.kept.trans hfollows.kept
    refine Ends.bind (ends_of_ok hrun ⟨⟨hfollows.wired, ?_⟩, hkept, trivial⟩)
    have hstage₂ : u.stage = { d.stage with groupCount := n } := by rw [hcommitted.rest]
    show upkeep.Holds _ u.stage
    rw [hstage₂]
    exact upkeep.kept hkept { hstage with }
  · obtain ⟨n, rfl⟩ := ht
    exact ⟨⟨hwired, { hstage with }⟩, .refl _⟩

theorem safe_declareElement (row : Row) (element : VariableElement) :
    upkeep.Safe d (declareElement row element) fun _ _ => True := by
  unfold declareElement
  refine Safe.stage fun _ => ?_
  refine Safe.ite (fun _ => ?_) fun _ => Safe.ite (fun _ => ?_) fun _ => safe_pure trivial
  · exact Safe.database fun _ => Safe.read fun _ _ => safe_note (fun _ => rfl) fun _ => rfl
  · refine Safe.bind (safe_note ?_ ?_) fun _ _ _ _ _ => safe_throw
    · exact fun _ => rfl
    · exact fun _ => rfl

/-! ## Limits -/

theorem checkContext_resolves {db : Database} {check : LimitCheck} {context : Option Comparison}
    (h : checkContext db check = .ok context) : db.Resolves context := by
  unfold checkContext at h
  split at h
  · cases h
    exact Database.resolves_none
  · split at h
    · rename_i parameter hfind
      cases h
      exact Database.resolves_some.mpr
        (Database.resolves_ref.mpr (Catalog.lt_size_of_find? hfind))
    · cases h

/-- A type with other alarms refers to what the type and the alarms refer to. -/
theorem resolves_withAlarm {db : Database} {t : ParameterType} (ht : db.Resolves t) {a : Alarm}
    (ha : db.Resolves a) : db.Resolves { t with alarm := some a } := by
  obtain ⟨hvalue, hcontexts, -⟩ := Database.resolves_parameterType.mp ht
  exact Database.resolves_parameterType.mpr
    ⟨hvalue, hcontexts, Database.resolves_some.mpr ha⟩

theorem changeAlarm_resolves {db : Database} {context : Option Comparison}
    {change : RangeAlarm → RangeAlarm} (hcontext : db.Resolves context)
    (hchange : ∀ a, (change a).context = a.context) {alarms : List RangeAlarm}
    (h : db.Resolves alarms) : db.Resolves (ParameterType.changeAlarm context change alarms) := by
  have hkeep {a : RangeAlarm} (ha : db.Resolves a.context) : db.Resolves (change a) := by
    show db.Resolves (change a).context
    rwa [hchange]
  induction alarms with
  | nil => exact Database.resolves_cons.mpr ⟨hkeep hcontext, Database.resolves_nil⟩
  | cons a rest ih =>
      obtain ⟨ha, hrest⟩ := Database.resolves_cons.mp h
      unfold ParameterType.changeAlarm
      split
      · exact Database.resolves_cons.mpr ⟨hkeep ha, hrest⟩
      · exact Database.resolves_cons.mpr ⟨ha, ih hrest⟩

/-- What one check makes of a type: a range in the alarm of its condition, or a label that raises
the alarm, or nothing for a raw value that has no label. -/
inductive Checked (db : Database) (coding : LimitCoding) (type : ParameterType)
    (check : LimitCheck) : ParameterType → Prop where
  | range {context : Option Comparison} {change : RangeAlarm → RangeAlarm}
      {alarms : List RangeAlarm} : coding = .numeric → checkContext db check = .ok context →
      (∀ a, (change a).context = a.context) →
      type.alarm = none ∧ alarms = [] ∨ type.alarm = some (.numeric alarms) →
      Checked db coding type check
        { type with alarm := some (.numeric (ParameterType.changeAlarm context change alarms)) }
  | label {item : LabelAlarm} {items : List LabelAlarm} : coding ≠ .numeric →
      checkContext db check = .ok item.context →
      checkLabel check coding type.value = .ok (some item.label) →
      type.alarm = none ∧ items = [] ∨ type.alarm = some (.enumeration items) →
      Checked db coding type check { type with alarm := some (.enumeration (items ++ [item])) }
  | unlabelled : coding ≠ .numeric → checkLabel check coding type.value = .ok none →
      Checked db coding type check type

/-- **A check adds to the alarm of its kind**, and nothing else of the type changes. -/
theorem withCheck_eq_ok {db : Database} {coding : LimitCoding} {violations : Nat}
    {type t : ParameterType} {check : LimitCheck}
    (h : withCheck db coding violations type check = .ok t) :
    Checked db coding type check t := by
  unfold withCheck at h
  obtain ⟨context, hcontext, h⟩ := except_bind_eq_ok.mp h
  dsimp only at h
  split at h
  · rename_i hcoding
    unfold withRange at h
    obtain ⟨low, -, h⟩ := except_bind_eq_ok.mp h
    obtain ⟨high, -, h⟩ := except_bind_eq_ok.mp h
    split at h
    · rename_i changed hchanged
      cases h
      unfold ParameterType.changeRangeAlarm? at hchanged
      split at hchanged
      · cases hchanged
        exact .range hcoding hcontext (fun _ => rfl) (.inl ⟨‹_›, rfl⟩)
      · cases hchanged
        exact .range hcoding hcontext (fun _ => rfl) (.inr ‹_›)
      · cases hchanged
    · cases h
  · rename_i hcoding
    unfold withLabel at h
    obtain ⟨label?, hlabel, h⟩ := except_bind_eq_ok.mp h
    split at h
    · cases h
      exact .unlabelled hcoding hlabel
    · rename_i label
      split at h
      · rename_i changed hchanged
        cases h
        unfold ParameterType.addLabelAlarm? at hchanged
        split at hchanged
        · cases hchanged
          show Checked db coding type check
            { type with alarm := some (.enumeration ([] ++ [⟨context, label, _⟩])) }
          exact .label hcoding hcontext hlabel (.inl ⟨‹_›, rfl⟩)
        · cases hchanged
          exact .label hcoding hcontext hlabel (.inr ‹_›)
        · cases hchanged
      · cases h

theorem withCheck_resolves {db : Database} {coding : LimitCoding} {violations : Nat}
    {type t : ParameterType} {check : LimitCheck} (htype : db.Resolves type)
    (h : withCheck db coding violations type check = .ok t) : db.Resolves t := by
  have halarm := (Database.resolves_parameterType.mp htype).2.2
  cases withCheck_eq_ok h with
  | @range context change alarms _ hcontext hchange halarms =>
      have hold : db.Resolves alarms := by
        rcases halarms with ⟨-, rfl⟩ | hsome
        · exact Database.resolves_nil
        · rw [hsome] at halarm
          exact Database.resolves_some.mp halarm
      exact resolves_withAlarm htype
        (changeAlarm_resolves (checkContext_resolves hcontext) hchange hold)
  | @label item items _ hcontext _ hitems =>
      have hold : db.Resolves items := by
        rcases hitems with ⟨-, rfl⟩ | hsome
        · exact Database.resolves_nil
        · rw [hsome] at halarm
          exact Database.resolves_some.mp halarm
      have hitem : db.Resolves item := checkContext_resolves hcontext
      have hall : db.Resolves (items ++ [item]) := Database.resolves_append.mpr
        ⟨hold, Database.resolves_cons.mpr ⟨hitem, Database.resolves_nil⟩⟩
      exact resolves_withAlarm htype hall
  | unlabelled => exact htype

theorem safe_attachChecks (row : Row) (r : LimitRecord) (parameter : ParameterRef)
    (coding : LimitCoding) (checks : List LimitCheck) {type : ParameterType}
    (htype : d.database.Resolves type) :
    upkeep.Safe d (attachChecks row r parameter coding checks type) fun _ _ => True := by
  unfold attachChecks
  refine Safe.database fun _ => ?_
  dsimp only
  refine Safe.bind (Q := fun t db => db.Resolves t) ?_ fun alarmed t _ _ halarmed => ?_
  · unfold withChecks
    refine safe_foldlM (fun type check _ t _ htype => ?_) htype
    refine Safe.ite (fun _ => ?_) fun _ => ?_
    · refine Safe.database fun _ => safe_lift fun _ h => ?_
      exact withCheck_resolves htype h
    · exact (safe_limitation (Q := fun _ db => db.Resolves type) htype).bind
        fun _ _ _ _ h => safe_pure h
  · refine Safe.bind (safe_add fun ht ref db hadd => ht.wired.addParameterType halarmed hadd)
      fun ref u _ _ href => ?_
    exact safe_changeDatabase (fun hu => hu.wired.changeParameter fun _ _ => href) trivial

theorem safe_attachLimits (row : Row) : upkeep.Safe d (attachLimits row) fun _ _ => True := by
  unfold attachLimits
  refine Safe.read fun r _ => Safe.stage fun _ => Safe.database fun hd => ?_
  dsimp only
  split
  · exact safe_throw
  · rename_i parameter hfind
    refine Safe.ite (fun _ => safe_limitation trivial) fun _ => ?_
    split
    · rename_i checks type hchecks htype
      refine Safe.ite (fun _ => safe_limitation trivial) fun _ => ?_
      split
      · -- the type of a parameter is one of the database
        obtain ⟨p, -, hget⟩ := Option.bind_eq_some_iff.mp htype
        obtain ⟨htypes, -⟩ := Database.resolves_database.mp hd.wired.closed
        have htype := Database.resolves_catalog.mp htypes _ _ hget
        exact safe_attachChecks row r parameter _ checks htype
      · exact safe_throw
    · exact safe_throw

end Telemetry

end MissionBase
