import MissionBase.Proofs.Gathering
import MissionBase.Proofs.Telemetry.OwnTypes
import MissionBase.Proofs.Turns

/-!
# Limits by context

The checks of a parameter come one by one, and those of one context need not stand side by side. For
each of them the alarm of its context is looked for, and added where there is none, so what comes
out depends on what was there when the check had its turn. Here it is said without a search: the
ranges of all checks are grouped by context, contexts as they first occur (`byContext`), and the
labels stand in the order of their checks.

A check contributes something or only a limitation is noted, and what it contributes does not depend
on the others. So one induction over the checks is enough for numbers and for labels
(`withChecks_contributions`); it asks of a coding that one more check is one more contribution
(`withCheck_range`, `withCheck_label`).
-/

namespace MissionBase

open Run

/-! ## Groups -/

theorem nodup_eraseDups {α : Type} [BEq α] [LawfulBEq α] (items : List α) :
    items.eraseDups.Nodup := by
  induction hlength : items.length using Nat.strongRecOn generalizing items with
  | ind n ih =>
      cases items with
      | nil => exact List.nodup_nil
      | cons x rest =>
          have hshorter : (rest.filter fun y => !y == x).length < n :=
            hlength ▸ Nat.lt_succ_of_le (List.length_filter_le _ _)
          rw [List.eraseDups_cons, List.nodup_cons]
          refine ⟨fun hmem => ?_, ih _ hshorter _ rfl⟩
          rw [List.mem_eraseDups, List.mem_filter] at hmem
          simp at hmem

/-- A last item is new or stands there already. -/
theorem eraseDups_concat {α : Type} [BEq α] [LawfulBEq α] [DecidableEq α] (items : List α) (x : α) :
    (items ++ [x]).eraseDups =
      if x ∈ items then items.eraseDups else items.eraseDups ++ [x] := by
  rw [List.eraseDups_append]
  by_cases h : x ∈ items
  · rw [if_pos h]
    simp [List.removeAll, h]
  · rw [if_neg h]
    simp [List.removeAll, h, List.eraseDups_cons]

namespace Telemetry

/-- The alarms of ranges with their contexts: one per context, in the order in which the contexts
first occur, with the ranges of the context in their order. -/
def byContext (violations : Nat) (ranges : List (Option Comparison × AlarmRange)) :
    List RangeAlarm :=
  (ranges.map (·.1)).eraseDups.map fun context =>
    ⟨context, violations, Index.itemsOf context ranges⟩

/-- A change of the alarm of a context, where there is at most one alarm per context. -/
theorem changeAlarm_map (alarmOf : Option Comparison → RangeAlarm)
    (hcontext : ∀ c, (alarmOf c).context = c) (context : Option Comparison)
    (change : RangeAlarm → RangeAlarm) {contexts : List (Option Comparison)}
    (hnodup : contexts.Nodup) :
    ParameterType.changeAlarm context change (contexts.map alarmOf) =
      if context ∈ contexts then
        contexts.map fun c => if c = context then change (alarmOf c) else alarmOf c
      else contexts.map alarmOf ++ [change ⟨context, 1, []⟩] := by
  induction contexts with
  | nil => rfl
  | cons c rest ih =>
      obtain ⟨hc, hrest⟩ := List.nodup_cons.mp hnodup
      rw [List.map_cons, ParameterType.changeAlarm, hcontext]
      by_cases heq : c = context
      · subst heq
        -- the others are of other contexts
        have hothers : rest.map (fun c' => if c' = c then change (alarmOf c') else alarmOf c') =
            rest.map alarmOf := by
          refine List.map_congr_left fun c' hc' => if_neg ?_
          rintro rfl
          exact hc hc'
        rw [if_pos rfl, if_pos List.mem_cons_self, List.map_cons, if_pos rfl, hothers]
      · rw [if_neg heq, ih hrest]
        have hmem : context ∈ c :: rest ↔ context ∈ rest := by
          rw [List.mem_cons]
          exact or_iff_right (Ne.symm heq)
        by_cases hin : context ∈ rest
        · rw [if_pos hin, if_pos (hmem.mpr hin), List.map_cons, if_neg heq]
        · rw [if_neg hin, if_neg (fun h => hin (hmem.mp h)), List.cons_append]

/-- **One more range goes to the alarm of its context**, which comes last where it is new. -/
theorem changeAlarm_byContext (violations : Nat)
    (ranges : List (Option Comparison × AlarmRange)) (context : Option Comparison)
    (range : AlarmRange) :
    ParameterType.changeAlarm context
        (fun a => { a with minViolations := violations, ranges := a.ranges ++ [range] })
        (byContext violations ranges) =
      byContext violations (ranges ++ [(context, range)]) := by
  have hitems (c : Option Comparison) : Index.itemsOf c (ranges ++ [(context, range)]) =
      Index.itemsOf c ranges ++ if context = c then [range] else [] := by
    unfold Index.itemsOf
    by_cases h : context = c <;> simp [h]
  unfold byContext
  rw [changeAlarm_map (fun c => ⟨c, violations, Index.itemsOf c ranges⟩)
    (fun _ => rfl) _ _ (nodup_eraseDups _), List.map_append, List.map_singleton, eraseDups_concat]
  by_cases hold : context ∈ ranges.map (·.1)
  · rw [if_pos (List.mem_eraseDups.mpr hold), if_pos hold]
    refine List.map_congr_left fun c _ => ?_
    rw [hitems]
    by_cases hc : c = context
    · rw [if_pos hc, if_pos hc.symm]
    · rw [if_neg hc, if_neg (Ne.symm hc), List.append_nil]
  · rw [if_neg (fun h => hold (List.mem_eraseDups.mp h)), if_neg hold, List.map_append,
      List.map_singleton, hitems, if_pos rfl]
    have hnone : Index.itemsOf context ranges = [] := by
      unfold Index.itemsOf
      rw [List.map_eq_nil_iff, List.filter_eq_nil_iff]
      intro x hx hcontext
      exact hold (List.mem_map.mpr ⟨x, hx, of_decide_eq_true hcontext⟩)
    congr 1
    · refine List.map_congr_left fun c hc => ?_
      rw [List.mem_eraseDups] at hc
      rw [hitems, if_neg (fun heq : context = c => hold (heq ▸ hc)), List.append_nil]
    · rw [hnone]

/-! ## What a check contributes -/

/-- How serious the alarm of a check is. -/
def levelOf (check : LimitCheck) : AlarmLevel := if check.isSoft then .warning else .critical

/-- The range of a check, with the context in which it applies. -/
def rangeOf (db : Database) (check : LimitCheck) :
    Except Error (Option Comparison × AlarmRange) := do
  let context ← checkContext db check
  let low ← bound check check.low
  let high ← bound check check.high
  return (context, ⟨low, high, levelOf check⟩)

/-- The label alarm of a check, if its value has a label. -/
def labelAlarmOf (db : Database) (coding : LimitCoding) (value : ValueType) (check : LimitCheck) :
    Except Error (Option LabelAlarm) := do
  let context ← checkContext db check
  let label ← checkLabel check coding value
  return label.map fun label => ⟨context, label, levelOf check⟩

/-- What is noted of a check that has no form in a type. -/
def unsupportedText (check : LimitCheck) : String :=
  s!"{check.location.text}: limit check type '{check.kind}' is not supported"

/-- The alarm of some ranges. -/
def alarmOfRanges (violations : Nat) : List (Option Comparison × AlarmRange) → Option Alarm
  | [] => none
  | ranges => some (.numeric (byContext violations ranges))

/-- The alarm of some labels. -/
def alarmOfLabels : List LabelAlarm → Option Alarm
  | [] => none
  | items => some (.enumeration items)

theorem alarmOfRanges_concat (violations : Nat) (ranges : List (Option Comparison × AlarmRange))
    (x : Option Comparison × AlarmRange) :
    alarmOfRanges violations (ranges ++ [x]) =
      some (.numeric (byContext violations (ranges ++ [x]))) := by
  cases ranges <;> rfl

theorem alarmOfLabels_concat (items : List LabelAlarm) (x : LabelAlarm) :
    alarmOfLabels (items ++ [x]) = some (.enumeration (items ++ [x])) := by
  cases items <;> rfl

/-- **One more numeric check is one more range.** -/
theorem withCheck_range (db : Database) (violations : Nat) (type : ParameterType)
    (ranges : List (Option Comparison × AlarmRange)) (check : LimitCheck) :
    withCheck db .numeric violations { type with alarm := alarmOfRanges violations ranges } check =
      (rangeOf db check).map fun x =>
        { type with alarm := alarmOfRanges violations (ranges ++ [x]) } := by
  unfold withCheck withRange rangeOf
  cases checkContext db check with
  | error e => rfl
  | ok context =>
      cases hlow : bound check check.low with
      | error e => rfl
      | ok low =>
          cases hhigh : bound check check.high with
          | error e => rfl
          | ok high =>
              have hstep := changeAlarm_byContext violations ranges context
                ⟨low, high, levelOf check⟩
              simp only [bind, Except.bind, Except.map, pure, Except.pure, if_true,
                alarmOfRanges_concat, ← hstep]
              cases ranges <;> rfl

/-- **One more check of an enumeration is one more label, or nothing.** -/
theorem withCheck_label (db : Database) {coding : LimitCoding} (hcoding : coding ≠ .numeric)
    (violations : Nat) (type : ParameterType) (items : List (Option LabelAlarm))
    (check : LimitCheck) :
    withCheck db coding violations { type with alarm := alarmOfLabels items.reduceOption } check =
      (labelAlarmOf db coding type.value check).map fun x =>
        { type with alarm := alarmOfLabels (items ++ [x]).reduceOption } := by
  unfold withCheck withLabel labelAlarmOf
  cases checkContext db check with
  | error e => rfl
  | ok context =>
      cases hlabel : checkLabel check coding type.value with
      | error e => simp [bind, Except.bind, Except.map, hcoding]
      | ok label =>
          simp only [bind, Except.bind, Except.map, pure, Except.pure, hcoding, if_false,
            List.reduceOption_append]
          cases label with
          | none => simp
          | some label =>
              simp only [Option.map_some, List.reduceOption_singleton, Option.toList_some,
                alarmOfLabels_concat]
              cases items.reduceOption <;> rfl

/-! ## The checks of a parameter -/

variable {setting : Setting} {d t : Draft TelemetryState}

/-- **Checks contribute one after the other**, where one more check is one more contribution. Of a
check that has no form in a type a limitation is noted, and it contributes nothing. -/
theorem withChecks_contributions {β : Type} {db : Database} {coding : LimitCoding}
    {violations : Nat} {contribution : LimitCheck → Except Error β}
    (state : List β → ParameterType)
    (hcheck : ∀ items check, withCheck db coding violations (state items) check =
      (contribution check).map fun b => state (items ++ [b]))
    (checks : List LimitCheck) (items : List β) (hdb : d.database = db) :
    Ends (withChecks coding violations checks (state items)) d
      (fun type t => ∃ contributed,
        (checks.filter (·.isSupported)).mapM contribution = .ok contributed ∧
        type = state (items ++ contributed) ∧
        t = { d with
          warnings := d.warnings ++ (checks.filter fun c => !c.isSupported).map unsupportedText })
      fun _ => True := by
  unfold withChecks
  induction checks generalizing items d with
  | nil => exact ends_pure ⟨[], rfl, by rw [List.append_nil], by simp⟩
  | cons check rest ih =>
      rw [List.foldlM_cons]
      refine Ends.bind ?_
      by_cases hsupported : check.isSupported = true
      · rw [if_pos hsupported, List.filter_cons_of_pos hsupported,
          List.filter_cons_of_neg (by simp [hsupported])]
        refine Ends.bind (ends_database (ends_lift (fun type htype => ?_) trivial))
        rw [hdb, hcheck] at htype
        cases hb : contribution check with
        | error e =>
            rw [hb] at htype
            cases htype
        | ok b =>
            rw [hb] at htype
            cases htype
            refine (ih (items ++ [b]) hdb).mono (fun type t _ ht => ?_) fun _ h => h
            obtain ⟨contributed, hrun, htype, ht⟩ := ht
            refine ⟨b :: contributed, ?_, by rw [htype, List.append_assoc]; rfl, ht⟩
            rw [List.mapM_cons, hb, hrun]
            rfl
      · rw [if_neg hsupported, List.filter_cons_of_neg hsupported,
          List.filter_cons_of_pos (by simp [hsupported])]
        -- the limitation, and then the rest in the draft with it
        refine Ends.bind (?_ : Ends (Build.limitation (unsupportedText check)) d _ _)
        refine (ih (d := { d with warnings := d.warnings ++ [unsupportedText check] }) items
          hdb).mono (fun type t _ ht => ?_) fun _ h => h
        obtain ⟨contributed, hrun, htype, ht⟩ := ht
        refine ⟨contributed, hrun, htype, ?_⟩
        rw [ht, List.map_cons, List.append_assoc]
        rfl

/-- The alarms of ranges are grouped: one alarm per context, contexts in the order in which they
first occur, and in each alarm the ranges of its context, in their order. Violations are counted as
the record says, between one and what 32 bits hold. -/
structure GroupsRanges (r : LimitRecord) (ranges : List (Option Comparison × AlarmRange))
    (alarms : List RangeAlarm) : Prop where
  contexts : alarms.map (·.context) = (ranges.map (·.1)).eraseDups
  distinct : (alarms.map (·.context)).Nodup
  ranges : ∀ alarm ∈ alarms, alarm.ranges = Index.itemsOf alarm.context ranges
  violations : ∀ alarm ∈ alarms,
    (alarm.minViolations : Int) = max 1 (min r.minViolations 4294967295)

theorem groupsRanges_byContext (r : LimitRecord)
    (ranges : List (Option Comparison × AlarmRange)) :
    GroupsRanges r ranges (byContext r.violations ranges) := by
  have hcontexts : (byContext r.violations ranges).map (·.context) =
      (ranges.map (·.1)).eraseDups := by
    unfold byContext
    rw [List.map_map]
    exact List.map_id _
  refine ⟨hcontexts, hcontexts ▸ nodup_eraseDups _, fun alarm halarm => ?_, fun alarm halarm => ?_⟩
  · obtain ⟨context, -, rfl⟩ := List.mem_map.mp halarm
    rfl
  · obtain ⟨context, -, rfl⟩ := List.mem_map.mp halarm
    show (r.violations : Int) = _
    unfold LimitRecord.violations
    omega

/-- The alarm that the checks of a parameter make, of those that have a form in a type: of numbers
the ranges of all of them, grouped; of an enumeration the labels of those that have one, in their
order. Where nothing is contributed there is no alarm. -/
inductive MakesAlarm (db : Database) (r : LimitRecord) (value : ValueType)
    (checks : List LimitCheck) : LimitCoding → Option Alarm → Prop where
  | ranges {ranges : List (Option Comparison × AlarmRange)} {alarms : List RangeAlarm}
      (contributed : (checks.filter (·.isSupported)).mapM (rangeOf db) = .ok ranges)
      (grouped : GroupsRanges r ranges alarms) :
      MakesAlarm db r value checks .numeric
        (if ranges = [] then none else some (.numeric alarms))
  | labels {coding : LimitCoding} {labels : List (Option LabelAlarm)} (coded : coding ≠ .numeric)
      (contributed :
        (checks.filter (·.isSupported)).mapM (labelAlarmOf db coding value) = .ok labels) :
      MakesAlarm db r value checks coding
        (if labels.reduceOption = [] then none else some (.enumeration labels.reduceOption))

/-- **The checks of a parameter make the alarm of a type that has none.** -/
theorem withChecks_makesAlarm (r : LimitRecord) (coding : LimitCoding) (checks : List LimitCheck)
    (type : ParameterType) (hnone : type.alarm = none) :
    Ends (withChecks coding r.violations checks type) d
      (fun type' t => ∃ alarm, MakesAlarm d.database r type.value checks coding alarm ∧
        type' = { type with alarm := alarm } ∧
        t = { d with
          warnings := d.warnings ++ (checks.filter fun c => !c.isSupported).map unsupportedText })
      fun _ => True := by
  have hstart : type = { type with alarm := none } := by rw [← hnone]
  by_cases hcoding : coding = .numeric
  · subst hcoding
    have hends := withChecks_contributions (d := d)
      (fun ranges => { type with alarm := alarmOfRanges r.violations ranges })
      (withCheck_range d.database r.violations type) checks [] rfl
    rw [show ({ type with alarm := alarmOfRanges r.violations [] } : ParameterType) = type from
      hstart.symm] at hends
    refine hends.mono (fun type' t _ ht => ?_) fun _ h => h
    obtain ⟨ranges, hranges, htype', ht⟩ := ht
    refine ⟨_, .ranges hranges (groupsRanges_byContext r ranges), ?_, ht⟩
    rw [htype', List.nil_append]
    cases ranges <;> rfl
  · have hends := withChecks_contributions (d := d)
      (fun labels => { type with alarm := alarmOfLabels labels.reduceOption })
      (fun labels check =>
        withCheck_label d.database hcoding r.violations type labels check) checks [] rfl
    rw [show ({ type with alarm := alarmOfLabels ([] : List (Option LabelAlarm)).reduceOption } :
      ParameterType) = type from hstart.symm] at hends
    refine hends.mono (fun type' t _ ht => ?_) fun _ h => h
    obtain ⟨labels, hlabels, htype', ht⟩ := ht
    refine ⟨_, .labels hcoding hlabels, ?_, ht⟩
    rw [htype', List.nil_append]
    cases labels.reduceOption <;> rfl

/-- The checks of a parameter are attached to it: it gets a copy of its type with the alarm that
they make, under a name that no type has, and of each check without a form in a type a limitation is
noted. Nothing else changes. -/
structure Attaches (r : LimitRecord) (q : ParameterRef) (type : ParameterType)
    (checks : List LimitCheck) (coding : LimitCoding) (d t : Draft TelemetryState)
    (copy : ParameterType) : Prop where
  coded : codingFor? r type.value = some coding
  copied : copy = { type with name := copy.name, alarm := copy.alarm }
  fresh : d.database.parameterTypes.has copy.name = false
  alarm : MakesAlarm d.database r type.value checks coding copy.alarm
  given : t.database.typeOf? q = some copy
  done : t = { d with
    warnings := d.warnings ++ (checks.filter fun c => !c.isSupported).map unsupportedText
    database := { d.database with
      parameterTypes := d.database.parameterTypes.push copy
      parameters := d.database.parameters.modify q fun p =>
        { p with type := d.database.parameterTypes.next } } }

theorem attachChecks_attaches {row : Row} {r : LimitRecord} {q : ParameterRef}
    {coding : LimitCoding} {checks : List LimitCheck} {type : ParameterType}
    (htype : d.database.typeOf? q = some type) (hnone : type.alarm = none)
    (hcoding : codingFor? r type.value = some coding) :
    Ends (attachChecks row r q coding checks type) d
      (fun _ t => ∃ copy, Attaches r q type checks coding d t copy) fun _ => True := by
  unfold attachChecks
  refine Ends.bind (ends_database (Ends.bind ?_))
  refine (withChecks_makesAlarm r coding checks _ (by exact hnone)).mono (fun copy t _ ht => ?_)
    fun _ h => h
  obtain ⟨alarm, hmakes, hcopy, rfl⟩ := ht
  refine Ends.bind (ends_add (fun ref db hadd => ?_) trivial)
  obtain ⟨hfree, hplace⟩ := Database.addParameterType_eq_ok.mp hadd
  obtain ⟨rfl, rfl⟩ := Prod.mk.inj hplace
  subst hcopy
  exact ⟨_, hcoding, rfl, hfree, hmakes, typeOf?_retyped htype _, rfl⟩

/-! ## The two tables -/

/-- A record of checks, with the parameter that it is of. -/
def checkOf (row : Row) : Except Error (String × LimitCheck) := do
  let check ← LimitCheck.ofRow row
  let name ← row.text 0
  return (name, check)

/-- The checks that records give to a parameter, by position; checks at the same position stand as
their records do. -/
def checksOf (rows : List Row) (name : String) : List LimitCheck :=
  Index.sortedItems (·.position) (rows.filterMap fun row => (checkOf row).toOption) name

/-- Reads a check. -/
def readCheck (row : Row) : TelemetryBuild Unit := do
  let check ← LimitCheck.ofRow row
  let name ← row.text 0
  Build.changeStage fun s => { s with limitChecks := s.limitChecks.append name check }

/-- Reads the checks. -/
def readChecks (setting : Setting) : TelemetryBuild Unit := do
  let _ ← Build.scan setting "ocp" readCheck
  Build.changeStage fun s => { s with limitChecks := s.limitChecks.sortLists (·.position) }

/-- A record of checks appends its check, if it is accepted. -/
theorem readCheck_ends (row : Row) (d : Draft TelemetryState) :
    Ends (readCheck row) d
      (fun _ t =>
        t.stage.limitChecks = d.stage.limitChecks.gather (checkOf row).toOption.toList)
      fun t => t.stage.limitChecks = d.stage.limitChecks.gather (checkOf row).toOption.toList := by
  unfold readCheck checkOf
  cases LimitCheck.ofRow row with
  | error e => exact rfl
  | ok check =>
      cases row.text 0 with
      | error e => exact rfl
      | ok name => exact rfl

/-- **The checks of every parameter are there, by position.** A parameter without checks is not
known. -/
theorem readChecks_ends {rows : List Row} (hrows : Build.rows setting "ocp" = .ok rows)
    (hnone : d.stage.limitChecks = {}) :
    Ends (readChecks setting) d
      (fun _ t => ∀ name, t.stage.limitChecks.find? name =
        if checksOf rows name = [] then none else some (checksOf rows name))
      fun _ => True := by
  unfold readChecks
  have hscan := ends_scanGather TelemetryState.limitChecks hrows readCheck_ends d
  refine Ends.bind (hscan.mono (fun _ t _ ht name => ?_) fun _ h => h)
  show (t.stage.limitChecks.sortLists (·.position)).find? name = _
  rw [ht, hnone]
  exact Index.find?_gathered _ _ name

/-- Limits are read, and then attached record by record. -/
theorem loadLimits_eq_ok {rows : List Row} (hrows : Build.rows setting "ocf" = .ok rows)
    {d' : Draft TelemetryState} :
    loadLimits setting d = .ok () d' ↔ ∃ d₁, readChecks setting d = .ok () d₁ ∧
      inTurn setting attachLimits rows d₁ = .ok () d' := by
  have hsplit : loadLimits setting = (do
      readChecks setting
      let _ ← Build.scan setting "ocf" attachLimits) := by
    unfold loadLimits readChecks readCheck
    simp only [bind_assoc]
  rw [hsplit, bind_eq_ok]
  constructor
  · rintro ⟨_, d₁, hread, hattach⟩
    obtain ⟨n, u, hscan, hdone⟩ := bind_eq_ok.mp hattach
    obtain ⟨-, rfl⟩ := pure_eq_ok.mp hdone
    obtain ⟨rows', hrows', hrun, -⟩ := scan_eq_ok.mp hscan
    cases hrows.symm.trans hrows'
    exact ⟨d₁, hread, hrun⟩
  · rintro ⟨d₁, hread, hrun⟩
    refine ⟨(), d₁, hread, bind_eq_ok.mpr ⟨rows.length, d', ?_, pure_eq_ok.mpr ⟨rfl, rfl⟩⟩⟩
    exact scan_eq_ok.mpr ⟨rows, hrows, hrun, rfl⟩

/-- An accepted record of limits has been passed over, with one limitation noted, or it attaches the
checks of its parameter. -/
theorem attachLimits_attaches (row : Row) (d : Draft TelemetryState) :
    Ends (attachLimits row) d
      (fun _ t => ∃ r q, LimitRecord.ofRow row = .ok r ∧
        d.database.parameters.find? r.parameter = some q ∧
        (r.PassedOver d ∧ (∃ m, t = { d with warnings := d.warnings ++ [m] }) ∨
          ¬ r.PassedOver d ∧ ∃ checks type,
            d.stage.limitChecks.find? r.parameter = some checks ∧
            d.database.typeOf? q = some type ∧
            (type.alarm = none → ∃ coding copy, Attaches r q type checks coding d t copy)))
      fun _ => True := by
  refine attachLimits_cases trivial (fun r q m hr hfind hover => ?_)
    fun r q checks type coding hr hfind hdone hchecks htype hcoding => ?_
  · exact ⟨r, q, hr, hfind, .inl ⟨hover, m, rfl⟩⟩
  · by_cases hnone : type.alarm = none
    · refine (attachChecks_attaches htype hnone hcoding).mono (fun _ t _ ht => ?_) fun _ h => h
      exact ⟨r, q, hr, hfind, .inr ⟨hdone, checks, type, hchecks, htype, fun _ => ⟨coding, ht⟩⟩⟩
    · refine ends_iff.mpr ⟨fun _ t _ => ?_, fun _ _ _ => trivial⟩
      exact ⟨r, q, hr, hfind, .inr ⟨hdone, checks, type, hchecks, htype, fun h => absurd h hnone⟩⟩

/--
**Limits are grouped by context, and none is lost.**

The records of checks are read first, and then every record of limits has its turn. One that is
accepted has been passed over, with one limitation noted and nothing else changed, or it attaches
the checks of its parameter, by position. If the type of the parameter had no alarm then, the
parameter has a copy of it whose alarm is made of all checks with a form in a type and of nothing
else: for numbers one alarm per context, contexts as they first occur, each with the ranges of all
its checks in their order, wherever they stand; for an enumeration the labels of the checks that
have one, in their order; and no alarm where nothing is contributed. Each other check gives one
limitation.
-/
theorem limits_grouped {d' : Draft TelemetryState} {checks records : List Row}
    (hchecks : Build.rows setting "ocp" = .ok checks)
    (hrecords : Build.rows setting "ocf" = .ok records) (hnone : d.stage.limitChecks = {})
    (hrun : loadLimits setting d = .ok () d') :
    ∃ d₁, readChecks setting d = .ok () d₁ ∧ inTurn setting attachLimits records d₁ = .ok () d' ∧
      ∀ turn ∈ turns setting attachLimits records d₁, ∀ t, attachLimits turn.1 turn.2 = .ok () t →
        ∃ r q, LimitRecord.ofRow turn.1 = .ok r ∧
          turn.2.database.parameters.find? r.parameter = some q ∧
          (r.PassedOver turn.2 ∧ (∃ m, t = { turn.2 with warnings := turn.2.warnings ++ [m] }) ∨
            ¬ r.PassedOver turn.2 ∧ ∃ type, turn.2.database.typeOf? q = some type ∧
              (type.alarm = none → ∃ coding copy,
                Attaches r q type (checksOf checks r.parameter) coding turn.2 t copy)) := by
  obtain ⟨d₁, hread, hattach⟩ := (loadLimits_eq_ok hrecords).mp hrun
  have hindex := (readChecks_ends hchecks hnone).of_ok hread
  refine ⟨d₁, hread, hattach, fun turn hturn t ht => ?_⟩
  -- records of limits leave the checks as they have been read
  have hstage := (turn_related (R := fun d t : Draft TelemetryState => t.stage = d.stage)
    (fun _ _ => rfl) (fun row d => attachLimits_ends.mono (fun _ _ _ h => h.1) fun _ h => h.stage)
    hattach turn hturn).1
  obtain ⟨r, q, hr, hfind, hover | ⟨hdone, own, type, hown, htype, hgrouped⟩⟩ :=
    (attachLimits_attaches turn.1 turn.2).of_ok ht
  · exact ⟨r, q, hr, hfind, .inl hover⟩
  · have hsame : own = checksOf checks r.parameter := by
      rw [hstage, hindex] at hown
      by_cases hempty : checksOf checks r.parameter = []
      · rw [if_pos hempty] at hown
        cases hown
      · rw [if_neg hempty] at hown
        exact (Option.some.inj hown).symm
    exact ⟨r, q, hr, hfind, .inr ⟨hdone, type, htype, hsame ▸ hgrouped⟩⟩

/-- A number with four checks: two under the same condition and not side by side, one without a
condition, and one without a form in a type. -/
def fourChecks : Setting :=
  .ofTables [
    ("mcf", ""), ("pcf", "A\t\t\t\t3\t4\t\t\t\tN\tR\nP\t\t\t\t3\t4\t\t\t\tN\tR\n"),
    ("ocp", "P\t1\tS\t\t\tA\t1\nP\t2\tS\nP\t3\tD\nP\t4\tH\t\t\tA\t1\n"),
    ("ocf", "P\t0\t4\tU\tR\n")]

/-- The ranges of the two checks come together, and the number of violations is raised to one. -/
theorem ranges_together :
    ∃ (d₁ t : Draft TelemetryState) (checks : List Row) (r : LimitRecord)
      (type copy : ParameterType) (coding : LimitCoding) (alarms : List RangeAlarm),
      Attaches r ⟨1⟩ type (checksOf checks r.parameter) coding d₁ t copy ∧
      copy.alarm = some (.numeric alarms) ∧
      alarms.map (fun a => (a.context, a.minViolations, a.ranges.map (·.level))) =
        [(some (.rawEquals ⟨0⟩ "1"), 1, [.warning, .critical]), (none, 1, [.warning])] ∧
      t.warnings.length = d₁.warnings.length + 1 := by
  have hok : (after? (loadParameters fourChecks) limitDraft).any (fun d =>
      (after? (Build.scan fourChecks "ocp" readCheck) d).any fun d₁ =>
      (Build.rows fourChecks "ocp").toOption.any fun _ =>
      (Build.rows fourChecks "ocf").toOption.any fun records =>
      (after? (inTurn fourChecks attachLimits records) d₁).any fun _ =>
      (records.head?).any fun row =>
      (after? (attachLimits row) d₁).any fun t =>
      (d₁.database.typeOf? ⟨1⟩).any fun type =>
      (t.database.typeOf? ⟨1⟩).any fun copy =>
      copy.alarm.any fun alarm =>
        (match alarm with
          | .numeric alarms => decide (
              alarms.map (fun a => (a.context, a.minViolations, a.ranges.map (·.level))) =
                [(some (.rawEquals ⟨0⟩ "1"), 1, [.warning, .critical]), (none, 1, [.warning])])
          | .enumeration _ => false) &&
        decide (d.stage.limitChecks.keys = [] ∧ type.alarm.isNone ∧
          (∀ e ∈ d₁.stage.limitChecks.entries, e.2.Pairwise fun a b => a.position ≤ b.position) ∧
          t.warnings.length = d₁.warnings.length + 1 ∧
          d₁.database.parameters.find? "P" = some ⟨1⟩ ∧
          (LimitRecord.ofRow row).toOption.map (·.parameter) = some "P")) = true := by
    decide +kernel
  obtain ⟨d, -, hok⟩ := (Option.any_eq_true _ _).mp hok
  obtain ⟨d₁, hscan, hok⟩ := (Option.any_eq_true _ _).mp hok
  obtain ⟨checks, hchecks, hok⟩ := (Option.any_eq_true _ _).mp hok
  obtain ⟨records, hrecords, hok⟩ := (Option.any_eq_true _ _).mp hok
  obtain ⟨d', hattach, hok⟩ := (Option.any_eq_true _ _).mp hok
  obtain ⟨row, hrow, hok⟩ := (Option.any_eq_true _ _).mp hok
  obtain ⟨t, ht, hok⟩ := (Option.any_eq_true _ _).mp hok
  obtain ⟨type, htype, hok⟩ := (Option.any_eq_true _ _).mp hok
  obtain ⟨copy, hcopy, hok⟩ := (Option.any_eq_true _ _).mp hok
  obtain ⟨alarm, halarm, hok⟩ := (Option.any_eq_true _ _).mp hok
  obtain ⟨hgroups, hok⟩ := (Bool.and_eq_true _ _).mp hok
  obtain ⟨hkeys, hplain, hsorted, hwarnings, hfind, hname⟩ := of_decide_eq_true hok
  obtain ⟨n, hscan⟩ := after?_eq_some.mp hscan
  obtain ⟨_, hattach⟩ := after?_eq_some.mp hattach
  obtain ⟨_, ht⟩ := after?_eq_some.mp ht
  have hnone : d.stage.limitChecks = {} := congrArg Index.mk (List.map_eq_nil_iff.mp hkeys)
  -- the checks are declared by position, so sorting leaves them as they are
  have hread : readChecks fourChecks d = .ok () d₁ := by
    refine bind_eq_ok.mpr ⟨n, d₁, hscan, changeStage_eq_ok.mpr ?_⟩
    rw [Index.sortLists_of_sorted hsorted]
  have hrun := (loadLimits_eq_ok (eq_ok_of_toOption hrecords)).mpr ⟨d₁, hread, hattach⟩
  obtain ⟨d₂, hread', -, hturns⟩ := limits_grouped (eq_ok_of_toOption hchecks)
    (eq_ok_of_toOption hrecords) hnone hrun
  cases hread.symm.trans hread'
  obtain ⟨rest, rfl⟩ : ∃ rest, records = row :: rest := by
    cases records with
    | nil => cases hrow
    | cons first rest => exact ⟨rest, by cases hrow; rfl⟩
  obtain ⟨r, q, hr, hq, hover | ⟨-, type', htype', hgrouped⟩⟩ :=
    hturns (row, d₁) List.mem_cons_self t ht
  · -- a record that is passed over brings no alarm
    obtain ⟨-, m, rfl⟩ := hover
    cases htype.symm.trans hcopy
    rw [halarm] at hplain
    cases hplain
  · rw [hr] at hname
    have hname : r.parameter = "P" := Option.some.inj hname
    rw [hname, hfind] at hq
    cases hq
    cases htype.symm.trans htype'
    obtain ⟨coding, copy', hattaches⟩ := hgrouped (Option.isNone_iff_eq_none.mp hplain)
    cases hcopy.symm.trans hattaches.given
    cases alarm with
    | enumeration _ => cases hgroups
    | numeric alarms =>
        exact ⟨d₁, t, checks, r, type, copy, coding, alarms, hattaches, halarm,
          of_decide_eq_true hgroups, hwarnings⟩

end Telemetry

end MissionBase
