import MissionBase.Proofs.Algorithms
import MissionBase.Proofs.Commanding.AttachedStages

/-!
# Verification as the tables say it

Verification is read from three tables, one after the other: expressions, the stages that wait for
them or for reports, and the stages of commands. What a compilation makes of them is told by the
records (`Course.Verification.Exact`): which record binds an identifier and with what comparisons,
which records are dropped, which stages share an algorithm, and which verifiers a command gets.

A record is dropped only if its identifier is free and its window can be read, and a record that
attaches a dropped stage is passed over only if it is one of a command that exists. Elsewhere both
are refused, although none of the expressions of the stage has a form (`takenStage_refused`).
-/

namespace MissionBase

open Run

variable {config : Config} {files : Files} {compiler : Option FormulaCompiler} {out : Compiled}

namespace Course

/-- The records of verification, and the drafts between its tables. -/
structure Verification (course : Course config files compiler out) where
  cve : List Row
  cvs : List Row
  cvp : List Row
  /-- The draft where verification begins. -/
  start : Draft CommandingState
  /-- The draft when the expressions have been read. -/
  expressed : Draft CommandingState
  /-- The draft when the stages have been read. -/
  staged : Draft CommandingState
  cve_eq : Build.rows course.setting "cve" = .ok cve
  cvs_eq : Build.rows course.setting "cvs" = .ok cvs
  cvp_eq : Build.rows course.setting "cvp" = .ok cvp
  start_eq : Commanding.beforeVerifiers course.setting
    ⟨course.telemetry.database, course.telemetry.errors, course.telemetry.warnings, {}⟩ =
      .ok () start
  expressed_eq : inTurn course.setting Commanding.declareExpression cve start = .ok () expressed
  staged_eq : inTurn course.setting (Commanding.declareStage course.setting) cvs expressed =
    .ok () staged
  commanding_eq : inTurn course.setting Commanding.attachStage cvp staged = .ok () course.commanding

variable (course : Course config files compiler out)

/-- A course comes to verification with algorithms of synthetic parameters only, and with nothing
read of verification. -/
theorem exists_verification : ∃ v : course.Verification,
    v.start.database.AllSynthetic ∧
      Commanding.verification v.start.stage = ({}, [], {}, []) := by
  obtain ⟨start, hstart, hverifiers, hsynthetic, hblank⟩ := course.exists_beforeVerifiers
  unfold Commanding.loadVerifiers at hverifiers
  obtain ⟨_, expressed, hcve, hverifiers⟩ := bind_eq_ok.mp hverifiers
  obtain ⟨_, staged, hcvs, hverifiers⟩ := bind_eq_ok.mp hverifiers
  obtain ⟨_, _, hcvp, hlast⟩ := bind_eq_ok.mp hverifiers
  obtain ⟨-, rfl⟩ := pure_eq_ok.mp hlast
  obtain ⟨cve, hcve, hexpressed, -⟩ := scan_eq_ok.mp hcve
  obtain ⟨cvs, hcvs, hstaged, -⟩ := scan_eq_ok.mp hcvs
  obtain ⟨cvp, hcvp, hattached, -⟩ := scan_eq_ok.mp hcvp
  exact ⟨⟨cve, cvs, cvp, start, expressed, staged, hcve, hcvs, hcvp, hstart, hexpressed, hstaged,
    hattached⟩, hsynthetic, hblank⟩

namespace Verification

open Commanding

variable {course}

/-- The records of stages with the drafts where they have their turns. -/
def stageTurns (v : course.Verification) : List (Row × Draft CommandingState) :=
  turns course.setting (declareStage course.setting) v.cvs v.expressed

/-- **Verification is what its tables say.** -/
structure Exact (v : course.Verification) : Prop where
  /-- A record of an expression is accepted where it says something. -/
  accepted : ∀ turn ∈ turns course.setting declareExpression v.cve v.start,
    (∃ t, declareExpression turn.1 turn.2 = .ok () t) ↔
      ∃ id said, expressionOf v.start.database turn.1 = .ok (id, said)
  /-- An expression with a form compares with one value, or with the lower and the upper end of a
  tolerance that is not zero. -/
  compares : ∀ row ∈ v.cve, ∀ id cs, expressionOf v.start.database row = .ok (id, some cs) →
    Compares v.start.database row id cs
  /-- An identifier is bound to the stage of the first record that yields one for it. -/
  bound : ∀ id stage, v.staged.stage.stages.find? id = some stage ↔
    FirstYields course.setting v.stageTurns id stage
  /-- A record of a stage that waits for parameters yields it exactly when its identifier is free
  and some expression of the identifier has a form. -/
  yields : ∀ turn ∈ v.stageTurns, turn.1.flagD 2 ' ' = 'V' → ∀ id window,
    turn.1.text 0 = .ok id →
    checkWindow turn.1 course.setting.config.command.uncertaintyPeriod = .ok window →
    ((∃ stage, Yields course.setting turn id stage) ↔
      turn.2.stage.stages.find? id = none ∧ Supported v.start.database v.cve id)
  /-- Such a stage waits for the comparisons of all its expressions, in the order of the table. -/
  criteria : ∀ turn ∈ v.stageTurns, turn.1.flagD 2 ' ' = 'V' → ∀ id stage,
    Yields course.setting turn id stage → ∃ criteria, stage.check = .parameters criteria ∧
      criteria.toList = comparisonsOf v.start.database v.cve id
  /-- A record drops its stage exactly when the identifier is free, the window can be read, and
  there are expressions but none with a form. -/
  drops : ∀ turn ∈ v.stageTurns, ∀ id, Drops course.setting turn.2.stage turn.1 id ↔
    turn.1.text 0 = .ok id ∧ turn.1.flagD 2 ' ' = 'V' ∧
    (∃ window, checkWindow turn.1 course.setting.config.command.uncertaintyPeriod = .ok window) ∧
    turn.2.stage.stages.find? id = none ∧
    PassedOver v.start.database v.cve id ∧ ¬ Supported v.start.database v.cve id
  /-- A stage is dropped without an error, and that is all that its record does. -/
  dropped : ∀ turn ∈ v.stageTurns, ∀ id, Drops course.setting turn.2.stage turn.1 id →
    declareStage course.setting turn.1 turn.2 = .ok ()
      { turn.2 with stage :=
          { turn.2.stage with unsupportedStages := id :: turn.2.stage.unsupportedStages } }
  /-- A record that attaches a dropped stage to a command is passed over without an error. -/
  passedOver : ∀ turn ∈ turns course.setting attachStage v.cvp v.staged, ∀ task r id,
    turn.1.flagD 1 'C' = 'C' → turn.1.text 0 = .ok task →
    v.staged.database.commands.find? task = some r → turn.1.text 2 = .ok id →
    (∃ earlier ∈ v.stageTurns, Drops course.setting earlier.2.stage earlier.1 id) →
    v.staged.stage.stages.find? id = none → attachStage turn.1 turn.2 = .ok () turn.2
  /-- Stages that wait for reports have the same algorithm when they have the same name, and only
  then. -/
  shared : ∀ id id' stage stage' r r', v.staged.stage.stages.find? id = some stage →
    v.staged.stage.stages.find? id' = some stage' → stage.check = .acknowledgement r →
    stage'.check = .acknowledgement r' → (stage.name = stage'.name ↔ r = r')
  /-- Their algorithms are in the database and match reports: none is that of a parameter. -/
  acknowledges : ∀ id stage r, v.staged.stage.stages.find? id = some stage →
    stage.check = .acknowledgement r → ∃ a code, out.database.algorithms.get? r = some a ∧
      a.name = "PUS_Verifier-" ++ stage.name ∧ a.kind = .acknowledgementCheck code
  /-- A command has the verifiers that it had and, in the order of the table, those of the records
  of commands that name it and a stage that exists. -/
  attached : v.staged.database.commands = v.start.database.commands ∧
    ∀ r, out.database.commands.get? r = (v.start.database.commands.get? r).map fun c =>
      { c with verifiers := c.verifiers ++ verifiersOf v.staged v.cvp r }

variable {v : course.Verification}

/-! ## What is known at each turn -/

theorem expressed_stage (hblank : verification v.start.stage = ({}, [], {}, [])) :
    Expressed v.start.database v.cve v.expressed.stage := by
  simp only [verification, Prod.mk.injEq] at hblank
  exact inTurn_expressed (expressed_nil hblank.1 hblank.2.1) v.expressed_eq

theorem expressing : Expressing v.start v.expressed :=
  (steps_forM (fun row => (expressing_expressions.declareExpression row).recover
    fun _ _ => ⟨rfl, rfl, rfl⟩) v.cve).of_ok v.expressed_eq

/-- Where stages begin, nothing is known of them. -/
theorem acknowledged (hsynthetic : v.start.database.AllSynthetic)
    (hblank : verification v.start.stage = ({}, [], {}, [])) : Acknowledged v.expressed := by
  simp only [verification, Prod.mk.injEq] at hblank
  have hsame := v.expressing
  refine ⟨by rw [hsame.database]; exact hsynthetic.coherent, fun r a ha => ?_, ?_⟩
  · rw [hsame.database] at ha
    exact .inl (hsynthetic.synthetic r a ha)
  · intro id stage r hfind
    rw [hsame.stages, hblank.2.2.1] at hfind
    cases hfind

theorem staging {turn : Row × Draft CommandingState} (hturn : turn ∈ v.stageTurns) :
    Staging v.expressed turn.2 :=
  (turn_related (fun _ _ => ⟨rfl, rfl, rfl, rfl⟩) staging_stages.declareStage v.staged_eq turn
    hturn).1

/-- Commands are what they were when the stages have been read. -/
theorem commands_staged : v.staged.database.commands = v.start.database.commands := by
  have hstaging : Staging v.expressed v.staged :=
    (steps_forM (fun row => (staging_stages.declareStage row).recover
      fun _ _ => ⟨rfl, rfl, rfl, rfl⟩) v.cvs).of_ok v.staged_eq
  rw [hstaging.commands, v.expressing.database]

/-- **A record that attaches a dropped stage is passed over.** -/
theorem passes_over {turn : Row × Draft CommandingState} {task id : String} {r : CommandRef}
    (hacknowledged : Acknowledged v.expressed)
    (hturn : turn ∈ turns course.setting attachStage v.cvp v.staged)
    (hflag : turn.1.flagD 1 'C' = 'C') (htask : turn.1.text 0 = .ok task)
    (hcommand : v.staged.database.commands.find? task = some r) (hid : turn.1.text 2 = .ok id)
    (hdropped : ∃ earlier ∈ v.stageTurns, Drops course.setting earlier.2.stage earlier.1 id)
    (hnone : v.staged.stage.stages.find? id = none) :
    attachStage turn.1 turn.2 = .ok () turn.2 := by
  have hsame : Attaching v.staged turn.2 :=
    (turn_related (fun _ _ => ⟨rfl, rfl⟩) attaching_attachStage v.commanding_eq turn hturn).1
  have hknown : turn.2.database.commands.find? task = some r :=
    (Catalog.find?_of_names hsame.names task).trans hcommand
  have hunsupported : id ∈ v.staged.stage.unsupportedStages :=
    (inTurn_dropped hacknowledged v.staged_eq).mpr (.inr hdropped)
  exact attachStage_of_dropped hflag htask hknown hid (by rw [hsame.stage]; exact hnone)
    (by rw [hsame.stage]; exact hunsupported)

/-- **Where verification begins with nothing read and with algorithms of synthetic parameters only,
it becomes what its tables say.** -/
theorem exact_of_blank (hsynthetic : v.start.database.AllSynthetic)
    (hblank : verification v.start.stage = ({}, [], {}, [])) : v.Exact := by
  have hexpressed := expressed_stage hblank
  have hacknowledged := acknowledged hsynthetic hblank
  have hturn (turn : Row × Draft CommandingState) (h : turn ∈ v.stageTurns) :
      Expressed v.start.database v.cve turn.2.stage := hexpressed.staging (staging h)
  have hstaged := inTurn_acknowledged hacknowledged v.staged_eq
  have hattached := inTurn_attached v.commanding_eq
  -- no identifier has a stage before the first record of one
  have hfree (id : String) : v.expressed.stage.stages.find? id = none := by
    simp only [verification, Prod.mk.injEq] at hblank
    rw [v.expressing.stages, hblank.2.2.1]
    rfl
  exact {
    accepted := fun turn hmem => by
      have hsame : Expressing v.start turn.2 :=
        (turn_related (fun _ _ => ⟨rfl, rfl, rfl⟩) expressing_expressions.declareExpression
          v.expressed_eq turn hmem).1
      rw [declareExpression_accepted, hsame.database]
    compares := fun _ _ _ _ hsaid => compares_of_expressionOf hsaid
    bound := fun id stage => by
      rw [inTurn_bound hacknowledged v.staged_eq, hfree]
      exact ⟨fun hor => (hor.resolve_left fun h => by cases h).2, fun hfirst => .inr ⟨rfl, hfirst⟩⟩
    yields := fun turn hmem hsource _ _ hkey hwindow =>
      exists_yields_iff (hturn turn hmem) hsource hkey hwindow
    criteria := fun turn hmem hsource _ _ hyields =>
      criteria_of_yields (hturn turn hmem) hsource hyields
    drops := fun turn hmem _ => drops_iff (hturn turn hmem)
    dropped := fun _ _ _ hdrops => declareStage_of_drops hdrops
    passedOver := fun _ hmem _ _ _ hflag htask hcommand hid hdropped hnone =>
      passes_over hacknowledged hmem hflag htask hcommand hid hdropped hnone
    shared := fun _ _ _ _ _ _ hfind hfind' hcheck hcheck' =>
      hstaged.shared hfind hfind' hcheck hcheck'
    acknowledges := fun id stage r hfind hcheck => by
      obtain ⟨a, kind, ha, hkind, hname⟩ := hstaged.stages id stage r hfind hcheck
      refine ⟨a, (stageOf kind).2, ?_, by rw [hkind.name, hname], hkind.kind⟩
      rw [course.database_eq, hattached.algorithms]
      exact ha
    attached := by
      refine ⟨commands_staged, fun r => ?_⟩
      rw [course.database_eq, hattached.commands r, commands_staged] }

end Verification

end Course

open Commanding

/-- **Every compilation makes of verification what its tables say.** -/
theorem compile_verification (h : compile config files compiler = .ok out) :
    ∃ (course : Course config files compiler out) (v : course.Verification), v.Exact := by
  obtain ⟨course⟩ := exists_course h
  obtain ⟨v, hsynthetic, hblank⟩ := course.exists_verification
  exact ⟨course, v, Course.Verification.exact_of_blank hsynthetic hblank⟩

/-- A stage that waits for a report, one that waits for a parameter, and one with an expression that
has no form, attached to a command in another order. -/
def threeStagesFiles : Files :=
  .ofTables "m" [
    ("vdf", "TEST\n"),
    ("pcf", "P\t\t\t\t3\t4\t\t\t\tN\tR\n"),
    ("ccf", "CMD\ta command\t\t\tN\tNOHEADER\n"),
    ("cve", "2\tP\tR\t1\n3\tP\tR\t1\t\tS\n"),
    ("cvs", "1\tA\tR\t0\t5\n2\tC\tV\t1\t10\n3\tS\tV\t0\t5\n"),
    ("cvp", "CMD\tC\t2\nCMD\tC\t1\nCMD\tC\t3\n")]

/-- The command has two verifiers in the order in which they are attached, and the third stage is
dropped without an error. -/
theorem threeStages_attached :
    ∃ (out : Compiled) (course : Course { path := "m" } threeStagesFiles none out)
      (v : course.Verification) (c : Command),
      compile { path := "m" } threeStagesFiles none = .ok out ∧ out.errors = [] ∧ v.Exact ∧
      out.database.commands.get? ⟨0⟩ = some c ∧
      c.verifiers.map Verifier.stage = ["Completion", "Acceptance"] := by
  have hok : ((compile { path := "m" } threeStagesFiles none).toOption.any fun out =>
      out.errors.isEmpty && (out.database.commands.get? ⟨0⟩).any fun c =>
        decide (c.verifiers.map Verifier.stage = ["Completion", "Acceptance"])) = true := by
    decide +kernel
  obtain ⟨out, hout, hfacts⟩ := (Option.any_eq_true _ _).mp hok
  obtain ⟨herrors, hfacts⟩ := (Bool.and_eq_true _ _).mp hfacts
  obtain ⟨c, hc, hfacts⟩ := (Option.any_eq_true _ _).mp hfacts
  have hrun := eq_ok_of_toOption hout
  obtain ⟨course, v, hexact⟩ := compile_verification hrun
  exact ⟨out, course, v, c, hrun, List.isEmpty_iff.mp herrors, hexact, hc,
    of_decide_eq_true hfacts⟩

/-- Two stages whose expressions have no form. The first has been bound to a report when its record
comes, and the second is attached to a command that does not exist. -/
def takenStageFiles : Files :=
  .ofTables "m" [
    ("vdf", "TEST\n"),
    ("pcf", "P\t\t\t\t3\t4\t\t\t\tN\tR\n"),
    ("cve", "1\tP\tR\t1\t\tS\n2\tP\tR\t1\t\tS\n"),
    ("cvs", "1\tA\tR\t0\t5\n1\tC\tV\t0\t5\n2\tC\tV\t0\t5\n"),
    ("cvp", "CMD\tC\t2\n")]

/-- The record of the first stage is refused and not dropped, and so is the record that attaches the
second. -/
theorem takenStage_refused :
    ∃ (out : Compiled) (course : Course { path := "m" } takenStageFiles none out)
      (v : course.Verification),
      compile { path := "m" } takenStageFiles none = .ok out ∧
      (∃ turn ∈ v.stageTurns, turn.1.flagD 2 ' ' = 'V' ∧ turn.1.text 0 = .ok "1" ∧
        PassedOver v.start.database v.cve "1" ∧ ¬ Supported v.start.database v.cve "1" ∧
        ∃ e t, declareStage course.setting turn.1 turn.2 = .error e t ∧ e ∈ out.errors) ∧
      ∃ turn ∈ turns course.setting attachStage v.cvp v.staged, turn.1.text 2 = .ok "2" ∧
        v.staged.stage.stages.find? "2" = none ∧ "2" ∈ v.staged.stage.unsupportedStages ∧
        ∃ e t, attachStage turn.1 turn.2 = .error e t ∧ e ∈ out.errors := by
  have hok : ((compile { path := "m" } takenStageFiles none).toOption.any fun out =>
      (Setting.of { path := "m" } takenStageFiles).toOption.any fun setting =>
      (after? (readVersion setting) ⟨{ name := "MIB" }, [], [], none⟩).any fun a =>
      (after? (buildTelemetry setting none) ⟨a.database, a.errors, a.warnings, {}⟩).any fun t =>
      (after? (beforeVerifiers setting) ⟨t.database, t.errors, t.warnings, {}⟩).any fun d =>
      (Build.rows setting "cve").toOption.any fun cve =>
      (Build.rows setting "cvs").toOption.any fun cvs =>
      (Build.rows setting "cvp").toOption.any fun cvp =>
      (after? (inTurn setting declareExpression cve) d).any fun d₁ =>
      (after? (inTurn setting (declareStage setting) cvs) d₁).any fun d₂ =>
      (cve.any fun row => decide ((expressionOf d.database row).toOption = some ("1", none))) &&
      ((cve.all fun row => !(expressionOf d.database row).toOption.any fun x => x.2.isSome) &&
      (((turns setting (declareStage setting) cvs d₁).any fun turn =>
        decide (turn.1.flagD 2 ' ' = 'V' ∧ (turn.1.text 0).toOption = some "1") &&
          (error? (declareStage setting turn.1) turn.2).any fun e => decide (e ∈ out.errors)) &&
      (decide (d₂.stage.stages.find? "2" = none ∧ "2" ∈ d₂.stage.unsupportedStages) &&
      (turns setting attachStage cvp d₂).any fun turn =>
        decide ((turn.1.text 2).toOption = some "2") &&
          (error? (attachStage turn.1) turn.2).any fun e => decide (e ∈ out.errors))))) = true := by
    decide +kernel
  obtain ⟨out, hout, hok⟩ := (Option.any_eq_true _ _).mp hok
  obtain ⟨setting, hsetting, hok⟩ := (Option.any_eq_true _ _).mp hok
  obtain ⟨a, ha, hok⟩ := (Option.any_eq_true _ _).mp hok
  obtain ⟨t, ht, hok⟩ := (Option.any_eq_true _ _).mp hok
  obtain ⟨d, hd, hok⟩ := (Option.any_eq_true _ _).mp hok
  obtain ⟨cve, hcve, hok⟩ := (Option.any_eq_true _ _).mp hok
  obtain ⟨cvs, hcvs, hok⟩ := (Option.any_eq_true _ _).mp hok
  obtain ⟨cvp, hcvp, hok⟩ := (Option.any_eq_true _ _).mp hok
  obtain ⟨d₁, hd₁, hok⟩ := (Option.any_eq_true _ _).mp hok
  obtain ⟨d₂, hd₂, hok⟩ := (Option.any_eq_true _ _).mp hok
  obtain ⟨hover, hok⟩ := (Bool.and_eq_true _ _).mp hok
  obtain ⟨hnone, hok⟩ := (Bool.and_eq_true _ _).mp hok
  obtain ⟨hrefused, hok⟩ := (Bool.and_eq_true _ _).mp hok
  obtain ⟨hdropped, hunknown⟩ := (Bool.and_eq_true _ _).mp hok
  have hrun := eq_ok_of_toOption hout
  obtain ⟨course⟩ := exists_course hrun
  obtain ⟨v, -, -⟩ := course.exists_verification
  -- the drafts of the course are those of the runs above
  obtain rfl := Except.ok.inj ((eq_ok_of_toOption hsetting).symm.trans course.setting_eq)
  obtain ⟨_, ha⟩ := after?_eq_some.mp ha
  cases ha.symm.trans course.version_eq
  obtain ⟨_, ht⟩ := after?_eq_some.mp ht
  cases ht.symm.trans course.telemetry_eq
  obtain ⟨_, hd⟩ := after?_eq_some.mp hd
  cases hd.symm.trans v.start_eq
  obtain rfl := Except.ok.inj ((eq_ok_of_toOption hcve).symm.trans v.cve_eq)
  obtain rfl := Except.ok.inj ((eq_ok_of_toOption hcvs).symm.trans v.cvs_eq)
  obtain rfl := Except.ok.inj ((eq_ok_of_toOption hcvp).symm.trans v.cvp_eq)
  obtain ⟨_, hd₁⟩ := after?_eq_some.mp hd₁
  cases hd₁.symm.trans v.expressed_eq
  obtain ⟨_, hd₂⟩ := after?_eq_some.mp hd₂
  cases hd₂.symm.trans v.staged_eq
  refine ⟨out, course, v, hrun, ?_, ?_⟩
  · obtain ⟨turn, hturn, hfacts⟩ := List.any_eq_true.mp hrefused
    obtain ⟨hrecord, hfails⟩ := (Bool.and_eq_true _ _).mp hfacts
    obtain ⟨hsource, hkey⟩ := of_decide_eq_true hrecord
    obtain ⟨e, he, hmem⟩ := (Option.any_eq_true _ _).mp hfails
    obtain ⟨u, hu⟩ := error?_eq_some.mp he
    obtain ⟨row, hrow, hsaid⟩ := List.any_eq_true.mp hover
    refine ⟨turn, hturn, hsource, eq_ok_of_toOption hkey,
      ⟨row, hrow, eq_ok_of_toOption (of_decide_eq_true hsaid)⟩, ?_, e, u, hu,
      of_decide_eq_true hmem⟩
    rintro ⟨row', hrow', cs, hsaid'⟩
    have hno := List.all_eq_true.mp hnone row' hrow'
    rw [hsaid'] at hno
    cases hno
  · obtain ⟨turn, hturn, hfacts⟩ := List.any_eq_true.mp hunknown
    obtain ⟨hkey, hfails⟩ := (Bool.and_eq_true _ _).mp hfacts
    obtain ⟨e, he, hmem⟩ := (Option.any_eq_true _ _).mp hfails
    obtain ⟨u, hu⟩ := error?_eq_some.mp he
    obtain ⟨hfree, hlisted⟩ := of_decide_eq_true hdropped
    exact ⟨turn, hturn, eq_ok_of_toOption (of_decide_eq_true hkey), hfree, hlisted, e, u, hu,
      of_decide_eq_true hmem⟩

end MissionBase
