import MissionBase.Proofs.Algorithms
import MissionBase.Proofs.Commanding.Expressions

/-!
# Verification stages

A record of a stage yields its stage, or it is dropped, or it is refused; an identifier is bound by
the first record that yields a stage for it, and stays bound. A stage that waits for parameters has
the comparisons of its expressions. One that waits for a report has the algorithm that all stages of
its name share, and no algorithm of a synthetic parameter is taken for it, because its name holds a
hyphen and is no word.
-/

namespace MissionBase

open Run

/-- The algorithm of stages of a kind. -/
structure Algorithm.Acknowledges (a : Algorithm) (kind : Char) : Prop where
  name : a.name = "PUS_Verifier-" ++ (Commanding.stageOf kind).1
  kind : a.kind = .acknowledgementCheck (Commanding.stageOf kind).2

/-- **The name of such an algorithm is no word.** -/
theorem Text.isWord_verifier (stage : String) :
    Text.isWord ("PUS_Verifier-" ++ stage).toList = false := by
  rw [String.toList_append]
  show List.all ("PUS_Verifier-".toList ++ stage.toList) Text.isWordChar = false
  rw [List.all_append, Bool.and_eq_false_iff]
  exact .inl (by decide)

/-- A column that can be read is there, and so are those before it. -/
theorem Row.require_of_text {row : Row} {n : Nat} {v : String} {cols : List Nat}
    (h : row.text n = .ok v) (hcols : ∀ col ∈ cols, col ≤ n) : row.require cols = .ok () := by
  have hlength : n < row.fields.length := by
    unfold text at h
    cases hfield : row.fields[n]? with
    | none =>
        rw [hfield] at h
        cases h
    | some _ => exact (List.getElem?_eq_some_iff.mp hfield).1
  have hnone : cols.find? (fun col => decide (row.fields.length ≤ col)) = none := by
    rw [List.find?_eq_none]
    intro col hcol
    have hle := hcols col hcol
    rw [decide_eq_true_eq]
    omega
  unfold require
  rw [hnone]

theorem Criteria.eq_nil_of_ofList? {cs : List Comparison} (h : Criteria.ofList? cs = none) :
    cs = [] := by
  match cs, h with
  | [], _ => rfl
  | [_], h => cases h
  | _ :: _ :: _, h => cases h

namespace Commanding

variable {setting : Setting} {db : Database} {row : Row} {id : String}
  {cve rows : List Row} {s : CommandingState} {d d' t u : Draft CommandingState}

/-! ## One record -/

/-- A record gives a stage to an identifier that has none: the stage waits for a report, or for the
comparisons of its expressions. -/
structure Gives (setting : Setting) (s : CommandingState) (row : Row) (id : String)
    (stage : VerificationStage) : Prop where
  key : row.text 0 = .ok id
  free : s.stages.find? id = none
  name : stage.name = (stageOf (row.flagD 1 ' ')).1
  window : checkWindow row setting.config.command.uncertaintyPeriod = .ok stage.window
  check : (row.flagD 2 ' ' = 'R' ∧ ∃ algorithm, stage.check = .acknowledgement algorithm) ∨
    (row.flagD 2 ' ' = 'V' ∧ ∃ criteria, stageCriteria? s row id = .ok (some criteria) ∧
      stage.check = .parameters criteria)

/-- Where the stage waits for parameters it waits for its comparisons. -/
theorem Gives.criteria {stage : VerificationStage} (h : Gives setting s row id stage)
    (hsource : row.flagD 2 ' ' = 'V') :
    ∃ criteria, stageCriteria? s row id = .ok (some criteria) ∧
      stage.check = .parameters criteria := by
  rcases h.check with ⟨hreport, -⟩ | ⟨-, hcriteria⟩
  · rw [hsource] at hreport
    exact absurd hreport (by decide)
  · exact hcriteria

/-- A record of a stage that waits for parameters, with an identifier that has no stage, and with
expressions none of which has a form in the database. -/
structure Drops (setting : Setting) (s : CommandingState) (row : Row) (id : String) : Prop where
  key : row.text 0 = .ok id
  free : s.stages.find? id = none
  source : row.flagD 2 ' ' = 'V'
  window : ∃ window, checkWindow row setting.config.command.uncertaintyPeriod = .ok window
  check : stageCriteria? s row id = .ok none

/-- How a record of a stage is taken up: its stage is kept in mind, or it is dropped. -/
inductive StageStep (setting : Setting) (row : Row) (d t : Draft CommandingState) : Prop where
  | gives {id : String} {stage : VerificationStage} : Gives setting d.stage row id stage →
      t.stage = { d.stage with stages := d.stage.stages.set id stage } → StageStep setting row d t
  | drops {id : String} : Drops setting d.stage row id →
      t.stage = { d.stage with unsupportedStages := id :: d.stage.unsupportedStages } →
      StageStep setting row d t

/-- Requests that reports echo bring parameters and their types, and are not kept in mind. -/
theorem echoedRequest_silent :
    Steps (fun d t => d.database.SameCommanding t.database ∧ t.stage = d.stage)
      (echoedRequest : CommandingBuild (ParameterRef × ParameterRef)) := by
  have hechoed : Steps (OnDatabase Database.SameCommanding)
      (echoedRequest : CommandingBuild (ParameterRef × ParameterRef)) :=
    steps_echoedRequest sameCommanding_addUnsigned
  have hstage : Steps (Supplies id)
      (echoedRequest : CommandingBuild (ParameterRef × ParameterRef)) := supplies_echoedRequest
  exact (hechoed.both hstage).mono fun _ _ h => ⟨h.1, h.2.stage⟩

/-- What is known of algorithms and of the stages that use them. -/
structure Acknowledged (d : Draft CommandingState) : Prop where
  coherent : d.database.algorithms.Coherent
  known : ∀ r a, d.database.algorithms.get? r = some a →
    a.Synthetic ∨ ∃ kind, a.Acknowledges kind
  stages : ∀ id stage r, d.stage.stages.find? id = some stage →
    stage.check = .acknowledgement r →
    ∃ a kind, d.database.algorithms.get? r = some a ∧ a.Acknowledges kind ∧
      (stageOf kind).1 = stage.name

/-- Algorithms are known by what they are and by their names. -/
theorem Acknowledged.same (h : Acknowledged d)
    (halgorithms : d.database.SameAlgorithms t.database)
    (hstage : t.stage.stages = d.stage.stages) : Acknowledged t := by
  have halgorithms : t.database.algorithms = d.database.algorithms := halgorithms
  exact ⟨halgorithms ▸ h.coherent, halgorithms ▸ h.known,
    by rw [hstage, halgorithms]; exact h.stages⟩

/-- An algorithm whose name is free, for stages of a kind. -/
theorem Acknowledged.push {a : Algorithm} {kind : Char} (h : Acknowledged d)
    (hfree : d.database.algorithms.has a.name = false) (ha : a.Acknowledges kind)
    (halgorithms : t.database.algorithms = d.database.algorithms.push a)
    (hstage : t.stage.stages = d.stage.stages) : Acknowledged t where
  coherent := halgorithms ▸ h.coherent.push hfree
  known := halgorithms ▸ Catalog.forall_get?_push.mpr ⟨h.known, .inr ⟨kind, ha⟩⟩
  stages := fun id stage r hfind hcheck => by
    rw [hstage] at hfind
    obtain ⟨a', kind', ha', hrest⟩ := h.stages id stage r hfind hcheck
    exact ⟨a', kind', by rw [halgorithms]; exact Catalog.get?_push_of_some ha' a, hrest⟩

/-- A stage that waits for parameters, or for a report with the algorithm of its name. -/
theorem Acknowledged.setStage {stage : VerificationStage} (h : Acknowledged d)
    (hcheck : ∀ r, stage.check = .acknowledgement r → ∃ a kind,
      d.database.algorithms.get? r = some a ∧ a.Acknowledges kind ∧ (stageOf kind).1 = stage.name) :
    Acknowledged { d with stage := { d.stage with stages := d.stage.stages.set id stage } } where
  coherent := h.coherent
  known := h.known
  stages := fun id' stage' r hfind hr => by
    by_cases hid : id' = id
    · subst hid
      have hsame : some stage = some stage' := (Index.find?_set_self _ _ _).symm.trans hfind
      cases hsame
      exact hcheck r hr
    · rw [show (d.stage.stages.set id stage).find? id' = _ from
        Index.find?_set_of_ne _ hid stage] at hfind
      exact h.stages id' stage' r hfind hr

/-- **Stages of one name share an algorithm**: it is found by its name, or it is new. -/
theorem acknowledgementFor_ends (kind : Char) (h : Acknowledged d) :
    Ends (acknowledgementFor (stageOf kind).1 (stageOf kind).2) d
      (fun r t => Acknowledged t ∧ t.stage = d.stage ∧ ∃ a kind',
        t.database.algorithms.get? r = some a ∧ a.Acknowledges kind' ∧
          (stageOf kind').1 = (stageOf kind).1)
      fun t => Acknowledged t ∧ t.stage = d.stage := by
  unfold acknowledgementFor
  refine Ends.bind (ends_database ?_)
  dsimp only
  cases hfind : d.database.algorithms.find? ("PUS_Verifier-" ++ (stageOf kind).1) with
  | some r =>
      obtain ⟨a, ha, hname⟩ := Catalog.exists_of_find? hfind
      have hname : a.name = "PUS_Verifier-" ++ (stageOf kind).1 := hname
      refine ends_pure ⟨h, rfl, a, ?_⟩
      rcases h.known r a ha with hsynthetic | ⟨kind', hkind'⟩
      · -- the name of a synthetic parameter is a word, and this one is not
        have hword := hsynthetic.word
        rw [hname, Text.isWord_verifier] at hword
        cases hword
      · exact ⟨kind', ha, hkind', (String.append_right_inj _).mp (hkind'.name.symm.trans hname)⟩
  | none =>
      refine Ends.bind ((echoedRequest_silent d).mono (fun request u _ hu => ?_) fun u hu => ?_)
      · have hacknowledged : Acknowledged u := h.same hu.1.algorithms (by rw [hu.2])
        refine ends_add (fun r db hadd => ?_) ⟨hacknowledged, hu.2⟩
        obtain ⟨hfree, heq⟩ := Catalog.map_add_eq_ok.mp hadd
        cases heq
        have hkind : (acknowledgement ("PUS_Verifier-" ++ (stageOf kind).1) (stageOf kind).2
            request.1 request.2).Acknowledges kind := ⟨rfl, rfl⟩
        refine ⟨hacknowledged.push hfree hkind rfl rfl, hu.2, _, kind, ?_, hkind, rfl⟩
        exact Catalog.get?_push_next _ _
      · exact ⟨h.same hu.1.algorithms (by rw [hu.2]), hu.2⟩

/-- What the stage of a record waits for. -/
theorem stageCheck_ends (id : String) (kind : Char) (h : Acknowledged d) :
    Ends (stageCheck? row id (stageOf kind).1 (stageOf kind).2) d
      (fun check t => Acknowledged t ∧ t.stage = d.stage ∧
        ((row.flagD 2 ' ' = 'R' ∧ ∃ r, check = some (.acknowledgement r) ∧ ∃ a kind',
            t.database.algorithms.get? r = some a ∧ a.Acknowledges kind' ∧
              (stageOf kind').1 = (stageOf kind).1) ∨
          row.flagD 2 ' ' = 'V' ∧ ∃ criteria?, stageCriteria? d.stage row id = .ok criteria? ∧
            check = criteria?.map .parameters))
      fun t => Acknowledged t ∧ t.stage = d.stage := by
  unfold stageCheck?
  refine Ends.ite (fun hsource => ?_) fun _ => ?_
  · refine Ends.bind ((acknowledgementFor_ends kind h).mono (fun r t _ ht => ?_) fun _ ht => ht)
    exact ends_pure ⟨ht.1, ht.2.1, .inl ⟨hsource, r, rfl, ht.2.2⟩⟩
  · refine Ends.ite (fun hsource => ?_) fun _ => ends_throw ⟨h, rfl⟩
    refine Ends.bind (ends_stage ?_)
    refine Ends.bind (ends_lift (fun criteria? hcriteria => ?_) ⟨h, rfl⟩)
    exact ends_pure ⟨h, rfl, .inr ⟨hsource, criteria?, hcriteria, rfl⟩⟩

/-- **A record of a stage gives it or is dropped**, and a record that is refused changes no
stage. -/
theorem declareStage_ends (row : Row) (h : Acknowledged d) :
    Ends (declareStage setting row) d (fun _ t => StageStep setting row d t ∧ Acknowledged t)
      fun t => Acknowledged t ∧ t.stage = d.stage := by
  unfold declareStage
  refine Ends.bind (ends_lift (fun _ _ => ?_) ⟨h, rfl⟩)
  refine Ends.bind (ends_lift (fun id hid => Ends.bind (ends_stage ?_)) ⟨h, rfl⟩)
  refine Ends.ite (fun _ => ends_throw ⟨h, rfl⟩) fun hhas => ?_
  have hfree : d.stage.stages.find? id = none := by
    unfold Index.has at hhas
    exact Option.not_isSome_iff_eq_none.mp hhas
  refine Ends.bind (ends_lift (fun window hwindow => ?_) ⟨h, rfl⟩)
  refine Ends.bind ((stageCheck_ends id (row.flagD 1 ' ') h).mono (fun check t _ ht => ?_)
    fun _ ht => ht)
  obtain ⟨hacknowledged, hstage, ⟨hsource, r, rfl, hr⟩ | ⟨hsource, criteria?, hcriteria, rfl⟩⟩ := ht
  · -- the stage waits for a report
    let stage : VerificationStage := ⟨(stageOf (row.flagD 1 ' ')).1, window, .acknowledgement r⟩
    have hgives : Gives setting d.stage row id stage :=
      ⟨hid, hfree, rfl, hwindow, .inl ⟨hsource, r, rfl⟩⟩
    refine ends_changeStage ⟨.gives hgives ?_, hacknowledged.setStage fun q hq => ?_⟩
    · rw [hstage]
      rfl
    · cases hq
      exact hr
  · cases criteria? with
    | some criteria =>
        let stage : VerificationStage :=
          ⟨(stageOf (row.flagD 1 ' ')).1, window, .parameters criteria⟩
        have hgives : Gives setting d.stage row id stage :=
          ⟨hid, hfree, rfl, hwindow, .inr ⟨hsource, criteria, hcriteria, rfl⟩⟩
        refine ends_changeStage ⟨.gives hgives ?_, hacknowledged.setStage fun q hq => ?_⟩
        · rw [hstage]
          rfl
        · cases hq
    | none =>
        refine ends_changeStage ⟨.drops ⟨hid, hfree, hsource, ⟨window, hwindow⟩, hcriteria⟩ ?_, ?_⟩
        · rw [hstage]
        · exact ⟨hacknowledged.coherent, hacknowledged.known, hacknowledged.stages⟩

/-- The state when a record of a stage that waits for parameters is taken up: with the stage, or
with its identifier where the stage is dropped. -/
def awaiting (s : CommandingState) (row : Row) (id : String) (window : CheckWindow) :
    Option Criteria → CommandingState
  | some criteria =>
    let stage : VerificationStage := ⟨(stageOf (row.flagD 1 ' ')).1, window, .parameters criteria⟩
    { s with stages := s.stages.set id stage }
  | none => { s with unsupportedStages := id :: s.unsupportedStages }

/-- **A record of a stage that waits for parameters is taken up** if its identifier is free, its
window can be read and it is known what it waits for. -/
theorem declareStage_of_parameters {window : CheckWindow} {criteria? : Option Criteria}
    (hkey : row.text 0 = .ok id) (hfree : d.stage.stages.find? id = none)
    (hwindow : checkWindow row setting.config.command.uncertaintyPeriod = .ok window)
    (hsource : row.flagD 2 ' ' = 'V') (hcriteria : stageCriteria? d.stage row id = .ok criteria?) :
    declareStage setting row d =
      .ok () { d with stage := awaiting d.stage row id window criteria? } := by
  have hrequire : row.require [0, 1, 2, 3, 4] = .ok () := by
    unfold checkWindow at hwindow
    obtain ⟨start, -, hwindow⟩ := except_bind_eq_ok.mp hwindow
    obtain ⟨interval, hinterval, -⟩ := except_bind_eq_ok.mp hwindow
    obtain ⟨text, htext, -⟩ := except_bind_eq_ok.mp hinterval
    exact Row.require_of_text htext (by decide)
  have hhas : ¬ d.stage.stages.has id = true := by
    unfold Index.has
    rw [hfree]
    exact Bool.false_ne_true
  have hcheck : stageCheck? row id (stageOf (row.flagD 1 ' ')).1 (stageOf (row.flagD 1 ' ')).2 d =
      .ok (criteria?.map .parameters) d := by
    unfold stageCheck?
    rw [hsource]
    refine bind_eq_ok.mpr ⟨d.stage, d, stage_eq_ok.mpr ⟨rfl, rfl⟩, ?_⟩
    exact bind_eq_ok.mpr ⟨criteria?, d, lift_eq_ok.mpr ⟨hcriteria, rfl⟩, pure_eq_ok.mpr ⟨rfl, rfl⟩⟩
  have hends : Ends (declareStage setting row) d
      (fun _ t => t = { d with stage := awaiting d.stage row id window criteria? })
      fun _ => False := by
    unfold declareStage
    refine Ends.bind (ends_of_ok (lift_eq_ok.mpr ⟨hrequire, rfl⟩) ?_)
    refine Ends.bind (ends_of_ok (lift_eq_ok.mpr ⟨hkey, rfl⟩) ?_)
    refine Ends.bind (ends_stage ?_)
    refine Ends.ite (fun h => absurd h hhas) fun _ => ?_
    refine Ends.bind (ends_of_ok (lift_eq_ok.mpr ⟨hwindow, rfl⟩) ?_)
    refine Ends.bind (ends_of_ok hcheck ?_)
    cases criteria? with
    | some _ => exact ends_changeStage rfl
    | none => exact ends_changeStage rfl
  obtain ⟨_, t, ht, rfl⟩ := hends.exists_ok
  exact ht

/-- **A stage is dropped without an error**, and that is all that its record does. -/
theorem declareStage_of_drops (h : Drops setting d.stage row id) :
    declareStage setting row d = .ok () { d with stage :=
      { d.stage with unsupportedStages := id :: d.stage.unsupportedStages } } := by
  obtain ⟨window, hwindow⟩ := h.window
  exact declareStage_of_parameters h.key h.free hwindow h.source h.check

/-! ## Stages that wait for parameters -/

/-- A stage with expressions that give comparisons waits for these. -/
theorem stageCriteria_of_supported (h : Expressed db cve s) (row : Row)
    (hsupported : Supported db cve id) :
    ∃ criteria, stageCriteria? s row id = .ok (some criteria) ∧
      criteria.toList = comparisonsOf db cve id := by
  have hsome := comparisonsOf_ne_nil.mpr hsupported
  unfold stageCriteria?
  rw [h.comparisons id, if_neg hsome]
  cases hlist : Criteria.ofList? (comparisonsOf db cve id) with
  | some criteria => exact ⟨criteria, by simp only [hlist], Criteria.toList_ofList? hlist⟩
  | none => exact absurd (Criteria.eq_nil_of_ofList? hlist) hsome

/-- A stage without such expressions is dropped where expressions have been passed over, and waits
for nothing else. -/
theorem stageCriteria_of_not_supported (h : Expressed db cve s) (row : Row)
    (hnone : ¬ Supported db cve id) :
    (stageCriteria? s row id = .ok none ↔ PassedOver db cve id) ∧
      ∀ criteria, stageCriteria? s row id ≠ .ok (some criteria) := by
  have hempty : comparisonsOf db cve id = [] :=
    Classical.not_not.mp fun hsome => hnone (comparisonsOf_ne_nil.mp hsome)
  unfold stageCriteria?
  rw [h.comparisons id, if_pos hempty]
  dsimp only
  by_cases hover : PassedOver db cve id
  · rw [if_pos (List.contains_iff_mem.mpr ((h.passedOver id).mpr hover))]
    exact ⟨⟨fun _ => hover, fun _ => rfl⟩, fun criteria hcriteria => by cases hcriteria⟩
  · rw [if_neg fun hmem => hover ((h.passedOver id).mp (List.contains_iff_mem.mp hmem))]
    exact ⟨⟨fun hfails => (by cases hfails), fun h => absurd h hover⟩,
      fun criteria hcriteria => by cases hcriteria⟩

/-- **A record drops its stage** exactly when its identifier is free, its window can be read, and
there are expressions but none with a form. -/
theorem drops_iff (h : Expressed db cve s) :
    Drops setting s row id ↔ row.text 0 = .ok id ∧ row.flagD 2 ' ' = 'V' ∧
      (∃ window, checkWindow row setting.config.command.uncertaintyPeriod = .ok window) ∧
      s.stages.find? id = none ∧ PassedOver db cve id ∧ ¬ Supported db cve id := by
  constructor
  · rintro ⟨hkey, hfree, hsource, hwindow, hcheck⟩
    have hnot : ¬ Supported db cve id := by
      intro hsupported
      obtain ⟨criteria, hcriteria, -⟩ := stageCriteria_of_supported h row hsupported
      rw [hcheck] at hcriteria
      cases hcriteria
    exact ⟨hkey, hsource, hwindow, hfree, (stageCriteria_of_not_supported h row hnot).1.mp hcheck,
      hnot⟩
  · rintro ⟨hkey, hsource, hwindow, hfree, hover, hnot⟩
    exact ⟨hkey, hfree, hsource, hwindow, (stageCriteria_of_not_supported h row hnot).1.mpr hover⟩

/-! ## All records -/

/-- A record yields the stage of an identifier at its turn: it gives the stage, and the stage is
kept in mind. -/
def Yields (setting : Setting) (turn : Row × Draft CommandingState) (id : String)
    (stage : VerificationStage) : Prop :=
  Gives setting turn.2.stage turn.1 id stage ∧
    ∃ t, declareStage setting turn.1 turn.2 = .ok () t ∧ t.stage.stages.find? id = some stage

/-- The first of some turns that yields a stage for an identifier yields this one. -/
def FirstYields (setting : Setting) (seen : List (Row × Draft CommandingState)) (id : String)
    (stage : VerificationStage) : Prop :=
  ∃ before turn after, seen = before ++ turn :: after ∧ Yields setting turn id stage ∧
    ∀ earlier ∈ before, ∀ other, ¬ Yields setting earlier id other

/-- What comes first is at the first turn, or later where that yields nothing. -/
theorem firstYields_cons {turn : Row × Draft CommandingState}
    {rest : List (Row × Draft CommandingState)} {stage : VerificationStage} :
    FirstYields setting (turn :: rest) id stage ↔
      Yields setting turn id stage ∨
        (∀ other, ¬ Yields setting turn id other) ∧ FirstYields setting rest id stage := by
  constructor
  · rintro ⟨before, turn', after, hseen, hyields, hfirst⟩
    cases before with
    | nil =>
        obtain ⟨rfl, -⟩ := List.cons.inj hseen
        exact .inl hyields
    | cons earlier before =>
        obtain ⟨rfl, hrest⟩ := List.cons.inj hseen
        refine .inr ⟨hfirst _ List.mem_cons_self, before, turn', after, hrest, hyields, ?_⟩
        exact fun earlier' hmem => hfirst earlier' (List.mem_cons_of_mem _ hmem)
  · rintro (hyields | ⟨hnot, before, turn', after, rfl, hyields, hfirst⟩)
    · exact ⟨[], turn, rest, rfl, hyields, fun _ hmem => (List.not_mem_nil hmem).elim⟩
    · refine ⟨turn :: before, turn', after, rfl, hyields, fun earlier hmem => ?_⟩
      rcases List.mem_cons.mp hmem with rfl | hmem
      · exact hnot
      · exact hfirst earlier hmem

/-- **A record of a stage that waits for parameters yields it** exactly when its identifier is free
and some expression of the identifier has a form. -/
theorem exists_yields_iff {turn : Row × Draft CommandingState} {window : CheckWindow}
    (h : Expressed db cve turn.2.stage) (hsource : turn.1.flagD 2 ' ' = 'V')
    (hkey : turn.1.text 0 = .ok id)
    (hwindow : checkWindow turn.1 setting.config.command.uncertaintyPeriod = .ok window) :
    (∃ stage, Yields setting turn id stage) ↔
      turn.2.stage.stages.find? id = none ∧ Supported db cve id := by
  constructor
  · rintro ⟨stage, hgives, -⟩
    refine ⟨hgives.free, ?_⟩
    obtain ⟨criteria, hcriteria, -⟩ := hgives.criteria hsource
    by_contra hnot
    exact (stageCriteria_of_not_supported h turn.1 hnot).2 criteria hcriteria
  · -- what is known of the record is enough to take it up
    rintro ⟨hfree, hsupported⟩
    obtain ⟨criteria, hcriteria, -⟩ := stageCriteria_of_supported h turn.1 hsupported
    let stage : VerificationStage :=
      ⟨(stageOf (turn.1.flagD 1 ' ')).1, window, .parameters criteria⟩
    have hgives : Gives setting turn.2.stage turn.1 id stage :=
      ⟨hkey, hfree, rfl, hwindow, .inr ⟨hsource, criteria, hcriteria, rfl⟩⟩
    refine ⟨stage, hgives, _, declareStage_of_parameters hkey hfree hwindow hsource hcriteria, ?_⟩
    exact Index.find?_set_self _ _ _

/-- **Such a stage waits for the comparisons of all its expressions**, in the order of the table. -/
theorem criteria_of_yields {turn : Row × Draft CommandingState} {stage : VerificationStage}
    (h : Expressed db cve turn.2.stage) (hsource : turn.1.flagD 2 ' ' = 'V')
    (hyields : Yields setting turn id stage) :
    ∃ criteria, stage.check = .parameters criteria ∧
      criteria.toList = comparisonsOf db cve id := by
  obtain ⟨criteria, hcriteria, hcheck⟩ := hyields.1.criteria hsource
  by_cases hsupported : Supported db cve id
  · obtain ⟨criteria', hcriteria', hlist⟩ := stageCriteria_of_supported h turn.1 hsupported
    rw [hcriteria] at hcriteria'
    cases hcriteria'
    exact ⟨criteria, hcheck, hlist⟩
  · exact absurd hcriteria ((stageCriteria_of_not_supported h turn.1 hsupported).2 criteria)

/-- How a record is taken up as a unit of work. -/
theorem recover_declareStage (h : Acknowledged d)
    (hrow : Build.recover setting (declareStage setting row) d = .ok () u) :
    Acknowledged u ∧ ((declareStage setting row d = .ok () u ∧ StageStep setting row d u) ∨
      u.stage = d.stage ∧ ∃ e t, declareStage setting row d = .error e t) := by
  have hends : Ends (declareStage setting row) d _ _ := declareStage_ends row h
  rcases recover_cases hrow with hwork | ⟨e, t, hwork, rfl⟩
  · obtain ⟨hstep, hacknowledged⟩ := hends.of_ok hwork
    exact ⟨hacknowledged, .inl ⟨hwork, hstep⟩⟩
  · obtain ⟨hacknowledged, hstage⟩ := (ends_iff.mp hends).2 e t hwork
    exact ⟨hacknowledged.same rfl rfl, .inr ⟨hstage, e, t, hwork⟩⟩

/-- A record that yields a stage has it kept in mind. -/
theorem find?_of_yields {stage : VerificationStage}
    (hrow : Build.recover setting (declareStage setting row) d = .ok () u)
    (h : Yields setting (row, d) id stage) : u.stage.stages.find? id = some stage := by
  obtain ⟨-, t, ht, hfind⟩ := h
  rw [recover_of_ok ht] at hrow
  cases hrow
  exact hfind

/-- A record that yields no stage for an identifier leaves the identifier alone. -/
theorem find?_of_not_yields (h : Acknowledged d)
    (hrow : Build.recover setting (declareStage setting row) d = .ok () u)
    (hnot : ∀ stage, ¬ Yields setting (row, d) id stage) :
    u.stage.stages.find? id = d.stage.stages.find? id := by
  obtain ⟨-, ⟨hwork, hstep⟩ | ⟨hstage, -⟩⟩ := recover_declareStage h hrow
  · cases hstep with
    | drops _ hstage => rw [hstage]
    | @gives id' stage hgives hstage =>
        by_cases hid : id = id'
        · subst hid
          refine absurd ⟨hgives, u, hwork, ?_⟩ (hnot stage)
          rw [hstage]
          exact Index.find?_set_self _ _ _
        · rw [hstage]
          exact Index.find?_set_of_ne _ hid stage
  · rw [hstage]

/-- Dropped stages are those dropped before and the one of a record that drops its own. -/
theorem mem_unsupportedStages (h : Acknowledged d)
    (hrow : Build.recover setting (declareStage setting row) d = .ok () u) :
    id ∈ u.stage.unsupportedStages ↔
      id ∈ d.stage.unsupportedStages ∨ Drops setting d.stage row id := by
  obtain ⟨-, ⟨-, hstep⟩ | ⟨hstage, e, t, hwork⟩⟩ := recover_declareStage h hrow
  · cases hstep with
    | @gives id' stage hgives hstage =>
        rw [hstage]
        refine ⟨.inl, fun hor => hor.resolve_right fun hdrops => ?_⟩
        -- a record that gives a stage knows what it waits for
        obtain rfl : id' = id := Except.ok.inj (hgives.key.symm.trans hdrops.key)
        obtain ⟨criteria, hcriteria, -⟩ := hgives.criteria hdrops.source
        rw [hdrops.check] at hcriteria
        cases hcriteria
    | @drops id' hdrops hstage =>
        rw [hstage]
        show id ∈ id' :: d.stage.unsupportedStages ↔ _
        rw [List.mem_cons, or_comm]
        refine or_congr_right ⟨fun hid => hid ▸ hdrops, fun hother => ?_⟩
        exact Except.ok.inj (hother.key.symm.trans hdrops.key)
  · rw [hstage]
    refine ⟨.inl, fun hor => hor.resolve_right fun hdrops => ?_⟩
    rw [declareStage_of_drops hdrops] at hwork
    cases hwork

/-- **When all records have been read, an identifier has the stage that it had, or the first that a
record yields for it.** -/
theorem inTurn_bound {stage : VerificationStage} :
    ∀ {rows : List Row} {d : Draft CommandingState}, Acknowledged d →
      inTurn setting (declareStage setting) rows d = .ok () d' →
      (d'.stage.stages.find? id = some stage ↔ d.stage.stages.find? id = some stage ∨
        d.stage.stages.find? id = none ∧
          FirstYields setting (turns setting (declareStage setting) rows d) id stage)
  | [], d, _, hrun => by
      obtain ⟨-, rfl⟩ := pure_eq_ok.mp hrun
      refine ⟨.inl, fun hor => hor.resolve_right ?_⟩
      rintro ⟨-, before, turn, after, hseen, -⟩
      cases before <;> cases hseen
  | row :: rest, d, h, hrun => by
      obtain ⟨u, hrow, hrest⟩ := inTurn_cons_eq_ok.mp hrun
      rw [inTurn_bound (recover_declareStage h hrow).1 hrest, turns_cons hrow, firstYields_cons]
      by_cases hyields : ∃ other, Yields setting (row, d) id other
      · -- the identifier is taken from here on, so nothing after the record yields a stage for it
        obtain ⟨other, hother⟩ := hyields
        have hsome := find?_of_yields hrow hother
        have hfree : d.stage.stages.find? id = none := hother.1.free
        rw [hsome, hfree]
        constructor
        · rintro (heq | ⟨hnone, -⟩)
          · cases heq
            exact .inr ⟨rfl, .inl hother⟩
          · cases hnone
        · rintro (hnone | ⟨-, hstage | ⟨hnot, -⟩⟩)
          · cases hnone
          · exact .inl (hsome.symm.trans (find?_of_yields hrow hstage))
          · exact absurd hother (hnot other)
      · -- the identifier is as it was, and the records after this one decide
        have hnot (other : VerificationStage) : ¬ Yields setting (row, d) id other :=
          fun hother => hyields ⟨other, hother⟩
        rw [find?_of_not_yields h hrow hnot]
        refine or_congr_right (and_congr_right fun _ => ?_)
        exact ⟨fun hfirst => .inr ⟨hnot, hfirst⟩,
          fun hor => (hor.resolve_left (hnot stage)).2⟩

/-- **The stages that have been dropped** are those dropped before and those of the records that
drop theirs at their turns. -/
theorem inTurn_dropped :
    ∀ {rows : List Row} {d : Draft CommandingState}, Acknowledged d →
      inTurn setting (declareStage setting) rows d = .ok () d' →
      (id ∈ d'.stage.unsupportedStages ↔ id ∈ d.stage.unsupportedStages ∨
        ∃ turn ∈ turns setting (declareStage setting) rows d, Drops setting turn.2.stage turn.1 id)
  | [], d, _, hrun => by
      obtain ⟨-, rfl⟩ := pure_eq_ok.mp hrun
      exact ⟨.inl, fun hor => hor.resolve_right fun ⟨_, hmem, _⟩ => nomatch hmem⟩
  | row :: rest, d, h, hrun => by
      obtain ⟨u, hrow, hrest⟩ := inTurn_cons_eq_ok.mp hrun
      rw [inTurn_dropped (recover_declareStage h hrow).1 hrest, mem_unsupportedStages h hrow,
        turns_cons hrow, or_assoc]
      refine or_congr_right ?_
      simp only [List.mem_cons, exists_eq_or_imp]

/-- **Algorithms and stages stay in order** over all records. -/
theorem inTurn_acknowledged (h : Acknowledged d)
    (hrun : inTurn setting (declareStage setting) rows d = .ok () d') : Acknowledged d' := by
  refine (ends_forM_mem (I := Acknowledged) (E := Acknowledged) (fun row _ t ht => ?_) h).of_ok hrun
  refine Ends.recover (fun u _ hu => hu.same rfl rfl) ?_
  exact (declareStage_ends row ht).mono (fun _ _ _ hu => hu.2) fun _ hu => hu.1

/-- What records of stages leave alone. -/
structure Staging (d t : Draft CommandingState) : Prop where
  commands : t.database.commands = d.database.commands
  argumentTypes : t.database.argumentTypes = d.database.argumentTypes
  expressions : t.stage.expressions = d.stage.expressions
  passedOver : t.stage.unsupportedExpressions = d.stage.unsupportedExpressions

instance : Std.Refl Staging := ⟨fun _ => ⟨rfl, rfl, rfl, rfl⟩⟩

instance : IsTrans (Draft CommandingState) Staging :=
  ⟨fun _ _ _ h h' => ⟨h'.commands.trans h.commands, h'.argumentTypes.trans h.argumentTypes,
    h'.expressions.trans h.expressions, h'.passedOver.trans h.passedOver⟩⟩

/-- Records of stages leave commands, their types and expressions alone. -/
theorem staging_stages : StageSteps Staging where
  unsigned := steps_addUnsigned (fun _ => steps_addParameterType fun _ _ => ⟨rfl, rfl, rfl, rfl⟩)
    fun _ _ => steps_addParameter fun _ _ => ⟨rfl, rfl, rfl, rfl⟩
  algorithm := fun _ => steps_addAlgorithm fun _ _ => ⟨rfl, rfl, rfl, rfl⟩
  stages := fun _ => steps_modify fun _ => ⟨rfl, rfl, rfl, rfl⟩
  dropped := fun _ => steps_modify fun _ => ⟨rfl, rfl, rfl, rfl⟩

/-- What was read of expressions is known at every turn. -/
theorem Expressed.staging (h : Expressed db cve d.stage) (hsame : Staging d t) :
    Expressed db cve t.stage :=
  ⟨by rw [hsame.expressions]; exact h.comparisons, by rw [hsame.passedOver]; exact h.passedOver⟩

/-- **Stages have the same algorithm when they have the same name**, and only then. -/
theorem Acknowledged.shared {id' : String} {stage stage' : VerificationStage}
    {r r' : AlgorithmRef} (h : Acknowledged d) (hfind : d.stage.stages.find? id = some stage)
    (hfind' : d.stage.stages.find? id' = some stage') (hcheck : stage.check = .acknowledgement r)
    (hcheck' : stage'.check = .acknowledgement r') : stage.name = stage'.name ↔ r = r' := by
  obtain ⟨a, kind, ha, hkind, hname⟩ := h.stages id stage r hfind hcheck
  obtain ⟨a', kind', ha', hkind', hname'⟩ := h.stages id' stage' r' hfind' hcheck'
  rw [← hname, ← hname']
  constructor
  · intro heq
    have hnames : a.name = a'.name := by rw [hkind.name, hkind'.name, heq]
    -- both are found by the one name
    have hfound : d.database.algorithms.find? a.name = some r :=
      (h.coherent.found _ _).mpr ⟨a, ha, rfl⟩
    have hfound' : d.database.algorithms.find? a.name = some r' :=
      (h.coherent.found _ _).mpr ⟨a', ha', hnames.symm⟩
    exact Option.some.inj (hfound.symm.trans hfound')
  · rintro rfl
    obtain rfl : a = a' := Option.some.inj (ha.symm.trans ha')
    exact (String.append_right_inj _).mp (hkind.name.symm.trans hkind'.name)

end Commanding

end MissionBase
