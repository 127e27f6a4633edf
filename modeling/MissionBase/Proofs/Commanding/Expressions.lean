import MissionBase.Proofs.Commanding.RecordSteps
import MissionBase.Proofs.Index
import MissionBase.Proofs.Turns

/-!
# Expressions of verification stages

A record of an expression is refused, or it gives comparisons to its stage, or it has no form in the
database. Which of these it is depends on the record and on the parameters alone (`expressionOf`).
So when all records have been read, a stage has the comparisons of its records in the order of the
table, and it is known of which stages some record had no form (`Expressed`).
-/

namespace MissionBase.Commanding

open Run

variable {setting : Setting} {db : Database} {row : Row} {id : String} {s : CommandingState}
  {d d' : Draft CommandingState}

/-! ## One record -/

/-- What a record of an expression says: its stage and comparisons, or its stage alone where it has
no form in the database. -/
def expressionOf (db : Database) (row : Row) :
    Except Error (String × Option (List Comparison)) := do
  row.require [0, 1]
  let id ← row.text 0
  let name ← row.text 1
  match db.parameters.find? name with
  | none => throw (row.reference s!"CVE references unknown parameter '{name}'")
  | some parameter =>
    if row.flagD 5 'B' = 'S' ∨ row.flagD 2 'R' = 'C' then return (id, none)
    else return (id, some (← expressionComparisons db row name parameter))

/-- The comparisons of an expression: one with a value, or those with the lower and with the upper
end of a tolerance that is not zero, in this order. -/
inductive Compares (db : Database) (row : Row) (id : String) : List Comparison → Prop where
  | equality {name value : String} {parameter : ParameterRef} {calibrated : Bool} :
      row.text 0 = .ok id → row.text 1 = .ok name → db.parameters.find? name = some parameter →
      isCalibrated row 2 = .ok calibrated → row.text 3 = .ok value →
      (∀ tolerance, row.float? 4 = .ok (some tolerance) → (tolerance == 0.0) = true) →
      Compares db row id [⟨parameter, .equality, value, calibrated⟩]
  | tolerance {name : String} {parameter : ParameterRef} {calibrated : Bool}
      {expected tolerance : Float} :
      row.text 0 = .ok id → row.text 1 = .ok name → db.parameters.find? name = some parameter →
      isCalibrated row 2 = .ok calibrated → row.float 3 = .ok expected →
      row.float? 4 = .ok (some tolerance) → (tolerance == 0.0) = false →
      comparesNumbers db parameter calibrated = true →
      Compares db row id
        [⟨parameter, .largerOrEqual, Decimal.Style.positional.write (expected - tolerance),
            calibrated⟩,
          ⟨parameter, .smallerOrEqual, Decimal.Style.positional.write (expected + tolerance),
            calibrated⟩]

theorem Compares.ne_nil {cs : List Comparison} (h : Compares db row id cs) : cs ≠ [] := by
  cases h <;> exact List.cons_ne_nil _ _

/-- **An expression with a form gives one comparison or two.** -/
theorem compares_of_expressionOf {cs : List Comparison}
    (h : expressionOf db row = .ok (id, some cs)) : Compares db row id cs := by
  unfold expressionOf at h
  obtain ⟨_, -, h⟩ := except_bind_eq_ok.mp h
  obtain ⟨id', hid, h⟩ := except_bind_eq_ok.mp h
  obtain ⟨name, hname, h⟩ := except_bind_eq_ok.mp h
  cases hfind : db.parameters.find? name with
  | none =>
      rw [hfind] at h
      cases h
  | some parameter =>
      rw [hfind] at h
      dsimp only at h
      split at h
      · cases h
      · obtain ⟨cs', hcs, h⟩ := except_bind_eq_ok.mp h
        cases h
        unfold expressionComparisons at hcs
        obtain ⟨_, -, hcs⟩ := except_bind_eq_ok.mp hcs
        obtain ⟨calibrated, hcalibrated, hcs⟩ := except_bind_eq_ok.mp hcs
        obtain ⟨value, hvalue, hcs⟩ := except_bind_eq_ok.mp hcs
        obtain ⟨tolerance?, htolerance, hcs⟩ := except_bind_eq_ok.mp hcs
        cases tolerance? with
        | none =>
            cases hcs
            refine .equality hid hname hfind hcalibrated hvalue fun tolerance h => ?_
            rw [htolerance] at h
            cases h
        | some tolerance =>
            dsimp only at hcs
            -- a tolerance of zero asks for the value itself
            by_cases hzero : (tolerance == 0.0) = true
            · rw [if_pos hzero] at hcs
              cases hcs
              refine .equality hid hname hfind hcalibrated hvalue fun tolerance' h => ?_
              rw [htolerance] at h
              cases h
              exact hzero
            · rw [if_neg hzero] at hcs
              by_cases hnumbers : comparesNumbers db parameter calibrated = true
              · rw [if_neg (by rw [hnumbers]; exact Bool.false_ne_true)] at hcs
                obtain ⟨expected, hexpected, hcs⟩ := except_bind_eq_ok.mp hcs
                cases hcs
                exact .tolerance hid hname hfind hcalibrated hexpected htolerance
                  (Bool.eq_false_iff.mpr hzero) hnumbers
              · rw [if_pos (by rw [Bool.eq_false_iff.mpr hnumbers]; rfl)] at hcs
                cases hcs

/-- The state with what a record says of a stage. -/
def takeUp (s : CommandingState) (id : String) : Option (List Comparison) → CommandingState
  | some cs => { s with expressions := s.expressions.change id fun old => old.getD [] ++ cs }
  | none => { s with unsupportedExpressions := id :: s.unsupportedExpressions }

/-- **What a record says is taken up**, perhaps with a limitation noted, and a record that is
refused changes nothing. -/
theorem declareExpression_eq (row : Row) (d : Draft CommandingState) :
    ∃ warnings, declareExpression row d =
      match expressionOf d.database row with
      | .ok (id, said) => .ok () { d with warnings := warnings, stage := takeUp d.stage id said }
      | .error e => .error e d := by
  cases hrequire : row.require [0, 1] with
  | error e => exact ⟨d.warnings, by unfold declareExpression expressionOf; rw [hrequire]; rfl⟩
  | ok _ =>
  cases hid : row.text 0 with
  | error e => exact ⟨d.warnings, by unfold declareExpression expressionOf; rw [hrequire, hid]; rfl⟩
  | ok id =>
  cases hname : row.text 1 with
  | error e =>
      exact ⟨d.warnings, by unfold declareExpression expressionOf; rw [hrequire, hid, hname]; rfl⟩
  | ok name =>
  -- what follows depends on the parameter
  have hrun : declareExpression row d = (match d.database.parameters.find? name with
      | none => throw (row.reference s!"CVE references unknown parameter '{name}'")
      | some parameter =>
        if row.flagD 5 'B' = 'S' then passOver row id "status consistency check of"
        else if row.flagD 2 'R' = 'C' then
          passOver row id "tolerance relative to a command parameter in"
        else do
          let comparisons ← expressionComparisons d.database row name parameter
          Build.changeStage fun s => takeUp s id (some comparisons) : CommandingBuild Unit) d := by
    unfold declareExpression
    rw [hrequire, hid, hname]
    rfl
  have hsaid : expressionOf d.database row = match d.database.parameters.find? name with
      | none => .error (row.reference s!"CVE references unknown parameter '{name}'")
      | some parameter =>
        if row.flagD 5 'B' = 'S' ∨ row.flagD 2 'R' = 'C' then .ok (id, none)
        else (expressionComparisons d.database row name parameter).map fun cs => (id, some cs) := by
    unfold expressionOf
    rw [hrequire, hid, hname]
    rfl
  rw [hrun, hsaid]
  cases d.database.parameters.find? name with
  | none => exact ⟨d.warnings, rfl⟩
  | some parameter =>
      dsimp only
      by_cases hstatus : row.flagD 5 'B' = 'S'
      · rw [if_pos hstatus, if_pos (.inl hstatus)]
        exact ⟨_, rfl⟩
      by_cases hcommand : row.flagD 2 'R' = 'C'
      · rw [if_neg hstatus, if_pos hcommand, if_pos (.inr hcommand)]
        exact ⟨_, rfl⟩
      · rw [if_neg hstatus, if_neg hcommand, if_neg (not_or.mpr ⟨hstatus, hcommand⟩)]
        cases expressionComparisons d.database row name parameter with
        | error e => exact ⟨d.warnings, rfl⟩
        | ok cs => exact ⟨d.warnings, rfl⟩

/-! ## All records -/

/-- The comparisons that a record gives to a stage. -/
def comparisonsIn (db : Database) (id : String) (row : Row) : List Comparison :=
  match expressionOf db row with
  | .ok (id', some cs) => if id' = id then cs else []
  | _ => []

/-- The comparisons that records give to a stage, in the order of the records. -/
def comparisonsOf (db : Database) (rows : List Row) (id : String) : List Comparison :=
  rows.flatMap (comparisonsIn db id)

/-- Some record of a stage has no form in the database. -/
def PassedOver (db : Database) (rows : List Row) (id : String) : Prop :=
  ∃ row ∈ rows, expressionOf db row = .ok (id, none)

/-- Some record of a stage is accepted and has a form in the database. -/
def Supported (db : Database) (rows : List Row) (id : String) : Prop :=
  ∃ row ∈ rows, ∃ cs, expressionOf db row = .ok (id, some cs)

theorem comparisonsOf_ne_nil {rows : List Row} :
    comparisonsOf db rows id ≠ [] ↔ Supported db rows id := by
  unfold comparisonsOf Supported
  constructor
  · intro h
    obtain ⟨c, hc⟩ := List.exists_mem_of_ne_nil _ h
    obtain ⟨row, hrow, hc⟩ := List.mem_flatMap.mp hc
    unfold comparisonsIn at hc
    split at hc
    · rename_i id' cs hsaid
      split at hc
      · rename_i hid
        exact ⟨row, hrow, cs, hid ▸ hsaid⟩
      · cases hc
    · cases hc
  · rintro ⟨row, hrow, cs, hsaid⟩ hnone
    have hgiven : comparisonsIn db id row = cs := by
      unfold comparisonsIn
      rw [hsaid]
      exact if_pos rfl
    have hnil := List.flatMap_eq_nil_iff.mp hnone row hrow
    exact (compares_of_expressionOf hsaid).ne_nil (hgiven ▸ hnil)

/-- The state has what some records say, and nothing else. -/
structure Expressed (db : Database) (rows : List Row) (s : CommandingState) : Prop where
  comparisons : ∀ id, s.expressions.find? id =
    if comparisonsOf db rows id = [] then none else some (comparisonsOf db rows id)
  passedOver : ∀ id, id ∈ s.unsupportedExpressions ↔ PassedOver db rows id

theorem expressed_nil (hexpressions : s.expressions = {}) (hnone : s.unsupportedExpressions = []) :
    Expressed db [] s := by
  refine ⟨fun id => ?_, fun id => ?_⟩
  · rw [hexpressions]
    rfl
  · rw [hnone]
    exact ⟨fun h => (List.not_mem_nil h).elim, fun ⟨_, h, _⟩ => (List.not_mem_nil h).elim⟩

theorem comparisonsOf_concat (db : Database) (rows : List Row) (row : Row) (id : String) :
    comparisonsOf db (rows ++ [row]) id = comparisonsOf db rows id ++ comparisonsIn db id row := by
  unfold comparisonsOf
  rw [List.flatMap_append, List.flatMap_singleton]

theorem passedOver_concat {rows : List Row} :
    PassedOver db (rows ++ [row]) id ↔
      PassedOver db rows id ∨ expressionOf db row = .ok (id, none) := by
  unfold PassedOver
  constructor
  · rintro ⟨row', hmem, hrow⟩
    rcases List.mem_append.mp hmem with hold | hnew
    · exact .inl ⟨row', hold, hrow⟩
    · rw [List.mem_singleton] at hnew
      exact .inr (hnew ▸ hrow)
  · rintro (⟨row', hmem, hrow⟩ | hrow)
    · exact ⟨row', List.mem_append_left _ hmem, hrow⟩
    · exact ⟨row, List.mem_append_right _ (List.mem_singleton_self row), hrow⟩

/-- A record that is refused says nothing. -/
theorem Expressed.refused {rows : List Row} {e : Error} (h : Expressed db rows s)
    (hrow : expressionOf db row = .error e) : Expressed db (rows ++ [row]) s := by
  have hnothing (id : String) : comparisonsIn db id row = [] := by
    unfold comparisonsIn
    rw [hrow]
  refine ⟨fun id => ?_, fun id => ?_⟩
  · rw [comparisonsOf_concat, hnothing, List.append_nil]
    exact h.comparisons id
  · rw [passedOver_concat, hrow]
    exact (h.passedOver id).trans ⟨.inl, fun hor => hor.resolve_right (by simp)⟩

/-- What a record says is said after those before it. -/
theorem Expressed.takeUp {rows : List Row} {said : Option (List Comparison)}
    (h : Expressed db rows s) (hrow : expressionOf db row = .ok (id, said)) :
    Expressed db (rows ++ [row]) (takeUp s id said) := by
  cases said with
  | none =>
      have hnothing (id' : String) : comparisonsIn db id' row = [] := by
        unfold comparisonsIn
        rw [hrow]
      refine ⟨fun id' => ?_, fun id' => ?_⟩
      · rw [comparisonsOf_concat, hnothing, List.append_nil]
        exact h.comparisons id'
      · rw [passedOver_concat, hrow]
        show id' ∈ id :: s.unsupportedExpressions ↔ _
        rw [List.mem_cons, h.passedOver, or_comm]
        simp [eq_comm]
  | some cs =>
      have hne := (compares_of_expressionOf hrow).ne_nil
      refine ⟨fun id' => ?_, fun id' => ?_⟩
      · rw [comparisonsOf_concat]
        show (s.expressions.change id _).find? id' = _
        by_cases hid : id' = id
        · subst hid
          have hgiven : comparisonsIn db id' row = cs := by
            unfold comparisonsIn
            rw [hrow]
            exact if_pos rfl
          have hsome : comparisonsOf db rows id' ++ cs ≠ [] :=
            List.append_ne_nil_of_right_ne_nil _ hne
          have hold : (s.expressions.find? id').getD [] = comparisonsOf db rows id' := by
            rw [h.comparisons]
            by_cases hnone : comparisonsOf db rows id' = []
            · rw [if_pos hnone, hnone]
              rfl
            · rw [if_neg hnone]
              rfl
          rw [hgiven, Index.find?_change_self, hold, if_neg hsome]
        · have hgiven : comparisonsIn db id' row = [] := by
            unfold comparisonsIn
            rw [hrow]
            exact if_neg (Ne.symm hid)
          rw [hgiven, List.append_nil, Index.find?_change_of_ne _ hid]
          exact h.comparisons id'
      · rw [passedOver_concat, hrow]
        exact (h.passedOver id').trans ⟨.inl, fun hor => hor.resolve_right (by simp)⟩

/-- What expressions leave alone. -/
structure Expressing (d t : Draft CommandingState) : Prop where
  database : t.database = d.database
  stages : t.stage.stages = d.stage.stages
  unsupported : t.stage.unsupportedStages = d.stage.unsupportedStages

instance : Std.Refl Expressing := ⟨fun _ => ⟨rfl, rfl, rfl⟩⟩

instance : IsTrans (Draft CommandingState) Expressing :=
  ⟨fun _ _ _ h h' => ⟨h'.database.trans h.database, h'.stages.trans h.stages,
    h'.unsupported.trans h.unsupported⟩⟩

theorem expressing_expressions : ExpressionSteps Expressing where
  limitation := fun _ => steps_modify fun _ => ⟨rfl, rfl, rfl⟩
  expressions := fun _ => steps_modify fun _ => ⟨rfl, rfl, rfl⟩
  passedOver := fun _ => steps_modify fun _ => ⟨rfl, rfl, rfl⟩

/-- **A record is accepted where it says something**, and refused elsewhere. -/
theorem declareExpression_accepted (row : Row) (d : Draft CommandingState) :
    (∃ t, declareExpression row d = .ok () t) ↔
      ∃ id said, expressionOf d.database row = .ok (id, said) := by
  obtain ⟨warnings, heq⟩ := declareExpression_eq row d
  rw [heq]
  cases expressionOf d.database row with
  | error e => exact ⟨fun ⟨_, h⟩ => (by cases h), fun ⟨_, _, h⟩ => (by cases h)⟩
  | ok x => exact ⟨fun _ => ⟨x.1, x.2, rfl⟩, fun _ => ⟨_, rfl⟩⟩

/-- **When expressions have been read, the state has what their records say.** -/
theorem inTurn_expressed {rows : List Row} (h : Expressed d.database [] d.stage)
    (hrun : inTurn setting declareExpression rows d = .ok () d') :
    Expressed d.database rows d'.stage := by
  refine (inTurn_induct (I := fun rows t => Expressed d.database rows t.stage ∧
    t.database = d.database) (fun before row t u ⟨hbefore, hsame⟩ hrow => ?_) ⟨h, rfl⟩ hrun).1
  obtain ⟨warnings, heq⟩ := declareExpression_eq row t
  rw [hsame] at heq
  cases hsaid : expressionOf d.database row with
  | error e =>
      rw [hsaid] at heq
      rcases recover_cases hrow with hwork | ⟨e', v, hwork, rfl⟩
      · cases heq.symm.trans hwork
      · cases heq.symm.trans hwork
        exact ⟨hbefore.refused hsaid, hsame⟩
  | ok x =>
      rw [hsaid] at heq
      rw [recover_of_ok heq] at hrow
      cases hrow
      exact ⟨hbefore.takeUp hsaid, rfl⟩

end MissionBase.Commanding
