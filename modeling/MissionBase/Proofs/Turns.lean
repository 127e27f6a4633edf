import MissionBase.Proofs.Steps

/-!
# The turns of a scan

A scan handles one record after the other, each in the draft that those before it have left. What a
scan does can be said record by record: its turns are the records with these drafts.
-/

namespace MissionBase.Run

variable {σ : Type} {setting : Setting} {unit : Row → Build σ Unit} {rows : List Row}
  {d d' u : Draft σ} {row : Row}

/-- Handles records as units of work, one after the other. -/
def inTurn (setting : Setting) (unit : Row → Build σ Unit) (rows : List Row) : Build σ Unit :=
  rows.forM fun row => Build.recover setting (unit row)

/-- The records that have a turn, each with the draft where it has it. -/
def turns (setting : Setting) (unit : Row → Build σ Unit) :
    List Row → Draft σ → List (Row × Draft σ)
  | [], _ => []
  | row :: rest, d =>
    (row, d) ::
      match after? (Build.recover setting (unit row)) d with
      | some t => turns setting unit rest t
      | none => []

/-- The errors that are recorded at a turn. -/
def recorded (setting : Setting) (unit : Row → Build σ Unit) (turn : Row × Draft σ) : List Error :=
  match after? (Build.recover setting (unit turn.1)) turn.2 with
  | some t => t.errors.drop turn.2.errors.length
  | none => []

theorem turns_cons {rest : List Row} (h : Build.recover setting (unit row) d = .ok () u) :
    turns setting unit (row :: rest) d = (row, d) :: turns setting unit rest u := by
  rw [turns, after?_eq_some.mpr ⟨(), h⟩]

theorem inTurn_cons_eq_ok {rest : List Row} :
    inTurn setting unit (row :: rest) d = .ok () d' ↔
      ∃ u, Build.recover setting (unit row) d = .ok () u ∧
        inTurn setting unit rest u = .ok () d' := by
  constructor
  · intro h
    obtain ⟨_, u, hrow, hrest⟩ := bind_eq_ok.mp h
    exact ⟨u, hrow, hrest⟩
  · rintro ⟨u, hrow, hrest⟩
    exact bind_eq_ok.mpr ⟨(), u, hrow, hrest⟩

/-- A unit of work that succeeds ends where its work does. -/
theorem recover_of_ok {work : Build σ Unit} (h : work d = .ok () u) :
    Build.recover setting work d = .ok () u := by
  show EStateM.tryCatch work _ d = _
  unfold EStateM.tryCatch
  rw [h]

/-- A unit of work that fails ends with its error recorded, where errors are recorded. -/
theorem recover_of_error {work : Build σ Unit} {e : Error}
    (hlenient : setting.config.strict = false) (he : e.isFatal = false)
    (h : work d = .error e u) :
    Build.recover setting work d = .ok () { u with errors := u.errors ++ [e] } := by
  show EStateM.tryCatch work _ d = _
  unfold EStateM.tryCatch Build.report
  rw [h, hlenient]
  show (if e.isFatal then throw e else _ : Build σ Unit) u = _
  rw [he]
  rfl

/-- A unit of work that ends has succeeded, or it has failed and its error is recorded. -/
theorem recover_cases {work : Build σ Unit} (h : Build.recover setting work d = .ok () u) :
    work d = .ok () u ∨
      ∃ e t, work d = .error e t ∧ u = { t with errors := t.errors ++ [e] } := by
  cases hwork : work d with
  | ok a t =>
      rw [recover_of_ok hwork] at h
      cases h
      exact .inl rfl
  | error e t =>
      right
      change EStateM.tryCatch work _ d = _ at h
      unfold EStateM.tryCatch at h
      rw [hwork] at h
      change (if e.isFatal then throw e else Build.report setting e : Build σ Unit) t = _ at h
      by_cases hfatal : e.isFatal = true
      · rw [if_pos hfatal] at h
        cases h
      · rw [if_neg hfatal] at h
        unfold Build.report at h
        split at h
        · cases h
        · cases h
          exact ⟨e, t, rfl, rfl⟩

/-- A scan of a table handles its records in turn. -/
theorem scan_eq_ok {table : String} {n : Nat} :
    Build.scan setting table unit d = .ok n d' ↔
      ∃ rows, Build.rows setting table = .ok rows ∧ inTurn setting unit rows d = .ok () d' ∧
        rows.length = n := by
  unfold Build.scan inTurn
  simp only [bind_eq_ok, lift_eq_ok, pure_eq_ok]
  constructor
  · rintro ⟨rows, _, ⟨hrows, rfl⟩, _, _, hrun, hn, rfl⟩
    exact ⟨rows, hrows, hrun, hn⟩
  · rintro ⟨rows, hrows, hrun, hn⟩
    exact ⟨rows, d, ⟨hrows, rfl⟩, (), d', hrun, hn, rfl⟩

/-- What is recorded when the first of some records has its turn. -/
theorem recorded_of_ok {more : List Error} (h : Build.recover setting (unit row) d = .ok () u)
    (hmore : u.errors = d.errors ++ more) : recorded setting unit (row, d) = more := by
  unfold recorded
  rw [after?_eq_some.mpr ⟨(), h⟩]
  dsimp only
  rw [hmore, List.drop_left]

/-! ## What turns keep and what they bring -/

/-- **What is known of the records so far goes on by each record**, and in the end it is known of
all of them. -/
theorem inTurn_induct {I : List Row → Draft σ → Prop}
    (hstep : ∀ before row t u, I before t → Build.recover setting (unit row) t = .ok () u →
      I (before ++ [row]) u)
    (hstart : I [] d) (hrun : inTurn setting unit rows d = .ok () d') : I rows d' := by
  suffices hall : ∀ {before rows : List Row} {t : Draft σ}, I before t →
      inTurn setting unit rows t = .ok () d' → I (before ++ rows) d' from hall hstart hrun
  intro before rows t hbefore hrun
  induction rows generalizing before t with
  | nil =>
      obtain ⟨-, rfl⟩ := pure_eq_ok.mp hrun
      rwa [List.append_nil]
  | cons row rest ih =>
      obtain ⟨u, hrow, hrest⟩ := inTurn_cons_eq_ok.mp hrun
      have hall := ih (hstep before row t u hbefore hrow) hrest
      rwa [List.append_assoc] at hall

/-- **What every record keeps** is kept up to each turn, and from there to the end. -/
theorem turn_related {R : Draft σ → Draft σ → Prop} [Std.Refl R] [IsTrans (Draft σ) R]
    (hrecord : ∀ d e, R d { d with errors := d.errors ++ [e] })
    (hunit : ∀ row, Steps R (unit row)) :
    ∀ {rows : List Row} {d : Draft σ}, inTurn setting unit rows d = .ok () d' →
      ∀ turn ∈ turns setting unit rows d,
        R d turn.2 ∧ ∀ t, unit turn.1 turn.2 = .ok () t → R t d'
  | [], _, _, _, hmem => nomatch hmem
  | row :: rest, d, hrun, turn, hmem => by
      obtain ⟨u, hrow, hrest⟩ := inTurn_cons_eq_ok.mp hrun
      rw [turns_cons hrow] at hmem
      rcases List.mem_cons.mp hmem with rfl | hmem
      · refine ⟨Std.Refl.refl d, fun t ht => ?_⟩
        rw [recover_of_ok ht] at hrow
        cases hrow
        exact (steps_forM (fun row => (hunit row).recover hrecord) rest).of_ok hrest
      · obtain ⟨hbefore, hafter⟩ := turn_related hrecord hunit hrest turn hmem
        exact ⟨IsTrans.trans _ _ _ (((hunit row).recover hrecord).of_ok hrow) hbefore, hafter⟩

/-- **What is there in the end and was not there before came at a turn**, with a record that was
accepted, if a record that is refused does not bring it. -/
theorem exists_turn {P : Draft σ → Prop}
    (hrecord : ∀ d e, P { d with errors := d.errors ++ [e] } → P d)
    (hrefused : ∀ row d e u, unit row d = .error e u → P u → P d) :
    ∀ {rows : List Row} {d : Draft σ}, inTurn setting unit rows d = .ok () d' → ¬ P d → P d' →
      ∃ turn ∈ turns setting unit rows d, ¬ P turn.2 ∧
        ∃ t, unit turn.1 turn.2 = .ok () t ∧ P t
  | [], _, hrun, hbefore, hafter => by
      obtain ⟨-, rfl⟩ := pure_eq_ok.mp hrun
      exact absurd hafter hbefore
  | row :: rest, d, hrun, hbefore, hafter => by
      obtain ⟨u, hrow, hrest⟩ := inTurn_cons_eq_ok.mp hrun
      rw [turns_cons hrow]
      by_cases hu : P u
      · refine ⟨(row, d), List.mem_cons_self, hbefore, ?_⟩
        rcases recover_cases hrow with hwork | ⟨e, t, hwork, rfl⟩
        · exact ⟨u, hwork, hu⟩
        · exact absurd (hrefused row d e t hwork (hrecord t e hu)) hbefore
      · obtain ⟨turn, hmem, hturn⟩ := exists_turn hrecord hrefused hrest hu hafter
        exact ⟨turn, List.mem_cons_of_mem _ hmem, hturn⟩

end MissionBase.Run
