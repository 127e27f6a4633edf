import MissionBase.Build

/-!
# Runs that succeed

A computation of a stage is a function of a state that gives a result or an error, with a state
either way. Taking a successful run apart is the same step every time: the first part succeeded
somewhere, and the second part succeeded from there. The lemmas here say this once for every way
in which computations are put together, so that later files never unfold the monad. They are
equivalences: read from right to left they put a run together again.
-/

namespace MissionBase.Run

variable {ε σ α β : Type}

/-- **A sequence succeeds when both of its parts do.** -/
theorem bind_eq_ok {x : EStateM ε σ α} {f : α → EStateM ε σ β} {s t : σ} {b : β} :
    (x >>= f) s = .ok b t ↔ ∃ a u, x s = .ok a u ∧ f a u = .ok b t := by
  show EStateM.bind x f s = .ok b t ↔ _
  unfold EStateM.bind
  cases x s with
  | ok a u =>
      constructor
      · intro h; exact ⟨a, u, rfl, h⟩
      · rintro ⟨_, _, h, hf⟩; cases h; exact hf
  | error e u => simp

theorem pure_eq_ok {a b : α} {s t : σ} :
    (pure a : EStateM ε σ α) s = .ok b t ↔ a = b ∧ s = t := by
  show EStateM.Result.ok a s = .ok b t ↔ _
  simp

theorem throw_eq_ok {e : ε} {b : α} {s t : σ} :
    (throw e : EStateM ε σ α) s = .ok b t ↔ False := by
  show EStateM.Result.error e s = .ok b t ↔ _
  simp

theorem get_eq_ok {s t u : σ} : (get : EStateM ε σ σ) s = .ok t u ↔ s = t ∧ s = u := by
  show EStateM.Result.ok s s = .ok t u ↔ _
  simp

theorem modify_eq_ok {f : σ → σ} {x : PUnit} {s t : σ} :
    (modify f : EStateM ε σ PUnit) s = .ok x t ↔ f s = t := by
  show EStateM.Result.ok ⟨⟩ (f s) = .ok x t ↔ _
  simp

/-- A sequence of results that may be errors. -/
theorem except_bind_eq_ok {x : Except ε α} {f : α → Except ε β} {b : β} :
    (x >>= f) = .ok b ↔ ∃ a, x = .ok a ∧ f a = .ok b := by
  cases x with
  | ok a =>
      constructor
      · intro h; exact ⟨a, rfl, h⟩
      · rintro ⟨_, ha, h⟩; cases ha; exact h
  | error e =>
      constructor
      · intro h; cases h
      · rintro ⟨_, ha, _⟩; cases ha

/-- What every result of a list of computations has. -/
theorem forall_of_mapM_eq_ok {f : α → Except ε β} {P : β → Prop}
    (h : ∀ a b, f a = .ok b → P b) : ∀ {as : List α} {bs : List β}, as.mapM f = .ok bs →
      ∀ b ∈ bs, P b
  | [], bs, hrun => by
      rw [List.mapM_nil] at hrun
      cases hrun
      simp
  | a :: as, bs, hrun => by
      rw [List.mapM_cons] at hrun
      obtain ⟨b, hb, hrun⟩ := except_bind_eq_ok.mp hrun
      obtain ⟨rest, hrest, hrun⟩ := except_bind_eq_ok.mp hrun
      cases hrun
      intro c hc
      rcases List.mem_cons.mp hc with rfl | hc
      · exact h a c hb
      · exact forall_of_mapM_eq_ok h hrest c hc

/-- A result that is there is that of a computation without an error. -/
theorem eq_ok_of_toOption {x : Except ε α} {a : α} (h : x.toOption = some a) : x = .ok a := by
  cases x with
  | ok b => exact congrArg Except.ok (Option.some.inj h)
  | error e => cases h

/-- The state where a run succeeds. -/
def after? (x : EStateM ε σ α) (s : σ) : Option σ :=
  match x s with
  | .ok _ t => some t
  | .error _ _ => none

theorem after?_eq_some {x : EStateM ε σ α} {s t : σ} :
    after? x s = some t ↔ ∃ a, x s = .ok a t := by
  unfold after?
  cases x s <;> simp

/-- The error with which a run fails. -/
def error? (x : EStateM ε σ α) (s : σ) : Option ε :=
  match x s with
  | .ok _ _ => none
  | .error e _ => some e

theorem error?_eq_some {x : EStateM ε σ α} {s : σ} {e : ε} :
    error? x s = some e ↔ ∃ t, x s = .error e t := by
  unfold error?
  cases x s <;> simp

/-! ## The pieces of a build -/

theorem stage_eq_ok {s : σ} {d e : Draft σ} :
    (Build.stage : Build σ σ) d = .ok s e ↔ d.stage = s ∧ d = e := by
  show EStateM.Result.ok d.stage d = .ok s e ↔ _
  simp

theorem database_eq_ok {db : Database} {d e : Draft σ} :
    (Build.database : Build σ Database) d = .ok db e ↔ d.database = db ∧ d = e := by
  show EStateM.Result.ok d.database d = .ok db e ↔ _
  simp

theorem changeDatabase_eq_ok {f : Database → Database} {x : Unit} {d e : Draft σ} :
    (Build.changeDatabase f : Build σ Unit) d = .ok x e ↔
      { d with database := f d.database } = e := modify_eq_ok

theorem changeStage_eq_ok {f : σ → σ} {x : Unit} {d e : Draft σ} :
    (Build.changeStage f : Build σ Unit) d = .ok x e ↔ { d with stage := f d.stage } = e :=
  modify_eq_ok

/-- A result that may be an error leaves the build where it is. -/
theorem lift_eq_ok {x : Except Error α} {a : α} {d e : Draft σ} :
    (liftM x : Build σ α) d = .ok a e ↔ x = .ok a ∧ d = e := by
  cases x with
  | ok b =>
      show EStateM.Result.ok b d = .ok a e ↔ _
      simp
  | error fault =>
      show EStateM.Result.error fault d = .ok a e ↔ _
      simp

/-- **An addition succeeds when the database accepts it.** -/
theorem add_eq_ok {refused : String → Error}
    {insert : Database → Except DuplicateName (α × Database)} {x : α} {d e : Draft σ} :
    (Build.add refused insert : Build σ α) d = .ok x e ↔
      ∃ db, insert d.database = .ok (x, db) ∧ { d with database := db } = e := by
  unfold Build.add
  rw [bind_eq_ok]
  constructor
  · rintro ⟨db, d', h1, h2⟩
    obtain ⟨rfl, rfl⟩ := database_eq_ok.mp h1
    cases hi : insert d.database with
    | error dup => rw [hi] at h2; exact (throw_eq_ok.mp h2).elim
    | ok r =>
        rw [hi] at h2
        obtain ⟨_, _, h3, h4⟩ := bind_eq_ok.mp h2
        obtain ⟨rfl, rfl⟩ := pure_eq_ok.mp h4
        exact ⟨r.2, rfl, changeDatabase_eq_ok.mp h3⟩
  · rintro ⟨db, h1, rfl⟩
    refine ⟨d.database, d, database_eq_ok.mpr ⟨rfl, rfl⟩, ?_⟩
    rw [h1]
    exact bind_eq_ok.mpr ⟨(), _, changeDatabase_eq_ok.mpr rfl, pure_eq_ok.mpr ⟨rfl, rfl⟩⟩

end MissionBase.Run

/-- A setting has the options that it is made of. -/
theorem MissionBase.Setting.of_config {config : Config} {files : Files} {setting : Setting}
    (h : Setting.of config files = .ok setting) : setting.config = config := by
  unfold Setting.of at h
  obtain ⟨_, -, h⟩ := Run.except_bind_eq_ok.mp h
  obtain ⟨_, -, h⟩ := Run.except_bind_eq_ok.mp h
  cases h
  rfl
