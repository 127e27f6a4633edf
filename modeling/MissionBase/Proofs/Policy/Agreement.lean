import MissionBase.Proofs.Steps

/-!
# Runs under both policies

A compilation that records its errors and one that ends with the first error do the same work. They
are the same run as long as nothing is recorded; where the one records an error for the first time,
the other fails with it, from whatever depth of the work, and stays failed.

`Agrees` says this of two computations. It is kept by every way in which computations are put
together, so the only places that need a thought are those where the policy is asked: a report, a
unit of work, and work whose failure is handled.
-/

namespace MissionBase

/-- The same setting, with the first error ending the compilation. -/
def Setting.strictly (s : Setting) : Setting :=
  { s with config := { s.config with strict := true } }

namespace Policy

open Run

variable {σ τ α β : Type}

/-- The state where a run ends. -/
def last {ε : Type} : EStateM.Result ε σ α → σ
  | .ok _ s | .error _ s => s

/-- The same errors are recorded. -/
def SameErrors (d t : Draft σ) : Prop := t.errors = d.errors

instance : Std.Refl (@SameErrors σ) := ⟨fun _ => rfl⟩

instance : IsTrans (Draft σ) SameErrors := ⟨fun _ _ _ h h' => h'.trans h⟩

/-- A computation that records no error. -/
abbrev Silent (x : Build σ α) : Prop := Steps SameErrors x

/-- The ends of two runs from a draft, of which the first records errors and the second fails with
the first error. -/
inductive Agree (d : Draft σ) :
    EStateM.Result Error (Draft σ) α → EStateM.Result Error (Draft σ) α → Prop
  /-- Nothing was recorded. -/
  | same {r : EStateM.Result Error (Draft σ) α} (none : (last r).errors = d.errors) : Agree d r r
  /-- The first error that was recorded is what the strict run failed with. -/
  | failed {r : EStateM.Result Error (Draft σ) α} {e : Error} {later : List Error} {d' : Draft σ}
      (recorded : (last r).errors = d.errors ++ e :: later) : Agree d r (.error e d')

/-- Two computations that differ in their policy: the first records errors, the second fails with
the first error. -/
def Agrees (lenient strict : Build σ α) : Prop := ∀ d, Agree d (lenient d) (strict d)

variable {x y : Build σ α} {f g : α → Build σ β}

/-- Errors that are recorded stay recorded. -/
theorem Agree.extends {d : Draft σ} {r r' : EStateM.Result Error (Draft σ) α} (h : Agree d r r') :
    ∃ more, (last r).errors = d.errors ++ more := by
  cases h with
  | same hnone => exact ⟨[], by rw [hnone, List.append_nil]⟩
  | failed hrecorded => exact ⟨_, hrecorded⟩

/-- What follows a step that records nothing. -/
theorem Agree.after {d t : Draft σ} {r r' : EStateM.Result Error (Draft σ) α}
    (ht : t.errors = d.errors) (h : Agree t r r') : Agree d r r' := by
  cases h with
  | same hnone => exact .same (hnone.trans ht)
  | failed hrecorded => exact .failed (by rw [hrecorded, ht])

/-- Whatever follows a recorded error, the strict run has failed with the first one. -/
theorem Agree.late {d t d' : Draft σ} {e : Error} {later : List Error}
    {r r' : EStateM.Result Error (Draft σ) α} (ht : t.errors = d.errors ++ e :: later)
    (h : Agree t r r') : Agree d r (.error e d') := by
  obtain ⟨more, hmore⟩ := h.extends
  have hrecorded : (last r).errors = d.errors ++ e :: (later ++ more) := by
    rw [hmore, ht, List.append_assoc, List.cons_append]
  exact .failed hrecorded

/-! ## Ways to put computations together -/

/-- A computation that records no error is its own strict one. -/
theorem agrees_of_silent (h : Silent x) : Agrees x x := by
  intro d
  have hd := h d
  unfold Ends at hd
  refine .same ?_
  cases hx : x d with
  | ok a t => rw [hx] at hd; exact hd
  | error e t => rw [hx] at hd; exact hd

theorem agrees_pure (a : α) : Agrees (pure a : Build σ α) (pure a) :=
  agrees_of_silent (steps_pure a)

theorem agrees_throw (e : Error) : Agrees (throw e : Build σ α) (throw e) :=
  agrees_of_silent (steps_throw e)

/-- **A sequence agrees if both of its parts do.** -/
theorem Agrees.bind (h : Agrees x y) (hf : ∀ a, Agrees (f a) (g a)) :
    Agrees (x >>= f) (y >>= g) := by
  intro d
  show Agree d (EStateM.bind x f d) (EStateM.bind y g d)
  unfold EStateM.bind
  have hd := h d
  revert hd
  generalize x d = r
  generalize y d = r'
  intro hd
  cases hd with
  | same hnone =>
      cases r with
      | ok a t => exact (hf a t).after hnone
      | error e t => exact .same hnone
  | failed hrecorded =>
      cases r with
      | ok a t => exact (hf a t).late hrecorded
      | error e t => exact .failed hrecorded

theorem Agrees.map (h : Agrees x y) (f : α → β) : Agrees (f <$> x) (f <$> y) := by
  rw [map_eq_pure_bind, map_eq_pure_bind]
  exact h.bind fun _ => agrees_pure _

/-- A handler may do as it likes as long as it fails with what it is given in the strict run. -/
theorem Agrees.tryCatch {handle handle' : Error → Build σ α} (h : Agrees x y)
    (hh : ∀ e, Agrees (handle e) (handle' e))
    (hstrict : ∀ e d, ∃ d', handle' e d = .error e d') :
    Agrees (tryCatch x handle) (tryCatch y handle') := by
  intro d
  show Agree d (EStateM.tryCatch x handle d) (EStateM.tryCatch y handle' d)
  unfold EStateM.tryCatch
  have hd := h d
  revert hd
  generalize x d = r
  generalize y d = r'
  intro hd
  cases hd with
  | same hnone =>
      cases r with
      | ok a t => exact .same hnone
      | error e t => exact (hh e t).after hnone
  | @failed e _ d₁ hrecorded =>
      obtain ⟨d₂, hfail⟩ := hstrict e d₁
      show Agree d _ (handle' e d₁)
      rw [hfail]
      cases r with
      | ok a t => exact .failed hrecorded
      | error e' t => exact (hh e' t).late hrecorded

theorem agrees_forM {f g : α → Build σ PUnit} (h : ∀ a, Agrees (f a) (g a)) :
    ∀ as : List α, Agrees (as.forM f) (as.forM g)
  | [] => agrees_pure _
  | a :: as => (h a).bind fun _ => agrees_forM h as

/-- What stops where a condition holds, and goes on elsewhere. -/
theorem Agrees.unless {c : Prop} [Decidable c] {e : Error} {f g : PUnit → Build σ α}
    (h : Agrees (f ⟨⟩) (g ⟨⟩)) :
    Agrees (if c then (throw e : Build σ PUnit) >>= f else f ⟨⟩)
      (if c then (throw e : Build σ PUnit) >>= g else g ⟨⟩) := by
  split
  · exact agrees_throw e
  · exact h

/-! ## The pieces of a build -/

theorem silent_changeStage (change : σ → σ) : Silent (Build.changeStage change) :=
  fun _ => rfl

theorem silent_changeDatabase (change : Database → Database) :
    Silent (Build.changeDatabase change : Build σ Unit) :=
  fun _ => rfl

theorem silent_limitation (message : String) : Silent (Build.limitation message : Build σ Unit) :=
  fun _ => rfl

theorem silent_add (refused : String → Error)
    (insert : Database → Except DuplicateName (α × Database)) :
    Silent (Build.add refused insert : Build σ α) :=
  steps_add fun _ _ _ _ => rfl

theorem agrees_stage : Agrees (Build.stage : Build σ σ) Build.stage :=
  agrees_of_silent steps_stage

theorem agrees_database : Agrees (Build.database : Build σ Database) Build.database :=
  agrees_of_silent steps_database

theorem agrees_changeStage (change : σ → σ) :
    Agrees (Build.changeStage change) (Build.changeStage change) :=
  agrees_of_silent (silent_changeStage change)

theorem agrees_changeDatabase (change : Database → Database) :
    Agrees (Build.changeDatabase change : Build σ Unit) (Build.changeDatabase change) :=
  agrees_of_silent (silent_changeDatabase change)

theorem agrees_lift (x : Except Error α) : Agrees (liftM x : Build σ α) (liftM x) :=
  agrees_of_silent (steps_lift x)

section

variable {setting : Setting} (hlenient : setting.config.strict = false)
include hlenient

/-- **What is recorded is what the strict run fails with.** -/
theorem agrees_report (e : Error) :
    Agrees (Build.report setting e : Build σ Unit) (Build.report setting.strictly e) := by
  intro d
  have hrecord : (Build.report setting e : Build σ Unit) d =
      .ok () { d with errors := d.errors ++ [e] } := by
    unfold Build.report
    rw [hlenient]
    rfl
  rw [hrecord]
  have hone : (last (.ok () { d with errors := d.errors ++ [e] } :
      EStateM.Result Error (Draft σ) Unit)).errors = d.errors ++ e :: [] := rfl
  exact .failed hone

/-- A unit of work agrees if its work does. -/
theorem Agrees.recover {work work' : Build σ Unit} (h : Agrees work work') :
    Agrees (Build.recover setting work) (Build.recover setting.strictly work') := by
  refine h.tryCatch (fun e => ?_) fun e d => ⟨d, ?_⟩
  · split
    · exact agrees_throw e
    · exact agrees_report hlenient e
  · split <;> rfl

/-- **A scan agrees if the work on every record does**: both runs read the same records. -/
theorem agrees_scan (table : String) {handle handle' : Row → Build σ Unit}
    (h : ∀ row, Agrees (handle row) (handle' row)) :
    Agrees (Build.scan setting table handle) (Build.scan setting.strictly table handle') := by
  unfold Build.scan
  refine (agrees_lift (Build.rows setting table)).bind fun rows => ?_
  refine (agrees_forM (fun row => (h row).recover hlenient) rows).bind fun _ => ?_
  exact agrees_pure _

end

/-- A stage of its own records its errors with those before. -/
theorem Agrees.within {work work' : Build τ α} (start : σ → τ) (finish : σ → τ → σ)
    (h : Agrees work work') :
    Agrees (Build.within start finish work) (Build.within start finish work') := by
  intro d
  unfold Build.within
  have hd := h ⟨d.database, d.errors, d.warnings, start d.stage⟩
  revert hd
  generalize work _ = r
  generalize work' _ = r'
  intro hd
  cases hd with
  | same hnone => cases r <;> exact .same hnone
  | failed hrecorded => cases r <;> exact .failed hrecorded

end Policy

end MissionBase
