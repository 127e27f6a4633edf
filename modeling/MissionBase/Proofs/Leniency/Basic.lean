import MissionBase.Proofs.Steps
import MissionBase.Table.Required

/-!
# Errors that end nothing

A lenient compilation records an error and goes on, unless the error is fatal. So nothing that is
put under its policy fails, if all it fails with is the fault of a record or of the database:
`Mild` says this of a result, `Tame` of a computation, and `Sure` of a computation that never fails.
The lemmas say how they go together.
-/

namespace MissionBase

open Run

namespace Leniency

variable {σ τ α β : Type}

/-- A result whose error, if it is one, is not fatal. -/
def Mild (x : Except Error α) : Prop := ∀ e, x = .error e → e.isFatal = false

/-- A computation that fails with no fatal error, wherever it starts. -/
def Tame (x : Build σ α) : Prop := ∀ d, Raises x d fun e => e.isFatal = false

/-- A computation that does not fail, wherever it starts. -/
def Sure (x : Build σ α) : Prop := ∀ d, ∃ a t, x d = .ok a t

/-! ## Results -/

theorem mild_ok {a : α} : Mild (.ok a) := nofun

theorem mild_error {e : Error} (h : e.isFatal = false) : Mild (.error e : Except Error α) := by
  rintro _ ⟨⟩
  exact h

theorem Mild.bind {x : Except Error α} {f : α → Except Error β} (h : Mild x)
    (hf : ∀ a, Mild (f a)) : Mild (x >>= f) := by
  cases x with
  | ok a => exact hf a
  | error e => exact mild_error (h e rfl)

theorem Mild.map {x : Except Error α} (h : Mild x) (f : α → β) : Mild (x.map f) := by
  cases x with
  | ok a => exact mild_ok
  | error e => exact mild_error (h e rfl)

theorem Mild.ite {c : Prop} [Decidable c] {x y : Except Error α} (hx : Mild x) (hy : Mild y) :
    Mild (if c then x else y) := by
  split
  · exact hx
  · exact hy

/-- What stops where a condition holds, and goes on elsewhere. -/
theorem Mild.unless {c : Prop} [Decidable c] {e : Error} {f : PUnit → Except Error α}
    (he : e.isFatal = false) (h : Mild (f ⟨⟩)) :
    Mild (if c then (throw e : Except Error PUnit) >>= f else f ⟨⟩) :=
  Mild.ite (mild_error he) h

theorem mild_mapM {f : α → Except Error β} (h : ∀ a, Mild (f a)) :
    ∀ as : List α, Mild (as.mapM f)
  | [] => by
      rw [List.mapM_nil]
      exact mild_ok
  | a :: as => by
      rw [List.mapM_cons]
      exact (h a).bind fun _ => (mild_mapM h as).bind fun _ => mild_ok

theorem mild_foldlM {f : β → α → Except Error β} (h : ∀ b a, Mild (f b a)) :
    ∀ (as : List α) (b : β), Mild (as.foldlM f b)
  | [], _ => mild_ok
  | a :: as, b => by
      rw [List.foldlM_cons]
      exact (h b a).bind fun b' => mild_foldlM h as b'

/-! ## Computations -/

theorem tame_pure (a : α) : Tame (pure a : Build σ α) := fun _ => raises_pure

theorem tame_throw {e : Error} (h : e.isFatal = false) : Tame (throw e : Build σ α) :=
  fun _ => raises_throw h

theorem tame_lift {x : Except Error α} (h : Mild x) : Tame (liftM x : Build σ α) := by
  cases x with
  | ok a => exact tame_pure a
  | error e => exact tame_throw (h e rfl)

theorem Tame.bind {x : Build σ α} {f : α → Build σ β} (h : Tame x) (hf : ∀ a, Tame (f a)) :
    Tame (x >>= f) :=
  fun d => (h d).bind fun a t _ => hf a t

theorem Tame.map {x : Build σ α} (h : Tame x) (f : α → β) : Tame (f <$> x) :=
  fun d => (h d).map

theorem Tame.ite {c : Prop} [Decidable c] {x y : Build σ α} (hx : Tame x) (hy : Tame y) :
    Tame (if c then x else y) :=
  fun d => Raises.ite (fun _ => hx d) fun _ => hy d

/-- What stops where a condition holds, and goes on elsewhere. -/
theorem Tame.unless {c : Prop} [Decidable c] {e : Error} {f : PUnit → Build σ α}
    (he : e.isFatal = false) (h : Tame (f ⟨⟩)) :
    Tame (if c then (throw e : Build σ PUnit) >>= f else f ⟨⟩) :=
  Tame.ite (tame_throw he) h

theorem tame_stage : Tame (Build.stage : Build σ σ) := fun _ _ _ => nofun

theorem tame_database : Tame (Build.database : Build σ Database) := fun _ _ _ => nofun

theorem tame_changeStage (change : σ → σ) : Tame (Build.changeStage change) :=
  fun _ => raises_modify

theorem tame_changeDatabase (change : Database → Database) :
    Tame (Build.changeDatabase change : Build σ Unit) :=
  fun _ => raises_modify

theorem tame_limitation (message : String) : Tame (Build.limitation message : Build σ Unit) :=
  fun _ => raises_modify

theorem tame_add {refused : String → Error}
    {insert : Database → Except DuplicateName (α × Database)}
    (h : ∀ message, (refused message).isFatal = false) :
    Tame (Build.add refused insert : Build σ α) :=
  fun _ => raises_add fun _ _ => h _

theorem tame_report {setting : Setting} {e : Error} (h : e.isFatal = false) :
    Tame (Build.report setting e : Build σ Unit) :=
  Tame.ite (tame_throw h) fun _ => raises_modify

theorem tame_mapM {f : α → Build σ β} (h : ∀ a, Tame (f a)) : ∀ as : List α, Tame (as.mapM f)
  | [] => by
      rw [List.mapM_nil]
      exact tame_pure []
  | a :: as => by
      rw [List.mapM_cons]
      exact (h a).bind fun _ => (tame_mapM h as).bind fun _ => tame_pure _

theorem tame_foldlM {f : β → α → Build σ β} (h : ∀ b a, Tame (f b a)) :
    ∀ (as : List α) (b : β), Tame (as.foldlM f b)
  | [], b => tame_pure b
  | a :: as, b => by
      rw [List.foldlM_cons]
      exact (h b a).bind fun b' => tame_foldlM h as b'

theorem tame_forM {f : α → Build σ PUnit} (h : ∀ a, Tame (f a)) (as : List α) :
    Tame (as.forM f) :=
  fun _ => raises_forM fun a _ => h a

/-! ## Computations that do not fail -/

/-- After a first part that succeeds, a sequence is its second part. -/
theorem bind_of_ok {x : Build σ α} {f : α → Build σ β} {d t : Draft σ} {a : α}
    (h : x d = .ok a t) : (x >>= f) d = f a t := by
  show EStateM.bind x f d = f a t
  unfold EStateM.bind
  rw [h]

/-- A sequence fails where its first part does. -/
theorem bind_of_error {x : Build σ α} {f : α → Build σ β} {d t : Draft σ} {e : Error}
    (h : x d = .error e t) : (x >>= f) d = .error e t := by
  show EStateM.bind x f d = .error e t
  unfold EStateM.bind
  rw [h]

theorem sure_pure (a : α) : Sure (pure a : Build σ α) := fun d => ⟨a, d, rfl⟩

theorem Sure.bind {x : Build σ α} {f : α → Build σ β} (h : Sure x) (hf : ∀ a, Sure (f a)) :
    Sure (x >>= f) := by
  intro d
  obtain ⟨a, t, hx⟩ := h d
  obtain ⟨b, u, hfa⟩ := hf a t
  exact ⟨b, u, bind_eq_ok.mpr ⟨a, t, hx, hfa⟩⟩

theorem sure_stage : Sure (Build.stage : Build σ σ) := fun d => ⟨d.stage, d, rfl⟩

theorem sure_changeStage (change : σ → σ) : Sure (Build.changeStage change) :=
  fun _ => ⟨(), _, rfl⟩

theorem sure_changeDatabase (change : Database → Database) :
    Sure (Build.changeDatabase change : Build σ Unit) :=
  fun _ => ⟨(), _, rfl⟩

theorem sure_limitation (message : String) : Sure (Build.limitation message : Build σ Unit) :=
  fun _ => ⟨(), _, rfl⟩

theorem sure_forM {f : α → Build σ PUnit} (h : ∀ a, Sure (f a)) :
    ∀ as : List α, Sure (as.forM f)
  | [] => sure_pure _
  | a :: as => (h a).bind fun _ => sure_forM h as

theorem Sure.within {work : Build τ α} (h : Sure work) (start : σ → τ) (finish : σ → τ → σ) :
    Sure (Build.within start finish work) := by
  intro d
  obtain ⟨a, t, hwork⟩ := h ⟨d.database, d.errors, d.warnings, start d.stage⟩
  unfold Build.within
  rw [hwork]
  exact ⟨a, _, rfl⟩

/-- A handler that does not fail goes on from whatever the work fails with. -/
theorem Tame.tryCatch {x : Build σ α} {handle : Error → Build σ α} (h : Tame x)
    (hh : ∀ e, e.isFatal = false → Sure (handle e)) : Sure (tryCatch x handle) := by
  intro d
  show ∃ a t, EStateM.tryCatch x handle d = .ok a t
  unfold EStateM.tryCatch
  cases hx : x d with
  | ok a t => exact ⟨a, t, rfl⟩
  | error e t => exact hh e (h d e t hx) t

section

variable {setting : Setting} (hlenient : setting.config.strict = false)
include hlenient

theorem sure_report (e : Error) : Sure (Build.report setting e : Build σ Unit) := by
  unfold Build.report
  rw [hlenient]
  exact fun _ => ⟨(), _, rfl⟩

/-- **A unit of work does not fail** if its work is tame. -/
theorem Tame.recover {work : Build σ Unit} (h : Tame work) : Sure (Build.recover setting work) := by
  refine h.tryCatch fun e he => ?_
  rw [he]
  exact sure_report hlenient e

/-- **Neither does a scan of a table that can be read**, if the work on every record is tame. -/
theorem sure_scan {table : String} {handle : Row → Build σ Unit} {rows : List Row}
    (hrows : Build.rows setting table = .ok rows) (h : ∀ row, Tame (handle row)) :
    Sure (Build.scan setting table handle) := by
  unfold Build.scan
  rw [hrows]
  refine (sure_pure rows).bind fun rs => ?_
  exact (sure_forM (fun row => (h row).recover hlenient) rs).bind fun _ => sure_pure _

end

end Leniency

/-- Every table that a compilation asks for can be read. -/
def Setting.Readable (setting : Setting) : Prop :=
  ∀ table ∈ requiredTables, ∃ rows, Build.rows setting table = .ok rows

theorem Setting.Readable.sure_scan {setting : Setting} {σ : Type} {table : String}
    {handle : Row → Build σ Unit} (h : setting.Readable)
    (hlenient : setting.config.strict = false) (hmem : table ∈ requiredTables)
    (hhandle : ∀ row, Leniency.Tame (handle row)) :
    Leniency.Sure (Build.scan setting table handle) := by
  obtain ⟨rows, hrows⟩ := h table hmem
  exact Leniency.sure_scan hlenient hrows hhandle

/-! ## Records -/

namespace Row

open Leniency

variable {α : Type} (row : Row)

theorem mild_require (cols : List Nat) : Mild (row.require cols) := by
  unfold require
  split
  · exact mild_error rfl
  · exact mild_ok

theorem mild_text (col : Nat) : Mild (row.text col) := by
  unfold text
  split
  · exact mild_ok
  · exact mild_error rfl

theorem mild_read (parse : List Char → Option α) (expected : ColumnKind) (col : Nat)
    (value : String) : Mild (row.read parse expected col value) := by
  unfold read
  split
  · exact mild_ok
  · exact mild_error rfl

theorem mild_get (parse : List Char → Option α) (expected : ColumnKind) (col : Nat) :
    Mild (row.get parse expected col) :=
  (row.mild_text col).bind fun _ => row.mild_read _ _ _ _

theorem mild_getD (parse : List Char → Option α) (expected : ColumnKind) (col : Nat)
    (default : α) : Mild (row.getD parse expected col default) := by
  unfold getD
  split
  · exact row.mild_read _ _ _ _
  · exact mild_ok

theorem mild_get? (parse : List Char → Option α) (expected : ColumnKind) (col : Nat) :
    Mild (row.get? parse expected col) := by
  unfold get?
  split
  · exact (row.mild_read _ _ _ _).map _
  · exact mild_ok

theorem mild_rawValue (col : Nat) (format radix : Char) :
    Mild (row.rawValue col format radix) := by
  refine (row.mild_text col).bind fun v => ?_
  split
  · exact mild_ok
  · exact mild_error rfl

end Row

end MissionBase
