import MissionBase.Proofs.Steps

/-!
# Runs that differ in the places of records

Two runs over the records of a table in two orders meet the same records at other places. What they
say of a record then tells another place, and what they know of the records so far may be arranged
in another way, but the database has to come out the same. `Alike` says this of two drafts, with
a relation between the states of their stages, and `Paired` of two computations: from drafts that
are alike they give the same result and end in drafts that are alike, or both fail. Every way in
which computations are put together keeps it.
-/

namespace MissionBase

/-- The place of nothing, put where places do not count. -/
def Location.nowhere : Location := ⟨"", 0⟩

/-- An error without the place that it tells. -/
def Error.unplaced : Error → Error
  | .missingColumn _ column => .missingColumn .nowhere column
  | .invalidColumn _ column value expected => .invalidColumn .nowhere column value expected
  | .reference _ m => .reference .nowhere m
  | .data _ m => .data .nowhere m
  | .type _ e => .type .nowhere e
  | e => e

/-- Whether an error is fatal does not depend on its place. -/
theorem Error.isFatal_unplaced (e : Error) : e.unplaced.isFatal = e.isFatal := by
  cases e <;> rfl

/-- A record without its place. -/
def Row.unplaced (r : Row) : Row := { r with location := .nowhere }

namespace Rearrangement

open Run

variable {σ τ α β ι κ : Type}

/-- A message with a place in front of it, told of another place. -/
def Restates (m m' : String) : Prop :=
  m = m' ∨ ∃ l l' rest, m = Location.text l ++ rest ∧ m' = Location.text l' ++ rest

theorem restates_place (l l' : Location) : Restates l.text l'.text :=
  .inr ⟨l, l', "", by rw [String.append_empty], by rw [String.append_empty]⟩

theorem Restates.append {m m' : String} (h : Restates m m') (rest : String) :
    Restates (m ++ rest) (m' ++ rest) := by
  rcases h with rfl | ⟨l, l', start, rfl, rfl⟩
  · exact .inl rfl
  · exact .inr ⟨l, l', start ++ rest, String.append_assoc, String.append_assoc⟩

/-- Two drafts that hold the same database and have told the same, but for the places of records
and the order of errors. -/
structure Alike (R : σ → σ → Prop) (d d' : Draft σ) : Prop where
  database : d'.database = d.database
  errors : (d.errors.map Error.unplaced).Perm (d'.errors.map Error.unplaced)
  warnings : List.Forall₂ Restates d.warnings d'.warnings
  stage : R d.stage d'.stage

theorem Alike.mono {R S : σ → σ → Prop} {d d' : Draft σ} (h : Alike R d d')
    (hS : R d.stage d'.stage → S d.stage d'.stage) : Alike S d d' :=
  ⟨h.database, h.errors, h.warnings, hS h.stage⟩

/-- Two results in a relation, or two errors that differ in their places. -/
inductive Agree (Q : α → β → Prop) : Except Error α → Except Error β → Prop
  | ok {a : α} {b : β} (h : Q a b) : Agree Q (.ok a) (.ok b)
  | error {e e' : Error} (h : e.unplaced = e'.unplaced) : Agree Q (.error e) (.error e')

/-- Two ends of runs: with the same result and states in one relation, or with errors that differ in
their places and states in another. -/
inductive Matches (S E : σ → σ → Prop) :
    EStateM.Result Error (Draft σ) α → EStateM.Result Error (Draft σ) α → Prop
  | ok {a : α} {t t' : Draft σ} (ht : Alike S t t') : Matches S E (.ok a t) (.ok a t')
  | error {e e' : Error} {t t' : Draft σ} (he : e.unplaced = e'.unplaced) (ht : Alike E t t') :
    Matches S E (.error e t) (.error e' t')

/-- From drafts that are alike, two computations come to ends that match. -/
def Paired (R S E : σ → σ → Prop) (x y : Build σ α) : Prop :=
  ∀ d d', Alike R d d' → Matches S E (x d) (y d')

/-- Two computations keep drafts alike, whichever way they end. -/
abbrev Similar (R : σ → σ → Prop) (x y : Build σ α) : Prop := Paired R R R x y

/-- Two computations lead from states in one relation to states in another, unless they fail. -/
abbrev Carries (R S : σ → σ → Prop) (x y : Build σ α) : Prop := Paired R S (fun _ _ => True) x y

/-- A computation does not look at what differs between two states. -/
abbrev Blind (R : σ → σ → Prop) (x : Build σ α) : Prop := Similar R x x

/-! ## Results -/

theorem agree_bind {γ δ : Type} {Q : α → β → Prop} {P : γ → δ → Prop} {x : Except Error α}
    {y : Except Error β} {f : α → Except Error γ} {g : β → Except Error δ} (h : Agree Q x y)
    (hf : ∀ a b, Q a b → Agree P (f a) (g b)) : Agree P (x >>= f) (y >>= g) := by
  cases h with
  | ok hab => exact hf _ _ hab
  | error he => exact .error he

/-- What follows equal results. -/
theorem Agree.bind {γ δ : Type} {P : γ → δ → Prop} {x y : Except Error α}
    {f : α → Except Error γ} {g : α → Except Error δ} (h : Agree Eq x y)
    (hf : ∀ a, Agree P (f a) (g a)) : Agree P (x >>= f) (y >>= g) :=
  agree_bind h fun a _ hab => hab ▸ hf a

theorem agree_refl (x : Except Error α) : Agree Eq x x := by
  cases x with
  | ok a => exact .ok rfl
  | error e => exact .error rfl

theorem Agree.map {x y : Except Error α} (h : Agree Eq x y) (f : α → β) :
    Agree Eq (x.map f) (y.map f) := by
  cases h with
  | ok hab => exact .ok (congrArg f hab)
  | error he => exact .error he

theorem Agree.ite {c : Prop} [Decidable c] {Q : α → β → Prop} {x x' : Except Error α}
    {y y' : Except Error β} (hx : Agree Q x y) (hx' : Agree Q x' y') :
    Agree Q (if c then x else x') (if c then y else y') := by
  split
  · exact hx
  · exact hx'

/-- What stops where a condition holds, and goes on elsewhere. -/
theorem Agree.unless {γ δ : Type} {c : Prop} [Decidable c] {e e' : Error} {Q : γ → δ → Prop}
    {f : PUnit → Except Error γ} {g : PUnit → Except Error δ} (he : e.unplaced = e'.unplaced)
    (h : Agree Q (f ⟨⟩) (g ⟨⟩)) :
    Agree Q (if c then (throw e : Except Error PUnit) >>= f else f ⟨⟩)
      (if c then (throw e' : Except Error PUnit) >>= g else g ⟨⟩) :=
  Agree.ite (.error he) h

theorem agree_mapM {view : ι → κ} {f g : ι → Except Error β}
    (h : ∀ a b, view a = view b → Agree Eq (f a) (g b)) :
    ∀ {as bs : List ι}, as.map view = bs.map view → Agree Eq (as.mapM f) (bs.mapM g)
  | [], [], _ => agree_refl _
  | a :: as, b :: bs, hab => by
      obtain ⟨hhead, htail⟩ := List.cons_eq_cons.mp hab
      rw [List.mapM_cons, List.mapM_cons]
      exact (h a b hhead).bind fun _ => (agree_mapM h htail).bind fun _ => agree_refl _

/-! ## Computations -/

section

variable {R S T E : σ → σ → Prop} {x y : Build σ α} {f g : α → Build σ β}

/-- **A sequence is paired if both of its parts are.** -/
theorem Paired.bind (h : Paired R S E x y) (hf : ∀ a, Paired S T E (f a) (g a)) :
    Paired R T E (x >>= f) (y >>= g) := by
  intro d d' hd
  show Matches T E (EStateM.bind x f d) (EStateM.bind y g d')
  unfold EStateM.bind
  have hxy := h d d' hd
  revert hxy
  generalize x d = r
  generalize y d' = r'
  intro hxy
  cases hxy with
  | ok ht => exact hf _ _ _ ht
  | error he ht => exact .error he ht

/-- Computations that are paired from a relation are paired from a narrower one, and lead to wider
ones. -/
theorem Paired.mono {R' S' E' : σ → σ → Prop} (h : Paired R S E x y)
    (hR : ∀ s s', R' s s' → R s s') (hS : ∀ s s', S s s' → S' s s')
    (hE : ∀ s s', E s s' → E' s s') : Paired R' S' E' x y := by
  intro d d' hd
  have hxy := h d d' (hd.mono (hR _ _))
  revert hxy
  generalize x d = r
  generalize y d' = r'
  intro hxy
  cases hxy with
  | ok ht => exact .ok (ht.mono (hS _ _))
  | error he ht => exact .error he (ht.mono (hE _ _))

theorem Similar.carries (h : Similar R x y) : Carries R R x y :=
  h.mono (fun _ _ h => h) (fun _ _ h => h) fun _ _ _ => trivial

theorem blind_pure (a : α) : Blind R (pure a : Build σ α) := fun _ _ hd => .ok hd

theorem similar_throw {e e' : Error} (h : e.unplaced = e'.unplaced) :
    Similar R (throw e : Build σ α) (throw e') :=
  fun _ _ hd => .error h hd

theorem blind_throw (e : Error) : Blind R (throw e : Build σ α) := similar_throw rfl

theorem similar_lift {x y : Except Error α} (h : Agree Eq x y) :
    Similar R (liftM x : Build σ α) (liftM y) := by
  cases h with
  | ok hab => exact hab ▸ blind_pure _
  | error he => exact similar_throw he

theorem blind_lift (x : Except Error α) : Blind R (liftM x : Build σ α) :=
  similar_lift (agree_refl x)

/-- What goes on from two results that are related. -/
theorem similar_liftBind {γ δ : Type} {Q : γ → δ → Prop} {x : Except Error γ}
    {y : Except Error δ} {f : γ → Build σ α} {g : δ → Build σ α} (h : Agree Q x y)
    (hf : ∀ a b, Q a b → Similar R (f a) (g b)) :
    Similar R (liftM x >>= f) (liftM y >>= g) := by
  cases h with
  | ok hab => exact hf _ _ hab
  | error he => exact similar_throw he

theorem Paired.map {f : α → β} (h : Paired R S E x y) : Paired R S E (f <$> x) (f <$> y) := by
  rw [map_eq_pure_bind, map_eq_pure_bind]
  exact h.bind fun _ _ _ hd => .ok hd

theorem Paired.ite {c : Prop} [Decidable c] {x' y' : Build σ α} (h : Paired R S E x y)
    (h' : Paired R S E x' y') : Paired R S E (if c then x else x') (if c then y else y') := by
  split
  · exact h
  · exact h'

/-- What stops where a condition holds, and goes on elsewhere. -/
theorem Similar.unless {c : Prop} [Decidable c] {e e' : Error} {f g : PUnit → Build σ α}
    (he : e.unplaced = e'.unplaced) (h : Similar R (f ⟨⟩) (g ⟨⟩)) :
    Similar R (if c then (throw e : Build σ PUnit) >>= f else f ⟨⟩)
      (if c then (throw e' : Build σ PUnit) >>= g else g ⟨⟩) :=
  Paired.ite (similar_throw he) h

/-- What goes on from two states that are related. -/
theorem paired_stage {f g : σ → Build σ α} (h : ∀ s s', R s s' → Paired R S E (f s) (g s')) :
    Paired R S E (Build.stage >>= f) (Build.stage >>= g) :=
  fun d d' hd => h _ _ hd.stage d d' hd

theorem blind_database : Blind R (Build.database : Build σ Database) :=
  fun d d' hd => by
    show Matches R R (.ok d.database d) (.ok d'.database d')
    rw [hd.database]
    exact .ok hd

theorem paired_changeStage {f g : σ → σ} (h : ∀ s s', R s s' → S (f s) (g s')) :
    Paired R S E (Build.changeStage f) (Build.changeStage g) :=
  fun _ _ hd => .ok ⟨hd.database, hd.errors, hd.warnings, h _ _ hd.stage⟩

theorem blind_changeDatabase (change : Database → Database) :
    Blind R (Build.changeDatabase change : Build σ Unit) :=
  fun _ _ hd => .ok ⟨congrArg change hd.database, hd.errors, hd.warnings, hd.stage⟩

theorem similar_limitation {m m' : String} (h : Restates m m') :
    Similar R (Build.limitation m : Build σ Unit) (Build.limitation m') :=
  fun _ _ hd => .ok
    ⟨hd.database, hd.errors, List.rel_append hd.warnings (.cons h .nil), hd.stage⟩

theorem blind_limitation (m : String) : Blind R (Build.limitation m : Build σ Unit) :=
  similar_limitation (.inl rfl)

theorem similar_report {setting : Setting} {e e' : Error} (h : e.unplaced = e'.unplaced) :
    Similar R (Build.report setting e : Build σ Unit) (Build.report setting e') := by
  refine Paired.ite (similar_throw h) fun d d' hd =>
    .ok ⟨hd.database, ?_, hd.warnings, hd.stage⟩
  show ((d.errors ++ [e]).map _).Perm ((d'.errors ++ [e']).map _)
  rw [List.map_append, List.map_append, List.map_singleton, List.map_singleton, h]
  exact hd.errors.append_right _

theorem similar_add {refused refused' : String → Error}
    {insert : Database → Except DuplicateName (α × Database)}
    (h : ∀ m, (refused m).unplaced = (refused' m).unplaced) :
    Similar R (Build.add refused insert : Build σ α) (Build.add refused' insert) := by
  refine blind_database.bind fun db => ?_
  cases insert db with
  | ok r => exact (blind_changeDatabase _).bind fun _ => blind_pure _
  | error dup => exact similar_throw (h _)

theorem blind_add (refused : String → Error)
    (insert : Database → Except DuplicateName (α × Database)) :
    Blind R (Build.add refused insert : Build σ α) :=
  similar_add fun _ => rfl

theorem similar_forM {f g : ι → Build σ PUnit} :
    ∀ {as : List ι}, (∀ a ∈ as, Similar R (f a) (g a)) → Similar R (as.forM f) (as.forM g)
  | [], _ => blind_pure _
  | a :: _, h => (h a List.mem_cons_self).bind fun _ =>
      similar_forM fun b hb => h b (List.mem_cons_of_mem a hb)

/-- Items that look the same give results that are the same. -/
theorem similar_mapM {view : ι → κ} {f g : ι → Build σ β}
    (h : ∀ a b, view a = view b → Similar R (f a) (g b)) :
    ∀ {as bs : List ι}, as.map view = bs.map view → Similar R (as.mapM f) (bs.mapM g)
  | [], [], _ => blind_pure _
  | a :: as, b :: bs, hab => by
      obtain ⟨hhead, htail⟩ := List.cons_eq_cons.mp hab
      rw [List.mapM_cons, List.mapM_cons]
      exact (h a b hhead).bind fun _ => (similar_mapM h htail).bind fun _ => blind_pure _

theorem similar_foldlM {view : ι → κ} {f g : β → ι → Build σ β}
    (h : ∀ c a b, view a = view b → Similar R (f c a) (g c b)) :
    ∀ {as bs : List ι} (c : β), as.map view = bs.map view →
      Similar R (as.foldlM f c) (bs.foldlM g c)
  | [], [], c, _ => blind_pure c
  | a :: as, b :: bs, c, hab => by
      obtain ⟨hhead, htail⟩ := List.cons_eq_cons.mp hab
      rw [List.foldlM_cons, List.foldlM_cons]
      exact (h c a b hhead).bind fun c' => similar_foldlM h c' htail

theorem Paired.tryCatch {handle handle' : Error → Build σ α} (h : Paired R S E x y)
    (hh : ∀ e e', e.unplaced = e'.unplaced → Paired E S T (handle e) (handle' e')) :
    Paired R S T (tryCatch x handle) (tryCatch y handle') := by
  intro d d' hd
  show Matches S T (EStateM.tryCatch x handle d) (EStateM.tryCatch y handle' d')
  unfold EStateM.tryCatch
  have hxy := h d d' hd
  revert hxy
  generalize x d = r
  generalize y d' = r'
  intro hxy
  cases hxy with
  | ok ht => exact .ok ht
  | error he ht => exact hh _ _ he _ _ ht

section

variable {setting : Setting} {files : Files}

/-- A unit of work goes where its work goes: both record what they fail with, or both go on with
it. -/
theorem Paired.recover {work work' : Build σ Unit} (h : Paired R S S work work') :
    Paired R S S (Build.recover setting work)
      (Build.recover { setting with files := files } work') := by
  refine h.tryCatch fun e e' he => ?_
  have hfatal : e'.isFatal = e.isFatal := by
    rw [← e.isFatal_unplaced, ← e'.isFatal_unplaced, he]
  rw [hfatal]
  exact Paired.ite (similar_throw he) (similar_report he)

/-- Scans of a table that cannot be read fail in the same way. -/
theorem carries_scanFailed {table : String} {handle handle' : Row → Build σ Unit} {e : Error}
    (hx : Build.rows setting table = .error e)
    (hy : Build.rows { setting with files := files } table = .error e) :
    Carries R S (Build.scan setting table handle)
      (Build.scan { setting with files := files } table handle') := by
  unfold Build.scan
  rw [hx, hy]
  exact fun d d' hd => .error rfl (hd.mono fun _ => trivial)

/-- **Scans of a table with the same records fold them**, if the work on every record goes one
record further. -/
theorem carries_scanFold {table : String} {handle handle' : Row → Build σ Unit}
    {P : β → σ → σ → Prop} {f : β → Row → β} {rows : List Row}
    (hx : Build.rows setting table = .ok rows)
    (hy : Build.rows { setting with files := files } table = .ok rows)
    (h : ∀ b row, Paired (P b) (P (f b row)) (P (f b row)) (handle row) (handle' row)) (b : β) :
    Carries (P b) (P (rows.foldl f b)) (Build.scan setting table handle)
      (Build.scan { setting with files := files } table handle') := by
  have hforM (rs : List Row) : ∀ b, Carries (P b) (P (rs.foldl f b))
      (rs.forM fun row => Build.recover setting (handle row))
      (rs.forM fun row => Build.recover { setting with files := files } (handle' row)) := by
    induction rs with
    | nil => exact fun b => (blind_pure _).carries
    | cons row rest ih =>
        refine fun b => Paired.bind ((h b row).recover.mono (fun _ _ h => h) (fun _ _ h => h)
          fun _ _ _ => trivial) fun _ => ih _
  have hscan := (hforM rows b).bind fun _ => (blind_pure rows.length).carries
  unfold Build.scan
  rw [hx, hy]
  exact hscan

/-- **A scan of a table with the same records keeps drafts alike** if the work on every record
does. -/
theorem similar_scan {table : String} {handle handle' : Row → Build σ Unit}
    (hrows : Build.rows { setting with files := files } table = Build.rows setting table)
    (h : ∀ row, Similar R (handle row) (handle' row)) :
    Similar R (Build.scan setting table handle)
      (Build.scan { setting with files := files } table handle') := by
  unfold Build.scan
  rw [hrows]
  refine (blind_lift _).bind fun rows => ?_
  exact (similar_forM fun row _ => (h row).recover).bind fun _ => blind_pure _

end

/-- Work on a stage of its own, which goes from a start and leads to an end that are both alike. -/
theorem Carries.within {P Q : τ → τ → Prop} {start : σ → τ} {finish : σ → τ → σ}
    {work work' : Build τ α} (h : Carries P Q work work')
    (hstart : ∀ s s', R s s' → P (start s) (start s'))
    (hfinish : ∀ s s' t t', R s s' → Q t t' → S (finish s t) (finish s' t')) :
    Carries R S (Build.within start finish work) (Build.within start finish work') := by
  intro d d' hd
  have hwork := h ⟨d.database, d.errors, d.warnings, start d.stage⟩
    ⟨d'.database, d'.errors, d'.warnings, start d'.stage⟩
    ⟨hd.database, hd.errors, hd.warnings, hstart _ _ hd.stage⟩
  unfold Build.within
  revert hwork
  generalize work _ = r
  generalize work' _ = r'
  intro hwork
  cases hwork with
  | ok ht => exact .ok ⟨ht.database, ht.errors, ht.warnings, hfinish _ _ _ _ hd.stage ht.stage⟩
  | error he ht => exact .error he ⟨ht.database, ht.errors, ht.warnings, trivial⟩

end

end Rearrangement

end MissionBase
