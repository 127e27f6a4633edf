import MissionBase.Proofs.Run
import Mathlib.Data.List.Forall2
import Mathlib.Order.Defs.Unbundled

/-!
# Runs of either outcome

A failure ends a unit of work but not the build: what the unit has done before stays done, and the
next unit begins there. So what holds of every state a build goes through has to hold after a
failure too. `Ends` speaks of both outcomes of one run. `Steps` is the case that needs no care:
a relation between the states before and after, whichever way the run ends. If the relation is
reflexive and transitive, it is enough that every part of a computation steps in it.
-/

namespace MissionBase.Run

variable {ε σ α β : Type}

/-- A run that gives a result ends in one condition, a run that fails ends in the other. -/
def Ends (x : EStateM ε σ α) (s : σ) (Q : α → σ → Prop) (E : σ → Prop) : Prop :=
  match x s with
  | .ok a t => Q a t
  | .error _ t => E t

theorem ends_iff {x : EStateM ε σ α} {s : σ} {Q : α → σ → Prop} {E : σ → Prop} :
    Ends x s Q E ↔ (∀ a t, x s = .ok a t → Q a t) ∧ ∀ e t, x s = .error e t → E t := by
  unfold Ends
  cases x s <;> simp

theorem Ends.of_ok {x : EStateM ε σ α} {s t : σ} {a : α} {Q : α → σ → Prop} {E : σ → Prop}
    (h : Ends x s Q E) (hx : x s = .ok a t) : Q a t := (ends_iff.mp h).1 a t hx

/-- A run that cannot fail gives a result. -/
theorem Ends.exists_ok {x : EStateM ε σ α} {s : σ} {Q : α → σ → Prop}
    (h : Ends x s Q fun _ => False) : ∃ a t, x s = .ok a t ∧ Q a t := by
  unfold Ends at h
  cases hx : x s with
  | ok a t =>
      rw [hx] at h
      exact ⟨a, t, rfl, h⟩
  | error e t =>
      rw [hx] at h
      exact h.elim

theorem ends_of_ok {x : EStateM ε σ α} {s t : σ} {a : α} {Q : α → σ → Prop} {E : σ → Prop}
    (hx : x s = .ok a t) (h : Q a t) : Ends x s Q E := by
  unfold Ends
  rw [hx]
  exact h

/-- A run that gives a result ends in it. -/
theorem ends_eq_ok {x : EStateM ε σ α} {s : σ} :
    Ends x s (fun a t => x s = .ok a t) fun _ => True :=
  ends_iff.mpr ⟨fun _ _ h => h, fun _ _ _ => trivial⟩

theorem Ends.mono {x : EStateM ε σ α} {s : σ} {Q Q' : α → σ → Prop} {E E' : σ → Prop}
    (h : Ends x s Q E) (hQ : ∀ a t, x s = .ok a t → Q a t → Q' a t) (hE : ∀ t, E t → E' t) :
    Ends x s Q' E' := by
  rw [ends_iff] at h ⊢
  exact ⟨fun a t hx => hQ a t hx (h.1 a t hx), fun e t hx => hE t (h.2 e t hx)⟩

/-- What holds in one condition and in another holds in both. -/
theorem Ends.both {x : EStateM ε σ α} {s : σ} {Q Q' : α → σ → Prop} {E E' : σ → Prop}
    (h : Ends x s Q E) (h' : Ends x s Q' E') :
    Ends x s (fun a t => Q a t ∧ Q' a t) fun t => E t ∧ E' t := by
  rw [ends_iff] at h h' ⊢
  exact ⟨fun a t hx => ⟨h.1 a t hx, h'.1 a t hx⟩, fun e t hx => ⟨h.2 e t hx, h'.2 e t hx⟩⟩

theorem ends_pure {a : α} {s : σ} {Q : α → σ → Prop} {E : σ → Prop} (h : Q a s) :
    Ends (pure a : EStateM ε σ α) s Q E := h

theorem ends_throw {e : ε} {s : σ} {Q : α → σ → Prop} {E : σ → Prop} (h : E s) :
    Ends (throw e : EStateM ε σ α) s Q E := h

/-- **A sequence ends where its second part does, unless the first part fails.** -/
theorem Ends.bind {x : EStateM ε σ α} {f : α → EStateM ε σ β} {s : σ} {Q : β → σ → Prop}
    {E : σ → Prop} (h : Ends x s (fun a t => Ends (f a) t Q E) E) : Ends (x >>= f) s Q E := by
  show Ends (EStateM.bind x f) s Q E
  unfold Ends EStateM.bind at *
  cases hx : x s with
  | ok a t => rw [hx] at h; exact h
  | error e t => rw [hx] at h; exact h

theorem Ends.map {x : EStateM ε σ α} {f : α → β} {s : σ} {Q : β → σ → Prop} {E : σ → Prop}
    (h : Ends x s (fun a t => Q (f a) t) E) : Ends (f <$> x) s Q E := by
  show Ends (EStateM.map f x) s Q E
  unfold Ends EStateM.map at *
  cases hx : x s with
  | ok a t => rw [hx] at h; exact h
  | error e t => rw [hx] at h; exact h

theorem Ends.tryCatch {x : EStateM ε σ α} {handle : ε → EStateM ε σ α} {s : σ}
    {Q : α → σ → Prop} {E E' : σ → Prop} (h : Ends x s Q E')
    (hh : ∀ e t, E' t → Ends (handle e) t Q E) : Ends (tryCatch x handle) s Q E := by
  show Ends (EStateM.tryCatch x handle) s Q E
  unfold Ends EStateM.tryCatch at *
  cases hx : x s with
  | ok a t => rw [hx] at h; exact h
  | error e t => rw [hx] at h; exact hh e t h

theorem Ends.ite {c : Prop} [Decidable c] {x y : EStateM ε σ α} {s : σ} {Q : α → σ → Prop}
    {E : σ → Prop} (hx : c → Ends x s Q E) (hy : ¬ c → Ends y s Q E) :
    Ends (if c then x else y) s Q E := by
  split
  · rename_i hc
    exact hx hc
  · rename_i hc
    exact hy hc

/-- **A run through a list goes from the condition of the whole list to that of the empty one**,
if the step of each element goes from the condition of the list that begins with it to that of the
rest. -/
theorem ends_forM {f : α → EStateM ε σ PUnit} {I : List α → σ → Prop} {E : σ → Prop}
    (step : ∀ a rest s, I (a :: rest) s → Ends (f a) s (fun _ => I rest) E) :
    ∀ {as : List α} {s : σ}, I as s → Ends (as.forM f) s (fun _ => I []) E
  | [], _, hs => hs
  | a :: rest, s, hs => by
      refine Ends.bind ((step a rest s hs).mono (fun _ t _ ht => ?_) fun _ ht => ht)
      exact ends_forM step ht

/-- A run through a list keeps what each of its elements keeps. -/
theorem ends_forM_mem {f : α → EStateM ε σ PUnit} {I : σ → Prop} {E : σ → Prop} {as : List α}
    (step : ∀ a ∈ as, ∀ s, I s → Ends (f a) s (fun _ => I) E) {s : σ} (hs : I s) :
    Ends (as.forM f) s (fun _ => I) E := by
  refine (ends_forM (I := fun rest s => (∀ a ∈ rest, a ∈ as) ∧ I s) (fun a rest s h => ?_)
    ⟨fun _ ha => ha, hs⟩).mono (fun _ _ _ h => h.2) fun _ h => h
  obtain ⟨hmem, hs⟩ := h
  refine (step a (hmem a List.mem_cons_self) s hs).mono (fun _ _ _ ht => ⟨?_, ht⟩) fun _ h => h
  exact fun b hb => hmem b (List.mem_cons_of_mem a hb)

/-- A run through a list that gives a result for every element, and what it says of the results so
far stays true. -/
theorem ends_mapM {f : α → EStateM ε σ β} {I : σ → Prop} {R : α → β → σ → Prop} {E : σ → Prop}
    (step : ∀ a s, I s → Ends (f a) s
      (fun b t => I t ∧ R a b t ∧ ∀ a' b', R a' b' s → R a' b' t) E) :
    ∀ {as : List α} {s : σ}, I s → Ends (as.mapM f) s
      (fun bs t => I t ∧ List.Forall₂ (fun a b => R a b t) as bs ∧ ∀ a' b', R a' b' s → R a' b' t) E
  | [], _, hs => by
      rw [List.mapM_nil]
      exact ends_pure ⟨hs, .nil, fun _ _ h => h⟩
  | a :: as, s, hs => by
      rw [List.mapM_cons]
      refine Ends.bind ((step a s hs).mono (fun b t _ ht => ?_) fun _ h => h)
      obtain ⟨hI, hR, hkeep⟩ := ht
      -- what the first step said of its result is kept by the others
      refine Ends.bind ((ends_mapM step hI).mono (fun bs u _ hu => ?_) fun _ h => h)
      obtain ⟨hI', hRs, hkeep'⟩ := hu
      exact ends_pure ⟨hI', .cons (hkeep' a b hR) hRs, fun a' b' h => hkeep' a' b' (hkeep a' b' h)⟩

/-! ## Relations that every part steps in -/

/-- However a run ends, its last state is in a relation to its first. -/
def Steps (R : σ → σ → Prop) (x : EStateM ε σ α) : Prop :=
  ∀ s, Ends x s (fun _ t => R s t) (R s)

theorem Steps.of_ok {R : σ → σ → Prop} {x : EStateM ε σ α} {s t : σ} {a : α} (h : Steps R x)
    (hx : x s = .ok a t) : R s t := (h s).of_ok hx

theorem Steps.mono {R R' : σ → σ → Prop} {x : EStateM ε σ α} (h : Steps R x)
    (hR : ∀ s t, R s t → R' s t) : Steps R' x :=
  fun s => (h s).mono (fun _ t _ => hR s t) fun t => hR s t

theorem Steps.both {R R' : σ → σ → Prop} {x : EStateM ε σ α} (h : Steps R x) (h' : Steps R' x) :
    Steps (fun s t => R s t ∧ R' s t) x :=
  fun s => (h s).both (h' s)

section

variable {R : σ → σ → Prop}

theorem steps_pure [Std.Refl R] (a : α) : Steps R (pure a : EStateM ε σ α) :=
  fun s => Std.Refl.refl s

theorem steps_throw [Std.Refl R] (e : ε) : Steps R (throw e : EStateM ε σ α) :=
  fun s => Std.Refl.refl s

theorem steps_modify {f : σ → σ} (h : ∀ s, R s (f s)) :
    Steps R (modify f : EStateM ε σ PUnit) := h

/-- What steps from where it begins steps from whatever leads there. -/
theorem Ends.after [IsTrans σ R] {x : EStateM ε σ α} {s t : σ}
    (h : Ends x t (fun _ => R t) (R t)) (hst : R s t) : Ends x t (fun _ => R s) (R s) :=
  h.mono (fun _ _ _ htu => IsTrans.trans _ _ _ hst htu) fun _ htu => IsTrans.trans _ _ _ hst htu

theorem Steps.bind [IsTrans σ R] {x : EStateM ε σ α} {f : α → EStateM ε σ β} (h : Steps R x)
    (hf : ∀ a, Steps R (f a)) : Steps R (x >>= f) :=
  fun s => Ends.bind ((h s).mono (fun a t _ hst => (hf a t).after hst) fun _ hst => hst)

/-- A sequence whose first part steps goes on from what a state is already related to. -/
theorem Steps.andThen [IsTrans σ R] {x : EStateM ε σ α} {f : α → EStateM ε σ β} {s t : σ}
    (hx : Steps R x) (hst : R s t)
    (hf : ∀ a u, R s u → Ends (f a) u (fun _ => R s) (R s)) :
    Ends (x >>= f) t (fun _ => R s) (R s) :=
  Ends.bind (((hx t).after hst).mono (fun a u _ => hf a u) fun _ hsu => hsu)

/-- What stops where a condition holds, and goes on elsewhere. -/
theorem Steps.unless [Std.Refl R] [IsTrans σ R] {c : Prop} [Decidable c] {e : ε}
    {f : PUnit → EStateM ε σ α} (h : Steps R (f ⟨⟩)) :
    Steps R (if c then (throw e : EStateM ε σ PUnit) >>= f else f ⟨⟩) := by
  split
  · exact steps_throw e
  · exact h

theorem steps_forM [Std.Refl R] [IsTrans σ R] {f : α → EStateM ε σ PUnit}
    (h : ∀ a, Steps R (f a)) : ∀ as : List α, Steps R (as.forM f)
  | [] => steps_pure _
  | a :: as => (h a).bind fun _ => steps_forM h as

theorem steps_mapM [Std.Refl R] [IsTrans σ R] {f : α → EStateM ε σ β}
    (h : ∀ a, Steps R (f a)) : ∀ as : List α, Steps R (as.mapM f)
  | [] => by
      rw [List.mapM_nil]
      exact steps_pure _
  | a :: as => by
      rw [List.mapM_cons]
      exact (h a).bind fun _ => (steps_mapM h as).bind fun _ => steps_pure _

theorem steps_foldlM [Std.Refl R] [IsTrans σ R] {f : β → α → EStateM ε σ β}
    (h : ∀ b a, Steps R (f b a)) : ∀ (as : List α) (b : β), Steps R (as.foldlM f b)
  | [], b => steps_pure b
  | a :: as, b => by
      rw [List.foldlM_cons]
      exact (h b a).bind fun b' => steps_foldlM h as b'

end

/-! ## What a failure says -/

/-- Whatever a run fails with has a property. -/
def Raises (x : EStateM ε σ α) (s : σ) (P : ε → Prop) : Prop := ∀ e t, x s = .error e t → P e

section

variable {P : ε → Prop}

theorem raises_pure {a : α} {s : σ} : Raises (pure a : EStateM ε σ α) s P := by
  rintro e t ⟨⟩

theorem raises_throw {e : ε} {s : σ} (h : P e) : Raises (throw e : EStateM ε σ α) s P := by
  rintro _ t ⟨⟩
  exact h

theorem raises_modify {f : σ → σ} {s : σ} : Raises (modify f : EStateM ε σ PUnit) s P := by
  rintro e t ⟨⟩

/-- A sequence fails where one of its parts does. -/
theorem Raises.bind {x : EStateM ε σ α} {f : α → EStateM ε σ β} {s : σ} (h : Raises x s P)
    (hf : ∀ a t, x s = .ok a t → Raises (f a) t P) : Raises (x >>= f) s P := by
  intro e t hrun
  have hrun' : EStateM.bind x f s = .error e t := hrun
  unfold EStateM.bind at hrun'
  cases hx : x s with
  | ok a u =>
      rw [hx] at hrun'
      exact hf a u hx e t hrun'
  | error e' u =>
      rw [hx] at hrun'
      cases hrun'
      exact h e t hx

theorem Raises.map {x : EStateM ε σ α} {f : α → β} {s : σ} (h : Raises x s P) :
    Raises (f <$> x) s P := by
  intro e t hrun
  have hrun' : EStateM.map f x s = .error e t := hrun
  unfold EStateM.map at hrun'
  cases hx : x s with
  | ok a u =>
      rw [hx] at hrun'
      cases hrun'
  | error e' u =>
      rw [hx] at hrun'
      cases hrun'
      exact h e t hx

theorem Raises.ite {c : Prop} [Decidable c] {x y : EStateM ε σ α} {s : σ} (hx : c → Raises x s P)
    (hy : ¬ c → Raises y s P) : Raises (if c then x else y) s P := by
  split
  · rename_i hc
    exact hx hc
  · rename_i hc
    exact hy hc

theorem raises_forM {f : α → EStateM ε σ PUnit} :
    ∀ {as : List α} {s : σ}, (∀ a ∈ as, ∀ t, Raises (f a) t P) → Raises (as.forM f) s P
  | [], _, _ => raises_pure
  | a :: _, s, h => (h a List.mem_cons_self s).bind fun _ _ _ =>
      raises_forM fun b hb => h b (List.mem_cons_of_mem a hb)

/-- A run that never fails fails with nothing else. -/
theorem Ends.raises {x : EStateM ε σ α} {s : σ} {Q : α → σ → Prop}
    (h : Ends x s Q fun _ => False) : Raises x s P :=
  fun e t hx => ((ends_iff.mp h).2 e t hx).elim

/-- A handler goes on from a failure that says what failures say. -/
theorem ends_tryCatch {x : EStateM ε σ α} {handle : ε → EStateM ε σ α} {s : σ}
    {Q : α → σ → Prop} {E E' : σ → Prop} (hraises : Raises x s P) (h : Ends x s Q E')
    (hh : ∀ e t, P e → E' t → Ends (handle e) t Q E) : Ends (tryCatch x handle) s Q E := by
  show Ends (EStateM.tryCatch x handle) s Q E
  unfold Ends EStateM.tryCatch at *
  cases hx : x s with
  | ok a t => rw [hx] at h; exact h
  | error e t => rw [hx] at h; exact hh e t (hraises e t hx) h

end

/-! ## The pieces of a build -/

section

variable {τ : Type} {setting : Setting}

theorem ends_stage {d : Draft τ} {Q : τ → Draft τ → Prop} {E : Draft τ → Prop}
    (h : Q d.stage d) : Ends (Build.stage : Build τ τ) d Q E := h

theorem ends_database {d : Draft τ} {Q : Database → Draft τ → Prop} {E : Draft τ → Prop}
    (h : Q d.database d) : Ends (Build.database : Build τ Database) d Q E := h

theorem ends_changeStage {change : τ → τ} {d : Draft τ} {Q : Unit → Draft τ → Prop}
    {E : Draft τ → Prop} (h : Q () { d with stage := change d.stage }) :
    Ends (Build.changeStage change : Build τ Unit) d Q E := h

/-- A limitation is noted, and nothing else changes. -/
theorem ends_limitation {m : String} {d : Draft τ} {Q : Unit → Draft τ → Prop}
    {E : Draft τ → Prop}
    (h : ∀ d', d'.database = d.database → d'.stage = d.stage → Q () d') :
    Ends (Build.limitation m : Build τ Unit) d Q E := h _ rfl rfl

/-- A result that may be an error leaves the build where it is. -/
theorem ends_lift {x : Except Error α} {d : Draft τ} {Q : α → Draft τ → Prop}
    {E : Draft τ → Prop} (h : ∀ a, x = .ok a → Q a d) (hE : E d) :
    Ends (liftM x : Build τ α) d Q E := by
  cases x with
  | ok a => exact h a rfl
  | error e => exact hE

/-- A stage of its own ends where its work does, with the state that is kept of it. -/
theorem Ends.within {υ : Type} {start : τ → υ} {finish : τ → υ → τ} {work : Build υ α}
    {d : Draft τ} {Q : α → Draft τ → Prop} {E : Draft τ → Prop}
    (h : Ends work ⟨d.database, d.errors, d.warnings, start d.stage⟩
      (fun a t => Q a ⟨t.database, t.errors, t.warnings, finish d.stage t.stage⟩)
      (fun t => E ⟨t.database, t.errors, t.warnings, finish d.stage t.stage⟩)) :
    Ends (Build.within start finish work) d Q E := by
  unfold Ends at h
  cases hwork : work ⟨d.database, d.errors, d.warnings, start d.stage⟩ with
  | ok a t =>
      have hrun : Build.within start finish work d =
          .ok a ⟨t.database, t.errors, t.warnings, finish d.stage t.stage⟩ := by
        unfold Build.within
        rw [hwork]
      rw [hwork] at h
      unfold Ends
      rw [hrun]
      exact h
  | error e t =>
      have hrun : Build.within start finish work d =
          .error e ⟨t.database, t.errors, t.warnings, finish d.stage t.stage⟩ := by
        unfold Build.within
        rw [hwork]
      rw [hwork] at h
      unfold Ends
      rw [hrun]
      exact h

/-- A report records its error, or fails with it where it is. -/
theorem ends_report {e : Error} {d : Draft τ} {Q : Unit → Draft τ → Prop} {E : Draft τ → Prop}
    (hE : E d) (hQ : Q () { d with errors := d.errors ++ [e] }) :
    Ends (Build.report setting e : Build τ Unit) d Q E := by
  unfold Build.report
  exact Ends.ite (fun _ => ends_throw hE) fun _ => hQ

/-- A condition that a recorded error does not end holds after a unit of work if it holds where the
work ends, whichever way it ends. -/
theorem Ends.recover {work : Build τ Unit} {d : Draft τ} {Q : Draft τ → Prop}
    (hrecord : ∀ d e, Q d → Q { d with errors := d.errors ++ [e] })
    (h : Ends work d (fun _ => Q) Q) : Ends (Build.recover setting work) d (fun _ => Q) Q := by
  refine Ends.tryCatch h fun e d' hd' => ?_
  exact Ends.ite (fun _ => ends_throw hd') fun _ => ends_report hd' (hrecord d' e hd')

/-- A unit of work that fails ends with its error recorded, unless its run is over. -/
theorem Ends.recoverRaising {work : Build τ Unit} {d : Draft τ} {Q : Draft τ → Prop}
    {P : Error → Prop} (hraises : Raises work d P)
    (h : Ends work d (fun _ => Q) fun t => ∀ e, P e → Q { t with errors := t.errors ++ [e] }) :
    Ends (Build.recover setting work) d (fun _ => Q) fun _ => True := by
  refine ends_tryCatch hraises h fun e t he ht => ?_
  exact Ends.ite (fun _ => ends_throw trivial) fun _ => ends_report trivial (ht e he)

/-- **A scan goes from the condition of all records of the table to that of none**, if the unit of
work of each record goes on by that record, whichever way it ends. -/
theorem ends_scanRows {table : String} {handle : Row → Build τ Unit} {rows : List Row}
    {I : List Row → Draft τ → Prop} {E : Draft τ → Prop}
    (hrows : Build.rows setting table = .ok rows)
    (hrecord : ∀ rest d e, I rest d → I rest { d with errors := d.errors ++ [e] })
    (hE : ∀ rest d, I rest d → E d)
    (h : ∀ row rest d, I (row :: rest) d → Ends (handle row) d (fun _ => I rest) (I rest))
    {d : Draft τ} (hd : I rows d) :
    Ends (Build.scan setting table handle) d (fun _ => I []) E := by
  refine Ends.bind (ends_lift (fun rs hrs => ?_) (hE rows d hd))
  rw [hrows] at hrs
  cases hrs
  refine Ends.bind (ends_forM (I := I) (fun row rest d hd => ?_) hd)
  exact ((h row rest d hd).recover (hrecord rest)).mono (fun _ _ _ ht => ht) (hE rest)

/-- **A scan folds the records of the table**, if the unit of work of each record takes what is
known one record further, whichever way it ends. -/
theorem ends_scanFold {table : String} {handle : Row → Build τ Unit} {rows : List Row}
    {I : β → Draft τ → Prop} {f : β → Row → β} (hrows : Build.rows setting table = .ok rows)
    (hrecord : ∀ b d e, I b d → I b { d with errors := d.errors ++ [e] })
    (h : ∀ b row d, I b d → Ends (handle row) d (fun _ => I (f b row)) (I (f b row)))
    {b : β} {d : Draft τ} (hd : I b d) :
    Ends (Build.scan setting table handle) d (fun _ => I (rows.foldl f b)) fun _ => True := by
  -- the records still to come lead from what is known to what the whole table says
  refine (ends_scanRows (I := fun rest d => ∃ b', I b' d ∧ rest.foldl f b' = rows.foldl f b) hrows
    ?_ (fun _ _ _ => trivial) ?_ ⟨b, hd, rfl⟩).mono ?_ fun _ _ => trivial
  · rintro rest d e ⟨b', hb', hrest⟩
    exact ⟨b', hrecord b' d e hb', hrest⟩
  · rintro row rest d ⟨b', hb', hrest⟩
    exact (h b' row d hb').mono (fun _ _ _ ht => ⟨_, ht, hrest⟩) fun _ ht => ⟨_, ht, hrest⟩
  · rintro _ d' _ ⟨b', hb', hrest⟩
    rw [← hrest]
    exact hb'

/-- What every record keeps, a scan of the table keeps. -/
theorem ends_scan {table : String} {handle : Row → Build τ Unit} {d : Draft τ}
    {Q : Draft τ → Prop} (hrecord : ∀ d e, Q d → Q { d with errors := d.errors ++ [e] }) (hd : Q d)
    (h : ∀ row d, Q d → Ends (handle row) d (fun _ => Q) Q) :
    Ends (Build.scan setting table handle) d (fun _ => Q) Q := by
  cases hrows : Build.rows setting table with
  | error e =>
      refine Ends.bind (ends_lift (fun rs hrs => ?_) hd)
      rw [hrows] at hrs
      cases hrs
  | ok rows =>
      exact ends_scanRows (I := fun _ => Q) hrows (fun _ => hrecord) (fun _ _ hd => hd)
        (fun row _ d hd => h row d hd) hd

/-- A scan that is over has found its table. -/
theorem exists_rows_of_scan {table : String} {handle : Row → Build τ Unit} {d d' : Draft τ}
    {n : Nat} (h : Build.scan setting table handle d = .ok n d') :
    ∃ rows, Build.rows setting table = .ok rows := by
  obtain ⟨rows, _, hrows, -⟩ := bind_eq_ok.mp h
  exact ⟨rows, (lift_eq_ok.mp hrows).1⟩

/-- An addition that is refused leaves the build where it is. -/
theorem ends_add {refused : String → Error}
    {insert : Database → Except DuplicateName (α × Database)} {d : Draft τ}
    {Q : α → Draft τ → Prop} {E : Draft τ → Prop}
    (h : ∀ x db, insert d.database = .ok (x, db) → Q x { d with database := db }) (hE : E d) :
    Ends (Build.add refused insert : Build τ α) d Q E := by
  unfold Build.add
  refine Ends.bind (ends_database ?_)
  cases hi : insert d.database with
  | error dup => exact hE
  | ok r => exact h r.1 r.2 hi

/-- An addition that is accepted never fails. -/
theorem ends_add_of_ok {refused : String → Error}
    {insert : Database → Except DuplicateName (α × Database)} {d : Draft τ} {x : α} {db : Database}
    {Q : α → Draft τ → Prop} {E : Draft τ → Prop} (hi : insert d.database = .ok (x, db))
    (h : Q x { d with database := db }) : Ends (Build.add refused insert : Build τ α) d Q E := by
  unfold Build.add
  refine Ends.bind (ends_database ?_)
  rw [hi]
  exact h

section

variable {P : Error → Prop} {d : Draft τ}

theorem Raises.stage {f : τ → Build τ α} (h : Raises (f d.stage) d P) :
    Raises (Build.stage >>= f) d P := h

theorem Raises.database {f : Database → Build τ α} (h : Raises (f d.database) d P) :
    Raises (Build.database >>= f) d P := h

/-- A result that is an error raises it. -/
theorem raises_lift {x : Except Error α} (h : ∀ e, x = .error e → P e) :
    Raises (liftM x : Build τ α) d P := by
  cases x with
  | ok a => exact raises_pure
  | error e => exact raises_throw (h e rfl)

/-- A sequence that begins with a result that may be an error fails with it, or goes on where it
is. -/
theorem Raises.lift {x : Except Error α} {f : α → Build τ β} (h : ∀ e, x = .error e → P e)
    (hf : ∀ a, x = .ok a → Raises (f a) d P) : Raises (liftM x >>= f) d P := by
  refine (raises_lift h).bind fun a t hlift => ?_
  obtain ⟨ha, rfl⟩ := lift_eq_ok.mp hlift
  exact hf a ha

theorem raises_add {refused : String → Error}
    {insert : Database → Except DuplicateName (α × Database)}
    (h : ∀ dup, insert d.database = .error dup → P (refused dup.message)) :
    Raises (Build.add refused insert : Build τ α) d P := by
  unfold Build.add
  refine Raises.database ?_
  cases hi : insert d.database with
  | ok r => exact raises_modify.bind fun _ _ _ => raises_pure
  | error dup => exact raises_throw (h dup hi)

end

variable {R : Draft τ → Draft τ → Prop}

theorem steps_database [Std.Refl R] : Steps R (Build.database : Build τ Database) :=
  fun d => Std.Refl.refl d

theorem steps_stage [Std.Refl R] : Steps R (Build.stage : Build τ τ) :=
  fun d => Std.Refl.refl d

theorem steps_lift [Std.Refl R] (x : Except Error α) : Steps R (liftM x : Build τ α) :=
  fun d => ends_lift (fun _ _ => Std.Refl.refl d) (Std.Refl.refl d)

/-- A computation ends in a draft, with a result or with an error. -/
def Leads (x : Build τ α) (d t : Draft τ) : Prop := Ends x d (fun _ u => u = t) fun u => u = t

/-- A computation steps in every relation that holds between where it begins and where it leads. -/
theorem steps_of_leads {x : Build τ α} (h : ∀ d t, Leads x d t → R d t) : Steps R x := by
  intro d
  have hleads := h d
  unfold Leads at hleads
  unfold Ends at hleads ⊢
  cases hrun : x d with
  | ok a t => exact hleads t (by rw [hrun])
  | error e t => exact hleads t (by rw [hrun])

theorem Steps.of_leads {x : Build τ α} {d t : Draft τ} (h : Steps R x) (hx : Leads x d t) :
    R d t := by
  have hstep := h d
  unfold Leads at hx
  unfold Ends at hx hstep
  cases hrun : x d with
  | ok a u =>
      rw [hrun] at hx hstep
      exact hx ▸ hstep
  | error e u =>
      rw [hrun] at hx hstep
      exact hx ▸ hstep

theorem Leads.of_ok {x : Build τ α} {d t : Draft τ} {a : α} (h : x d = .ok a t) : Leads x d t := by
  unfold Leads Ends
  rw [h]

theorem steps_report [Std.Refl R] (hrecord : ∀ d e, R d { d with errors := d.errors ++ [e] })
    (e : Error) : Steps R (Build.report setting e : Build τ Unit) :=
  fun d => ends_report (Std.Refl.refl d) (hrecord d e)

/-- A unit of work steps where its work and the record of an error do. -/
theorem Steps.recover [IsTrans (Draft τ) R] {work : Build τ Unit}
    (hrecord : ∀ d e, R d { d with errors := d.errors ++ [e] }) (h : Steps R work) :
    Steps R (Build.recover setting work) := by
  intro d
  refine Ends.tryCatch (h d) fun e t ht => Ends.ite (fun _ => ends_throw ht) fun _ => ?_
  exact ends_report ht (IsTrans.trans _ _ _ ht (hrecord t e))

theorem steps_scan [Std.Refl R] [IsTrans (Draft τ) R]
    (hrecord : ∀ d e, R d { d with errors := d.errors ++ [e] }) {table : String}
    {handle : Row → Build τ Unit} (h : ∀ row, Steps R (handle row)) :
    Steps R (Build.scan setting table handle) :=
  (steps_lift _).bind fun rs =>
    (steps_forM (fun row => (h row).recover hrecord) rs).bind fun _ => steps_pure _

/-- An addition steps where it is accepted, and stays where it is refused. -/
theorem steps_add [Std.Refl R] {refused : String → Error}
    {insert : Database → Except DuplicateName (α × Database)}
    (h : ∀ d x db, insert d.database = .ok (x, db) → R d { d with database := db }) :
    Steps R (Build.add refused insert : Build τ α) :=
  fun d => ends_add (h d) (Std.Refl.refl d)

end

end MissionBase.Run

namespace MissionBase

/-- The setting of tables given as texts with one octet per character, under the options that are
the default. -/
def Setting.ofTables (tables : List (String × String)) : Setting where
  config := {}
  epoch := .common .unix
  files := {
    contents := tables.map fun (table, text) =>
      ([table ++ ".dat"], text.toList.map fun c => UInt8.ofNat c.toNat) }

end MissionBase
