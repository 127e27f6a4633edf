import MissionBase.Proofs.Steps
import MissionBase.Proofs.Wiring
import MissionBase.Telemetry.HeaderParameters

/-!
# Work that keeps a database wired

A stage remembers references in its own state. An upkeep says which of them are to be good, in a
way that additions to the database cannot spoil. Work is safe when it keeps the database wired and
the stage up, loses no element, and fails in such a state if it fails. The rules below say so for
every way in which work is put together, so that a handler is safe by its parts.
-/

namespace MissionBase

open Run

/-- What a stage has to keep true of its state. -/
structure Upkeep (σ : Type) where
  Holds : Database → σ → Prop
  kept : ∀ {db db' : Database} {s : σ}, db.Kept db' → Holds db s → Holds db' s

namespace Upkeep

variable {σ α β : Type} (U : Upkeep σ)

/-- A draft with a wired database and a stage that is up. -/
structure Sound (d : Draft σ) : Prop where
  wired : d.database.Wired []
  stage : U.Holds d.database d.stage

/-- Work that goes from sound drafts to sound drafts, whichever way it ends, with a result that is
good for the database where it ends. -/
def Safe (d : Draft σ) (x : Build σ α) (Q : α → Database → Prop) : Prop :=
  U.Sound d → Ends x d
    (fun a t => U.Sound t ∧ d.database.Kept t.database ∧ Q a t.database)
    (fun t => U.Sound t ∧ d.database.Kept t.database)

variable {U} {d : Draft σ} {x : Build σ α} {f : α → Build σ β} {Q : α → Database → Prop}
  {Q' : β → Database → Prop}

theorem Sound.of_same {d' : Draft σ} (h : U.Sound d) (hdb : d'.database = d.database)
    (hstage : d'.stage = d.stage) : U.Sound d' := by
  obtain ⟨h1, h2⟩ := h
  exact ⟨by rw [hdb]; exact h1, by rw [hdb, hstage]; exact h2⟩

theorem safe_pure {a : α} (h : Q a d.database) : U.Safe d (pure a) Q :=
  fun hd => ⟨hd, .refl _, h⟩

theorem safe_throw {e : Error} : U.Safe d (throw e : Build σ α) Q := fun hd => ⟨hd, .refl _⟩

/-- **A sequence is safe if its parts are**, the second one from wherever the first one ends. -/
theorem Safe.bind (h : U.Safe d x Q)
    (hf : ∀ a t, U.Sound t → d.database.Kept t.database → Q a t.database → U.Safe t (f a) Q') :
    U.Safe d (x >>= f) Q' := by
  intro hd
  refine Ends.bind ((h hd).mono (fun a t _ ht => ?_) fun _ ht => ht)
  obtain ⟨hsound, hkept, hQ⟩ := ht
  exact (hf a t hsound hkept hQ hsound).mono
    (fun _ _ _ hu => ⟨hu.1, hkept.trans hu.2.1, hu.2.2⟩) fun _ hu => ⟨hu.1, hkept.trans hu.2⟩

/-! ## The pieces of a build -/

theorem Safe.stage {g : σ → Build σ β} (h : U.Sound d → U.Safe d (g d.stage) Q') :
    U.Safe d (Build.stage >>= g) Q' :=
  fun hd => Ends.bind (ends_stage (h hd hd))

theorem Safe.database {g : Database → Build σ β} (h : U.Sound d → U.Safe d (g d.database) Q') :
    U.Safe d (Build.database >>= g) Q' :=
  fun hd => Ends.bind (ends_database (h hd hd))

theorem safe_lift {y : Except Error α} (h : ∀ a, y = .ok a → Q a d.database) :
    U.Safe d (liftM y : Build σ α) Q :=
  fun hd => ends_lift (fun a ha => ⟨hd, .refl _, h a ha⟩) ⟨hd, .refl _⟩

/-- A result that is read without the database. -/
theorem Safe.read {y : Except Error α} (h : ∀ a, y = .ok a → U.Safe d (f a) Q') :
    U.Safe d ((liftM y : Build σ α) >>= f) Q' :=
  fun hd => Ends.bind (ends_lift (fun a ha => h a ha hd) ⟨hd, .refl _⟩)

theorem safe_limitation {m : String} {Q : Unit → Database → Prop} (h : Q () d.database) :
    U.Safe d (Build.limitation m) Q :=
  fun hd => ⟨hd.of_same rfl rfl, .refl _, h⟩

theorem safe_report {setting : Setting} {e : Error} {Q : Unit → Database → Prop}
    (h : Q () d.database) : U.Safe d (Build.report setting e) Q := by
  unfold Build.report
  split
  · exact safe_throw
  · exact fun hd => ⟨hd.of_same rfl rfl, .refl _, h⟩

theorem safe_changeStage {change : σ → σ} {Q : Unit → Database → Prop}
    (hstage : U.Sound d → U.Holds d.database (change d.stage)) (h : Q () d.database) :
    U.Safe d (Build.changeStage change) Q :=
  fun hd => ⟨⟨hd.wired, hstage hd⟩, .refl _, h⟩

theorem safe_changeDatabase {change : Database → Database} {Q : Unit → Database → Prop}
    (hchange : U.Sound d → d.database.Follows (change d.database))
    (h : Q () (change d.database)) : U.Safe d (Build.changeDatabase change) Q :=
  fun hd => ⟨⟨(hchange hd).wired, U.kept (hchange hd).kept hd.stage⟩, (hchange hd).kept, h⟩

theorem safe_add {refused : String → Error}
    {insert : Database → Except DuplicateName (α × Database)}
    (h : U.Sound d → ∀ a db, insert d.database = .ok (a, db) → d.database.Follows db ∧ Q a db) :
    U.Safe d (Build.add refused insert) Q := by
  intro hd
  refine ends_add (fun a db hadd => ?_) ⟨hd, .refl _⟩
  obtain ⟨hfollows, hQ⟩ := h hd a db hadd
  exact ⟨⟨hfollows.wired, U.kept hfollows.kept hd.stage⟩, hfollows.kept, hQ⟩

theorem Safe.ite {c : Prop} [Decidable c] {y : Build σ α} (hx : c → U.Safe d x Q)
    (hy : ¬ c → U.Safe d y Q) : U.Safe d (if c then x else y) Q :=
  fun hd => Ends.ite (fun hc => hx hc hd) fun hc => hy hc hd

/-- What stops where a condition holds, and goes on elsewhere. -/
theorem Safe.unless {c : Prop} [Decidable c] {e : Error} {g : PUnit → Build σ β}
    (h : ¬ c → U.Safe d (g ⟨⟩) Q') :
    U.Safe d (if c then (throw e : Build σ PUnit) >>= g else g ⟨⟩) Q' := by
  split
  · exact fun hd => ⟨hd, .refl _⟩
  · rename_i hc
    exact h hc

/-! ## Loops and units of work -/

theorem safe_forM {g : β → Build σ PUnit} {bs : List β}
    (h : ∀ b ∈ bs, ∀ t, d.database.Kept t.database → U.Safe t (g b) fun _ _ => True) :
    U.Safe d (bs.forM g) fun _ _ => True := by
  induction bs generalizing d with
  | nil => exact safe_pure trivial
  | cons b rest ih =>
      refine (h b List.mem_cons_self d (.refl _)).bind fun _ t _ hkept _ => ?_
      exact ih fun b' hb' u hu => h b' (List.mem_cons_of_mem b hb') u (hkept.trans hu)

theorem Safe.recover {setting : Setting} {work : Build σ Unit}
    (h : U.Safe d work fun _ _ => True) :
    U.Safe d (Build.recover setting work) fun _ _ => True := by
  intro hd
  refine Ends.tryCatch (h hd) fun e t ht => ?_
  obtain ⟨hsound, hkept⟩ := ht
  split
  · exact ends_throw ⟨hsound, hkept⟩
  · have hreport : U.Safe t (Build.report setting e) fun _ _ => True := safe_report trivial
    exact (hreport hsound).mono (fun _ _ _ hu => ⟨hu.1, hkept.trans hu.2.1, trivial⟩)
      fun _ hu => ⟨hu.1, hkept.trans hu.2⟩

/-- What is good for a database is good for later ones. -/
def Lasting (Q : β → Database → Prop) : Prop :=
  ∀ {b : β} {db db' : Database}, db.Kept db' → Q b db → Q b db'

theorem safe_mapM {γ : Type} {g : β → Build σ γ} {R : γ → Database → Prop} (hR : Lasting R)
    {bs : List β}
    (h : ∀ b ∈ bs, ∀ t, d.database.Kept t.database → U.Safe t (g b) R) :
    U.Safe d (bs.mapM g) fun cs db => ∀ c ∈ cs, R c db := by
  induction bs generalizing d with
  | nil =>
      rw [List.mapM_nil]
      exact safe_pure (by simp)
  | cons b rest ih =>
      rw [List.mapM_cons]
      refine (h b List.mem_cons_self d (.refl _)).bind fun c t _ hkept hc => ?_
      refine (ih fun b' hb' u hu => h b' (List.mem_cons_of_mem b hb') u (hkept.trans hu)).bind
        fun cs u _ hkept' hcs => ?_
      refine safe_pure fun c' hc' => ?_
      rcases List.mem_cons.mp hc' with rfl | hrest
      · exact hR hkept' hc
      · exact hcs c' hrest

theorem safe_foldlM {g : α → β → Build σ α} {bs : List β}
    (h : ∀ a, ∀ b ∈ bs, ∀ t, d.database.Kept t.database → Q a t.database → U.Safe t (g a b) Q)
    {a : α} (ha : Q a d.database) : U.Safe d (bs.foldlM g a) Q := by
  induction bs generalizing d a with
  | nil => exact safe_pure ha
  | cons b rest ih =>
      rw [List.foldlM_cons]
      refine (h a b List.mem_cons_self d (.refl _) ha).bind fun a' t _ hkept ha' => ?_
      exact ih (fun a'' b' hb' u hu => h a'' b' (List.mem_cons_of_mem b hb') u (hkept.trans hu)) ha'

/-- Safe work leads to sound drafts. -/
theorem Safe.leads {t : Draft σ} (h : U.Safe d x Q) (hd : U.Sound d) (hx : Leads x d t) :
    U.Sound t ∧ d.database.Kept t.database := by
  have hend := h hd
  unfold Leads at hx
  unfold Ends at hend hx
  cases hrun : x d with
  | ok a u =>
      rw [hrun] at hend hx
      subst hx
      exact ⟨hend.1, hend.2.1⟩
  | error e u =>
      rw [hrun] at hend hx
      subst hx
      exact hend

/-! ## Header parameters -/

theorem safe_unsignedTypeRef (size : Nat) :
    U.Safe d (unsignedTypeRef size) fun r db => db.Resolves r := by
  unfold unsignedTypeRef
  refine Safe.database fun _ => ?_
  split
  · rename_i type hfind
    exact safe_pure (Database.resolves_ref.mpr (Catalog.lt_size_of_find? hfind))
  · refine safe_add fun hd a db hadd => ?_
    exact hd.wired.addParameterType (Database.resolves_of_eq_nil rfl) hadd

theorem safe_addUnsigned (name : String) (size : Nat) :
    U.Safe d (addUnsigned name size) fun r db => db.Resolves r := by
  unfold addUnsigned
  refine (safe_unsignedTypeRef size).bind fun type t _ _ htype => ?_
  exact safe_add fun ht a db hadd => ht.wired.addParameter htype hadd

theorem safe_unsignedOrNew (name : String) (size : Nat) :
    U.Safe d (unsignedOrNew name size) fun r db => db.Resolves r := by
  unfold unsignedOrNew
  refine Safe.database fun _ => ?_
  split
  · rename_i parameter hfind
    exact safe_pure (Database.resolves_ref.mpr (Catalog.lt_size_of_find? hfind))
  · exact safe_addUnsigned name size

theorem safe_echoedRequest : U.Safe d echoedRequest fun rs db => db.Resolves rs := by
  unfold echoedRequest
  refine (safe_unsignedOrNew _ _).bind fun apid t _ _ hapid => ?_
  refine (safe_unsignedOrNew _ _).bind fun count u _ hkept hcount => ?_
  exact safe_pure (Database.resolves_pair.mpr ⟨hapid.kept hkept, hcount⟩)

end Upkeep

end MissionBase
