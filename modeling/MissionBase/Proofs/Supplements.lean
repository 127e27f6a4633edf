import MissionBase.Database.Echo
import MissionBase.Proofs.Additions
import MissionBase.Proofs.Compatibility
import Mathlib.Logic.Relation

/-!
# What is added besides declared parameters

Apart from the parameters that the tables declare, the stages add to parameters and to types in a
few ways only: natural numbers of some bits, parameters without an alias, and types of arguments.
A computation that makes nothing but such additions steps in every relation between databases that
each of them keeps, so it is enough to look at the additions one by one.
-/

namespace MissionBase

open Run

variable {σ τ : Type} {key : σ → τ} {setting : Setting}

/-- One addition to parameters or to types besides the declared ones, or a change elsewhere. -/
inductive Supplement : Database → Database → Prop where
  | elsewhere {db db' : Database} : db'.parameterTypes = db.parameterTypes →
      db'.parameters = db.parameters → db'.aliasOwners = db.aliasOwners →
      db'.argumentTypes = db.argumentTypes → Supplement db db'
  | unsignedType {db db' : Database} {r : ParameterTypeRef} (size : Nat) :
      db.addParameterType (unsignedType size) = .ok (r, db') → Supplement db db'
  | parameter {db db' : Database} {r : ParameterRef} {p : Parameter} : p.aliases = [] →
      db.addParameter p = .ok (r, db') → Supplement db db'
  | argumentType {db : Database} {t : ArgumentType} : t.Compatible →
      Supplement db (db.addArgumentType t).2

/-- Any number of such additions, while a part of the state of the stage stays what it is. -/
structure Supplies (key : σ → τ) (d t : Draft σ) : Prop where
  database : Relation.ReflTransGen Supplement d.database t.database
  stage : key t.stage = key d.stage

instance : Std.Refl (Supplies key) := ⟨fun _ => ⟨.refl, rfl⟩⟩

instance : IsTrans (Draft σ) (Supplies key) :=
  ⟨fun _ _ _ h h' => ⟨h.database.trans h'.database, h'.stage.trans h.stage⟩⟩

/-- **A relation that every single addition keeps is kept by any number of them.** -/
theorem Supplement.induct {R : Database → Database → Prop} [Std.Refl R] [IsTrans Database R]
    {db db' : Database} (h : Relation.ReflTransGen Supplement db db')
    (hone : ∀ db db', Supplement db db' → R db db') : R db db' := by
  induction h with
  | refl => exact Std.Refl.refl _
  | tail _ hlast ih => exact IsTrans.trans _ _ _ ih (hone _ _ hlast)

/-- A relation between databases, as one between drafts. -/
def OnDatabase (R : Database → Database → Prop) (d t : Draft σ) : Prop := R d.database t.database

section

variable {R : Database → Database → Prop} [Std.Refl R]

instance : Std.Refl (OnDatabase R : Draft σ → Draft σ → Prop) := ⟨fun d => Std.Refl.refl d.database⟩

instance [IsTrans Database R] : IsTrans (Draft σ) (OnDatabase R) :=
  ⟨fun d t u h h' => IsTrans.trans d.database t.database u.database h h'⟩

/-- A computation that only adds steps in what every single addition keeps. -/
theorem steps_of_supplies [IsTrans Database R] {α : Type} {x : Build σ α}
    (hone : ∀ db db', Supplement db db' → R db db') (h : Steps (Supplies key) x) :
    Steps (OnDatabase R) x := h.mono fun _ _ hst => Supplement.induct hst.database hone

end

/-! ## Changes elsewhere -/

theorem supplies_stage {change : σ → σ} (h : ∀ s, key (change s) = key s) :
    Steps (Supplies key) (Build.changeStage change : Build σ Unit) :=
  steps_modify fun _ => ⟨.refl, h _⟩

theorem supplies_limitation (m : String) :
    Steps (Supplies key) (Build.limitation m : Build σ Unit) := steps_modify fun _ => ⟨.refl, rfl⟩

/-- A change of the database that touches neither parameters nor types. -/
theorem supplies_change {change : Database → Database}
    (htypes : ∀ db, (change db).parameterTypes = db.parameterTypes)
    (hparameters : ∀ db, (change db).parameters = db.parameters)
    (howners : ∀ db, (change db).aliasOwners = db.aliasOwners)
    (harguments : ∀ db, (change db).argumentTypes = db.argumentTypes) :
    Steps (Supplies key) (Build.changeDatabase change : Build σ Unit) :=
  steps_modify fun _ =>
    ⟨.single (.elsewhere (htypes _) (hparameters _) (howners _) (harguments _)), rfl⟩

theorem supplies_changeContainer (r : ContainerRef) (change : Container → Container) :
    Steps (Supplies key)
      (Build.changeDatabase fun db => db.changeContainer r change : Build σ Unit) :=
  supplies_change (fun _ => rfl) (fun _ => rfl) (fun _ => rfl) fun _ => rfl

theorem supplies_changeCommand (r : CommandRef) (change : Command → Command) :
    Steps (Supplies key)
      (Build.changeDatabase fun db => db.changeCommand r change : Build σ Unit) :=
  supplies_change (fun _ => rfl) (fun _ => rfl) (fun _ => rfl) fun _ => rfl

theorem supplies_addContainer (refused : String → Error) (c : Container) :
    Steps (Supplies key) (Build.add refused fun db => db.addContainer c : Build σ ContainerRef) :=
  steps_addContainer fun _ _ => ⟨.single (.elsewhere rfl rfl rfl rfl), rfl⟩

theorem supplies_addCommand (refused : String → Error) (c : Command) :
    Steps (Supplies key) (Build.add refused fun db => db.addCommand c : Build σ CommandRef) :=
  steps_addCommand fun _ _ => ⟨.single (.elsewhere rfl rfl rfl rfl), rfl⟩

theorem supplies_addAlgorithm (refused : String → Error) (a : Algorithm) :
    Steps (Supplies key) (Build.add refused fun db => db.addAlgorithm a : Build σ AlgorithmRef) :=
  steps_addAlgorithm fun _ _ => ⟨.single (.elsewhere rfl rfl rfl rfl), rfl⟩

/-! ## Parameters of packet headers -/

theorem supplies_addUnsigned (name : String) (size : Nat) :
    Steps (Supplies key) (addUnsigned name size : Build σ ParameterRef) :=
  steps_addUnsigned (fun size => steps_add fun _ _ _ h => ⟨.single (.unsignedType size h), rfl⟩)
    (fun _ _ => steps_add fun _ _ _ h => ⟨.single (.parameter rfl h), rfl⟩) name size

theorem supplies_echoedRequest :
    Steps (Supplies key) (echoedRequest : Build σ (ParameterRef × ParameterRef)) :=
  steps_echoedRequest supplies_addUnsigned

end MissionBase
