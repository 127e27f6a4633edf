import MissionBase.Proofs.Database
import MissionBase.Proofs.Index

/-!
# References that resolve

Elements refer to each other by their places. The targets of something are all the places that it
holds, whatever their kind and however deep; it resolves in a database if every target is a place
that is taken. Nothing ever leaves a catalog, so what resolves once resolves for good.
-/

namespace MissionBase

/-- A place of some kind. -/
structure Target where
  kind : Kind
  index : Nat
  deriving Repr, DecidableEq

/-- What holds references. -/
class Refers (α : Type) where
  targets : α → List Target

open Refers

/-! ## The references of the elements -/

section

variable {α β : Type} [Refers α] [Refers β]

instance {kind : Kind} : Refers (Ref kind) := ⟨fun r => [⟨kind, r.index⟩]⟩

instance : Refers (Option α) := ⟨fun x => x.toList.flatMap targets⟩

instance : Refers (List α) := ⟨fun xs => xs.flatMap targets⟩

instance : Refers (α × β) := ⟨fun x => targets x.1 ++ targets x.2⟩

end

instance : Refers Comparison := ⟨fun c => targets c.parameter⟩

instance : Refers Criteria := ⟨fun c => targets c.toList⟩

instance : Refers ContextCalibrator := ⟨fun c => targets c.context⟩

instance : Refers RecordMember := ⟨fun m => targets m.type⟩

instance : Refers ValueType where
  targets
    | .array element _ => targets element
    | .record members => targets members
    | _ => []

instance : Refers LabelAlarm := ⟨fun a => targets a.context⟩

instance : Refers RangeAlarm := ⟨fun a => targets a.context⟩

instance : Refers Alarm where
  targets
    | .enumeration items => targets items
    | .numeric alarms => targets alarms

instance : Refers ParameterType :=
  ⟨fun t => targets t.value ++ targets t.contextCalibrators ++ targets t.alarm⟩

instance : Refers Parameter := ⟨fun p => targets p.type⟩

instance : Refers RepeatCount where
  targets
    | .fixed _ => []
    | .dynamic p => targets p

instance : Refers Repeat := ⟨fun r => targets r.count⟩

instance : Refers EntryItem where
  targets
    | .parameter p => targets p
    | .indirect selector _ => targets selector
    | .container c => targets c

instance : Refers Entry := ⟨fun e => targets e.repetition ++ targets e.item⟩

instance : Refers Container :=
  ⟨fun c => targets c.base ++ targets c.restriction ++ targets c.entries⟩

instance : Refers ArgumentType := ⟨fun t => targets t.value⟩

instance : Refers Argument := ⟨fun a => targets a.type ++ targets a.dynamicDefault⟩

instance : Refers FixedArguments := ⟨fun s => targets s.arguments⟩

instance : Refers VerifierCheck where
  targets
    | .container c => targets c
    | .algorithm a _ => targets a
    | .parameters criteria => targets criteria

instance : Refers Verifier := ⟨fun v => targets v.check⟩

instance : Refers Constraint := ⟨fun c => targets c.criteria⟩

instance : Refers Command :=
  ⟨fun c => targets c.base ++ targets c.fixedArguments ++ targets c.arguments ++
    targets c.constraints ++ targets c.verifiers⟩

instance : Refers AlgorithmInput := ⟨fun i => targets i.parameter⟩

instance : Refers Algorithm :=
  ⟨fun a => targets a.inputs ++ targets a.triggers ++ targets a.outputs⟩

instance {kind : Kind} {α : Type} [Refers α] : Refers (Catalog kind α) :=
  ⟨fun c => targets c.toList⟩

instance {κ α : Type} [Refers α] : Refers (Index κ α) := ⟨fun i => targets (i.entries.map (·.2))⟩

/-- All references of a database. -/
instance : Refers Database :=
  ⟨fun db => targets db.parameterTypes ++ targets db.parameters ++ targets db.containers ++
    targets db.argumentTypes ++ targets db.commands ++ targets db.algorithms ++
    targets (db.aliasOwners.map (·.2))⟩

namespace Database

/-- The number of elements of a kind. -/
def count (db : Database) : Kind → Nat
  | .parameterType => db.parameterTypes.size
  | .parameter => db.parameters.size
  | .container => db.containers.size
  | .argumentType => db.argumentTypes.size
  | .command => db.commands.size
  | .algorithm => db.algorithms.size

/-- Every reference that something holds is to an element of the database. -/
def Resolves {α : Type} [Refers α] (db : Database) (x : α) : Prop :=
  ∀ t ∈ targets x, t.index < db.count t.kind

/-! ## What resolves -/

section

variable {α β : Type} [Refers α] [Refers β] {db db' : Database}

@[simp] theorem resolves_ref {kind : Kind} {r : Ref kind} :
    db.Resolves r ↔ r.index < db.count kind := by
  simp [Resolves, targets]

/-- What refers to nothing resolves everywhere. -/
theorem resolves_of_eq_nil {x : α} (h : targets x = []) : db.Resolves x := by
  intro t ht
  rw [h] at ht
  cases ht

@[simp] theorem resolves_none : db.Resolves (none : Option α) := by
  simp [Resolves, targets]

@[simp] theorem resolves_some {x : α} : db.Resolves (some x) ↔ db.Resolves x := by
  simp [Resolves, targets]

theorem resolves_list {xs : List α} : db.Resolves xs ↔ ∀ x ∈ xs, db.Resolves x := by
  simp only [Resolves, targets, List.mem_flatMap, forall_exists_index, and_imp]
  exact ⟨fun h x hx t ht => h t x hx ht, fun h t x hx ht => h x hx t ht⟩

@[simp] theorem resolves_nil : db.Resolves ([] : List α) := by
  simp [resolves_list]

@[simp] theorem resolves_cons {x : α} {xs : List α} :
    db.Resolves (x :: xs) ↔ db.Resolves x ∧ db.Resolves xs := by
  simp [resolves_list]

@[simp] theorem resolves_append {xs ys : List α} :
    db.Resolves (xs ++ ys) ↔ db.Resolves xs ∧ db.Resolves ys := by
  simp [resolves_list, or_imp, forall_and]

@[simp] theorem resolves_pair {x : α × β} : db.Resolves x ↔ db.Resolves x.1 ∧ db.Resolves x.2 := by
  simp [Resolves, targets, or_imp, forall_and]

theorem resolves_parameterType {t : ParameterType} :
    db.Resolves t ↔
      db.Resolves t.value ∧ db.Resolves t.contextCalibrators ∧ db.Resolves t.alarm := by
  simp [Resolves, targets, or_imp, forall_and]

theorem resolves_entry {e : Entry} :
    db.Resolves e ↔ db.Resolves e.repetition ∧ db.Resolves e.item := by
  simp [Resolves, targets, or_imp, forall_and]

theorem resolves_container {c : Container} :
    db.Resolves c ↔ db.Resolves c.base ∧ db.Resolves c.restriction ∧ db.Resolves c.entries := by
  simp [Resolves, targets, or_imp, forall_and]

theorem resolves_argument {a : Argument} :
    db.Resolves a ↔ db.Resolves a.type ∧ db.Resolves a.dynamicDefault := by
  simp [Resolves, targets, or_imp, forall_and]

theorem resolves_command {c : Command} :
    db.Resolves c ↔ db.Resolves c.base ∧ db.Resolves c.fixedArguments ∧
      db.Resolves c.arguments ∧ db.Resolves c.constraints ∧ db.Resolves c.verifiers := by
  simp [Resolves, targets, or_imp, forall_and]

theorem resolves_algorithm {a : Algorithm} :
    db.Resolves a ↔ db.Resolves a.inputs ∧ db.Resolves a.triggers ∧ db.Resolves a.outputs := by
  simp [Resolves, targets, or_imp, forall_and]

theorem resolves_database {db' : Database} :
    db.Resolves db' ↔ db.Resolves db'.parameterTypes ∧ db.Resolves db'.parameters ∧
      db.Resolves db'.containers ∧ db.Resolves db'.argumentTypes ∧ db.Resolves db'.commands ∧
      db.Resolves db'.algorithms ∧ db.Resolves (db'.aliasOwners.map (·.2)) := by
  simp only [Resolves, targets, List.mem_append, or_imp, forall_and, and_assoc]

theorem resolves_comparisons {criteria : Criteria} {cs : List Comparison}
    (h : Criteria.ofList? cs = some criteria) (hcs : db.Resolves cs) : db.Resolves criteria := by
  show db.Resolves criteria.toList
  rwa [Criteria.toList_ofList? h]

/-- Criteria resolve if their comparisons do. -/
theorem resolves_ofList? {cs : List Comparison} (hcs : db.Resolves cs) :
    db.Resolves (Criteria.ofList? cs) := by
  cases h : Criteria.ofList? cs with
  | none => exact resolves_none
  | some criteria => exact resolves_some.mpr (resolves_comparisons h hcs)

/-! ### Catalogs -/

variable {kind : Kind} {c : Catalog kind α}

theorem resolves_catalog : db.Resolves c ↔ ∀ r x, c.get? r = some x → db.Resolves x := by
  show db.Resolves c.toList ↔ _
  rw [resolves_list]
  constructor
  · intro h r x hx
    exact h x (Array.mem_toList_iff.mpr (Array.mem_of_getElem? hx))
  · intro h x hx
    obtain ⟨i, hi, rfl⟩ := Array.getElem_of_mem (Array.mem_toList_iff.mp hx)
    exact h ⟨i⟩ _ (Array.getElem?_eq_getElem hi)

theorem resolves_push {x : α} : db.Resolves (c.push x) ↔ db.Resolves c ∧ db.Resolves x := by
  show db.Resolves (c.push x).toList ↔ db.Resolves c.toList ∧ _
  rw [Catalog.toList_push, resolves_append, resolves_cons, and_iff_left resolves_nil]

/-- A catalog still resolves after a change of one element if the changed element does. -/
theorem Resolves.modify (h : db.Resolves c) {r : Ref kind} {change : α → α}
    (hchange : ∀ x, c.get? r = some x → db.Resolves x → db.Resolves (change x)) :
    db.Resolves (c.modify r change) := by
  rw [resolves_catalog] at h ⊢
  intro q y hy
  obtain ⟨x, hx, ⟨rfl, rfl⟩ | ⟨-, rfl⟩⟩ := Catalog.get?_modify_eq_some hy
  · exact hchange x hx (h r x hx)
  · exact h q x hx

/-! ### Indexes -/

variable {κ : Type} {index : Index κ α}

theorem resolves_index : db.Resolves index ↔ ∀ e ∈ index.entries, db.Resolves e.2 := by
  show db.Resolves (index.entries.map (·.2)) ↔ _
  rw [resolves_list, List.forall_mem_map]

/-- What an index without entries holds. -/
theorem resolves_empty : db.Resolves ({} : Index κ α) := resolves_index.mpr (by simp)

variable [DecidableEq κ]

/-- What is found in an index that resolves. -/
theorem Resolves.find? (h : db.Resolves index) {key : κ} {x : α} (hx : index.find? key = some x) :
    db.Resolves x := resolves_index.mp h _ (Index.mem_of_find? hx)

theorem Resolves.change (h : db.Resolves index) {key : κ} {f : Option α → α}
    (hf : ∀ old : Option α, db.Resolves old → db.Resolves (f old)) :
    db.Resolves (index.change key f) := by
  rw [resolves_index] at h ⊢
  intro e he
  rcases Index.mem_changeEntries he with hold | ⟨-, hnone⟩ | ⟨old, hold, hsome⟩
  · exact h e hold
  · rw [hnone]
    exact hf none resolves_none
  · rw [hsome]
    exact hf (some old.2) (resolves_some.mpr (h old hold))

theorem Resolves.set (h : db.Resolves index) {key : κ} {x : α} (hx : db.Resolves x) :
    db.Resolves (index.set key x) := h.change fun _ _ => hx

end

end Database

end MissionBase
