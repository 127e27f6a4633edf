import MissionBase.Proofs.Commanding.FirstElement
import MissionBase.Proofs.DeclaredTypes

/-!
# Relations that placing elements steps in

Placing the elements of a command changes the database in one way, by types of arguments, and the
stage in one way, by what is kept of them. So a relation that these few changes step in is one that
the placement of any elements steps in. The first such relation says so itself: placing elements
leaves nothing in the database but types (`LeavesTypes`).

The types are those of single arguments, which are no records, and those of groups.
-/

namespace MissionBase

/-- Members that are repeated together. -/
def ValueType.isRecord : ValueType → Bool
  | record _ => true
  | _ => false

namespace CommandParameter

variable {p : CommandParameter} {calibrations : Registry} {t : ArgumentType}

/-- **The type of a single argument is no record.** -/
theorem buildType_isRecord {epoch : Epoch} {tag : Int}
    (h : p.buildType epoch calibrations tag = .ok t) : t.value.isRecord = false := by
  obtain ⟨own, _, _, _, hmade, rfl⟩ := buildType_eq_ok h
  show own.value.isRecord = false
  cases hmade with
  | calibrated =>
      dsimp only [CommandParameter.typeOf, CurveDefinition.valueType]
      split_ifs <;> rfl
  | labelled => rfl
  | natural _ hvalue =>
      unfold ValueType.natural? at hvalue
      split at hvalue <;> cases hvalue <;> rfl
  | @plain value _ hvalue => cases value <;> first | rfl | cases hvalue

end CommandParameter

namespace Commanding

open Run

variable {setting : Setting} {d t : Draft CommandingState}

section

variable {R : Draft CommandingState → Draft CommandingState → Prop}
  [Std.Refl R] [IsTrans (Draft CommandingState) R]

/-- The type of an argument is new and kept, or it is there. -/
theorem steps_argumentTypeFor
    (htype : ∀ t : ArgumentType, t.value.isRecord = false → Steps R (addArgumentType t))
    (hkeep : ∀ key r, Steps R (Build.changeStage fun s => { s with
      argumentTypes := s.argumentTypes.set key r } : CommandingBuild Unit))
    (hidentifier : ∀ pfc r, Steps R (Build.changeStage fun s => { s with
      identifierTypes := s.identifierTypes.set pfc r } : CommandingBuild Unit))
    (p : CommandParameter) (tag : Int) : Steps R (argumentTypeFor setting p tag) := by
  intro d
  refine ends_argumentTypeFor (fun _ => ends_identifierType (Std.Refl.refl d)
    (fun _ _ _ => Std.Refl.refl d) fun _ _ e _ => ?_) (Std.Refl.refl d)
    (fun _ _ _ => Std.Refl.refl d) fun _ _ t ht => ?_
  · exact IsTrans.trans _ _ _ ((htype (identifierEnumeration d.database p.pfc e) rfl).of_ok rfl)
      ((hidentifier _ _).of_ok rfl)
  · exact IsTrans.trans _ _ _ ((htype t (CommandParameter.buildType_isRecord ht)).of_ok rfl)
      ((hkeep _ _).of_ok rfl)

section

variable (hargument : ∀ p tag, Steps R (argumentTypeFor setting p tag))
include hargument

theorem steps_argumentOf (element : CommandElement) : Steps R (argumentOf setting element) := by
  unfold argumentOf
  refine steps_stage.bind fun state => (steps_lift _).bind fun p => ?_
  exact (hargument p _).bind fun type => steps_database.bind fun db => steps_lift _

theorem steps_placeArgument (command : Command) (element : CommandElement) :
    Steps R (placeArgument setting command element) := by
  unfold placeArgument
  refine (steps_argumentOf hargument element).bind fun argument => ?_
  dsimp only
  split
  · exact steps_stage.bind fun state => (steps_lift _).bind fun value => steps_pure _
  · exact steps_pure _

variable (hgroup : ∀ name (value : ValueType), value.isNumeric = false →
  value.isEnumerated = false → Steps R (addArgumentType { name := name, value := value }))
include hgroup

theorem steps_placeGroup (command : Command) (counter : String) (members : List CommandElement) :
    Steps R (placeGroup setting command counter members) := by
  unfold placeGroup
  refine (steps_lift _).bind fun _ => Steps.bind (steps_mapM (fun m => ?_) _) fun fields => ?_
  · exact (steps_argumentOf hargument m).bind fun _ => steps_pure _
  · refine Steps.bind ?_ fun element => (hgroup _ _ rfl rfl).bind fun _ => steps_pure _
    unfold groupElement
    split
    · exact steps_pure _
    · exact (hgroup _ _ rfl rfl).bind fun _ => steps_pure _

variable (hlimitation : ∀ m, Steps R (Build.limitation m))
include hlimitation

theorem steps_placeFirst (command : Command) (element : CommandElement)
    (rest : List CommandElement) : Steps R (placeFirst setting command element rest) := by
  intro d
  apply ends_placeFirst (A := fun _ t => R d t)
  case hfails => exact Std.Refl.refl d
  case harea => exact fun _ _ _ => Std.Refl.refl d
  case hargument => exact fun _ => steps_placeArgument hargument command element d
  case hplain => exact fun _ _ _ _ _ ht => ht
  case hoverrun => exact fun _ _ ht => ht
  case honce =>
    intro _ _ _ _ _ t ht m
    exact (hlimitation m t).after ht
  case hgroup =>
    intro _ _ _ _ _ _ t ht
    exact (steps_placeGroup hargument hgroup _ _ _ t).after ht

/-- **Elements step where the types of their arguments and of their groups do.** -/
theorem steps_placeElements (elements : List CommandElement) (command : Command) :
    Steps R (placeElements setting command elements) := by
  induction elements using elements_induction generalizing command with
  | nil =>
      rw [placeElements_nil]
      exact steps_pure command
  | cons element rest ih =>
      rw [placeElements_cons]
      exact (steps_placeFirst hargument hgroup hlimitation command element rest).bind
        fun x => ih x.2 x.1

end

end

/-! ## Nothing but types -/

/-- A step that changes nothing in the database, save that types of arguments come last. -/
structure LeavesTypes (d t : Draft CommandingState) : Prop where
  others : t.database = { d.database with argumentTypes := t.database.argumentTypes }
  types : d.database.argumentTypes.toList <+: t.database.argumentTypes.toList

instance : Std.Refl LeavesTypes := ⟨fun _ => ⟨rfl, List.prefix_rfl⟩⟩

instance : IsTrans (Draft CommandingState) LeavesTypes := by
  refine ⟨fun _ _ _ h h' => ⟨?_, h.types.trans h'.types⟩⟩
  rw [h'.others, h.others]

theorem leavesTypes_of_same (h : t.database = d.database) : LeavesTypes d t := by
  refine ⟨by rw [h], ?_⟩
  have htypes : d.database.argumentTypes.toList = t.database.argumentTypes.toList := by rw [h]
  exact htypes ▸ List.prefix_rfl

theorem leavesTypes_addArgumentType (type : ArgumentType) :
    Steps LeavesTypes (addArgumentType type) := by
  intro d
  have hadded : LeavesTypes d { d with database := (d.database.addArgumentType type).2 } := by
    refine ⟨rfl, ?_⟩
    exact ⟨_, (Catalog.toList_push _ _).symm⟩
  exact hadded

theorem leavesTypes_changeStage (f : CommandingState → CommandingState) :
    Steps LeavesTypes (Build.changeStage f) :=
  steps_modify fun _ => leavesTypes_of_same rfl

theorem leavesTypes_limitation (m : String) :
    Steps LeavesTypes (Build.limitation m : CommandingBuild Unit) :=
  steps_modify fun _ => leavesTypes_of_same rfl

theorem leavesTypes_argumentTypeFor (p : CommandParameter) (tag : Int) :
    Steps LeavesTypes (argumentTypeFor setting p tag) :=
  steps_argumentTypeFor (fun t _ => leavesTypes_addArgumentType t)
    (fun _ _ => leavesTypes_changeStage _)
    (fun _ _ => leavesTypes_changeStage _) p tag

/-- **Placing elements leaves nothing but types.** -/
theorem leavesTypes_placeElements (elements : List CommandElement) (c : Command) :
    Steps LeavesTypes (placeElements setting c elements) :=
  steps_placeElements leavesTypes_argumentTypeFor (fun _ _ _ _ => leavesTypes_addArgumentType _)
    leavesTypes_limitation elements c

theorem LeavesTypes.size_le (h : LeavesTypes d t) :
    d.database.argumentTypes.size ≤ t.database.argumentTypes.size := by
  simpa [Catalog.toList, Catalog.size] using h.types.length_le

/-- A type stays at its place. -/
theorem LeavesTypes.get? (h : LeavesTypes d t) {r : ArgumentTypeRef} {type : ArgumentType}
    (hr : d.database.argumentTypes.get? r = some type) :
    t.database.argumentTypes.get? r = some type := by
  unfold Catalog.get? at hr ⊢
  rw [← Array.getElem?_toList] at hr ⊢
  obtain ⟨more, hmore⟩ := h.types
  have hlt := (List.getElem?_eq_some_iff.mp hr).1
  rw [show t.database.argumentTypes.items.toList = _ from hmore.symm]
  exact (List.getElem?_append_left hlt).trans hr

end Commanding

end MissionBase
