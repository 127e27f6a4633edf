import MissionBase.Proofs.Rearrangement.Sorting
import MissionBase.Proofs.Steps

/-!
# Tables gathered by owner

Some tables are read into lists, one list for each owner, and sorted by a key when they have been
read. What an owner has then is said by the records alone: the items that they give to it, by key,
and items with the same key in the order of the table.
-/

namespace MissionBase

open Run

variable {κ α σ : Type} [DecidableEq κ]

namespace Index

/-- The items of an owner by key; items with the same key stand as they are given. -/
def sortedItems (key : α → Int) (items : List (κ × α)) (owner : κ) : List α :=
  sortByKey key (itemsOf owner items)

/-- An owner has its items in a gathered index, and is not known if it has none. -/
theorem find?_gathered (key : α → Int) (items : List (κ × α)) (owner : κ) :
    ((({} : Index κ (List α)).gather items).sortLists key).find? owner =
      if sortedItems key items owner = [] then none else some (sortedItems key items owner) := by
  have hnil : sortedItems key items owner = [] ↔ itemsOf owner items = [] := by
    unfold sortedItems
    rw [← List.length_eq_zero_iff, (sortByKey_perm key _).length_eq, List.length_eq_zero_iff]
  unfold sortLists
  rw [find?_mapValues, find?_gather]
  by_cases hitems : itemsOf owner items = []
  · rw [if_pos hitems, if_pos (hnil.mpr hitems)]
    rfl
  · rw [if_neg hitems, if_neg fun h => hitems (hnil.mp h)]
    rfl

theorem gather_append (index : Index κ (List α)) (items items' : List (κ × α)) :
    (index.gather items).gather items' = index.gather (items ++ items') := by
  unfold gather
  rw [List.foldl_append]

end Index

/-- **A scan gathers what its records give**, if each record gives at most one item, and a record
that is refused gives none. -/
theorem Run.ends_scanGather {setting : Setting} {table : String} {handle : Row → Build σ Unit}
    {rows : List Row} {item? : Row → Option (κ × α)} (index : σ → Index κ (List α))
    (hrows : Build.rows setting table = .ok rows)
    (hhandle : ∀ row d, Ends (handle row) d
      (fun _ t => index t.stage = (index d.stage).gather (item? row).toList)
      fun t => index t.stage = (index d.stage).gather (item? row).toList) (d : Draft σ) :
    Ends (Build.scan setting table handle) d
      (fun _ t => index t.stage = (index d.stage).gather (rows.filterMap item?))
      fun _ => True := by
  have hscan := ends_scanFold (I := fun gathered (t : Draft σ) => index t.stage = gathered)
    (f := fun gathered row => gathered.gather (item? row).toList) hrows (fun _ _ _ h => h)
    (fun gathered row d hd => hd ▸ hhandle row d) (b := index d.stage) (d := d) rfl
  refine hscan.mono (fun _ t _ ht => ?_) fun _ h => h
  rw [ht]
  -- one record after the other is all items at once
  have hfold (gathered : Index κ (List α)) :
      rows.foldl (fun gathered row => gathered.gather (item? row).toList) gathered =
        gathered.gather (rows.filterMap item?) := by
    clear hscan ht hrows
    induction rows generalizing gathered with
    | nil => rfl
    | cons row rest ih =>
        rw [List.foldl_cons, ih, Index.gather_append, List.filterMap_cons]
        cases item? row <;> rfl
  exact hfold _

end MissionBase
