import MissionBase.Proofs.Index
import Mathlib.Data.List.Perm.Basic

/-!
# Rearranged lists

A list is rearranged by a permutation that keeps the order of items with the same key. What is
gathered by owner from such lists and sorted by key is the same: sorting brings the keys in order,
and items with the same key come as they came before.
-/

namespace MissionBase

/-- A permutation that keeps the order of items with the same key. Items without a key may go
anywhere. -/
structure Rearranged {α κ : Type} [DecidableEq κ] (keyOf : α → Option κ) (items items' : List α) :
    Prop where
  perm : items.Perm items'
  order : ∀ key, items.filter (fun a => decide (keyOf a = some key)) =
    items'.filter fun a => decide (keyOf a = some key)

/-- What is taken from items of the same key is rearranged as they are. -/
theorem Rearranged.filterMap {α β κ : Type} [DecidableEq κ] {keyOf : α → Option κ}
    {items items' : List α} (h : Rearranged keyOf items items') {g : α → Option β} {key : β → κ}
    (hg : ∀ a b, g a = some b → keyOf a = some (key b)) :
    Rearranged (fun b => some (key b)) (items.filterMap g) (items'.filterMap g) := by
  have hfilter (k : κ) (l : List α) :
      (l.filterMap g).filter (fun b => decide (some (key b) = some k)) =
        (l.filter fun a => decide (keyOf a = some k)).filterMap g := by
    rw [List.filter_filterMap, List.filterMap_filter]
    refine List.filterMap_congr fun a _ => ?_
    cases hb : g a with
    | none => simp
    | some b => simp [hg a b hb, Option.filter]
  exact ⟨h.perm.filterMap g, fun k => by rw [hfilter, hfilter, h.order]⟩

namespace Index

/-! ## Sorting by key -/

/-- Sorted lists that agree at every key are equal. -/
theorem eq_of_pairwise_of_filter {α : Type} {key : α → Int} :
    ∀ {xs ys : List α}, xs.Pairwise (fun a b => key a ≤ key b) →
      ys.Pairwise (fun a b => key a ≤ key b) →
      (∀ k, xs.filter (fun a => decide (key a = k)) = ys.filter fun a => decide (key a = k)) →
      xs = ys
  | [], [], _, _, _ => rfl
  | [], b :: ys, _, _, h => by simpa using h (key b)
  | a :: xs, [], _, _, h => by simpa using h (key a)
  | a :: xs, b :: ys, hxs, hys, h => by
      obtain ⟨hax, hxs'⟩ := List.pairwise_cons.mp hxs
      obtain ⟨hby, hys'⟩ := List.pairwise_cons.mp hys
      -- a list whose first key is larger has nothing at the smaller key
      have hnone {c : α} {zs : List α} {k : Int} (hk : k < key c)
          (hc : ∀ z ∈ zs, key c ≤ key z) :
          (c :: zs).filter (fun z => decide (key z = k)) = [] := by
        refine List.filter_eq_nil_iff.mpr fun z hz => ?_
        rw [decide_eq_true_eq]
        rcases List.mem_cons.mp hz with rfl | hz
        · omega
        · have := hc z hz
          omega
      have hkey : key a = key b := by
        rcases Int.lt_trichotomy (key a) (key b) with hlt | heq | hgt
        · have ha := h (key a)
          rw [hnone hlt hby] at ha
          simp at ha
        · exact heq
        · have hb := h (key b)
          rw [hnone hgt hax] at hb
          simp at hb
      have hhead := h (key a)
      rw [List.filter_cons_of_pos (by simp), List.filter_cons_of_pos (by simp [hkey])] at hhead
      obtain ⟨rfl, -⟩ := List.cons_eq_cons.mp hhead
      have htail (k : Int) : xs.filter (fun z => decide (key z = k)) =
          ys.filter fun z => decide (key z = k) := by
        have hk := h k
        rw [List.filter_cons, List.filter_cons] at hk
        split at hk
        · exact (List.cons_eq_cons.mp hk).2
        · exact hk
      exact congrArg (a :: ·) (eq_of_pairwise_of_filter hxs' hys' htail)

/-- **Lists that agree at every key are sorted to the same list.** -/
theorem sortByKey_eq_of_filter {α : Type} {key : α → Int} {xs ys : List α}
    (h : ∀ k, xs.filter (fun a => decide (key a = k)) = ys.filter fun a => decide (key a = k)) :
    sortByKey key xs = sortByKey key ys := by
  refine eq_of_pairwise_of_filter (pairwise_sortByKey xs) (pairwise_sortByKey ys) fun k => ?_
  rw [filter_sortByKey, filter_sortByKey, h]

/-- Sorting goes by the keys alone. -/
theorem map_sortByKey {α β : Type} {key : α → Int} {key' : β → Int} {view : α → β}
    (h : ∀ a, key' (view a) = key a) (items : List α) :
    (sortByKey key items).map view = sortByKey key' (items.map view) := by
  unfold sortByKey
  refine List.map_mergeSort fun a _ b _ => ?_
  rw [h, h]

/-- Permuted texts are sorted to the same list. -/
theorem mergeSort_eq_of_perm {names names' : List String} (h : names.Perm names') :
    names.mergeSort (fun a b => decide (a ≤ b)) = names'.mergeSort fun a b => decide (a ≤ b) := by
  have hsorted (l : List String) : (l.mergeSort fun a b => decide (a ≤ b)).Pairwise (· ≤ ·) :=
    (List.pairwise_mergeSort (fun a b c hab hbc => by simp at *; exact String.le_trans hab hbc)
      (fun a b => by simpa using String.le_total a b) l).imp of_decide_eq_true
  refine List.Perm.eq_of_pairwise (fun a b _ _ hab hba => String.le_antisymm hab hba)
    (hsorted names) (hsorted names') ?_
  exact (List.mergeSort_perm _ _).trans (h.trans (List.mergeSort_perm _ _).symm)

/-! ## Gathering by owner -/

variable {κ α β : Type} [DecidableEq κ]

/-- The items of an owner, in their order. -/
def itemsOf (owner : κ) (items : List (κ × α)) : List α :=
  (items.filter fun x => decide (x.1 = owner)).map (·.2)

/-- The index with items added to the lists of their owners. -/
def gather (index : Index κ (List α)) (items : List (κ × α)) : Index κ (List α) :=
  items.foldl (fun index x => index.append x.1 x.2) index

theorem itemsOf_map (view : α → β) (owner : κ) (items : List (κ × α)) :
    itemsOf owner (items.map (Prod.map id view)) = (itemsOf owner items).map view := by
  unfold itemsOf
  rw [List.filter_map, List.map_map, List.map_map]
  rfl

theorem itemsOf_cons (owner : κ) (x : κ × α) (items : List (κ × α)) :
    itemsOf owner (x :: items) = (if x.1 = owner then [x.2] else []) ++ itemsOf owner items := by
  unfold itemsOf
  by_cases h : x.1 = owner <;> simp [h]

/-- An owner is known if it has items, or was known before. -/
theorem find?_gather (owner : κ) (items : List (κ × α)) (index : Index κ (List α)) :
    (index.gather items).find? owner =
      if itemsOf owner items = [] then index.find? owner
      else some ((index.find? owner).getD [] ++ itemsOf owner items) := by
  induction items generalizing index with
  | nil => rfl
  | cons x rest ih =>
      have hrest : index.gather (x :: rest) = (index.append x.1 x.2).gather rest := rfl
      rw [hrest, ih, itemsOf_cons]
      unfold append
      by_cases hx : x.1 = owner
      · rw [hx, find?_change_self]
        by_cases hnil : itemsOf owner rest = [] <;> simp [hnil]
      · rw [find?_change_of_ne _ (Ne.symm hx), if_neg hx, List.nil_append]

theorem mem_keys_gather (owner : κ) (items : List (κ × α)) (index : Index κ (List α)) :
    owner ∈ (index.gather items).keys ↔ owner ∈ index.keys ∨ owner ∈ items.map (·.1) := by
  induction items generalizing index with
  | nil => simp [gather]
  | cons x rest ih =>
      have hrest : index.gather (x :: rest) = (index.append x.1 x.2).gather rest := rfl
      rw [hrest, ih]
      unfold append change keys
      rw [mem_keys_changeEntries]
      simp only [List.map_cons, List.mem_cons]
      tauto

theorem nodup_keys_gather (items : List (κ × α)) (index : Index κ (List α))
    (h : index.keys.Nodup) : (index.gather items).keys.Nodup := by
  induction items generalizing index with
  | nil => exact h
  | cons x rest ih => exact ih _ (nodup_keys_change h)

omit [DecidableEq κ] in
@[simp] theorem keys_sortLists (index : Index κ (List α)) (key : α → Int) :
    (index.sortLists key).keys = index.keys := by
  simp [sortLists, mapValues, keys]

/-- The items of an owner agree at every key. -/
theorem filter_itemsOf {key : α → Int} {items items' : List (κ × α)}
    (h : Rearranged (fun x => some (x.1, key x.2)) items items') (owner : κ) (k : Int) :
    (itemsOf owner items).filter (fun a => decide (key a = k)) =
      (itemsOf owner items').filter fun a => decide (key a = k) := by
  have hfilter (l : List (κ × α)) : (itemsOf owner l).filter (fun a => decide (key a = k)) =
      (l.filter fun x => decide (some (x.1, key x.2) = some (owner, k))).map (·.2) := by
    unfold itemsOf
    rw [List.filter_map, List.filter_filter]
    congr 1
    refine List.filter_congr fun x _ => ?_
    simp [Bool.and_comm]
  rw [hfilter, hfilter, h.order]

/-- **What is gathered from rearranged items is the same once it is sorted**, seen without what the
order may change in an item, if it was the same before. -/
theorem find?_sortLists_gather {key : α → Int} {view : α → α} (hview : ∀ a, key (view a) = key a)
    {items items' : List (κ × α)} {index index' : Index κ (List α)}
    (h : Rearranged (fun x => some (x.1, key x.2)) (items.map (Prod.map id view))
      (items'.map (Prod.map id view))) (owner : κ)
    (hindex : (index.find? owner).map (List.map view) = (index'.find? owner).map (List.map view)) :
    (((index.gather items).sortLists key).find? owner).map (List.map view) =
      (((index'.gather items').sortLists key).find? owner).map (List.map view) := by
  have hfilter := filter_itemsOf h owner
  rw [itemsOf_map, itemsOf_map] at hfilter
  have hsort {old old' : List α} (hold : old.map view = old'.map view) :
      (sortByKey key (old ++ itemsOf owner items)).map view =
        (sortByKey key (old' ++ itemsOf owner items')).map view := by
    rw [map_sortByKey hview, map_sortByKey hview, List.map_append, List.map_append, hold]
    refine sortByKey_eq_of_filter fun k => ?_
    rw [List.filter_append, List.filter_append, hfilter]
  -- an owner has items in both lists or in none
  have hlength := congrArg List.length (@hsort [] [] rfl)
  rw [List.length_map, List.length_map, (sortByKey_perm _ _).length_eq,
    (sortByKey_perm _ _).length_eq, List.nil_append, List.nil_append] at hlength
  have hnil : itemsOf owner items = [] ↔ itemsOf owner items' = [] := by
    rw [← List.length_eq_zero_iff, hlength, List.length_eq_zero_iff]
  unfold sortLists
  rw [find?_mapValues, find?_mapValues, find?_gather, find?_gather]
  revert hindex
  generalize index.find? owner = found
  generalize index'.find? owner = found'
  intro hindex
  have hold : (found.getD []).map view = (found'.getD []).map view := by
    have hget (x : Option (List α)) : (x.getD []).map view = (x.map (List.map view)).getD [] := by
      cases x <;> rfl
    rw [hget, hget, hindex]
  by_cases hempty : itemsOf owner items = []
  · rw [if_pos hempty, if_pos (hnil.mp hempty)]
    have hempty' := hnil.mp hempty
    cases found with
    | none =>
        rw [Option.map_none, eq_comm, Option.map_eq_none_iff] at hindex
        rw [hindex]
    | some old =>
        cases found' with
        | none => cases hindex
        | some old' =>
            have h := hsort hold
            rw [hempty, hempty', List.append_nil, List.append_nil] at h
            exact congrArg some h
  · rw [if_neg hempty, if_neg fun h => hempty (hnil.mpr h)]
    exact congrArg some (hsort hold)

/-- The owners of rearranged items are the same, in some order. -/
theorem perm_keys_gather {view : α → β} {items items' : List (κ × α)}
    (h : (items.map (Prod.map id view)).Perm (items'.map (Prod.map id view))) :
    (({} : Index κ (List α)).gather items).keys.Perm
      (({} : Index κ (List α)).gather items').keys := by
  have howners (l : List (κ × α)) : (l.map (Prod.map id view)).map (·.1) = l.map (·.1) := by
    rw [List.map_map]
    rfl
  have hnodup (l : List (κ × α)) : (({} : Index κ (List α)).gather l).keys.Nodup :=
    nodup_keys_gather l _ List.nodup_nil
  refine (List.perm_ext_iff_of_nodup (hnodup items) (hnodup items')).mpr fun owner => ?_
  rw [mem_keys_gather, mem_keys_gather, ← howners items, ← howners items', (h.map _).mem_iff]

end Index

end MissionBase
