import MissionBase.Index
import Mathlib.Data.List.Nodup

/-!
# The keys of an index

An index that is only ever changed key by key has no key twice, so each of its entries is what a
look-up of its key finds.
-/

namespace MissionBase.Index

variable {κ α : Type} [DecidableEq κ]

theorem mem_keys_changeEntries {key k : κ} {f : Option α → α} {entries : List (κ × α)} :
    k ∈ (changeEntries key f entries).map (·.1) ↔ k = key ∨ k ∈ entries.map (·.1) := by
  induction entries with
  | nil => simp [changeEntries]
  | cons e rest ih =>
      by_cases he : e.1 = key
      · simp [changeEntries, he]
      · simp only [changeEntries, he, if_false, List.map_cons, List.mem_cons, ih]
        exact or_left_comm

/-- An entry after a change stood there before, or is the changed one. -/
theorem mem_changeEntries {key : κ} {f : Option α → α} {e : κ × α} {entries : List (κ × α)}
    (h : e ∈ changeEntries key f entries) :
    e ∈ entries ∨ (e.1 = key ∧ e.2 = f none) ∨ ∃ old ∈ entries, e.2 = f (some old.2) := by
  induction entries with
  | nil =>
      rw [changeEntries, List.mem_singleton] at h
      exact .inr (.inl ⟨congrArg Prod.fst h, congrArg Prod.snd h⟩)
  | cons first rest ih =>
      by_cases hfirst : first.1 = key
      · rw [changeEntries, if_pos hfirst, List.mem_cons] at h
        rcases h with rfl | hrest
        · exact .inr (.inr ⟨first, List.mem_cons_self, rfl⟩)
        · exact .inl (List.mem_cons_of_mem _ hrest)
      · rw [changeEntries, if_neg hfirst, List.mem_cons] at h
        rcases h with rfl | hrest
        · exact .inl List.mem_cons_self
        · rcases ih hrest with hold | hnew | ⟨old, hold, heq⟩
          · exact .inl (List.mem_cons_of_mem _ hold)
          · exact .inr (.inl hnew)
          · exact .inr (.inr ⟨old, List.mem_cons_of_mem _ hold, heq⟩)

/-- What holds of every value and of a new one holds after the new one is set. -/
theorem forall_set {P : α → Prop} {index : Index κ α} (h : ∀ e ∈ index.entries, P e.2) {key : κ}
    {x : α} (hx : P x) : ∀ e ∈ (index.set key x).entries, P e.2 := by
  intro e he
  rcases mem_changeEntries he with hold | ⟨-, hnew⟩ | ⟨_, -, hnew⟩
  · exact h e hold
  · rw [hnew]; exact hx
  · rw [hnew]; exact hx

/-- A change makes no key twice. -/
theorem nodup_keys_change {index : Index κ α} {key : κ} {f : Option α → α}
    (h : index.keys.Nodup) : (index.change key f).keys.Nodup := by
  obtain ⟨entries⟩ := index
  show ((changeEntries key f entries).map (·.1)).Nodup
  have hnd : (entries.map (·.1)).Nodup := h
  clear h
  induction entries with
  | nil => simp [changeEntries]
  | cons e rest ih =>
      rw [List.map_cons, List.nodup_cons] at hnd
      by_cases he : e.1 = key
      · simp only [changeEntries, he, if_true, List.map_cons, List.nodup_cons]
        rw [← he]
        exact hnd
      · simp only [changeEntries, he, if_false, List.map_cons, List.nodup_cons]
        refine ⟨fun hin => ?_, ih hnd.2⟩
        -- the key of `e` would have to be the new one, or to stand twice already
        rcases mem_keys_changeEntries.mp hin with heq | hold
        · exact he heq
        · exact hnd.1 hold

/-- A new key comes last. -/
theorem entries_set_of_find?_eq_none {index : Index κ α} {key : κ} (h : index.find? key = none)
    (x : α) : (index.set key x).entries = index.entries ++ [(key, x)] := by
  obtain ⟨entries⟩ := index
  show changeEntries key (fun _ => x) entries = entries ++ [(key, x)]
  induction entries with
  | nil => rfl
  | cons e rest ih =>
      by_cases he : e.1 = key
      · simp [find?, he] at h
      · have hrest : (Index.mk rest).find? key = none := by simpa [find?, he] using h
        rw [changeEntries, if_neg he, ih hrest]
        rfl

/-- Where nothing is kept, nothing is found. -/
theorem find?_of_entries_eq_nil {index : Index κ α} (h : index.entries = []) (key : κ) :
    index.find? key = none := by
  unfold find?
  rw [h]
  rfl

/-- What a look-up finds is an entry. -/
theorem mem_of_find? {index : Index κ α} {key : κ} {x : α} (h : index.find? key = some x) :
    (key, x) ∈ index.entries := by
  obtain ⟨e, he, rfl⟩ := Option.map_eq_some_iff.mp h
  have hkey : e.1 = key := by simpa using List.find?_some he
  rw [← hkey]
  exact List.mem_of_find?_eq_some he

/-- Where no key stands twice, a look-up finds every entry. -/
theorem find?_of_mem {index : Index κ α} (h : index.keys.Nodup) {key : κ} {x : α}
    (hx : (key, x) ∈ index.entries) : index.find? key = some x := by
  obtain ⟨entries⟩ := index
  have hnd : (entries.map (·.1)).Nodup := h
  have hmem : (key, x) ∈ entries := hx
  clear h hx
  induction entries with
  | nil => cases hmem
  | cons e rest ih =>
      rw [List.map_cons, List.nodup_cons] at hnd
      rcases List.mem_cons.mp hmem with heq | hrest
      · subst heq
        simp [find?]
      · have hne : e.1 ≠ key := by
          rintro rfl
          exact hnd.1 (List.mem_map.mpr ⟨_, hrest, rfl⟩)
        have hfind := ih hnd.2 hrest
        simpa [find?, hne] using hfind

/-! ## Grouping -/

/-- An item comes last in the list of its key, and in no other. -/
theorem getD_find?_append {α : Type} (index : Index κ (List α)) (key other : κ) (x : α) :
    ((index.append key x).find? other).getD [] =
      (index.find? other).getD [] ++ if key = other then [x] else [] := by
  unfold append
  by_cases h : key = other
  · subst h
    rw [find?_change_self, if_pos rfl, Option.getD_some]
  · rw [find?_change_of_ne _ (Ne.symm h), if_neg h, List.append_nil]

/-- The items by key, keys and items in the order of their arrival. -/
theorem find?_foldl_append {α : Type} (keyOf : α → κ) (items : List α) (index : Index κ (List α))
    (key : κ) :
    ((items.foldl (fun groups x => groups.append (keyOf x) x) index).find? key).getD [] =
      (index.find? key).getD [] ++ items.filter fun x => decide (keyOf x = key) := by
  induction items generalizing index with
  | nil => simp
  | cons x rest ih =>
      rw [List.foldl_cons, ih, getD_find?_append, List.append_assoc]
      by_cases hx : keyOf x = key <;> simp [hx]

/-- A key is one that was there, or that of an item. -/
theorem mem_keys_foldl_append {α : Type} (keyOf : α → κ) (items : List α)
    (index : Index κ (List α)) {key : κ} :
    key ∈ (items.foldl (fun groups x => groups.append (keyOf x) x) index).keys ↔
      key ∈ index.keys ∨ ∃ x ∈ items, keyOf x = key := by
  induction items generalizing index with
  | nil => simp
  | cons x rest ih =>
      rw [List.foldl_cons, ih]
      unfold append change keys
      rw [mem_keys_changeEntries, List.exists_mem_cons_iff, or_comm (a := key = keyOf x), or_assoc,
        eq_comm (a := key)]

theorem nodup_keys_foldl_append {α : Type} (keyOf : α → κ) (items : List α)
    (index : Index κ (List α)) (h : index.keys.Nodup) :
    (items.foldl (fun groups x => groups.append (keyOf x) x) index).keys.Nodup := by
  induction items generalizing index with
  | nil => exact h
  | cons x rest ih =>
      rw [List.foldl_cons]
      exact ih _ (nodup_keys_change h)

/-! ## Sorting -/

section

variable {α : Type} {key : α → Int}

theorem le_trans_key (a b c : α) :
    decide (key a ≤ key b) → decide (key b ≤ key c) → decide (key a ≤ key c) := by
  intro hab hbc
  rw [decide_eq_true_eq] at hab hbc ⊢
  omega

theorem le_total_key (a b : α) : decide (key a ≤ key b) || decide (key b ≤ key a) := by
  rw [Bool.or_eq_true, decide_eq_true_eq, decide_eq_true_eq]
  omega

theorem pairwise_sortByKey (items : List α) :
    (sortByKey key items).Pairwise fun a b => key a ≤ key b :=
  (List.pairwise_mergeSort le_trans_key le_total_key items).imp of_decide_eq_true

/-- A list that is sorted stays as it is. -/
theorem sortByKey_of_pairwise {items : List α} (h : items.Pairwise fun a b => key a ≤ key b) :
    sortByKey key items = items :=
  List.mergeSort_of_pairwise (h.imp fun hle => decide_eq_true hle)

/-- A list falls apart in one way into items with a property and items without it after them. -/
theorem append_inj_of_filter {p : α → Bool} {xs ys xs' ys' : List α}
    (h : xs ++ ys = xs' ++ ys') (hx : ∀ a ∈ xs, p a = true) (hy : ∀ a ∈ ys, p a = false)
    (hx' : ∀ a ∈ xs', p a = true) (hy' : ∀ a ∈ ys', p a = false) : xs = xs' ∧ ys = ys' := by
  have hfilter := congrArg (List.filter p) h
  rw [List.filter_append, List.filter_append, List.filter_eq_self.mpr hx,
    List.filter_eq_self.mpr hx', List.filter_eq_nil_iff.mpr fun a ha => by simp [hy a ha],
    List.filter_eq_nil_iff.mpr fun a ha => by simp [hy' a ha], List.append_nil,
    List.append_nil] at hfilter
  subst hfilter
  exact ⟨rfl, List.append_cancel_left h⟩

/-- **Leaving items out does not change the order of the others.** -/
theorem filter_sortByKey (p : α → Bool) (items : List α) :
    (sortByKey key items).filter p = sortByKey key (items.filter p) := by
  induction items with
  | nil => simp [sortByKey]
  | cons a rest ih =>
      obtain ⟨before, after, hsort, hrest, hbefore⟩ :=
        List.mergeSort_cons le_trans_key le_total_key a rest
      have ih' : before.filter p ++ after.filter p = sortByKey key (rest.filter p) := by
        rw [← List.filter_append, ← hrest]
        exact ih
      have hsort' : sortByKey key (a :: rest) = before ++ a :: after := hsort
      rw [hsort', List.filter_append]
      by_cases ha : p a = true
      · obtain ⟨before', after', hsort'', hrest', hbefore'⟩ :=
          List.mergeSort_cons le_trans_key le_total_key a (rest.filter p)
        -- what comes after the item in a sorted list is not below it
        have hafter {xs ys : List α} {l : List α} (h : sortByKey key l = xs ++ a :: ys) :
            ∀ b ∈ ys, (!decide (key a ≤ key b)) = false := by
          intro b hb
          have hpairwise : (sortByKey key l).Pairwise _ := pairwise_sortByKey l
          rw [h, List.pairwise_append, List.pairwise_cons] at hpairwise
          simp [hpairwise.2.1.1 b hb]
        obtain ⟨h₁, h₂⟩ := append_inj_of_filter (p := fun b => !decide (key a ≤ key b))
          (ih'.trans hrest') (fun b hb => hbefore b (List.mem_filter.mp hb).1)
          (fun b hb => hafter hsort' b (List.mem_filter.mp hb).1) hbefore' (hafter hsort'')
        rw [List.filter_cons_of_pos ha, List.filter_cons_of_pos ha, h₁, h₂]
        exact hsort''.symm
      · rw [List.filter_cons_of_neg ha, List.filter_cons_of_neg ha]
        exact ih'

end

omit [DecidableEq κ] in
/-- After sorting, every list is sorted. -/
theorem pairwise_sortLists {α : Type} (index : Index κ (List α)) (key : α → Int) :
    ∀ e ∈ (index.sortLists key).entries, e.2.Pairwise fun a b => key a ≤ key b := by
  intro e he
  obtain ⟨e', _, rfl⟩ := List.mem_map.mp he
  exact pairwise_sortByKey e'.2

omit [DecidableEq κ] in
/-- Lists that are sorted stay as they are. -/
theorem sortLists_of_sorted {α : Type} {index : Index κ (List α)} {key : α → Int}
    (h : ∀ e ∈ index.entries, e.2.Pairwise fun a b => key a ≤ key b) :
    index.sortLists key = index := by
  obtain ⟨entries⟩ := index
  show Index.mk (entries.map fun e => (e.1, sortByKey key e.2)) = ⟨entries⟩
  congr 1
  refine (List.map_congr_left fun e he => ?_).trans (List.map_id entries)
  rw [sortByKey_of_pairwise (h e he)]
  rfl

/-- The index with the list of every key sorted. Lists that are sorted already are kept, so that
an index of such lists can be evaluated: merge sort itself does not reduce. -/
def sortedLists {α : Type} (index : Index κ (List α)) (key : α → Int) : Index κ (List α) :=
  if ∀ e ∈ index.entries, e.2.Pairwise fun a b => key a ≤ key b then index
  else index.sortLists key

omit [DecidableEq κ] in
theorem sortLists_eq_sortedLists {α : Type} (index : Index κ (List α)) (key : α → Int) :
    index.sortLists key = index.sortedLists key := by
  unfold sortedLists
  split
  · exact sortLists_of_sorted ‹_›
  · rfl

end MissionBase.Index
