/-!
# Indexes

Values found by key. A key has one value at a time; a later one takes its place and stands where
the earlier one stood. New keys come last, so the order is that of first arrival. A change of a key
shows at that key and at no other.
-/

namespace MissionBase

/-- Values by key. -/
structure Index (κ : Type) (α : Type) where
  entries : List (κ × α) := []
  deriving Repr

namespace Index

variable {κ α : Type} [DecidableEq κ]

/-- The value of a key. -/
def find? (index : Index κ α) (key : κ) : Option α :=
  (index.entries.find? fun e => decide (e.1 = key)).map (·.2)

/-- Whether a key has a value. -/
def has (index : Index κ α) (key : κ) : Bool := (index.find? key).isSome

/-- The entries with the value of a key changed; the change of no value comes last where there is
none. -/
def changeEntries (key : κ) (change : Option α → α) : List (κ × α) → List (κ × α)
  | [] => [(key, change none)]
  | e :: rest =>
    if e.1 = key then (key, change (some e.2)) :: rest else e :: changeEntries key change rest

/-- The index with the value of a key changed. -/
def change (index : Index κ α) (key : κ) (f : Option α → α) : Index κ α :=
  ⟨changeEntries key f index.entries⟩

/-- The index with the value of a key. -/
def set (index : Index κ α) (key : κ) (value : α) : Index κ α := index.change key fun _ => value

/-- The index with one more item in the list of a key. -/
def append {α : Type} (index : Index κ (List α)) (key : κ) (item : α) : Index κ (List α) :=
  index.change key fun items => items.getD [] ++ [item]

/-- The index with every value changed. -/
def mapValues {β : Type} (index : Index κ α) (f : α → β) : Index κ β :=
  ⟨index.entries.map fun e => (e.1, f e.2)⟩

/-- Sorts by an integer; items with equal integers keep their order. -/
def sortByKey {α : Type} (key : α → Int) (items : List α) : List α :=
  items.mergeSort fun a b => decide (key a ≤ key b)

/-- The index with the list of every key sorted. -/
def sortLists {α : Type} (index : Index κ (List α)) (key : α → Int) : Index κ (List α) :=
  index.mapValues (sortByKey key)

/-- The keys in the order of their arrival. -/
def keys (index : Index κ α) : List κ := index.entries.map (·.1)

/-- The number of keys. -/
def size (index : Index κ α) : Nat := index.entries.length

/-! ## Look-ups after a change -/

theorem find?_changeEntries_self (key : κ) (f : Option α → α) (entries : List (κ × α)) :
    (Index.mk (changeEntries key f entries)).find? key =
      some (f ((Index.mk entries).find? key)) := by
  induction entries with
  | nil => simp [changeEntries, find?]
  | cons e rest ih =>
    by_cases h : e.1 = key
    · simp [changeEntries, find?, h]
    · simpa [changeEntries, find?, h] using ih

theorem find?_changeEntries_of_ne {key other : κ} (h : other ≠ key) (f : Option α → α)
    (entries : List (κ × α)) :
    (Index.mk (changeEntries key f entries)).find? other = (Index.mk entries).find? other := by
  induction entries with
  | nil => simp [changeEntries, find?, h.symm]
  | cons e rest ih =>
    by_cases he : e.1 = key
    · simp [changeEntries, find?, he, h.symm]
    · by_cases ho : e.1 = other
      · simp [changeEntries, find?, ho, h]
      · simpa [changeEntries, find?, he, ho] using ih

/-- The changed value is found at its key. -/
@[simp] theorem find?_change_self (index : Index κ α) (key : κ) (f : Option α → α) :
    (index.change key f).find? key = some (f (index.find? key)) :=
  find?_changeEntries_self key f index.entries

/-- A change of one key shows at no other. -/
theorem find?_change_of_ne (index : Index κ α) {key other : κ} (h : other ≠ key)
    (f : Option α → α) : (index.change key f).find? other = index.find? other :=
  find?_changeEntries_of_ne h f index.entries

@[simp] theorem find?_set_self (index : Index κ α) (key : κ) (value : α) :
    (index.set key value).find? key = some value :=
  find?_change_self index key _

theorem find?_set_of_ne (index : Index κ α) {key other : κ} (h : other ≠ key) (value : α) :
    (index.set key value).find? other = index.find? other :=
  find?_change_of_ne index h _

@[simp] theorem find?_mapValues {β : Type} (index : Index κ α) (f : α → β) (key : κ) :
    (index.mapValues f).find? key = (index.find? key).map f := by
  simp [find?, mapValues, List.find?_map, Function.comp_def]

/-- Sorting neither loses nor doubles an item. -/
theorem sortByKey_perm (key : α → Int) (items : List α) : (sortByKey key items).Perm items :=
  List.mergeSort_perm items _

end Index

end MissionBase
