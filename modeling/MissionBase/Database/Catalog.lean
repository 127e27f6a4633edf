import MissionBase.Database.Ref

/-!
# Catalogs

The elements of one kind, in the order of their arrival, found by place or by name. An element is
added under a name that no other has; what has been added is never removed, so a place stays the
place of the same element.
-/

namespace MissionBase

/-- What has a name. -/
class Named (α : Type) where
  name : α → String

/-- A name that is taken. -/
structure DuplicateName where
  kind : Kind
  name : String
  deriving Repr, DecidableEq

/-- The wording of a refusal. -/
def DuplicateName.message (d : DuplicateName) : String := s!"duplicate {d.kind.text} '{d.name}'"

/-- The elements of a kind. -/
structure Catalog (kind : Kind) (α : Type) where
  items : Array α := #[]
  deriving Repr

namespace Catalog

variable {kind : Kind} {α : Type} [Named α]

/-- The element at a place. -/
def get? (c : Catalog kind α) (r : Ref kind) : Option α := c.items[r.index]?

/-- The place of the element of a name. -/
def find? (c : Catalog kind α) (name : String) : Option (Ref kind) :=
  (c.items.findIdx? fun x => Named.name x == name).map fun i => ⟨i⟩

/-- Whether a name is taken. -/
def has (c : Catalog kind α) (name : String) : Bool := (c.find? name).isSome

/-- The next place. -/
def next (c : Catalog kind α) : Ref kind := ⟨c.items.size⟩

/-- The catalog with one more element, whatever its name. -/
def push (c : Catalog kind α) (x : α) : Catalog kind α := ⟨c.items.push x⟩

/-- The catalog with one more element and its place, unless the name is taken. -/
def add (c : Catalog kind α) (x : α) : Except DuplicateName (Ref kind × Catalog kind α) :=
  if c.has (Named.name x) then .error ⟨kind, Named.name x⟩ else .ok (c.next, c.push x)

/-- The catalog with the element at a place changed. -/
def modify (c : Catalog kind α) (r : Ref kind) (change : α → α) : Catalog kind α :=
  ⟨c.items.modify r.index change⟩

/-- The number of elements. -/
def size (c : Catalog kind α) : Nat := c.items.size

/-- The elements in the order of their arrival. -/
def toList (c : Catalog kind α) : List α := c.items.toList

/-! ## Places after an addition -/

section

variable {kind : Kind} {α : Type}

/-- An addition moves no element. -/
theorem get?_push_of_lt (c : Catalog kind α) (x : α) {r : Ref kind} (h : r.index < c.size) :
    (c.push x).get? r = c.get? r := by
  simp only [size] at h
  simp only [get?, push, Array.getElem?_push]
  split
  · omega
  · rfl

@[simp] theorem get?_push_next (c : Catalog kind α) (x : α) :
    (c.push x).get? c.next = some x := by
  simp [get?, push, next]

@[simp] theorem toList_push (c : Catalog kind α) (x : α) :
    (c.push x).toList = c.toList ++ [x] := by
  simp [push, toList]

end

/-- What an addition that is accepted gives. -/
theorem add_eq_ok_iff (c : Catalog kind α) (x : α) (r : Ref kind) (d : Catalog kind α) :
    c.add x = .ok (r, d) ↔ c.has (Named.name x) = false ∧ c.next = r ∧ c.push x = d := by
  unfold add
  split <;> simp_all

end Catalog

/-- The name with a number after it. -/
def numbered (base : String) (n : Nat) : String := s!"{base}_{n}"

/-- The first of the names `base_n`, from `n` on and at most `fuel` further, that is not taken;
the base itself where all of them are. -/
def firstFree (taken : String → Bool) (base : String) : Nat → Nat → String
  | 0, _ => base
  | fuel + 1, n =>
    if taken (numbered base n) then firstFree taken base fuel (n + 1) else numbered base n

end MissionBase
