import MissionBase.Database.Basic

/-!
# What additions and changes leave alone

Elements never move and never leave: an addition puts one more element after all others, and a
change touches one place. The lemmas say so for the catalogs and for the additions of the database,
which accept an element exactly when its name is free.
-/

namespace MissionBase

namespace Catalog

section

variable {kind : Kind} {α : Type}

@[simp] theorem size_push (c : Catalog kind α) (x : α) : (c.push x).size = c.size + 1 := by
  simp [size, push]

@[simp] theorem next_index (c : Catalog kind α) : c.next.index = c.size := rfl

@[simp] theorem size_modify (c : Catalog kind α) (r : Ref kind) (change : α → α) :
    (c.modify r change).size = c.size := by
  simp [size, modify]

/-- A place is taken exactly below the size. -/
theorem get?_isSome_iff (c : Catalog kind α) (r : Ref kind) :
    (c.get? r).isSome ↔ r.index < c.size := by
  simp [get?, size]

theorem lt_size_of_get? {c : Catalog kind α} {r : Ref kind} {x : α} (h : c.get? r = some x) :
    r.index < c.size := (get?_isSome_iff c r).mp (by rw [h]; rfl)

@[simp] theorem get?_modify_self (c : Catalog kind α) (r : Ref kind) (change : α → α) :
    (c.modify r change).get? r = (c.get? r).map change := by
  simp [get?, modify, Array.getElem?_modify]

/-- Where an element was, it is after an addition. -/
theorem get?_push_of_some {c : Catalog kind α} {r : Ref kind} {x : α} (h : c.get? r = some x)
    (y : α) : (c.push y).get? r = some x := by
  rw [get?_push_of_lt c y (lt_size_of_get? h), h]

/-- After an addition there is one element more. -/
theorem get?_push_eq_some {c : Catalog kind α} {x y : α} {r : Ref kind}
    (h : (c.push x).get? r = some y) : c.get? r = some y ∨ r = c.next ∧ y = x := by
  have hlt := lt_size_of_get? h
  rw [size_push] at hlt
  by_cases hr : r.index < c.size
  · rw [get?_push_of_lt c x hr] at h
    exact .inl h
  · have hindex : r.index = c.size := by omega
    have heq : r = c.next := by
      cases r
      cases hindex
      rfl
    rw [heq, get?_push_next] at h
    exact .inr ⟨heq, (Option.some.inj h).symm⟩

/-- A change at one place shows at no other. -/
theorem get?_modify_of_ne (c : Catalog kind α) {r q : Ref kind} (h : r.index ≠ q.index)
    (change : α → α) : (c.modify r change).get? q = c.get? q := by
  simp [get?, modify, Array.getElem?_modify, h]

/-- After a change every element is the one that was there, changed at the one place. -/
theorem get?_modify_eq_some {c : Catalog kind α} {r q : Ref kind} {change : α → α} {y : α}
    (h : (c.modify r change).get? q = some y) :
    ∃ x, c.get? q = some x ∧ (r = q ∧ change x = y ∨ r ≠ q ∧ x = y) := by
  by_cases hq : r.index = q.index
  · have hrq : r = q := by cases r; cases q; exact congrArg Ref.mk hq
    subst hrq
    rw [get?_modify_self, Option.map_eq_some_iff] at h
    obtain ⟨x, hx, hy⟩ := h
    exact ⟨x, hx, .inl ⟨rfl, hy⟩⟩
  · rw [get?_modify_of_ne c hq] at h
    exact ⟨y, h, .inr ⟨fun hrq => hq (congrArg Ref.index hrq), rfl⟩⟩

/-- What a change of an element leaves alone is what it was. -/
theorem map_toList_modify {β : Type} {c : Catalog kind α} {r : Ref kind} {change : α → α}
    {f : α → β} (h : ∀ x, f (change x) = f x) :
    (c.modify r change).toList.map f = c.toList.map f := by
  refine List.ext_getElem? fun i => ?_
  unfold modify toList
  rw [List.getElem?_map, List.getElem?_map, Array.getElem?_toList, Array.getElem?_toList,
    Array.getElem?_modify]
  split
  · cases c.items[i]? with
    | none => rfl
    | some x => exact congrArg some (h x)
  · rfl

/-- Where an element was, it is after a change, changed or not. -/
theorem exists_get?_modify {c : Catalog kind α} {q : Ref kind} {x : α} (h : c.get? q = some x)
    (r : Ref kind) (change : α → α) :
    ∃ y, (c.modify r change).get? q = some y ∧ (y = change x ∨ y = x) := by
  by_cases hq : r.index = q.index
  · refine ⟨change x, ?_, .inl rfl⟩
    have hrq : r = q := by cases r; cases q; exact congrArg Ref.mk hq
    rw [hrq, get?_modify_self, h, Option.map_some]
  · exact ⟨x, (get?_modify_of_ne c hq change).trans h, .inr rfl⟩

end

/-- A change of the last element is a change of what was added. -/
theorem modify_push_next {kind : Kind} {α : Type} (c : Catalog kind α) (x : α)
    (change : α → α) : (c.push x).modify c.next change = c.push (change x) := by
  obtain ⟨items⟩ := c
  unfold modify push next
  congr 1
  apply Array.ext_getElem?
  intro i
  rw [Array.getElem?_modify, Array.getElem?_push, Array.getElem?_push]
  by_cases hi : i = items.size
  · simp [hi]
  · simp [hi, Ne.symm hi]

/-- What is found is an element of that name. -/
theorem exists_of_find? {kind : Kind} {α : Type} [Named α] {c : Catalog kind α} {name : String}
    {r : Ref kind} (h : c.find? name = some r) : ∃ x, c.get? r = some x ∧ Named.name x = name := by
  unfold find? at h
  obtain ⟨i, hi, rfl⟩ := Option.map_eq_some_iff.mp h
  obtain ⟨hlt, hname, -⟩ := Array.findIdx?_eq_some_iff_getElem.mp hi
  exact ⟨c.items[i], Array.getElem?_eq_getElem hlt, by simpa using hname⟩

theorem lt_size_of_find? {kind : Kind} {α : Type} [Named α] {c : Catalog kind α} {name : String}
    {r : Ref kind} (h : c.find? name = some r) : r.index < c.size := by
  obtain ⟨_, hx, _⟩ := exists_of_find? h
  exact lt_size_of_get? hx

/-- A name that is taken is that of an element. -/
theorem exists_of_has {kind : Kind} {α : Type} [Named α] {c : Catalog kind α} {name : String}
    (h : c.has name = true) : ∃ r x, c.get? r = some x ∧ Named.name x = name := by
  obtain ⟨r, hr⟩ := Option.isSome_iff_exists.mp h
  exact ⟨r, exists_of_find? hr⟩

/-- The name of an element is taken. -/
theorem has_of_mem {kind : Kind} {α : Type} [Named α] {c : Catalog kind α} {x : α}
    (h : x ∈ c.items) : c.has (Named.name x) = true := by
  unfold has find?
  rw [Option.isSome_map, Array.findIdx?_isSome, Array.any_eq_true']
  exact ⟨x, h, beq_self_eq_true _⟩

/-- After an addition the taken names are those from before and the new one. -/
theorem eq_or_has_of_has_push {kind : Kind} {α : Type} [Named α] {c : Catalog kind α} {x : α}
    {name : String} (h : (c.push x).has name = true) : c.has name = true ∨ name = Named.name x := by
  obtain ⟨r, y, hy, rfl⟩ := exists_of_has h
  rcases get?_push_eq_some hy with hold | ⟨-, rfl⟩
  · exact .inl (has_of_mem (Array.mem_of_getElem? hold))
  · exact .inr rfl

/-- An element whose name was free is found under it, and other names find what they found. -/
theorem find?_push_of_free {kind : Kind} {α : Type} [Named α] {c : Catalog kind α} {x : α}
    (hfree : c.has (Named.name x) = false) (name : String) :
    (c.push x).find? name = if name = Named.name x then some c.next else c.find? name := by
  unfold find? push
  rw [Array.findIdx?_push]
  by_cases hname : name = Named.name x
  · have hnone : c.items.findIdx? (fun y => Named.name y == Named.name x) = none := by
      rwa [has, find?, Option.isSome_map, Option.isSome_eq_false_iff, Option.isNone_iff_eq_none]
        at hfree
    rw [if_pos hname, hname, hnone, beq_self_eq_true, if_pos rfl]
    rfl
  · have hne : ¬ (Named.name x == name) = true := fun h => hname (beq_iff_eq.mp h).symm
    rw [if_neg hname, if_neg hne, Option.or_none]

/-- **An element is accepted when its name is free, and comes after all others.** Every addition of
the database is this one with a place to put the catalog. -/
theorem map_add_eq_ok {kind : Kind} {α β : Type} [Named α] {c : Catalog kind α} {x : α}
    {f : Ref kind × Catalog kind α → β} {b : β} :
    (c.add x).map f = .ok b ↔ c.has (Named.name x) = false ∧ f (c.next, c.push x) = b := by
  unfold add
  split
  · rename_i h
    constructor
    · intro h'; exact absurd h' (by simp [Except.map])
    · rintro ⟨h', _⟩; rw [h] at h'; exact absurd h' (by simp)
  · rename_i h
    have hfree : c.has (Named.name x) = false := by simpa using h
    constructor
    · intro h'; cases h'; exact ⟨hfree, rfl⟩
    · rintro ⟨_, rfl⟩; rfl

/-- **An element is refused when its name is taken**, and this is what the refusal says. -/
theorem map_add_eq_error {kind : Kind} {α β : Type} [Named α] {c : Catalog kind α} {x : α}
    {f : Ref kind × Catalog kind α → β} {dup : DuplicateName} :
    (c.add x).map f = .error dup ↔
      c.has (Named.name x) = true ∧ dup = ⟨kind, Named.name x⟩ := by
  unfold add
  split
  · rename_i h
    constructor
    · intro h'
      cases h'
      exact ⟨h, rfl⟩
    · rintro ⟨-, rfl⟩
      rfl
  · rename_i h
    constructor
    · intro h'
      cases h'
    · rintro ⟨h', -⟩
      exact absurd h' h

end Catalog

namespace Database

theorem addContainer_eq_ok {db db' : Database} {c : Container} {r : ContainerRef} :
    db.addContainer c = .ok (r, db') ↔
      db.containers.has c.name = false ∧
        (db.containers.next, { db with containers := db.containers.push c }) = (r, db') :=
  Catalog.map_add_eq_ok

theorem addParameterType_eq_ok {db db' : Database} {t : ParameterType} {r : ParameterTypeRef} :
    db.addParameterType t = .ok (r, db') ↔
      db.parameterTypes.has t.name = false ∧
        (db.parameterTypes.next, { db with parameterTypes := db.parameterTypes.push t }) =
          (r, db') :=
  Catalog.map_add_eq_ok

theorem addParameter_eq_ok {db db' : Database} {p : Parameter} {r : ParameterRef} :
    db.addParameter p = .ok (r, db') ↔
      db.parameters.has p.name = false ∧
        (db.parameters.next,
          { db with
            parameters := db.parameters.push p
            aliasOwners := registerAliases db.aliasOwners db.parameters.next p.aliases }) =
          (r, db') :=
  Catalog.map_add_eq_ok

theorem addCommand_eq_ok {db db' : Database} {c : Command} {r : CommandRef} :
    db.addCommand c = .ok (r, db') ↔
      db.commands.has c.name = false ∧
        (db.commands.next, { db with commands := db.commands.push c }) = (r, db') :=
  Catalog.map_add_eq_ok

end Database

end MissionBase
