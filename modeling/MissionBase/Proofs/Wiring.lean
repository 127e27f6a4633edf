import MissionBase.Proofs.References
import Mathlib.Logic.Relation

/-!
# How the elements hang together

Two orders run through a database. An element comes after its base, so a walk along bases ends. A
container of a repeated group comes before the container that it is put into, and it is put into
one, at one entry; so a walk into nested containers ends as well.

While a structure is being committed, its groups are in the database and not yet in any container.
They are pending: the invariant of the containers counts the pending groups along with those that
entries hold.
-/

namespace MissionBase

/-! ## Orders on a catalog -/

namespace Catalog

variable {kind : Kind} {α : Type} {c : Catalog kind α}

/-- What an element says of places of its own kind is about earlier ones. -/
def Descends (c : Catalog kind α) (below : α → List (Ref kind)) : Prop :=
  ∀ r x, c.get? r = some x → ∀ q ∈ below x, q.index < r.index

theorem Descends.push {below : α → List (Ref kind)} (h : c.Descends below) {x : α}
    (hx : ∀ q ∈ below x, q.index < c.size) : (c.push x).Descends below := by
  intro r y hy q hq
  rcases get?_push_eq_some hy with hold | ⟨rfl, rfl⟩
  · exact h r y hold q hq
  · exact hx q hq

theorem Descends.modify {below : α → List (Ref kind)} (h : c.Descends below) {r : Ref kind}
    {change : α → α}
    (hchange : ∀ x, c.get? r = some x → ∀ q ∈ below (change x), q.index < r.index) :
    (c.modify r change).Descends below := by
  intro s y hy q hq
  obtain ⟨x, hx, ⟨rfl, rfl⟩ | ⟨-, rfl⟩⟩ := get?_modify_eq_some hy
  · exact hchange x hx q hq
  · exact h s x hx q hq

end Catalog

/-! ## Containers inside containers -/

/-- The container that an entry holds. -/
def EntryItem.container? : EntryItem → Option ContainerRef
  | container c => some c
  | _ => none

namespace Container

/-- The containers that the entries hold, one for each entry that holds one. -/
def inner (k : Container) : List ContainerRef := k.entries.filterMap (·.item.container?)

/-- Whether it is the container of a repeated group: it extends no container, and it is not the
abstract one that packets extend. -/
def isGroup (k : Container) : Bool := k.base.isNone && !k.isAbstract

/-- A container that extends another is that of a packet. -/
theorem isGroup_of_base {k : Container} (h : k.base.isSome) : k.isGroup = false := by
  rw [isGroup, Option.isNone_eq_false_iff.mpr h, Bool.false_and]

end Container

/-- The containers that the entries of all containers hold, one for each entry that holds one. -/
def Catalog.inner (c : Catalog .container Container) : List ContainerRef :=
  c.toList.flatMap Container.inner

namespace Catalog

theorem inner_push (c : Catalog .container Container) (k : Container) :
    (c.push k).inner = c.inner ++ k.inner := by
  simp [inner]

/-- How often a place occurs among the items of a list of which one is changed. -/
theorem count_flatMap_modify {α β : Type} [BEq β] {g : α → List β} {f : α → α} {x : α} (b : β) :
    ∀ {l : List α} {i : Nat}, l[i]? = some x →
      ((l.modify i f).flatMap g).count b + (g x).count b =
        (l.flatMap g).count b + (g (f x)).count b
  | [], _, h => by simp at h
  | a :: l, 0, h => by
      have ha : a = x := by simpa using h
      subst ha
      simp only [List.modify_zero_cons, List.flatMap_cons, List.count_append]
      omega
  | a :: l, i + 1, h => by
      have ih := count_flatMap_modify (g := g) (f := f) b (l := l) (i := i) (by simpa using h)
      simp only [List.modify_succ_cons, List.flatMap_cons, List.count_append]
      omega

theorem count_inner_modify {c : Catalog .container Container} {r : ContainerRef} {k : Container}
    (hk : c.get? r = some k) (change : Container → Container) (s : ContainerRef) :
    (c.modify r change).inner.count s + k.inner.count s =
      c.inner.count s + (change k).inner.count s := by
  have hlist : c.items.toList[r.index]? = some k := by
    rw [Array.getElem?_toList]
    exact hk
  have h := count_flatMap_modify (g := Container.inner) (f := change) s hlist
  rwa [← Array.toList_modify] at h

/-- A change at a place that is not taken changes nothing. -/
theorem modify_of_none {kind : Kind} {α : Type} {c : Catalog kind α} {r : Ref kind}
    (h : c.get? r = none) (change : α → α) : c.modify r change = c := by
  have hle : c.items.size ≤ r.index := by simpa [get?] using h
  unfold modify
  congr 1
  refine Array.ext (by simp) fun i hi hi' => ?_
  rw [Array.getElem_modify, if_neg (by omega)]

/-- A catalog whose groups are each held by one entry, or by one pending entry, and hold only
groups that came earlier. -/
structure Nested (c : Catalog .container Container) (pending : List ContainerRef) : Prop where
  /-- Entries hold groups only. -/
  group : ∀ r ∈ c.inner ++ pending, ∃ k, c.get? r = some k ∧ k.isGroup = true
  once : ∀ r k, c.get? r = some k → k.isGroup = true → (c.inner ++ pending).count r = 1
  down : c.Descends fun k => if k.isGroup then k.inner else []

variable {c : Catalog .container Container} {pending : List ContainerRef} {k : Container}

/-- What entries hold is there already. -/
theorem Nested.lt_size (h : c.Nested pending) {r : ContainerRef} (hr : r ∈ c.inner ++ pending) :
    r.index < c.size := by
  obtain ⟨_, hk, _⟩ := h.group r hr
  exact lt_size_of_get? hk

/-- The container of a packet comes without groups. -/
theorem Nested.push_packet (h : c.Nested pending) (hgroup : k.isGroup = false)
    (hinner : k.inner = []) : (c.push k).Nested pending := by
  have heq : (c.push k).inner = c.inner := by rw [inner_push, hinner, List.append_nil]
  refine ⟨fun r hr => ?_, fun r x hx hgr => ?_, h.down.push ?_⟩
  · rw [heq] at hr
    obtain ⟨x, hx, hgr⟩ := h.group r hr
    exact ⟨x, get?_push_of_some hx k, hgr⟩
  · rw [heq]
    rcases get?_push_eq_some hx with hold | ⟨-, rfl⟩
    · exact h.once r x hold hgr
    · rw [hgroup] at hgr
      cases hgr
  · rw [hgroup]
    intro q hq
    cases hq

/-- **A group takes the pending groups that it holds, and is pending itself.** -/
theorem Nested.push_group (h : c.Nested (pending ++ k.inner)) (hgroup : k.isGroup = true) :
    (c.push k).Nested (pending ++ [c.next]) := by
  have hperm (r : ContainerRef) : ((c.push k).inner ++ (pending ++ [c.next])).count r =
      (c.inner ++ (pending ++ k.inner)).count r + [c.next].count r := by
    rw [inner_push]
    simp only [List.count_append]
    omega
  refine ⟨fun r hr => ?_, fun r x hx hgr => ?_, h.down.push ?_⟩
  · have hcount := List.count_pos_iff.mpr hr
    rw [hperm] at hcount
    by_cases hold : 0 < (c.inner ++ (pending ++ k.inner)).count r
    · obtain ⟨x, hx, hgr⟩ := h.group r (List.count_pos_iff.mp hold)
      exact ⟨x, get?_push_of_some hx k, hgr⟩
    · have hnew : 0 < [c.next].count r := by omega
      obtain rfl := List.mem_singleton.mp (List.count_pos_iff.mp hnew)
      exact ⟨k, get?_push_next c k, hgroup⟩
  · rw [hperm]
    rcases get?_push_eq_some hx with hold | ⟨rfl, -⟩
    · have hne : r ≠ c.next := by
        rintro rfl
        have hlt := lt_size_of_get? hold
        exact absurd hlt (Nat.lt_irrefl _)
      rw [h.once r x hold hgr, List.count_singleton, if_neg (by simpa using hne.symm)]
    · -- nothing could hold the new place before it was taken
      have hnone : (c.inner ++ (pending ++ k.inner)).count c.next = 0 := by
        refine List.count_eq_zero.mpr fun hmem => ?_
        exact absurd (h.lt_size hmem) (Nat.lt_irrefl _)
      rw [hnone, List.count_singleton_self]
  · rw [hgroup]
    intro q hq
    have hmem : q ∈ c.inner ++ (pending ++ k.inner) := by
      simp only [List.mem_append]
      exact .inr (.inr hq)
    exact h.lt_size hmem

/-- A change that leaves the groups of a container alone. -/
theorem Nested.modify (h : c.Nested pending) {r : ContainerRef} {change : Container → Container}
    (hgroup : ∀ k, (change k).isGroup = k.isGroup) (hinner : ∀ k, (change k).inner = k.inner) :
    (c.modify r change).Nested pending := by
  cases hk : c.get? r with
  | none => rwa [modify_of_none hk]
  | some k =>
      have hcount (s : ContainerRef) :
          ((c.modify r change).inner ++ pending).count s = (c.inner ++ pending).count s := by
        have := count_inner_modify hk change s
        rw [hinner] at this
        simp only [List.count_append]
        omega
      -- nothing is held more or less often than before, and what was a group still is one
      refine ⟨fun s hs => ?_, fun s x hx hgr => ?_, h.down.modify fun x hx q hq => ?_⟩
      · have hpos := List.count_pos_iff.mpr hs
        rw [hcount] at hpos
        obtain ⟨x, hx, hgr⟩ := h.group s (List.count_pos_iff.mp hpos)
        obtain ⟨y, hy, rfl | rfl⟩ := exists_get?_modify hx r change
        · exact ⟨change x, hy, (hgroup x).trans hgr⟩
        · exact ⟨y, hy, hgr⟩
      · rw [hcount]
        obtain ⟨y, hy, ⟨-, rfl⟩ | ⟨-, rfl⟩⟩ := get?_modify_eq_some hx
        · exact h.once s y hy ((hgroup y).symm.trans hgr)
        · exact h.once s y hy hgr
      · have hq' : q ∈ if x.isGroup then x.inner else [] := by
          rwa [hgroup, hinner] at hq
        exact h.down r x hx q hq'

/-- **The container of a packet takes the pending groups.** -/
theorem Nested.attach (h : c.Nested pending) {r : ContainerRef} (hk : c.get? r = some k)
    (hpacket : k.isGroup = false) {change : Container → Container}
    (hgroup : (change k).isGroup = false) (hinner : (change k).inner = k.inner ++ pending) :
    (c.modify r change).Nested [] := by
  have hcount (s : ContainerRef) :
      ((c.modify r change).inner ++ []).count s = (c.inner ++ pending).count s := by
    have := count_inner_modify hk change s
    rw [hinner] at this
    simp only [List.count_append] at this ⊢
    rw [List.count_nil]
    omega
  -- a group is at another place than the packet, so the change passes it by
  have hother {s : ContainerRef} {x : Container} (hgr : x.isGroup = true)
      (hx : c.get? s = some x) : r.index ≠ s.index := by
    intro hrs
    have heq : c.get? r = c.get? s := congrArg (c.items[·]?) hrs
    rw [hk, hx, Option.some.injEq] at heq
    rw [← heq, hpacket] at hgr
    cases hgr
  refine ⟨fun s hs => ?_, fun s x hx hgr => ?_, h.down.modify fun x hx q hq => ?_⟩
  · have hpos := List.count_pos_iff.mpr hs
    rw [hcount] at hpos
    obtain ⟨x, hx, hgr⟩ := h.group s (List.count_pos_iff.mp hpos)
    exact ⟨x, (get?_modify_of_ne c (hother hgr hx) change).trans hx, hgr⟩
  · rw [hcount]
    obtain ⟨y, hy, ⟨rfl, rfl⟩ | ⟨-, rfl⟩⟩ := get?_modify_eq_some hx
    · rw [hk, Option.some.injEq] at hy
      rw [← hy, hgroup] at hgr
      cases hgr
    · exact h.once s y hy hgr
  · rw [hk, Option.some.injEq] at hx
    subst hx
    rw [hgroup] at hq
    cases hq

end Catalog

/-! ## The whole database -/

namespace Database

/-- A container has an entry for another one. -/
def Holds (db : Database) (r s : ContainerRef) : Prop :=
  ∃ k, db.containers.get? r = some k ∧ ∃ e ∈ k.entries, e.item = .container s

/-- Every reference is to an element that is there, no walk along bases or into nested containers
comes back, and what entries hold are groups, each of which stands at one entry. -/
structure Linked (db : Database) : Prop where
  closed : db.Resolves db
  containerBases : db.containers.Descends (·.base.toList)
  commandBases : db.commands.Descends (·.base.toList)
  acyclic : ∀ r, ¬ Relation.TransGen db.Holds r r
  groups : ∀ r s, db.Holds r s → ∃ k, db.containers.get? s = some k ∧ k.isGroup = true
  once : ∀ r k, db.containers.get? r = some k → k.isGroup = true →
    db.containers.inner.count r = 1

/-- What makes a database linked, with groups that are still to be put into a container. -/
structure Wired (db : Database) (pending : List ContainerRef) : Prop where
  closed : db.Resolves db
  containerBases : db.containers.Descends (·.base.toList)
  commandBases : db.commands.Descends (·.base.toList)
  nested : db.containers.Nested pending

theorem Holds.mem_inner {db : Database} {r s : ContainerRef} (h : db.Holds r s) :
    ∃ k, db.containers.get? r = some k ∧ s ∈ k.inner ∧ s ∈ db.containers.inner := by
  obtain ⟨k, hk, e, he, hitem⟩ := h
  have hmem : s ∈ k.inner := List.mem_filterMap.mpr ⟨e, he, by rw [hitem]; rfl⟩
  refine ⟨k, hk, hmem, List.mem_flatMap.mpr ⟨k, ?_, hmem⟩⟩
  exact Array.mem_toList_iff.mpr (Array.mem_of_getElem? hk)

/-- **A walk from container to container goes down once it has reached a group**, and every
container that it comes to is one. -/
theorem Wired.descends {db : Database} (h : db.Wired []) {r s : ContainerRef}
    (hwalk : Relation.TransGen db.Holds r s) :
    (∃ k, db.containers.get? s = some k ∧ k.isGroup = true) ∧
      ∀ k, db.containers.get? r = some k → k.isGroup = true → s.index < r.index := by
  have hstep {a b : ContainerRef} (hab : db.Holds a b) :
      (∃ k, db.containers.get? b = some k ∧ k.isGroup = true) ∧
        ∀ k, db.containers.get? a = some k → k.isGroup = true → b.index < a.index := by
    obtain ⟨x, hx, hmem, hall⟩ := hab.mem_inner
    refine ⟨h.nested.group b (List.mem_append_left _ hall), fun k hk hgroup => ?_⟩
    rw [hx, Option.some.injEq] at hk
    subst hk
    have hbelow : b ∈ if x.isGroup then x.inner else [] := by rwa [if_pos hgroup]
    exact h.nested.down a x hx b hbelow
  -- the second container of the walk is a group, and from there on every step goes down
  induction hwalk with
  | single hrs => exact hstep hrs
  | tail _ hbc ih =>
      obtain ⟨⟨k, hk, hgroup⟩, hlt⟩ := ih
      refine ⟨(hstep hbc).1, fun x hx hgr => ?_⟩
      exact Nat.lt_trans ((hstep hbc).2 k hk hgroup) (hlt x hx hgr)

theorem Wired.linked {db : Database} (h : db.Wired []) : db.Linked where
  closed := h.closed
  containerBases := h.containerBases
  commandBases := h.commandBases
  acyclic := fun r hwalk => by
    obtain ⟨⟨k, hk, hgroup⟩, hlt⟩ := h.descends hwalk
    exact absurd (hlt k hk hgroup) (Nat.lt_irrefl _)
  groups := fun r s hrs => (h.descends (.single hrs)).1
  once := fun r k hk hgroup => by
    have := h.nested.once r k hk hgroup
    rwa [List.append_nil] at this

/-! ## What later databases keep -/

/-- No element has left, and packet containers are still such. -/
structure Kept (db db' : Database) : Prop where
  count : ∀ kind, db.count kind ≤ db'.count kind
  packet : ∀ r k, db.containers.get? r = some k → k.base.isSome →
    ∃ k', db'.containers.get? r = some k' ∧ k'.base.isSome

theorem Kept.refl (db : Database) : db.Kept db :=
  ⟨fun _ => Nat.le_refl _, fun _ k h hb => ⟨k, h, hb⟩⟩

theorem Kept.trans {db db' db'' : Database} (h : db.Kept db') (h' : db'.Kept db'') :
    db.Kept db'' := by
  refine ⟨fun kind => Nat.le_trans (h.count kind) (h'.count kind), fun r k hk hb => ?_⟩
  obtain ⟨k', hk', hb'⟩ := h.packet r k hk hb
  exact h'.packet r k' hk' hb'

/-- Counts decide where the containers stay as they are. -/
theorem Kept.of_containers {db db' : Database} (hcount : ∀ kind, db.count kind ≤ db'.count kind)
    (h : db'.containers = db.containers) : db.Kept db' :=
  ⟨hcount, fun _ k hk hb => ⟨k, by rw [h]; exact hk, hb⟩⟩

/-- **What resolves once resolves for good.** -/
theorem Resolves.kept {α : Type} [Refers α] {x : α} {db db' : Database} (h : db.Resolves x)
    (hkept : db.Kept db') : db'.Resolves x :=
  fun t ht => Nat.lt_of_lt_of_le (h t ht) (hkept.count t.kind)

/-- A database that is wired and has kept all of an earlier one. -/
structure Follows (db db' : Database) : Prop where
  wired : db'.Wired []
  kept : db.Kept db'

/-! ## Additions -/

section

variable {db db' : Database} {pending : List ContainerRef}

/-- An addition to a catalog other than those of containers and of commands. -/
theorem Wired.beside (h : db.Wired pending) (hcontainers : db'.containers = db.containers)
    (hcommands : db'.commands = db.commands) (hclosed : db'.Resolves db') : db'.Wired pending where
  closed := hclosed
  containerBases := by rw [hcontainers]; exact h.containerBases
  commandBases := by rw [hcommands]; exact h.commandBases
  nested := by rw [hcontainers]; exact h.nested

theorem Wired.addParameterType (h : db.Wired []) {t : ParameterType} {r : ParameterTypeRef}
    (ht : db.Resolves t) (hadd : db.addParameterType t = .ok (r, db')) :
    db.Follows db' ∧ db'.Resolves r := by
  obtain ⟨-, heq⟩ := addParameterType_eq_ok.mp hadd
  cases heq
  have hkept : db.Kept { db with parameterTypes := db.parameterTypes.push t } :=
    .of_containers (fun kind => by cases kind <;> simp [count]) rfl
  obtain ⟨h1, h2⟩ := resolves_database.mp (h.closed.kept hkept)
  refine ⟨⟨h.beside rfl rfl (resolves_database.mpr ⟨?_, h2⟩), hkept⟩, by simp [count]⟩
  exact resolves_push.mpr ⟨h1, ht.kept hkept⟩

theorem Wired.changeParameterType (h : db.Wired []) {r : ParameterTypeRef}
    {change : ParameterType → ParameterType}
    (hchange : ∀ t, db.Resolves t → db.Resolves (change t)) :
    db.Follows (db.changeParameterType r change) := by
  have hkept : db.Kept (db.changeParameterType r change) :=
    .of_containers (fun kind => by cases kind <;> simp [count, Database.changeParameterType]) rfl
  obtain ⟨h1, h2⟩ := resolves_database.mp h.closed
  have hmodify : db.Resolves (db.parameterTypes.modify r change) :=
    h1.modify fun t _ ht => hchange t ht
  refine ⟨h.beside rfl rfl (resolves_database.mpr ⟨hmodify.kept hkept, ?_⟩), hkept⟩
  exact (resolves_database.mp (h.closed.kept hkept)).2

theorem mem_registerAliases {owners : List (Alias × ParameterRef)} {r : ParameterRef}
    {aliases : List Alias} {o : Alias × ParameterRef} (h : o ∈ registerAliases owners r aliases) :
    o ∈ owners ∨ o.2 = r := by
  unfold registerAliases at h
  induction aliases generalizing owners with
  | nil => exact .inl h
  | cons a rest ih =>
      rcases ih h with hcons | hr
      · rcases List.mem_cons.mp hcons with rfl | hold
        · exact .inr rfl
        · exact .inl hold
      · exact .inr hr

theorem Wired.addParameter (h : db.Wired []) {p : Parameter} {r : ParameterRef}
    (hp : db.Resolves p) (hadd : db.addParameter p = .ok (r, db')) :
    db.Follows db' ∧ db'.Resolves r := by
  obtain ⟨-, heq⟩ := addParameter_eq_ok.mp hadd
  cases heq
  have hkept : db.Kept { db with
      parameters := db.parameters.push p
      aliasOwners := registerAliases db.aliasOwners db.parameters.next p.aliases } :=
    .of_containers (fun kind => by cases kind <;> simp [count]) rfl
  obtain ⟨h1, h2, h3, h4, h5, h6, h7⟩ := resolves_database.mp (h.closed.kept hkept)
  refine ⟨⟨h.beside rfl rfl (resolves_database.mpr ⟨h1, ?_, h3, h4, h5, h6, ?_⟩), hkept⟩, ?_⟩
  · exact resolves_push.mpr ⟨h2, hp.kept hkept⟩
  · rw [resolves_list, List.forall_mem_map] at h7 ⊢
    intro o ho
    rcases mem_registerAliases ho with hold | hnew
    · exact h7 o hold
    · rw [hnew]
      simp [count]
  · simp [count]

theorem Wired.changeParameter (h : db.Wired []) {r : ParameterRef}
    {change : Parameter → Parameter} (hchange : ∀ p, db.Resolves p → db.Resolves (change p)) :
    db.Follows (db.changeParameter r change) := by
  have hkept : db.Kept (db.changeParameter r change) :=
    .of_containers (fun kind => by cases kind <;> simp [count, Database.changeParameter]) rfl
  obtain ⟨-, h2, -⟩ := resolves_database.mp h.closed
  have hmodify : db.Resolves (db.parameters.modify r change) :=
    h2.modify fun p _ hp => hchange p hp
  obtain ⟨h1, -, h3⟩ := resolves_database.mp (h.closed.kept hkept)
  exact ⟨h.beside rfl rfl (resolves_database.mpr ⟨h1, hmodify.kept hkept, h3⟩), hkept⟩

theorem Wired.addAlias (h : db.Wired []) {r : ParameterRef} (hr : db.Resolves r) (a : Alias) :
    db.Follows (db.addAlias r a) := by
  let change (p : Parameter) : Parameter := { p with aliases := p.aliases ++ [a] }
  obtain ⟨hwired, hkept⟩ : db.Follows (db.changeParameter r change) :=
    h.changeParameter fun _ hp => hp
  obtain ⟨h1, h2, h3, h4, h5, h6, h7⟩ := resolves_database.mp hwired.closed
  have hkept' : db.Kept (db.addAlias r a) := ⟨hkept.count, hkept.packet⟩
  refine ⟨hwired.beside rfl rfl (resolves_database.mpr ⟨h1, h2, h3, h4, h5, h6, ?_⟩), hkept'⟩
  exact resolves_cons.mpr ⟨hr.kept hkept', h7⟩

theorem Wired.addArgumentType (h : db.Wired []) {t : ArgumentType} (ht : db.Resolves t) :
    db.Follows (db.addArgumentType t).2 ∧
      (db.addArgumentType t).2.Resolves (db.addArgumentType t).1 := by
  have hkept : db.Kept (db.addArgumentType t).2 :=
    .of_containers (fun kind => by cases kind <;> simp [count, Database.addArgumentType]) rfl
  obtain ⟨h1, h2, h3, h4, h5⟩ := resolves_database.mp (h.closed.kept hkept)
  refine ⟨⟨h.beside rfl rfl (resolves_database.mpr ⟨h1, h2, h3, ?_, h5⟩), hkept⟩, ?_⟩
  · exact resolves_push.mpr ⟨h4, ht.kept hkept⟩
  · simp [count, Database.addArgumentType]

theorem Wired.addAlgorithm (h : db.Wired []) {a : Algorithm} {r : AlgorithmRef}
    (ha : db.Resolves a) (hadd : db.addAlgorithm a = .ok (r, db')) :
    db.Follows db' ∧ db'.Resolves r := by
  obtain ⟨-, heq⟩ := Catalog.map_add_eq_ok.mp hadd
  cases heq
  have hkept : db.Kept { db with algorithms := db.algorithms.push a } :=
    .of_containers (fun kind => by cases kind <;> simp [count]) rfl
  obtain ⟨h1, h2, h3, h4, h5, h6, h7⟩ := resolves_database.mp (h.closed.kept hkept)
  refine ⟨⟨h.beside rfl rfl (resolves_database.mpr ⟨h1, h2, h3, h4, h5, ?_, h7⟩), hkept⟩, ?_⟩
  · exact resolves_push.mpr ⟨h6, ha.kept hkept⟩
  · simp [count]

/-! ### Commands -/

theorem Wired.addCommand (h : db.Wired []) {c : Command} {r : CommandRef} (hc : db.Resolves c)
    (hadd : db.addCommand c = .ok (r, db')) : db.Follows db' ∧ db'.Resolves r := by
  obtain ⟨-, heq⟩ := addCommand_eq_ok.mp hadd
  cases heq
  have hkept : db.Kept { db with commands := db.commands.push c } :=
    .of_containers (fun kind => by cases kind <;> simp [count]) rfl
  obtain ⟨h1, h2, h3, h4, h5, h6⟩ := resolves_database.mp (h.closed.kept hkept)
  refine ⟨⟨⟨resolves_database.mpr ⟨h1, h2, h3, h4, ?_, h6⟩, h.containerBases, ?_, h.nested⟩, hkept⟩,
    by simp [count]⟩
  · exact resolves_push.mpr ⟨h5, hc.kept hkept⟩
  · refine h.commandBases.push fun q hq => ?_
    have hbase := (resolves_command.mp hc).1
    rw [Option.mem_toList.mp hq, resolves_some, resolves_ref] at hbase
    exact hbase

/-- A change of a command that leaves its base alone. -/
theorem Wired.changeCommand (h : db.Wired []) {r : CommandRef} {change : Command → Command}
    (hchange : ∀ c, db.Resolves c → db.Resolves (change c))
    (hbase : ∀ c, (change c).base = c.base) : db.Follows (db.changeCommand r change) := by
  have hkept : db.Kept (db.changeCommand r change) :=
    .of_containers (fun kind => by cases kind <;> simp [count, Database.changeCommand]) rfl
  obtain ⟨-, -, -, -, h5, -⟩ := resolves_database.mp h.closed
  have hmodify : db.Resolves (db.commands.modify r change) :=
    h5.modify fun c _ hc => hchange c hc
  obtain ⟨h1, h2, h3, h4, -, h6⟩ := resolves_database.mp (h.closed.kept hkept)
  refine ⟨⟨resolves_database.mpr ⟨h1, h2, h3, h4, hmodify.kept hkept, h6⟩, h.containerBases, ?_,
    h.nested⟩, hkept⟩
  refine h.commandBases.modify fun c hc q hq => ?_
  rw [hbase] at hq
  exact h.commandBases r c hc q hq

/-! ### Containers -/

theorem kept_push (c : Container) :
    db.Kept { db with containers := db.containers.push c } :=
  ⟨fun kind => by cases kind <;> simp [count],
    fun _ k hk hb => ⟨k, Catalog.get?_push_of_some hk c, hb⟩⟩

/-- The parts of the invariant that do not depend on what is pending. -/
theorem Wired.push (h : db.Wired pending) {c : Container} (hc : db.Resolves c)
    {pending' : List ContainerRef} (hnested : (db.containers.push c).Nested pending') :
    ({ db with containers := db.containers.push c } : Database).Wired pending' := by
  obtain ⟨h1, h2, h3, h4⟩ := resolves_database.mp (h.closed.kept (kept_push c))
  refine ⟨resolves_database.mpr ⟨h1, h2, ?_, h4⟩, ?_, h.commandBases, hnested⟩
  · exact resolves_push.mpr ⟨h3, hc.kept (kept_push c)⟩
  · refine h.containerBases.push fun q hq => ?_
    have hbase := (resolves_container.mp hc).1
    rw [Option.mem_toList.mp hq, resolves_some, resolves_ref] at hbase
    exact hbase

/-- A container that is no group and holds none. -/
theorem Wired.addContainer (h : db.Wired []) {c : Container} {r : ContainerRef}
    (hc : db.Resolves c) (hgroup : c.isGroup = false) (hinner : c.inner = [])
    (hadd : db.addContainer c = .ok (r, db')) :
    db.Follows db' ∧ db'.containers.get? r = some c := by
  obtain ⟨-, heq⟩ := addContainer_eq_ok.mp hadd
  cases heq
  exact ⟨⟨h.push hc (h.nested.push_packet hgroup hinner), kept_push c⟩,
    Catalog.get?_push_next _ _⟩

theorem kept_changeContainer {r : ContainerRef} {change : Container → Container}
    (hbase : ∀ c, (change c).base = c.base) : db.Kept (db.changeContainer r change) := by
  refine ⟨fun kind => by cases kind <;> simp [count, Database.changeContainer], fun s k hk hb => ?_⟩
  obtain ⟨k', hk', rfl | rfl⟩ := Catalog.exists_get?_modify hk r change
  · exact ⟨change k, hk', by rwa [hbase]⟩
  · exact ⟨k', hk', hb⟩

/-- The parts of the invariant that do not depend on what is pending. -/
theorem Wired.modify (h : db.Wired pending) {r : ContainerRef} {change : Container → Container}
    (hbase : ∀ c, (change c).base = c.base)
    (hchange : ∀ c, db.Resolves c → db.Resolves (change c)) {pending' : List ContainerRef}
    (hnested : (db.containers.modify r change).Nested pending') :
    (db.changeContainer r change).Wired pending' := by
  have hkept : db.Kept (db.changeContainer r change) := kept_changeContainer hbase
  obtain ⟨-, -, h3, -⟩ := resolves_database.mp h.closed
  have hmodify : db.Resolves (db.containers.modify r change) :=
    h3.modify fun c _ hc => hchange c hc
  obtain ⟨h1, h2, -, h4⟩ := resolves_database.mp (h.closed.kept hkept)
  refine ⟨resolves_database.mpr ⟨h1, h2, hmodify.kept hkept, h4⟩, ?_, h.commandBases, hnested⟩
  refine h.containerBases.modify fun c hc q hq => ?_
  rw [hbase] at hq
  exact h.containerBases r c hc q hq

/-- A change of a container that leaves its base and its groups alone. -/
theorem Wired.changeContainer (h : db.Wired []) {r : ContainerRef}
    {change : Container → Container} (hbase : ∀ c, (change c).base = c.base)
    (habstract : ∀ c, (change c).isAbstract = c.isAbstract)
    (hinner : ∀ c, (change c).inner = c.inner)
    (hchange : ∀ c, db.Resolves c → db.Resolves (change c)) :
    db.Follows (db.changeContainer r change) := by
  refine ⟨h.modify hbase hchange (h.nested.modify (fun c => ?_) hinner), kept_changeContainer hbase⟩
  rw [Container.isGroup, Container.isGroup, hbase, habstract]

/-- A group takes the pending groups that it holds, and is pending itself. -/
theorem Wired.addGroup {k : Container} (hk : db.Resolves k) (hgroup : k.isGroup = true)
    (h : db.Wired (pending ++ k.inner)) :
    ({ db with containers := db.containers.push k } : Database).Wired
      (pending ++ [db.containers.next]) :=
  h.push hk (h.nested.push_group hgroup)

/-- The container of a packet takes entries and the pending groups that they hold. -/
theorem Wired.addEntries (h : db.Wired pending) {r : ContainerRef} {k : Container}
    (hk : db.containers.get? r = some k) (hbase : k.base.isSome) {entries : List Entry}
    (hentries : db.Resolves entries)
    (hpending : entries.filterMap (·.item.container?) = pending) :
    db.Follows (db.changeContainer r fun c => { c with entries := c.entries ++ entries }) := by
  have hgroup := Container.isGroup_of_base hbase
  let change (c : Container) : Container := { c with entries := c.entries ++ entries }
  have hchange (c : Container) (hc : db.Resolves c) : db.Resolves (change c) := by
    obtain ⟨h1, h2, h3⟩ := resolves_container.mp hc
    exact resolves_container.mpr ⟨h1, h2, resolves_append.mpr ⟨h3, hentries⟩⟩
  have hinner : (change k).inner = k.inner ++ pending := by
    rw [← hpending]
    exact List.filterMap_append
  have hnested : (db.containers.modify r change).Nested [] :=
    h.nested.attach hk hgroup hgroup hinner
  have hkept (c : Container) : (change c).base = c.base := rfl
  exact ⟨h.modify hkept hchange hnested, kept_changeContainer hkept⟩

/-- One more entry, for a parameter. -/
theorem Wired.addEntry (h : db.Wired []) {r : ContainerRef} {e : Entry} (he : db.Resolves e)
    (hitem : e.item.container? = none) :
    db.Follows (db.changeContainer r fun c => { c with entries := c.entries ++ [e] }) := by
  refine h.changeContainer (fun _ => rfl) (fun _ => rfl) (fun c => ?_) fun c hc => ?_
  · show (c.entries ++ [e]).filterMap _ = _
    rw [List.filterMap_append, List.filterMap_cons, hitem, List.filterMap_nil, List.append_nil]
    rfl
  · obtain ⟨h1, h2, h3⟩ := resolves_container.mp hc
    refine resolves_container.mpr ⟨h1, h2, resolves_append.mpr ⟨h3, ?_⟩⟩
    exact resolves_cons.mpr ⟨he, resolves_nil⟩

end

end Database

end MissionBase
