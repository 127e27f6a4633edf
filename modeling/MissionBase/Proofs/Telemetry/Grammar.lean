import MissionBase.Proofs.Run
import MissionBase.Telemetry.VariableLayout

/-!
# The grammar of variable structures

A structure is a flat list in which every counter claims a number of the elements after it, so the
list has the shape of a forest. Planning walks this forest and builds entries; this file says
exactly when it gets through and what it builds.

`Planned` is the plan as a relation: one rule for each thing that can stand at the front of the
list. `planEntries_eq_ok` says that a successful plan is a derivation, and from there on every
statement is an induction over derivations. Four conditions decide whether there is one: the list
is well nested, every name stands for something, every counter has a count, and no container that
the plan would name is there already.
-/

namespace MissionBase

namespace Telemetry

/-! ## Single steps -/

/-- The results of a lookup pass through a plan unchanged. -/
theorem lift_plan_eq_ok {α : Type} {x : Except Error α} {a : α} {n m : Nat} :
    (liftM x : Plan α) n = .ok a m ↔ x = .ok a ∧ n = m := by
  cases x with
  | ok b => exact Run.pure_eq_ok.trans (by simp)
  | error e => exact Run.throw_eq_ok.trans (by simp)

theorem plannedEntry_eq_ok {s : Surroundings} {place : EntryPlace} {repetition : Option Repeat}
    {e : VariableElement} {x : PlannedEntry} {n m : Nat} :
    plannedEntry s place repetition e n = .ok x m ↔
      ∃ item, s.item e.name e.location = .ok item ∧ .single ⟨place, repetition, item⟩ = x ∧
        n = m := by
  unfold plannedEntry
  simp only [Run.bind_eq_ok, lift_plan_eq_ok, Run.pure_eq_ok]
  constructor
  · rintro ⟨item, _, ⟨h1, rfl⟩, h2, h3⟩; exact ⟨item, h1, h2, h3⟩
  · rintro ⟨item, h1, h2, h3⟩; exact ⟨item, n, ⟨h1, rfl⟩, h2, h3⟩

/-- A group takes the next number, and fails where a container has the name that this gives. -/
theorem groupName_eq_ok {s : Surroundings} {parent name : String} {l : Location} {n m : Nat} :
    groupName s parent l n = .ok name m ↔
      numbered parent (n + 1) = name ∧ n + 1 = m ∧ s.taken name = false := by
  unfold groupName
  simp only [Run.bind_eq_ok, Run.modify_eq_ok, Run.get_eq_ok]
  constructor
  · rintro ⟨_, _, rfl, _, _, ⟨rfl, rfl⟩, h⟩
    split at h
    · obtain ⟨_, _, h1, _⟩ := Run.bind_eq_ok.mp h
      exact (Run.throw_eq_ok.mp h1).elim
    · rename_i hfree
      obtain ⟨rfl, rfl⟩ := Run.pure_eq_ok.mp h
      exact ⟨rfl, rfl, by simpa using hfree⟩
  · rintro ⟨rfl, rfl, hfree⟩
    refine ⟨⟨⟩, n + 1, rfl, n + 1, n + 1, ⟨rfl, rfl⟩, ?_⟩
    rw [if_neg (by simp [hfree])]
    exact Run.pure_eq_ok.mpr ⟨rfl, rfl⟩

/-- The count of a group: a number in the table, or the parameter that its counter stands for. -/
def Counts (counter : VariableElement) (item : EntryItem) : RepeatCount → Prop
  | .fixed n => 0 < counter.fixedRepetitions ∧ counter.fixedRepetitions = n ∧ n ≤ 4294967295
  | .dynamic p => counter.fixedRepetitions ≤ 0 ∧ item = .parameter p

theorem repeatCount_eq_ok {s : Surroundings} {counter : VariableElement} {item : EntryItem}
    {count : RepeatCount} (hitem : s.item counter.name counter.location = .ok item) :
    repeatCount s counter = .ok count ↔ Counts counter item count := by
  unfold repeatCount countOf?
  by_cases hpos : 0 < counter.fixedRepetitions
  · have hnot : ¬ counter.fixedRepetitions ≤ 0 := by omega
    rw [if_pos hpos]
    by_cases hfit : 1 ≤ counter.fixedRepetitions ∧ counter.fixedRepetitions ≤ 4294967295
    · rw [if_pos hfit]
      cases count with
      | fixed n =>
          simp only [Except.ok.injEq, RepeatCount.fixed.injEq, Counts]
          omega
      | dynamic p => simp [Counts, hnot]
    · rw [if_neg hfit]
      cases count with
      | fixed n =>
          simp only [reduceCtorEq, Counts, false_iff]
          omega
      | dynamic p => simp [Counts, hnot]
  · rw [if_neg hpos, hitem]
    have hle : counter.fixedRepetitions ≤ 0 := by omega
    cases count with
    | fixed n => cases item <;> simp [Counts, hpos]
    | dynamic p => cases item <;> simp [Counts, hle]

/-! ## Plans as derivations -/

/--
`Planned s parent start n elements entries m`: inside the container `parent`, the elements are laid
out as the entries. The first one stands at its offset from `start`, or from the entry before where
there is none. Numbers of groups run from `n` to `m`.
-/
inductive Planned (s : Surroundings) :
    String → Option Int → Nat → List VariableElement → List PlannedEntry → Nat → Prop where
  | nil {parent : String} {start : Option Int} {n : Nat} : Planned s parent start n [] [] n
  | plain {parent : String} {start : Option Int} {n m : Nat} {e : VariableElement}
      {item : EntryItem} {rest : List VariableElement} {after : List PlannedEntry} :
      e.groupSize = 0 → s.item e.name e.location = .ok item →
      Planned s parent none n rest after m →
      Planned s parent start n (e :: rest) (.single ⟨placeOf start e, none, item⟩ :: after) m
  /-- A group of one element that counts nothing is that element, repeated. -/
  | lone {parent : String} {start : Option Int} {n m : Nat} {counter e : VariableElement}
      {count : RepeatCount} {item item' : EntryItem} {rest : List VariableElement}
      {after : List PlannedEntry} :
      counter.groupSize = 1 → e.groupSize = 0 →
      s.item counter.name counter.location = .ok item → Counts counter item count →
      s.item e.name e.location = .ok item' →
      Planned s parent none n rest after m →
      Planned s parent start n (counter :: e :: rest)
        (.single ⟨placeOf start counter, none, item⟩ ::
          .single ⟨.previous e.offset, some ⟨count, 0⟩, item'⟩ :: after) m
  /-- Any other group is a container of its own, repeated. -/
  | nest {parent : String} {start : Option Int} {n k m : Nat} {counter : VariableElement}
      {count : RepeatCount} {item : EntryItem} {members rest : List VariableElement}
      {inner after : List PlannedEntry} :
      0 < counter.groupSize → members.length = counter.groupSize → plainElement? members = none →
      s.item counter.name counter.location = .ok item → Counts counter item count →
      s.taken (numbered parent (n + 1)) = false →
      Planned s (numbered parent (n + 1)) (some 0) (n + 1) members inner k →
      Planned s parent none k rest after m →
      Planned s parent start n (counter :: (members ++ rest))
        (.single ⟨placeOf start counter, none, item⟩ ::
          .nested (numbered parent (n + 1)) inner ⟨count, 0⟩ :: after) m

theorem plainElement?_eq_some {members : List VariableElement} {e : VariableElement} :
    plainElement? members = some e ↔ members = [e] ∧ e.groupSize = 0 := by
  unfold plainElement?
  split
  · rename_i x
    by_cases hx : x.groupSize = 0
    · rw [if_pos hx]
      constructor
      · intro h; cases h; exact ⟨rfl, hx⟩
      · rintro ⟨h, _⟩; cases h; rfl
    · rw [if_neg hx]
      constructor
      · intro h; exact absurd h (by simp)
      · rintro ⟨h, h0⟩; cases h; exact absurd h0 hx
  · rename_i hne
    constructor
    · intro h; exact absurd h (by simp)
    · rintro ⟨h, _⟩; exact (hne e h).elim

/-- A group as the list after its counter shows it. -/
theorem take_drop_of_le {counter : VariableElement} {rest : List VariableElement}
    (h : counter.groupSize ≤ rest.length) :
    (rest.take counter.groupSize).length = counter.groupSize ∧
      rest = rest.take counter.groupSize ++ rest.drop counter.groupSize := by
  refine ⟨?_, (List.take_append_drop _ _).symm⟩
  rw [List.length_take]; omega

/-- **A successful plan is a derivation.** -/
theorem planned_of_eq_ok {s : Surroundings} {parent : String} {start : Option Int}
    {elements : List VariableElement} : ∀ {n m : Nat} {entries : List PlannedEntry},
    planEntries s parent start elements n = .ok entries m →
    Planned s parent start n elements entries m := by
  induction parent, start, elements using planEntries.induct with
  | case1 parent start =>
      intro n m entries h
      rw [planEntries] at h
      obtain ⟨rfl, rfl⟩ := Run.pure_eq_ok.mp h
      exact .nil
  | case2 parent start counter rest ihRest ihDrop ihTake =>
      intro n m entries h
      rw [planEntries] at h
      obtain ⟨_, _, h1, h⟩ := Run.bind_eq_ok.mp h
      obtain ⟨item, hitem, rfl, rfl⟩ := plannedEntry_eq_ok.mp h1
      dsimp only at h
      split at h
      · -- an element that counts nothing
        rename_i hsize
        obtain ⟨after, _, h2, h⟩ := Run.bind_eq_ok.mp h
        obtain ⟨rfl, rfl⟩ := Run.pure_eq_ok.mp h
        exact .plain hsize hitem (ihRest h2)
      · rename_i hsize
        split at h
        · obtain ⟨_, _, h2, _⟩ := Run.bind_eq_ok.mp h
          exact (Run.throw_eq_ok.mp h2).elim
        · rename_i hlen
          obtain ⟨hlength, hsplit⟩ := take_drop_of_le (Nat.le_of_not_lt hlen)
          obtain ⟨count, _, h2, h⟩ := Run.bind_eq_ok.mp h
          obtain ⟨hrepeat, rfl⟩ := lift_plan_eq_ok.mp h2
          have hcount := (repeatCount_eq_ok hitem).mp hrepeat
          cases hplain : plainElement? (rest.take counter.groupSize) with
          | some e =>
            -- a group of one element
            rw [hplain] at h
            obtain ⟨_, _, h3, h⟩ := Run.bind_eq_ok.mp h
            obtain ⟨item', hitem', rfl, rfl⟩ := plannedEntry_eq_ok.mp h3
            obtain ⟨after, _, h4, h⟩ := Run.bind_eq_ok.mp h
            obtain ⟨rfl, rfl⟩ := Run.pure_eq_ok.mp h
            obtain ⟨htake, he⟩ := plainElement?_eq_some.mp hplain
            rw [htake] at hlength hsplit
            rw [hsplit]
            exact .lone (by simpa using hlength.symm) he hitem hcount hitem' (ihDrop h4)
          | none =>
            -- a container of its own
            rw [hplain] at h
            obtain ⟨name, _, h3, h⟩ := Run.bind_eq_ok.mp h
            obtain ⟨rfl, rfl, hfree⟩ := groupName_eq_ok.mp h3
            obtain ⟨inner, k, h4, h⟩ := Run.bind_eq_ok.mp h
            obtain ⟨_, _, h5, h⟩ := Run.bind_eq_ok.mp h
            obtain ⟨rfl, rfl⟩ := Run.pure_eq_ok.mp h5
            obtain ⟨after, _, h6, h⟩ := Run.bind_eq_ok.mp h
            obtain ⟨rfl, rfl⟩ := Run.pure_eq_ok.mp h
            conv => arg 5; rw [hsplit]
            exact .nest (by omega) hlength hplain hitem hcount hfree (ihTake _ h4) (ihDrop h6)

/-- **A derivation is a successful plan.** -/
theorem Planned.eq_ok {s : Surroundings} {parent : String} {start : Option Int} {n m : Nat}
    {elements : List VariableElement} {entries : List PlannedEntry}
    (h : Planned s parent start n elements entries m) :
    planEntries s parent start elements n = .ok entries m := by
  induction h with
  | nil => rw [planEntries]; rfl
  | plain hsize hitem _ ih =>
      rw [planEntries]
      refine Run.bind_eq_ok.mpr ⟨_, _, plannedEntry_eq_ok.mpr ⟨_, hitem, rfl, rfl⟩, ?_⟩
      dsimp only
      rw [if_pos hsize]
      exact Run.bind_eq_ok.mpr ⟨_, _, ih, Run.pure_eq_ok.mpr ⟨rfl, rfl⟩⟩
  | @lone _ _ n m counter e count item item' rest after hsize he hitem hcount hitem' _ ih =>
      rw [planEntries]
      refine Run.bind_eq_ok.mpr ⟨_, _, plannedEntry_eq_ok.mpr ⟨_, hitem, rfl, rfl⟩, ?_⟩
      dsimp only
      rw [if_neg (by omega), if_neg (by rw [hsize, List.length_cons]; omega)]
      refine Run.bind_eq_ok.mpr
        ⟨count, n, lift_plan_eq_ok.mpr ⟨(repeatCount_eq_ok hitem).mpr hcount, rfl⟩, ?_⟩
      have hplain : plainElement? ((e :: rest).take counter.groupSize) = some e := by
        rw [hsize]; exact plainElement?_eq_some.mpr ⟨rfl, he⟩
      rw [hplain]
      refine Run.bind_eq_ok.mpr ⟨_, _, plannedEntry_eq_ok.mpr ⟨_, hitem', rfl, rfl⟩, ?_⟩
      rw [hsize]
      exact Run.bind_eq_ok.mpr ⟨_, _, ih, Run.pure_eq_ok.mpr ⟨rfl, rfl⟩⟩
  | @nest _ _ n k m counter count item members rest inner after hpos hlength hplain hitem hcount
      hfree _ _ ihInner ih =>
      rw [planEntries]
      refine Run.bind_eq_ok.mpr ⟨_, _, plannedEntry_eq_ok.mpr ⟨_, hitem, rfl, rfl⟩, ?_⟩
      dsimp only
      have htake : (members ++ rest).take counter.groupSize = members := by
        rw [← hlength]; exact List.take_left
      have hdrop : (members ++ rest).drop counter.groupSize = rest := by
        rw [← hlength]; exact List.drop_left
      rw [if_neg (by omega), if_neg (by rw [List.length_append]; omega)]
      refine Run.bind_eq_ok.mpr
        ⟨count, n, lift_plan_eq_ok.mpr ⟨(repeatCount_eq_ok hitem).mpr hcount, rfl⟩, ?_⟩
      rw [htake, hdrop, hplain]
      refine Run.bind_eq_ok.mpr ⟨_, _, groupName_eq_ok.mpr ⟨rfl, rfl, hfree⟩, ?_⟩
      refine Run.bind_eq_ok.mpr ⟨_, _, ihInner, ?_⟩
      refine Run.bind_eq_ok.mpr ⟨_, _, Run.pure_eq_ok.mpr ⟨rfl, rfl⟩, ?_⟩
      exact Run.bind_eq_ok.mpr ⟨_, _, ih, Run.pure_eq_ok.mpr ⟨rfl, rfl⟩⟩

/-! ## What a plan needs -/

/-- Every counter is followed, inside the list, by as many elements as it claims, and those are
well nested themselves. -/
inductive WellNested : List VariableElement → Prop where
  | nil : WellNested []
  | plain {e : VariableElement} {rest : List VariableElement} :
      e.groupSize = 0 → WellNested rest → WellNested (e :: rest)
  | group {counter : VariableElement} {members rest : List VariableElement} :
      0 < counter.groupSize → members.length = counter.groupSize → WellNested members →
      WellNested rest → WellNested (counter :: (members ++ rest))

/-- The names of the containers that a plan makes, and the number that it ends with. A group of one
element that counts nothing makes none. -/
def groupNames (parent : String) (n : Nat) : List VariableElement → List String × Nat
  | [] => ([], n)
  | counter :: rest =>
    if counter.groupSize = 0 then groupNames parent n rest
    else
      match plainElement? (rest.take counter.groupSize) with
      | some _ => groupNames parent n (rest.drop counter.groupSize)
      | none =>
        let name := numbered parent (n + 1)
        let inner := groupNames name (n + 1) (rest.take counter.groupSize)
        let after := groupNames parent inner.2 (rest.drop counter.groupSize)
        (name :: inner.1 ++ after.1, after.2)
  termination_by elements => elements.length
  decreasing_by all_goals simp only [List.length_cons, List.length_take, List.length_drop]; omega

theorem groupNames_plain {parent : String} {n : Nat} {e : VariableElement}
    {rest : List VariableElement} (h : e.groupSize = 0) :
    groupNames parent n (e :: rest) = groupNames parent n rest := by
  rw [groupNames, if_pos h]

theorem groupNames_lone {parent : String} {n : Nat} {counter e : VariableElement}
    {rest : List VariableElement} (h : counter.groupSize = 1) (he : e.groupSize = 0) :
    groupNames parent n (counter :: e :: rest) = groupNames parent n rest := by
  have hplain : plainElement? ((e :: rest).take counter.groupSize) = some e := by
    rw [h]; exact plainElement?_eq_some.mpr ⟨rfl, he⟩
  rw [groupNames, if_neg (by omega), hplain]
  dsimp only
  rw [h]; rfl

theorem groupNames_nest {parent : String} {n : Nat} {counter : VariableElement}
    {members rest : List VariableElement} (hpos : 0 < counter.groupSize)
    (hlength : members.length = counter.groupSize) (hplain : plainElement? members = none) :
    groupNames parent n (counter :: (members ++ rest)) =
      (numbered parent (n + 1) :: (groupNames (numbered parent (n + 1)) (n + 1) members).1 ++
        (groupNames parent (groupNames (numbered parent (n + 1)) (n + 1) members).2 rest).1,
        (groupNames parent (groupNames (numbered parent (n + 1)) (n + 1) members).2 rest).2) := by
  rw [groupNames, if_neg (by omega), ← hlength, List.take_left, List.drop_left, hplain]

/-- The four conditions under which elements can be planned inside a container. -/
structure Plannable (s : Surroundings) (parent : String) (n : Nat)
    (elements : List VariableElement) : Prop where
  /-- Counters claim elements that are there. -/
  nested : WellNested elements
  /-- Names stand for something. -/
  resolved : ∀ e ∈ elements, ∃ item, s.item e.name e.location = .ok item
  /-- Counters have a count. -/
  counted : ∀ e ∈ elements, 0 < e.groupSize →
    ∀ item, s.item e.name e.location = .ok item → ∃ count, Counts e item count
  /-- The containers to be made are not there already. -/
  free : ∀ name ∈ (groupNames parent n elements).1, s.taken name = false

/-- A derivation ends with the number that its names end with, and has all names free. -/
theorem Planned.names {s : Surroundings} {parent : String} {start : Option Int} {n m : Nat}
    {elements : List VariableElement} {entries : List PlannedEntry}
    (h : Planned s parent start n elements entries m) :
    (groupNames parent n elements).2 = m ∧
      ∀ name ∈ (groupNames parent n elements).1, s.taken name = false := by
  induction h with
  | nil => rw [groupNames]; exact ⟨rfl, by simp⟩
  | plain hsize _ _ ih => rw [groupNames_plain hsize]; exact ih
  | lone hsize he _ _ _ _ ih => rw [groupNames_lone hsize he]; exact ih
  | nest hpos hlength hplain _ _ hfree _ _ ihInner ih =>
      rw [groupNames_nest hpos hlength hplain, ihInner.1]
      refine ⟨ih.1, ?_⟩
      intro name hname
      rcases List.mem_append.mp hname with hname | hname
      · rcases List.mem_cons.mp hname with rfl | hname
        · exact hfree
        · exact ihInner.2 name hname
      · exact ih.2 name hname

theorem Planned.plannable {s : Surroundings} {parent : String} {start : Option Int} {n m : Nat}
    {elements : List VariableElement} {entries : List PlannedEntry}
    (h : Planned s parent start n elements entries m) : Plannable s parent n elements := by
  suffices hall : WellNested elements ∧ ∀ e ∈ elements, ∃ item,
      s.item e.name e.location = .ok item ∧ (0 < e.groupSize → ∃ count, Counts e item count) by
    refine ⟨hall.1, fun e he => ?_, fun e he hsize item hitem => ?_, h.names.2⟩
    · obtain ⟨item, hitem, _⟩ := hall.2 e he
      exact ⟨item, hitem⟩
    · obtain ⟨item', hitem', hcount⟩ := hall.2 e he
      have hsame : item' = item := Except.ok.inj (hitem'.symm.trans hitem)
      exact hsame ▸ hcount hsize
  induction h with
  | nil => exact ⟨.nil, by simp⟩
  | plain hsize hitem _ ih =>
      refine ⟨.plain hsize ih.1, fun e he => ?_⟩
      rcases List.mem_cons.mp he with rfl | he
      · exact ⟨_, hitem, fun h => by omega⟩
      · exact ih.2 e he
  | @lone _ _ _ _ counter e' _ _ _ rest _ hsize he hitem hcount hitem' _ ih =>
      have hone : WellNested (counter :: ([e'] ++ rest)) :=
        .group (by omega) (by rw [hsize]; rfl) (.plain he .nil) ih.1
      refine ⟨hone, fun e hmem => ?_⟩
      rcases List.mem_cons.mp hmem with rfl | hmem
      · exact ⟨_, hitem, fun _ => ⟨_, hcount⟩⟩
      · rcases List.mem_cons.mp hmem with rfl | hmem
        · exact ⟨_, hitem', fun h => by omega⟩
        · exact ih.2 e hmem
  | nest hpos hlength _ hitem hcount _ _ _ ihInner ih =>
      refine ⟨.group hpos hlength ihInner.1 ih.1, fun e hmem => ?_⟩
      rcases List.mem_cons.mp hmem with rfl | hmem
      · exact ⟨_, hitem, fun _ => ⟨_, hcount⟩⟩
      · rcases List.mem_append.mp hmem with hmem | hmem
        · exact ihInner.2 e hmem
        · exact ih.2 e hmem

/-- **Nothing else is needed.** -/
theorem WellNested.exists_planned {s : Surroundings} {elements : List VariableElement}
    (hnested : WellNested elements) : ∀ {parent : String} {n : Nat} (start : Option Int),
    Plannable s parent n elements → ∃ entries m, Planned s parent start n elements entries m := by
  induction hnested with
  | nil => intro parent n start _; exact ⟨[], n, .nil⟩
  | @plain e rest hsize hrest ih =>
      intro parent n start h
      obtain ⟨item, hitem⟩ := h.resolved e List.mem_cons_self
      have hfree := h.free
      rw [groupNames_plain hsize] at hfree
      obtain ⟨after, m, hplan⟩ := ih none
        ⟨hrest, fun e he => h.resolved e (List.mem_cons_of_mem _ he),
          fun e he => h.counted e (List.mem_cons_of_mem _ he), hfree⟩
      exact ⟨_, m, .plain hsize hitem hplan⟩
  | @group counter members rest hpos hlength hmembers hrest ihMembers ih =>
      intro parent n start h
      obtain ⟨item, hitem⟩ := h.resolved counter List.mem_cons_self
      obtain ⟨count, hcount⟩ := h.counted counter List.mem_cons_self hpos item hitem
      have hmemMembers : ∀ e ∈ members, e ∈ counter :: (members ++ rest) := fun e he =>
        List.mem_cons_of_mem _ (List.mem_append_left _ he)
      have hmemRest : ∀ e ∈ rest, e ∈ counter :: (members ++ rest) := fun e he =>
        List.mem_cons_of_mem _ (List.mem_append_right _ he)
      have hfree := h.free
      cases hplain : plainElement? members with
      | some e =>
          obtain ⟨rfl, he⟩ := plainElement?_eq_some.mp hplain
          have hsize : counter.groupSize = 1 := by simpa using hlength.symm
          obtain ⟨item', hitem'⟩ := h.resolved e (hmemMembers e List.mem_cons_self)
          rw [List.singleton_append, groupNames_lone hsize he] at hfree
          obtain ⟨after, m, hplan⟩ := ih none
            ⟨hrest, fun e he => h.resolved e (hmemRest e he),
              fun e he => h.counted e (hmemRest e he), hfree⟩
          exact ⟨_, m, .lone hsize he hitem hcount hitem' hplan⟩
      | none =>
          rw [groupNames_nest hpos hlength hplain] at hfree
          obtain ⟨inner, k, hinner⟩ := @ihMembers (numbered parent (n + 1)) (n + 1) (some 0)
            ⟨hmembers, fun e he => h.resolved e (hmemMembers e he),
              fun e he => h.counted e (hmemMembers e he), fun name hname =>
                hfree name (List.mem_append_left _ (List.mem_cons_of_mem _ hname))⟩
          rw [hinner.names.1] at hfree
          obtain ⟨after, m, hplan⟩ := @ih parent k none
            ⟨hrest, fun e he => h.resolved e (hmemRest e he),
              fun e he => h.counted e (hmemRest e he), fun name hname =>
                hfree name (List.mem_append_right _ hname)⟩
          have hname : s.taken (numbered parent (n + 1)) = false :=
            hfree _ (List.mem_append_left _ List.mem_cons_self)
          exact ⟨_, m, .nest hpos hlength hplain hitem hcount hname hinner hplan⟩

/-! ## What a plan builds -/

end Telemetry

namespace PlannedEntry

/-- Where an entry stands. A container begins where the entry before it ends. -/
def place : PlannedEntry → EntryPlace
  | single entry => entry.place
  | nested .. => .previous 0

/-- How often an entry occurs. -/
def repetition : PlannedEntry → Option Repeat
  | single entry => entry.repetition
  | nested _ _ repetition => some repetition

end PlannedEntry

namespace Telemetry

mutual

/-- The entries of elements in the order of a walk that goes into containers. -/
def traverse : List PlannedEntry → List Entry
  | [] => []
  | entry :: rest => traverseEntry entry ++ traverse rest

/-- The entries of elements in one entry. -/
def traverseEntry : PlannedEntry → List Entry
  | .single entry => [entry]
  | .nested _ entries _ => traverse entries

end

mutual

/-- The entry lists of the containers inside entries, at any depth. -/
def nestedLists : List PlannedEntry → List (List PlannedEntry)
  | [] => []
  | entry :: rest => listsOf entry ++ nestedLists rest

/-- The entry lists of the containers inside one entry. -/
def listsOf : PlannedEntry → List (List PlannedEntry)
  | .single _ => []
  | .nested _ entries _ => entries :: nestedLists entries

end

/-- Every entry stands after the entry before. -/
def Following (list : List PlannedEntry) : Prop := ∀ x ∈ list, ∃ gap, x.place = .previous gap

/-- The first entry stands at a bit of the container, every other one after the entry before. -/
def Headed (list : List PlannedEntry) : Prop :=
  ∀ first rest, list = first :: rest → (∃ bit, first.place = .start bit) ∧ Following rest

/--
Entries cover elements one by one. A repeated entry comes right after the entry of its counter,
has the count that this one gives, and covers the elements that it claims.
-/
inductive Covers : List VariableElement → List PlannedEntry → Prop where
  | nil : Covers [] []
  | plain {e : VariableElement} {entry : Entry} {rest : List VariableElement}
      {after : List PlannedEntry} :
      e.groupSize = 0 → entry.repetition = none → Covers rest after →
      Covers (e :: rest) (.single entry :: after)
  | lone {counter e : VariableElement} {entry entry' : Entry} {repetition : Repeat}
      {rest : List VariableElement} {after : List PlannedEntry} :
      counter.groupSize = 1 → e.groupSize = 0 → entry.repetition = none →
      entry'.repetition = some repetition → Counts counter entry.item repetition.count →
      Covers rest after →
      Covers (counter :: e :: rest) (.single entry :: .single entry' :: after)
  | nest {counter : VariableElement} {entry : Entry} {name : String} {repetition : Repeat}
      {members rest : List VariableElement} {inner after : List PlannedEntry} :
      0 < counter.groupSize → members.length = counter.groupSize → entry.repetition = none →
      Counts counter entry.item repetition.count → Covers members inner → Covers rest after →
      Covers (counter :: (members ++ rest))
        (.single entry :: .nested name inner repetition :: after)

theorem Planned.covers {s : Surroundings} {parent : String} {start : Option Int} {n m : Nat}
    {elements : List VariableElement} {entries : List PlannedEntry}
    (h : Planned s parent start n elements entries m) : Covers elements entries := by
  induction h with
  | nil => exact .nil
  | plain hsize _ _ ih => exact .plain hsize rfl ih
  | lone hsize he _ hcount _ _ ih => exact .lone hsize he rfl rfl hcount ih
  | nest hpos hlength _ _ hcount _ _ _ ihInner ih => exact .nest hpos hlength rfl hcount ihInner ih

/-- **Nothing is lost, doubled or moved.** -/
theorem Planned.traverse_items {s : Surroundings} {parent : String} {start : Option Int}
    {n m : Nat} {elements : List VariableElement} {entries : List PlannedEntry}
    (h : Planned s parent start n elements entries m) :
    (traverse entries).map (fun entry => .ok entry.item) =
      elements.map fun e => s.item e.name e.location := by
  induction h with
  | nil => rfl
  | plain _ hitem _ ih =>
      simp only [traverse, traverseEntry, List.singleton_append, List.map_cons, ih, hitem]
  | lone _ _ hitem _ hitem' _ ih =>
      simp only [traverse, traverseEntry, List.singleton_append, List.map_cons, ih, hitem, hitem']
  | nest _ _ _ hitem _ _ _ _ ihInner ih =>
      simp only [traverse, traverseEntry, List.singleton_append, List.map_cons, List.map_append,
        ihInner, ih, hitem]

theorem following_cons {x : PlannedEntry} (gap : Int) {rest : List PlannedEntry}
    (hx : x.place = .previous gap) (hrest : Following rest) : Following (x :: rest) := by
  intro y hy
  rcases List.mem_cons.mp hy with rfl | hy
  · exact ⟨gap, hx⟩
  · exact hrest y hy

/-- What stands at the place of an element heads a list where there is a start. -/
theorem placed_cons {x : PlannedEntry} {start : Option Int} {e : VariableElement}
    {rest : List PlannedEntry} (hx : x.place = placeOf start e) (hrest : Following rest) :
    (start = none → Following (x :: rest)) ∧ (start.isSome → Headed (x :: rest)) := by
  cases start with
  | none => exact ⟨fun _ => following_cons e.offset hx hrest, fun h => absurd h (by simp)⟩
  | some bit =>
      refine ⟨fun h => absurd h (by simp), fun _ first rest' heq => ?_⟩
      cases heq
      exact ⟨⟨bit + e.offset, hx⟩, hrest⟩

/-- Without a start every entry stands after the one before, with a start all but the first do. -/
theorem Planned.places {s : Surroundings} {parent : String} {start : Option Int} {n m : Nat}
    {elements : List VariableElement} {entries : List PlannedEntry}
    (h : Planned s parent start n elements entries m) :
    ((start = none → Following entries) ∧ (start.isSome → Headed entries)) ∧
      ∀ list ∈ nestedLists entries, Headed list := by
  induction h with
  | nil =>
      refine ⟨⟨fun _ _ h => absurd h (by simp), fun _ _ _ h => absurd h (by simp)⟩, ?_⟩
      intro list h; exact absurd h (by simp [nestedLists])
  | plain _ _ _ ih =>
      refine ⟨placed_cons rfl (ih.1.1 rfl), fun list hlist => ?_⟩
      exact ih.2 list (by simpa [nestedLists, listsOf] using hlist)
  | @lone _ _ _ _ _ e _ _ _ _ _ _ _ _ _ _ _ ih =>
      refine ⟨placed_cons rfl (following_cons e.offset rfl (ih.1.1 rfl)), ?_⟩
      intro list hlist
      exact ih.2 list (by simpa [nestedLists, listsOf] using hlist)
  | @nest _ _ _ _ _ _ _ _ _ _ inner after _ _ _ _ _ _ _ _ ihInner ih =>
      refine ⟨placed_cons rfl (following_cons 0 rfl (ih.1.1 rfl)), fun list hlist => ?_⟩
      have hcases : list = inner ∨ list ∈ nestedLists inner ∨ list ∈ nestedLists after := by
        simpa [nestedLists, listsOf] using hlist
      rcases hcases with rfl | hinner | hafter
      · exact ihInner.1.2 rfl
      · exact ihInner.2 list hinner
      · exact ih.2 list hafter

/-! ## Acceptance -/

theorem entryItem_eq_parameter {state : TelemetryState} {db : Database} {name : String}
    {l : Location} {p : ParameterRef} :
    entryItem state db name l = .ok (.parameter p) ↔
      state.deduced.find? name = none ∧ db.parameters.find? name = some p := by
  unfold entryItem
  cases state.deduced.find? name with
  | some r => cases hrel : db.parameters.find? (r.related.getD "") <;> simp [hrel]
  | none => cases db.parameters.find? name <;> simp

/--
What a structure needs to be planned in a database: it is well nested, every name stands for an
entry, every counter has a positive number of repetitions in range or else is a parameter and no
deduced one, and no container that would be made is there already.
-/
structure Acceptable (state : TelemetryState) (db : Database) (parent : String) (n : Nat)
    (elements : List VariableElement) : Prop where
  nested : WellNested elements
  resolved : ∀ e ∈ elements, ∃ item, entryItem state db e.name e.location = .ok item
  counted : ∀ e ∈ elements, 0 < e.groupSize →
    (0 < e.fixedRepetitions ∧ e.fixedRepetitions ≤ 4294967295) ∨
      (e.fixedRepetitions ≤ 0 ∧ state.deduced.find? e.name = none ∧
        ∃ p, db.parameters.find? e.name = some p)
  free : ∀ name ∈ (groupNames parent n elements).1, db.containers.has name = false

theorem exists_counts_iff {counter : VariableElement} {item : EntryItem} :
    (∃ count, Counts counter item count) ↔
      (0 < counter.fixedRepetitions ∧ counter.fixedRepetitions ≤ 4294967295) ∨
        (counter.fixedRepetitions ≤ 0 ∧ ∃ p, item = .parameter p) := by
  constructor
  · rintro ⟨count, hcount⟩
    cases count with
    | fixed n => simp only [Counts] at hcount; exact Or.inl (by omega)
    | dynamic p => exact Or.inr ⟨hcount.1, p, hcount.2⟩
  · rintro (⟨hpos, hle⟩ | ⟨hle, p, hp⟩)
    · refine ⟨.fixed counter.fixedRepetitions.toNat, ?_⟩
      simp only [Counts]; omega
    · exact ⟨.dynamic p, hle, hp⟩

theorem acceptable_iff {state : TelemetryState} {db : Database} {parent : String} {n : Nat}
    {elements : List VariableElement} :
    Acceptable state db parent n elements ↔
      Plannable ⟨entryItem state db, db.containers.has⟩ parent n elements := by
  constructor
  · intro h
    refine ⟨h.nested, h.resolved, fun e he hsize item hitem => exists_counts_iff.mpr ?_, h.free⟩
    rcases h.counted e he hsize with hfixed | ⟨hle, hdeduced, p, hp⟩
    · exact Or.inl hfixed
    · have hparam := entryItem_eq_parameter (l := e.location).mpr ⟨hdeduced, hp⟩
      exact Or.inr ⟨hle, p, Except.ok.inj (hitem.symm.trans hparam)⟩
  · intro h
    refine ⟨h.nested, h.resolved, fun e he hsize => ?_, h.free⟩
    obtain ⟨item, hitem⟩ := h.resolved e he
    rcases exists_counts_iff.mp (h.counted e he hsize item hitem) with hfixed | ⟨hle, p, rfl⟩
    · exact Or.inl hfixed
    · obtain ⟨hdeduced, hp⟩ := entryItem_eq_parameter.mp hitem
      exact Or.inr ⟨hle, hdeduced, p, hp⟩

/--
**A structure is planned exactly when it is acceptable, and then its entries are its elements.**

The entries met on a walk that goes into containers stand for the elements one by one and in order;
every list of entries, that of the structure and those of the containers in it, begins at a bit of
its container and goes on from entry to entry; and a repeated entry comes right after its counter,
with the count of that and over the elements that it claims.
-/
theorem planEntries_accepts (state : TelemetryState) (db : Database) (parent : String)
    (start : Int) (elements : List VariableElement) (n : Nat) :
    match planEntries ⟨entryItem state db, db.containers.has⟩ parent (some start) elements n with
    | .ok entries _ =>
        Acceptable state db parent n elements ∧
          (traverse entries).map (fun entry => .ok entry.item) =
            elements.map (fun e => entryItem state db e.name e.location) ∧
          (∀ list ∈ entries :: nestedLists entries, Headed list) ∧
          Covers elements entries
    | .error _ _ => ¬ Acceptable state db parent n elements := by
  split
  · rename_i entries m hplan
    have h := planned_of_eq_ok hplan
    refine ⟨acceptable_iff.mpr h.plannable, h.traverse_items, fun list hlist => ?_, h.covers⟩
    rcases List.mem_cons.mp hlist with rfl | hlist
    · exact h.places.1.2 rfl
    · exact h.places.2 list hlist
  · rename_i e m hplan
    intro hacceptable
    have hplannable := acceptable_iff.mp hacceptable
    obtain ⟨entries, k, h⟩ := hplannable.nested.exists_planned (some start) hplannable
    rw [h.eq_ok] at hplan
    exact absurd hplan (by simp)

end Telemetry

end MissionBase
