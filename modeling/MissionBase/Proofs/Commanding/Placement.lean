import MissionBase.Proofs.Commanding.Blocks

/-!
# How elements are placed

The elements of a command are placed block by block, and what a block does to the command does not
depend on anything else that the stage remembers. `Placement` has one case for each way to begin,
with the command as it is after that beginning and the elements that are left. What is said of a
command with its elements placed is said by induction on it.
-/

namespace MissionBase.Commanding

open Run Command

variable {setting : Setting} {d d' : Draft CommandingState} {c c' : Command} {e : CommandElement}

/-- An element brings an argument under a name that was free: a fixed one comes into the fixed set
with its value, any other one among the arguments of the command. -/
inductive Declares (c : Command) (e : CommandElement) (a : Argument) : Command → Prop
  | editable (kind : e.kind ≠ .fixed) (free : c.hasArgument a.name = false) :
      Declares c e a (withArgument c a)
  | fixed (kind : e.kind = .fixed) (free : c.hasArgument a.name = false) (value : String) :
      Declares c e a (withFixed c a value)

/-- How the elements of a command are placed, in blocks. -/
inductive Placement : Command → List CommandElement → List Block → Command → Prop
  | nil {c : Command} : Placement c [] [] c
  | area {c c' : Command} {e : CommandElement} {rest : List CommandElement} {blocks : List Block}
      (kind : e.isArgument = false) (octets : List UInt8)
      (following :
        Placement (withItem c (.fixedValue e.description octets e.size)) rest blocks c') :
      Placement c (e :: rest) (.area e octets :: blocks) c'
  | argument {c c₁ c' : Command} {e : CommandElement} {a : Argument}
      {rest : List CommandElement} {blocks : List Block} (kind : e.isArgument = true)
      (size : e.groupSize = 0) (declared : Declares c e a c₁)
      (following : Placement c₁ rest blocks c') :
      Placement c (e :: rest) (.argument e a.name :: blocks) c'
  /-- A counter of elements that count again: only the counter itself is placed. -/
  | once {c c₁ c' : Command} {e : CommandElement} {a : Argument} {rest : List CommandElement}
      {blocks : List Block} (kind : e.isArgument = true) (fits : e.groupSize ≤ rest.length)
      (nested : ∃ m ∈ rest.take e.groupSize, 0 < m.groupSize) (declared : Declares c e a c₁)
      (following : Placement (fixCount c₁ a.name) rest blocks c') :
      Placement c (e :: rest) (.once e a.name :: blocks) c'
  /-- A counter and what it repeats, which are placed together. -/
  | group {c c₁ c' : Command} {e : CommandElement} {a b : Argument} {rest : List CommandElement}
      {blocks : List Block} (kind : e.isArgument = true) (size : e.groupSize ≠ 0)
      (fits : e.groupSize ≤ rest.length)
      (plain : ∀ m ∈ rest.take e.groupSize, m.kind = .editable ∧ m.groupSize = 0)
      (declared : Declares c e a c₁) (free : c₁.hasArgument b.name = false)
      (following : Placement (withArgument c₁ b) (rest.drop e.groupSize) blocks c') :
      Placement c (e :: rest)
        (.argument e a.name :: .array a.name (rest.take e.groupSize) b.name :: blocks) c'

/-- An argument is placed under a name that was free. -/
theorem placeArgument_eq_ok {name : String}
    (h : placeArgument setting c e d = .ok (c', name) d') :
    ∃ a : Argument, a.name = name ∧ Declares c e a c' := by
  unfold placeArgument at h
  obtain ⟨a, d₁, _, h⟩ := bind_eq_ok.mp h
  dsimp only at h
  split at h
  · rename_i hkind
    obtain ⟨_, _, _, h⟩ := bind_eq_ok.mp h
    obtain ⟨value, _, _, h⟩ := bind_eq_ok.mp h
    obtain ⟨heq, _⟩ := pure_eq_ok.mp h
    cases heq
    exact ⟨{ a with name := freeName c a.name }, rfl, .fixed hkind (freeName_free c a.name) value⟩
  · rename_i hkind
    obtain ⟨heq, _⟩ := pure_eq_ok.mp h
    cases heq
    exact ⟨{ a with name := freeName c a.name }, rfl, .editable hkind (freeName_free c a.name)⟩

/-- An array is placed under a name that was free. -/
theorem placeGroup_eq_ok {counter : String} {members : List CommandElement}
    (h : placeGroup setting c counter members d = .ok c' d') :
    (∀ m ∈ members, m.kind = .editable) ∧
      ∃ a : Argument, c.hasArgument a.name = false ∧ c' = withArgument c a := by
  unfold placeGroup at h
  obtain ⟨_, _, hcheck, h⟩ := bind_eq_ok.mp h
  obtain ⟨_, _, _, h⟩ := bind_eq_ok.mp h
  obtain ⟨⟨name, element⟩, _, _, h⟩ := bind_eq_ok.mp h
  obtain ⟨array, _, _, h⟩ := bind_eq_ok.mp h
  obtain ⟨rfl, _⟩ := pure_eq_ok.mp h
  exact ⟨checkMembers_eq_ok (lift_eq_ok.mp hcheck).1, _, freeName_free c name, rfl⟩

/-- The first of some elements is placed as a placement of them begins. -/
theorem placeFirst_eq_ok {rest : List CommandElement} {x : Command × Nat}
    (h : placeFirst setting c e rest d = .ok x d') :
    ∃ first, ∀ more c', Placement x.1 (rest.drop x.2) more c' →
      Placement c (e :: rest) (first ++ more) c' := by
  have hways : Ends (placeFirst setting c e rest) d (fun x _ => ∃ first, ∀ more c',
      Placement x.1 (rest.drop x.2) more c' → Placement c (e :: rest) (first ++ more) c')
      fun _ => True := by
    apply ends_placeFirst (A := fun x t => placeArgument setting c e d = .ok x t)
    case hfails => trivial
    case harea =>
      intro hkind octets _
      exact ⟨[.area e octets], fun more c' hmore => .area hkind octets hmore⟩
    case hargument => exact fun _ => ends_eq_ok
    case hplain =>
      intro hkind hsize c₁ counter t hplace
      obtain ⟨a, rfl, hdeclared⟩ := placeArgument_eq_ok hplace
      exact ⟨[.argument e a.name], fun more c' hmore => .argument hkind hsize hdeclared hmore⟩
    case hoverrun => exact fun _ _ _ => trivial
    case honce =>
      intro hkind hfits hnested c₁ counter t hplace _
      obtain ⟨a, rfl, hdeclared⟩ := placeArgument_eq_ok hplace
      refine ends_limitation fun u _ _ => ⟨[.once e a.name], fun more c' hmore => ?_⟩
      exact .once hkind hfits hnested hdeclared hmore
    case hgroup =>
      intro hkind hsize hfits hflat c₁ counter t hplace
      obtain ⟨a, rfl, hdeclared⟩ := placeArgument_eq_ok hplace
      refine ends_eq_ok.mono (fun c₂ u _ hgroup => ?_) fun _ h => h
      obtain ⟨hmembers, b, hfree, rfl⟩ := placeGroup_eq_ok hgroup
      exact ⟨[.argument e a.name, .array a.name (rest.take e.groupSize) b.name],
        fun more c' hmore => .group hkind hsize hfits (fun m hm => ⟨hmembers m hm, hflat m hm⟩)
          hdeclared hfree hmore⟩
  exact hways.of_ok h

/-- **What has been placed was placed block by block.** -/
theorem placeElements_eq_ok (elements : List CommandElement) {c c' : Command}
    {d d' : Draft CommandingState} (h : placeElements setting c elements d = .ok c' d') :
    ∃ blocks, Placement c elements blocks c' := by
  induction elements using elements_induction generalizing c d with
  | nil =>
      rw [placeElements_nil] at h
      obtain ⟨rfl, _⟩ := pure_eq_ok.mp h
      exact ⟨[], .nil⟩
  | cons e rest ih =>
      rw [placeElements_cons] at h
      obtain ⟨x, d₁, hfirst, h⟩ := bind_eq_ok.mp h
      obtain ⟨first, hbegins⟩ := placeFirst_eq_ok hfirst
      obtain ⟨more, hmore⟩ := ih x.2 h
      exact ⟨first ++ more, hbegins more c' hmore⟩

/-- The blocks of a placement are a layout of its elements. -/
theorem Placement.layout {elements : List CommandElement} {blocks : List Block}
    (h : Placement c elements blocks c') : Layout elements blocks := by
  induction h with
  | nil => exact .nil
  | area kind _ _ ih => exact .area kind ih
  | argument kind size _ _ ih => exact .argument kind size ih
  | once kind fits nested _ _ ih => exact .once kind fits nested ih
  | group kind size fits plain _ _ _ ih => exact .group_take kind size fits plain ih

end MissionBase.Commanding
