import MissionBase.Commanding.Elements
import MissionBase.Proofs.Steps

/-!
# The first of some elements

After an element the placement of a command goes on with the next one, or behind the group that the
element counts. So it is a loop. Its body places the first of the elements that are left, with its
group, and says how many of them the group takes (`placeFirst`). A condition that the body takes
from the elements that are left to those that are left then holds in the end of none
(`ends_placeElements`), and the body is a choice of five ways (`ends_placeFirst`).
-/

namespace MissionBase.Commanding

open Run

variable {setting : Setting} {e : CommandElement} {rest elements : List CommandElement}
  {c : Command} {d : Draft CommandingState} {E : Draft CommandingState → Prop}

/-- Places an element, with the elements after it that are its group; the command with them, and
how many they are. -/
def placeFirst (setting : Setting) (command : Command) (element : CommandElement)
    (rest : List CommandElement) : CommandingBuild (Command × Nat) := do
  if !element.isArgument then
    let octets ← areaOctets element
    return (withItem command (.fixedValue element.description octets element.size), 0)
  else
    let (command, counter) ← placeArgument setting command element
    let size := element.groupSize
    if size = 0 then return (command, 0)
    else if rest.length < size then
      throw (element.dataError
        s!"group '{counter}' of {size} elements overruns command '{command.name}'")
    else if (rest.take size).any fun m => 0 < m.groupSize then
      Build.limitation (s!"{element.location.text}: nested groups are not supported, group " ++
        s!"'{counter}' of command '{command.name}' is fixed to one occurrence")
      return (fixCount command counter, 0)
    else
      return (← placeGroup setting command counter (rest.take size), size)

/-! ## The loop -/

theorem placeElements_nil (c : Command) : placeElements setting c [] = pure c := by
  rw [placeElements]

/-- **The first element is placed, and then those that are left behind its group.** -/
theorem placeElements_cons (c : Command) (e : CommandElement) (rest : List CommandElement) :
    placeElements setting c (e :: rest) =
      placeFirst setting c e rest >>= fun x => placeElements setting x.1 (rest.drop x.2) := by
  rw [placeElements, placeFirst]
  split
  · simp only [bind_assoc, pure_bind, List.drop_zero]
  · simp only [bind_assoc]
    refine bind_congr fun placed => ?_
    split
    · rw [pure_bind, List.drop_zero]
    · split
      · rfl
      · split <;> simp only [bind_assoc, pure_bind, List.drop_zero]

/-- What holds of no elements, and of some if it holds of whatever is left behind the first one,
holds of all. -/
@[elab_as_elim]
theorem elements_induction {P : List CommandElement → Prop} (nil : P [])
    (cons : ∀ e rest, (∀ n, P (rest.drop n)) → P (e :: rest)) : ∀ elements, P elements
  | [] => nil
  | e :: rest => cons e rest fun n => elements_induction nil cons (rest.drop n)
  termination_by elements => elements.length
  decreasing_by rw [List.length_cons, List.length_drop]; omega

/-- **Placing elements goes from the condition of all of them to that of none**, if the placement of
each goes from the condition of the elements that begin with it to that of those left behind it. -/
theorem ends_placeElements {I : List CommandElement → Command → Draft CommandingState → Prop}
    (step : ∀ e rest c d, I (e :: rest) c d →
      Ends (placeFirst setting c e rest) d (fun x => I (rest.drop x.2) x.1) E)
    (hbegin : I elements c d) : Ends (placeElements setting c elements) d (I []) E := by
  induction elements using elements_induction generalizing c d with
  | nil =>
      rw [placeElements_nil]
      exact ends_pure hbegin
  | cons e rest ih =>
      rw [placeElements_cons]
      refine Ends.bind ((step e rest c d hbegin).mono (fun x t _ ht => ?_) fun _ h => h)
      exact ih x.2 ht

/-! ## The body -/

/-- **An element is placed in one of five ways**: as a constant area, as an argument that counts
nothing, not at all for want of elements to count, as a counter that is fixed because its group has
counters too, or with its group. -/
theorem ends_placeFirst {A : Command × String → Draft CommandingState → Prop}
    {Q : Command × Nat → Draft CommandingState → Prop} (hfails : E d)
    (harea : e.isArgument = false → ∀ octets, areaOctets e = .ok octets →
      Q (withItem c (.fixedValue e.description octets e.size), 0) d)
    (hargument : e.isArgument = true → Ends (placeArgument setting c e) d A E)
    (hplain : e.isArgument = true → e.groupSize = 0 →
      ∀ c₁ counter t, A (c₁, counter) t → Q (c₁, 0) t)
    (hoverrun : ∀ x t, A x t → E t)
    (honce : e.isArgument = true → e.groupSize ≤ rest.length →
      (∃ m ∈ rest.take e.groupSize, 0 < m.groupSize) → ∀ c₁ counter t, A (c₁, counter) t →
      ∀ m, Ends (Build.limitation m) t (fun _ => Q (fixCount c₁ counter, 0)) E)
    (hgroup : e.isArgument = true → e.groupSize ≠ 0 → e.groupSize ≤ rest.length →
      (∀ m ∈ rest.take e.groupSize, m.groupSize = 0) → ∀ c₁ counter t, A (c₁, counter) t →
      Ends (placeGroup setting c₁ counter (rest.take e.groupSize)) t
        (fun c₂ => Q (c₂, e.groupSize)) E) :
    Ends (placeFirst setting c e rest) d Q E := by
  unfold placeFirst
  refine Ends.ite (fun hkind => ?_) fun hkind => ?_
  · refine Ends.bind (ends_lift (fun octets hoctets => ?_) hfails)
    exact harea (by simpa using hkind) octets hoctets
  have hkind : e.isArgument = true := by simpa using hkind
  refine Ends.bind ((hargument hkind).mono (fun x t _ ht => ?_) fun _ h => h)
  obtain ⟨c₁, counter⟩ := x
  dsimp only
  refine Ends.ite (fun hsize => hplain hkind hsize c₁ counter t ht) fun hsize => ?_
  refine Ends.ite (fun _ => ends_throw (hoverrun _ t ht)) fun hfits => ?_
  have hfits := Nat.le_of_not_lt hfits
  refine Ends.ite (fun hnested => ?_) fun hflat => ?_
  · obtain ⟨m, hm, hcounts⟩ := List.any_eq_true.mp hnested
    have hnested : ∃ m ∈ rest.take e.groupSize, 0 < m.groupSize := ⟨m, hm, by simpa using hcounts⟩
    exact Ends.bind (honce hkind hfits hnested c₁ counter t ht _)
  · have hflat : ∀ m ∈ rest.take e.groupSize, m.groupSize = 0 := by simpa using hflat
    exact Ends.bind (hgroup hkind hsize hfits hflat c₁ counter t ht)

end MissionBase.Commanding
