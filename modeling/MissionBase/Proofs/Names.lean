import MissionBase.Database.Catalog
import Mathlib

/-!
# Fresh names

A name that is taken gives way to the first of the names with a number after it that is not. The
search for it has no bound of its own (`FreshSearch`). It ends all the same: the names with
different numbers are different, so among more of them than there are taken names one is free. A
search with a bound (`firstFree`) comes to the same name wherever the bound leaves it as many
candidates as the search without one looks at.
-/

namespace MissionBase

/-- Different numbers make different names. -/
theorem numbered_injective (base : String) : Function.Injective (numbered base) := by
  intro m n h
  unfold numbered at h
  exact Nat.repr_inj.mp (String.append_right_inj _ |>.mp h)

/-- The digits of a number hold no underscore. -/
theorem ne_underscore_of_mem_repr {n : Nat} : ∀ c ∈ (Nat.repr n).toList, c ≠ '_' := by
  intro c hc
  rw [Nat.repr, String.toList_ofList] at hc
  have hdigit := Nat.isDigit_of_mem_toDigits (b := 10) (by decide) (by decide) hc
  rintro rfl
  exact absurd hdigit (by decide)

theorem toList_numbered (base : String) (n : Nat) :
    (numbered base n).toList = base.toList ++ '_' :: (Nat.repr n).toList := by
  simp [numbered, String.toList_append, toString]

/-- A name with a number after it is not the name without one. -/
theorem numbered_ne (base : String) (n : Nat) : numbered base n ≠ base := by
  intro h
  have hlist := toList_numbered base n
  rw [h, List.self_eq_append_right] at hlist
  cases hlist

/-- What follows the last underscore of a name with a number. -/
theorem takeWhile_numbered (base : String) (n : Nat) :
    (numbered base n).toList.reverse.takeWhile (· ≠ '_') = (Nat.repr n).toList.reverse := by
  have hdigits : ∀ c ∈ (Nat.repr n).toList.reverse, decide (c ≠ '_') = true := fun c hc =>
    decide_eq_true (ne_underscore_of_mem_repr c (List.mem_reverse.mp hc))
  rw [toList_numbered, List.reverse_append, List.reverse_cons, List.append_assoc,
    List.takeWhile_append_of_pos hdigits]
  simp

/-- **Names with different numbers are different**, whatever stands before the numbers. -/
theorem eq_of_numbered_eq {base base' : String} {m n : Nat}
    (h : numbered base m = numbered base' n) : m = n := by
  have hdigits := takeWhile_numbered base m
  rw [h, takeWhile_numbered, List.reverse_inj] at hdigits
  exact (Nat.repr_inj.mp (String.toList_inj.mp hdigits)).symm

/-! ## The search -/

/-- The candidates for a name: the base, and then the base with the numbers from one on. -/
def candidate (base : String) : Nat → String
  | 0 => base
  | n + 1 => numbered base (n + 1)

theorem candidate_of_pos (base : String) {n : Nat} (h : 0 < n) :
    candidate base n = numbered base n := by
  cases n with
  | zero => exact absurd h (Nat.lt_irrefl 0)
  | succ n => rfl

theorem candidate_injective (base : String) : Function.Injective (candidate base) := by
  intro m n h
  cases m with
  | zero =>
      cases n with
      | zero => rfl
      | succ n => exact absurd h.symm (numbered_ne base (n + 1))
  | succ m =>
      cases n with
      | zero => exact absurd h (numbered_ne base (m + 1))
      | succ n => exact numbered_injective base h

/-- A search without a bound: it looks at one candidate after the other, from a number on, and ends,
after so many of them, with the first that is not taken. -/
inductive FreshSearch (taken : String → Bool) (base : String) : Nat → Nat → String → Prop
  | ends {n : Nat} (hfree : taken (candidate base n) = false) :
      FreshSearch taken base n 1 (candidate base n)
  | goesOn {n tries : Nat} {name : String} (htaken : taken (candidate base n) = true)
      (rest : FreshSearch taken base (n + 1) tries name) : FreshSearch taken base n (tries + 1) name

variable {taken : String → Bool} {names : List String} {base name : String} {n tries : Nat}

/-- **A search that ends has found the least number** whose candidate is not taken. -/
theorem FreshSearch.isLeast (h : FreshSearch taken base n tries name) :
    ∃ m, m + 1 = n + tries ∧ IsLeast {i | n ≤ i ∧ taken (candidate base i) = false} m ∧
      name = candidate base m := by
  induction h with
  | @ends n hfree => exact ⟨n, rfl, ⟨⟨Nat.le_refl n, hfree⟩, fun i hi => hi.1⟩, rfl⟩
  | @goesOn n tries name htaken _ ih =>
      obtain ⟨m, hm, ⟨hfree, hleast⟩, rfl⟩ := ih
      refine ⟨m, by omega, ⟨⟨Nat.le_of_succ_le hfree.1, hfree.2⟩, ?_⟩, rfl⟩
      rintro i ⟨hi, hifree⟩
      refine hleast ⟨Nat.lt_of_le_of_ne hi ?_, hifree⟩
      rintro rfl
      rw [htaken] at hifree
      cases hifree

theorem FreshSearch.free_name (h : FreshSearch taken base n tries name) : taken name = false := by
  obtain ⟨m, -, ⟨⟨-, hfree⟩, -⟩, rfl⟩ := h.isLeast
  exact hfree

/-- A search has ended after so many candidates, or all of them were taken. -/
theorem freshSearch_or_taken (taken : String → Bool) (base : String) (k n : Nat) :
    (∃ tries ≤ k, ∃ name, FreshSearch taken base n tries name) ∨
      ∀ i < k, taken (candidate base (n + i)) = true := by
  induction k generalizing n with
  | zero => exact .inr fun i hi => absurd hi (Nat.not_lt_zero i)
  | succ k ih =>
      cases hn : taken (candidate base n) with
      | false => exact .inl ⟨1, Nat.le_add_left 1 k, _, .ends hn⟩
      | true =>
          -- the first candidate is taken; the others are those of the search from the next number
          rcases ih (n + 1) with ⟨tries, htries, name, hsearch⟩ | htaken
          · exact .inl ⟨tries + 1, Nat.succ_le_succ htries, name, .goesOn hn hsearch⟩
          · refine .inr fun i hi => ?_
            cases i with
            | zero => exact hn
            | succ i =>
                have hi := htaken i (Nat.lt_of_succ_lt_succ hi)
                rwa [Nat.succ_add] at hi

/-- No more candidates in a row are taken than there are taken names, for they are different. -/
theorem le_card_of_taken (htaken : ∀ name, taken name = true → name ∈ names) {k : Nat}
    (hall : ∀ i < k, taken (candidate base (n + i)) = true) : k ≤ names.toFinset.card := by
  have hinjective : Function.Injective fun i => candidate base (n + i) := fun i j hij =>
    Nat.add_left_cancel (candidate_injective base hij)
  have hsub : (Finset.range k).image (fun i => candidate base (n + i)) ⊆ names.toFinset := by
    intro name hname
    obtain ⟨i, hi, rfl⟩ := Finset.mem_image.mp hname
    exact List.mem_toFinset.mpr (htaken _ (hall i (Finset.mem_range.mp hi)))
  calc k = ((Finset.range k).image fun i => candidate base (n + i)).card := by
        rw [Finset.card_image_of_injective _ hinjective, Finset.card_range]
    _ ≤ names.toFinset.card := Finset.card_le_card hsub

/-- **Every search ends**, after at most one candidate more than there are taken names. -/
theorem exists_freshSearch (htaken : ∀ name, taken name = true → name ∈ names) (base : String)
    (n : Nat) : ∃ tries ≤ names.toFinset.card + 1, ∃ name, FreshSearch taken base n tries name := by
  rcases freshSearch_or_taken taken base (names.toFinset.card + 1) n with hends | hall
  · exact hends
  · exact absurd (le_card_of_taken htaken hall) (Nat.not_succ_le_self _)

/-- **A bound on the candidates does not matter** unless the search needs more of them: the base is
not fallen back on. -/
theorem FreshSearch.firstFree_eq (h : FreshSearch taken base n tries name) (hn : 0 < n)
    {fuel : Nat} (hfuel : tries ≤ fuel) : firstFree taken base fuel n = name := by
  obtain ⟨more, rfl⟩ := Nat.exists_eq_add_of_le' hfuel
  clear hfuel
  induction h with
  | @ends n hfree =>
      rw [candidate_of_pos base hn] at hfree ⊢
      rw [firstFree, hfree]
      rfl
  | @goesOn n tries name htaken _ ih =>
      rw [candidate_of_pos base hn] at htaken
      rw [← Nat.add_assoc, firstFree, if_pos htaken]
      exact ih (Nat.succ_pos n)

/-- A bound above the number of taken names, however often they occur, leaves enough candidates. -/
theorem tries_le_fuel {fuel : Nat} (htries : tries ≤ names.toFinset.card + 1)
    (hfuel : names.length < fuel) : tries ≤ fuel :=
  calc tries ≤ names.toFinset.card + 1 := htries
    _ ≤ names.length + 1 := Nat.succ_le_succ names.toFinset_card_le
    _ ≤ fuel := hfuel

/-- **The bounded search finds a free name** if it may go on for longer than there are taken
names. -/
theorem firstFree_free (htaken : ∀ name, taken name = true → name ∈ names) (base : String)
    {fuel : Nat} (hfuel : names.length < fuel) : taken (firstFree taken base fuel 1) = false := by
  obtain ⟨tries, htries, name, hsearch⟩ := exists_freshSearch htaken base 1
  rw [hsearch.firstFree_eq Nat.one_pos (tries_le_fuel htries hfuel)]
  exact hsearch.free_name

end MissionBase
