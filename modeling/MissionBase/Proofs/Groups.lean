import Mathlib.Data.List.Basic

/-!
# Groups of rows

A counter claims a number of the rows after it. Rows that are rejected are taken out before the
groups are counted, so the counter gets as many of the rows that are left. These are the rows that
it claims if none of them has been rejected; otherwise rows after the group take the places of
those that are gone. The lemmas say this for any rows, sizes of groups and reasons to reject.
-/

namespace MissionBase

/-- A stretch of a list: where it begins, and how many items it has. -/
structure Span where
  first : Nat
  count : Nat
  deriving Repr, DecidableEq

variable {α : Type}

/-- The items of a stretch. -/
def Span.of (s : Span) (items : List α) : List α := (items.drop s.first).take s.count

/-- A stretch is what an item claims of the items after it. -/
def Claimed (size : α → Nat) (items : List α) (s : Span) : Prop :=
  ∃ before counter after, items = before ++ counter :: after ∧
    s = ⟨before.length + 1, size counter⟩ ∧ size counter ≤ after.length

/-- What is claimed at the front of a list is claimed in the list. -/
theorem Claimed.append {size : α → Nat} {items : List α} {s : Span} (h : Claimed size items s)
    (more : List α) : Claimed size (items ++ more) s := by
  obtain ⟨before, counter, after, rfl, rfl, hle⟩ := h
  refine ⟨before, counter, after ++ more, by simp, rfl, ?_⟩
  rw [List.length_append]
  omega

/-- **A stretch of the rows that are left, as a counter among all rows claims it.** It has the first
rows after the counter that are left. They are rows of the group of the counter exactly if no row of
the group has been rejected. -/
def GroupAmong (size : α → Nat) (accepted : α → Bool) (rows : List α) (s : Span) : Prop :=
  ∃ before counter after, rows = before ++ counter :: after ∧ accepted counter = true ∧
    s = ⟨(before.filter accepted).length + 1, size counter⟩ ∧
    s.of (rows.filter accepted) = (after.filter accepted).take (size counter) ∧
    ((s.of (rows.filter accepted)).Sublist (after.take (size counter)) ↔
      ∀ row ∈ after.take (size counter), accepted row = true)

/-- As many accepted items as there are places fit into the first places exactly if these are all
accepted. -/
theorem take_filter_sublist_iff {accepted : α → Bool} {items : List α} {n : Nat}
    (h : n ≤ (items.filter accepted).length) :
    ((items.filter accepted).take n).Sublist (items.take n) ↔
      ∀ x ∈ items.take n, accepted x = true := by
  constructor
  · intro hsub x hx
    -- both have `n` items, so the first is no proper part of the second
    have hlength : ((items.filter accepted).take n).length = (items.take n).length := by
      have hle := List.length_filter_le accepted items
      rw [List.length_take_of_le h, List.length_take_of_le (Nat.le_trans h hle)]
    rw [← hsub.eq_of_length hlength] at hx
    exact (List.mem_filter.mp (List.mem_of_mem_take hx)).2
  · intro hall
    -- nothing before the place `n` is left out, so the first `n` items that are left are these
    have hsplit : items.filter accepted = items.take n ++ (items.drop n).filter accepted := by
      conv_lhs => rw [← List.take_append_drop n items]
      rw [List.filter_append, List.filter_eq_self.mpr hall]
    have hle : n ≤ items.length := Nat.le_trans h (List.length_filter_le accepted items)
    rw [hsplit, List.take_left' (List.length_take_of_le hle)]

/-- What is claimed among the rows that are left is the group of a counter among all rows. -/
theorem Claimed.groupAmong {size : α → Nat} {accepted : α → Bool} {rows : List α} {s : Span}
    (h : Claimed size (rows.filter accepted) s) : GroupAmong size accepted rows s := by
  obtain ⟨left, counter, right, hsplit, rfl, hle⟩ := h
  obtain ⟨before, rest, rfl, hbefore, hrest⟩ := List.filter_eq_append_iff.mp hsplit
  -- rejected rows may stand between the rows before the counter and the counter
  obtain ⟨gap, after, rfl, hgap, hcounter, hafter⟩ := List.filter_eq_cons_iff.mp hrest
  have hcovered : Span.of ⟨left.length + 1, size counter⟩ (left ++ counter :: right) =
      right.take (size counter) := by
    unfold Span.of
    rw [List.drop_length_add_append, List.drop_one, List.tail_cons]
  have hnone : gap.filter accepted = [] := List.filter_eq_nil_iff.mpr fun x hx => by
    simpa using hgap x hx
  refine ⟨before ++ gap, counter, after, by simp, hcounter, ?_, ?_, ?_⟩
  · rw [List.filter_append, hbefore, hnone, List.append_nil]
  · rw [hsplit, hcovered, hafter]
  · rw [hsplit, hcovered, ← hafter]
    exact take_filter_sublist_iff (hafter ▸ hle)

end MissionBase
