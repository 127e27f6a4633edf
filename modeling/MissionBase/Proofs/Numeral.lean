import MissionBase.Text.Numeral
import Mathlib.Tactic.IntervalCases

/-!
# Numerals of numbers

A number is read back from its own decimal text. So numbers with the same text are the same, and a
name that is the text of a number stands for that number only.
-/

namespace MissionBase.Text

theorem digit?_digitChar {n : Nat} (h : n < 10) : digit? 10 n.digitChar = some n := by
  interval_cases n <;> rfl

theorem digitsAfter?_append (radix : Nat) (cs ds : List Char) (acc : Nat) :
    digitsAfter? radix acc (cs ++ ds) =
      (digitsAfter? radix acc cs).bind fun n => digitsAfter? radix n ds := by
  induction cs generalizing acc with
  | nil => rfl
  | cons c cs ih =>
      rw [List.cons_append, digitsAfter?, digitsAfter?]
      cases digit? radix c with
      | none => rfl
      | some d => exact ih _

/-- The last digit of a number comes after those of its tenth. -/
theorem digitsAfter?_toDigits (n : Nat) : digitsAfter? 10 0 (Nat.toDigits 10 n) = some n := by
  induction n using Nat.strongRecOn with
  | ind n ih =>
      by_cases h : n < 10
      · rw [Nat.toDigits_of_lt_base h, digitsAfter?, digit?_digitChar h]
        simp [digitsAfter?]
      · rw [Nat.toDigits_of_base_le (by decide) (Nat.le_of_not_lt h), digitsAfter?_append,
          ih (n / 10) (by omega), Option.bind_some, digitsAfter?,
          digit?_digitChar (Nat.mod_lt n (by decide))]
        simp only [digitsAfter?, Option.some.injEq]
        omega

theorem digits?_toDigits (n : Nat) : digits? 10 (Nat.toDigits 10 n) = some n := by
  have hafter := digitsAfter?_toDigits n
  unfold digits?
  split
  · rename_i hnil
    exact absurd hnil Nat.toDigits_ne_nil
  · exact hafter

/-- The text of a natural number begins with a digit, and so with no sign. -/
theorem integer?_toDigits (n : Nat) : integer? (Nat.toDigits 10 n) = some (n : Int) := by
  have hdigits := digits?_toDigits n
  unfold integer?
  split
  · rename_i cs hcs
    rw [hcs] at hdigits
    exact absurd hdigits nofun
  · rename_i cs hcs
    rw [hcs] at hdigits
    exact absurd hdigits nofun
  · rw [hdigits]
    rfl

/-- **A number is read back from its text.** -/
theorem integer?_toString (n : Int) : integer? (toString n).toList = some n := by
  cases n with
  | ofNat m =>
      show integer? m.repr.toList = _
      rw [Nat.toList_repr]
      exact integer?_toDigits m
  | negSucc m =>
      show integer? ("-" ++ (m + 1).repr).toList = _
      rw [String.toList_append, Nat.toList_repr]
      show (digits? 10 (Nat.toDigits 10 (m + 1))).map (fun k => -(k : Int)) = _
      rw [digits?_toDigits]
      rfl

theorem toString_int_injective {m n : Int} (h : toString m = toString n) : m = n := by
  have hread := integer?_toString m
  rw [h, integer?_toString] at hread
  exact (Option.some.inj hread).symm

/-- Numbers that have been read are of 64 bits. -/
theorem int64?_eq_some {cs : List Char} {n : Int} (h : int64? cs = some n) :
    -9223372036854775808 ≤ n ∧ n ≤ 9223372036854775807 := by
  obtain ⟨m, -, hwithin⟩ := Option.bind_eq_some_iff.mp h
  unfold within at hwithin
  split at hwithin
  · rename_i hrange
    cases hwithin
    exact hrange
  · cases hwithin

theorem int64?_toString {n : Int}
    (h : -9223372036854775808 ≤ n ∧ n ≤ 9223372036854775807) :
    int64? (toString n).toList = some n := by
  unfold int64?
  rw [integer?_toString, Option.bind_some, within, if_pos h]

end MissionBase.Text
