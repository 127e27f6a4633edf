import MissionBase.Calibration.Curve
import Mathlib.Algebra.Order.Field.Rat

/-!
# Evaluating a curve by index

`Curve.value?` takes the list of points apart. Written for an array the same evaluation reaches for
points by their index, counts back from an index, and divides, and each of these can go wrong: an
index may lie behind the last point, a count may lead before the first one, a divisor may be zero.
`Curve.evaluate` is that form, with the three kinds of failure as faults.

None of them occurs, for any list of points, in order or not, and the two forms agree.
-/

namespace MissionBase

/-- Rational numbers are compared exactly, and sorted as they compare. -/
instance : CurveOrder ℚ where
  lt a b := decide (a < b)
  le a b := decide (a ≤ b)
  eq a b := decide (a = b)
  before a b := decide (a ≤ b)

namespace Curve

/-- What can go wrong in an evaluation by index. -/
inductive Fault where
  | outOfBounds (index : Nat)
  /-- More places were counted back than there are before an index. -/
  | underflow (index back : Nat)
  | divisionByZero
  deriving DecidableEq, Repr

/-- The point at an index. -/
def pointAt (points : List (CurvePoint ℚ)) (index : Nat) : Except Fault (CurvePoint ℚ) :=
  match points[index]? with
  | some p => .ok p
  | none => .error (.outOfBounds index)

/-- The point some places before an index. -/
def pointBefore (points : List (CurvePoint ℚ)) (index back : Nat) :
    Except Fault (CurvePoint ℚ) :=
  if back ≤ index then pointAt points (index - back) else .error (.underflow index back)

/-- A quotient, where there is one. -/
def quotient (a b : ℚ) : Except Fault ℚ :=
  if b = 0 then .error .divisionByZero else .ok (a / b)

/-- The height of the line through two points, with the division checked. -/
def checkedInterpolate (a b : CurvePoint ℚ) (x : ℚ) : Except Fault ℚ :=
  if b.raw = a.raw then .ok a.calibrated
  else do
    let rise ← quotient ((x - a.raw) * (b.calibrated - a.calibrated)) (b.raw - a.raw)
    return a.calibrated + rise

/-- The value on the segment that ends at an index. -/
def valueAt (points : List (CurvePoint ℚ)) (x : ℚ) : Option Nat → Except Fault (Option ℚ)
  | none => .ok none
  | some upper => do
    let b ← pointAt points upper
    if b.raw = x ∨ upper = 0 then return some b.calibrated
    else
      let a ← pointBefore points upper 1
      return some (← checkedInterpolate a b x)

/-- The value of a curve, with its points reached by index. -/
def evaluate (c : Curve ℚ) (x : ℚ) : Except Fault (Option ℚ) :=
  match c.points.head?, c.points.getLast? with
  | some first, some last =>
    if c.points.length = 1 then
      .ok (if x = first.raw ∨ c.extrapolate = true then some first.calibrated else none)
    else if x < first.raw then
      if c.extrapolate then do
        let second ← pointAt c.points 1
        return some (← checkedInterpolate first second x)
      else .ok none
    else if last.raw < x then
      if c.extrapolate then do
        let previous ← pointBefore c.points c.points.length 2
        return some (← checkedInterpolate previous last x)
      else .ok none
    else valueAt c.points x (c.points.findIdx? fun p => x ≤ p.raw)
  | _, _ => .ok none

/-- **No division by zero**: a quotient is only taken where the two raw values differ. -/
theorem checkedInterpolate_eq (a b : CurvePoint ℚ) (x : ℚ) :
    checkedInterpolate a b x = .ok (interpolate a b x) := by
  unfold checkedInterpolate interpolate
  by_cases heq : b.raw = a.raw
  · have hcmp : CurveOrder.eq b.raw a.raw = true := decide_eq_true heq
    rw [if_pos heq, if_pos hcmp]
  · have hcmp : CurveOrder.eq b.raw a.raw = false := decide_eq_false heq
    rw [if_neg heq, hcmp, if_neg Bool.false_ne_true]
    unfold quotient
    rw [if_neg (sub_ne_zero.mpr heq)]
    rfl

section

variable {before after : List (CurvePoint ℚ)} {a b : CurvePoint ℚ} {index back : Nat}

theorem pointAt_append (hindex : index = before.length) :
    pointAt (before ++ a :: after) index = .ok a := by
  unfold pointAt
  rw [hindex]
  simp

theorem pointBefore_append (hindex : index = before.length + back) :
    pointBefore (before ++ a :: after) index back = .ok a := by
  unfold pointBefore
  rw [if_pos (by omega)]
  exact pointAt_append (by omega)

theorem valueAt_some {points : List (CurvePoint ℚ)} (hb : pointAt points index = .ok b)
    (ha : pointBefore points index 1 = .ok a) (hpos : index ≠ 0) (x : ℚ) :
    valueAt points x (some index) =
      .ok (some (if CurveOrder.eq b.raw x then b.calibrated else interpolate a b x)) := by
  simp only [valueAt, hb, ha, bind, Except.bind, checkedInterpolate_eq]
  by_cases heq : b.raw = x
  · have hcmp : CurveOrder.eq b.raw x = true := decide_eq_true heq
    rw [if_pos (.inl heq), if_pos hcmp]
    rfl
  · have hcmp : CurveOrder.eq b.raw x = false := decide_eq_false heq
    rw [if_neg (not_or.mpr ⟨heq, hpos⟩), hcmp, if_neg Bool.false_ne_true]
    rfl

/-- **The search by index ends where the search along the list does**, and both points of the
segment are in bounds. -/
theorem valueAt_findIdx? (before after : List (CurvePoint ℚ)) (a : CurvePoint ℚ) (x : ℚ) :
    valueAt (before ++ a :: after) x
      ((after.findIdx? fun p => x ≤ p.raw).map (· + (before.length + 1))) =
      .ok (valueAfter x a after) := by
  induction after generalizing before a with
  | nil => rfl
  | cons b rest ih =>
      have happend : before ++ a :: b :: rest = (before ++ [a]) ++ b :: rest := by simp
      have hlength : (before ++ [a]).length = before.length + 1 := by simp
      rw [List.findIdx?_cons]
      unfold valueAfter
      by_cases hle : x ≤ b.raw
      · have hcmp : CurveOrder.le x b.raw = true := decide_eq_true hle
        have hb : pointAt (before ++ a :: b :: rest) (0 + (before.length + 1)) = .ok b := by
          rw [happend]
          exact pointAt_append (by omega)
        have ha : pointBefore (before ++ a :: b :: rest) (0 + (before.length + 1)) 1 = .ok a :=
          pointBefore_append (by omega)
        rw [if_pos (decide_eq_true hle), if_pos hcmp, Option.map_some]
        exact valueAt_some hb ha (by omega) x
      · have hcmp : CurveOrder.le x b.raw = false := decide_eq_false hle
        rw [decide_eq_false hle, hcmp, if_neg Bool.false_ne_true, if_neg Bool.false_ne_true,
          Option.map_map, happend]
        have hshift : ((· + (before.length + 1)) ∘ fun i => i + 1) =
            (· + ((before ++ [a]).length + 1)) := by
          funext i
          simp only [Function.comp_apply, hlength]
          omega
        rw [hshift]
        exact ih _ _

end

/-- The last segment is what a list of two points or more ends with. -/
theorem exists_append_lastSegment (a b : CurvePoint ℚ) (rest : List (CurvePoint ℚ)) :
    ∃ before, a :: b :: rest =
      before ++ [(lastSegment a b rest).1, (lastSegment a b rest).2] := by
  induction rest generalizing a b with
  | nil => exact ⟨[], rfl⟩
  | cons c rest ih =>
      obtain ⟨before, heq⟩ := ih b c
      exact ⟨a :: before, congrArg (a :: ·) heq⟩

/-- **Evaluation by index has no fault**, and the value is that of the evaluation along the list. -/
theorem evaluate_eq (c : Curve ℚ) (x : ℚ) : c.evaluate x = .ok (c.value? x) := by
  obtain ⟨points, extrapolate⟩ := c
  match points with
  | [] => rfl
  | [p] =>
      show Except.ok (if x = p.raw ∨ extrapolate = true then some p.calibrated else none) =
        Except.ok (if (decide (x = p.raw) || extrapolate) = true then some p.calibrated else none)
      simp only [Bool.or_eq_true, decide_eq_true_eq]
  | first :: second :: rest =>
      obtain ⟨before, hlast⟩ := exists_append_lastSegment first second rest
      have hlength : (first :: second :: rest).length = before.length + 2 := by
        rw [hlast]
        simp
      unfold evaluate value?
      dsimp only
      generalize lastSegment first second rest = segment at hlast ⊢
      have hback : (first :: second :: rest).getLast? = some segment.2 := by
        rw [hlast]
        simp
      have hprevious : pointBefore (first :: second :: rest) (first :: second :: rest).length 2 =
          .ok segment.1 := by
        rw [hlength, hlast]
        exact pointBefore_append rfl
      rw [List.head?_cons, hback]
      dsimp only
      have hsecond : pointAt (first :: second :: rest) 1 = .ok second := rfl
      rw [if_neg (by omega), hsecond, hprevious]
      simp only [bind, Except.bind, checkedInterpolate_eq]
      by_cases hbelow : x < first.raw
      · have hcmp : CurveOrder.lt x first.raw = true := decide_eq_true hbelow
        rw [if_pos hbelow, if_pos hcmp]
        cases extrapolate with
        | true => rfl
        | false => rfl
      · have hcmp : CurveOrder.lt x first.raw = false := decide_eq_false hbelow
        rw [if_neg hbelow, hcmp, if_neg Bool.false_ne_true]
        by_cases habove : segment.2.raw < x
        · have hcmp : CurveOrder.lt segment.2.raw x = true := decide_eq_true habove
          rw [if_pos habove, if_pos hcmp]
          cases extrapolate with
          | true => rfl
          | false => rfl
        · have hcmp : CurveOrder.lt segment.2.raw x = false := decide_eq_false habove
          rw [if_neg habove, hcmp, if_neg Bool.false_ne_true, List.findIdx?_cons]
          by_cases hat : x ≤ first.raw
          · have hcmp : CurveOrder.le x first.raw = true := decide_eq_true hat
            rw [if_pos (decide_eq_true hat), if_pos hcmp]
            have heq : first.raw = x := le_antisymm (not_lt.mp hbelow) hat
            simp [valueAt, pointAt, heq, pure, Except.pure, bind, Except.bind]
          · have hcmp : CurveOrder.le x first.raw = false := decide_eq_false hat
            rw [decide_eq_false hat, hcmp, if_neg Bool.false_ne_true, if_neg Bool.false_ne_true]
            exact valueAt_findIdx? [] (second :: rest) first x

end Curve

end MissionBase
