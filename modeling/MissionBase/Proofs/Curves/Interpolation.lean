import MissionBase.Proofs.Curves.Evaluation
import Mathlib.Data.List.Nodup
import Mathlib.Data.List.Perm.Basic
import Mathlib.Tactic.FieldSimp
import Mathlib.Tactic.Linarith
import Mathlib.Tactic.Ring

/-!
# What a curve says between its points

A curve sorts its points, looks for the first one that is not below a raw value, and interpolates on
the segment that ends there. Read over the rationals, this is the piecewise linear interpolant of
the points, in whatever order they were given:

* at a **point**, its calibrated value;
* between two **neighbours**, the height of the straight line through them;
* beyond the **outermost** point, nothing, or, for a curve that extrapolates, the height of the line
  through the outermost two points of that side; a single point gives its own value everywhere.

`Interpolant` says this of the points as a collection: it knows neither their order nor how a curve
is evaluated. A straight line is given by an equation without a quotient (`OnLine`), so it can be
read along either axis.
-/

namespace MissionBase

namespace Curve

/-! ## The interpolant -/

/-- The straight line through two points has height `y` at `x`. -/
def OnLine (a b : CurvePoint ℚ) (x y : ℚ) : Prop :=
  (y - a.calibrated) * (b.raw - a.raw) = (x - a.raw) * (b.calibrated - a.calibrated)

/-- Two points with no raw value of a point between theirs. -/
structure Neighbours (points : List (CurvePoint ℚ)) (a b : CurvePoint ℚ) : Prop where
  left : a ∈ points
  right : b ∈ points
  lt : a.raw < b.raw
  apart : ∀ p ∈ points, p.raw ≤ a.raw ∨ b.raw ≤ p.raw

/-- The two points whose line gives the value at a raw value that no point has: those next to it on
both sides, or the outermost two of the side beyond which it lies. -/
inductive Guides (points : List (CurvePoint ℚ)) (extrapolate : Bool) (x : ℚ)
    (a b : CurvePoint ℚ) : Prop
  | between (near : Neighbours points a b) (left : a.raw < x) (right : x < b.raw)
  | below (near : Neighbours points a b) (extends_ : extrapolate = true)
      (first : ∀ p ∈ points, a.raw ≤ p.raw) (lt : x < a.raw)
  | above (near : Neighbours points a b) (extends_ : extrapolate = true)
      (last : ∀ p ∈ points, p.raw ≤ b.raw) (lt : b.raw < x)

/-- The value of the piecewise linear interpolant of points at a raw value, if it has one. -/
inductive Interpolant (points : List (CurvePoint ℚ)) (extrapolate : Bool) (x : ℚ) :
    Option ℚ → Prop
  | point {p : CurvePoint ℚ} (mem : p ∈ points) (at_ : p.raw = x) :
      Interpolant points extrapolate x (some p.calibrated)
  | line {a b : CurvePoint ℚ} {y : ℚ} (guides : Guides points extrapolate x a b)
      (on : OnLine a b x y) : Interpolant points extrapolate x (some y)
  | alone {p : CurvePoint ℚ} (only : points = [p]) (extends_ : extrapolate = true) :
      Interpolant points extrapolate x (some p.calibrated)
  | outside (ends : extrapolate = false)
      (beyond : (∀ p ∈ points, x < p.raw) ∨ ∀ p ∈ points, p.raw < x) :
      Interpolant points extrapolate x none

/-- A line that is not vertical has one height at each place. -/
theorem OnLine.unique {a b : CurvePoint ℚ} {x y y' : ℚ} (hne : a.raw ≠ b.raw)
    (h : OnLine a b x y) (h' : OnLine a b x y') : y = y' := by
  have heq : (y - a.calibrated) * (b.raw - a.raw) = (y' - a.calibrated) * (b.raw - a.raw) :=
    h.trans h'.symm
  have hdiff : b.raw - a.raw ≠ 0 := sub_ne_zero.mpr hne.symm
  have := mul_right_cancel₀ hdiff heq
  linarith

/-- What `interpolate` computes is on the line. -/
theorem onLine_interpolate {a b : CurvePoint ℚ} (hne : a.raw ≠ b.raw) (x : ℚ) :
    OnLine a b x (interpolate a b x) := by
  have hdiff : b.raw - a.raw ≠ 0 := sub_ne_zero.mpr hne.symm
  have hvertical : CurveOrder.eq b.raw a.raw = false := decide_eq_false hne.symm
  unfold OnLine interpolate
  rw [hvertical, if_neg Bool.false_ne_true]
  field_simp
  ring

section

variable {points points' : List (CurvePoint ℚ)} {extrapolate : Bool} {x : ℚ}
  {a b p q : CurvePoint ℚ}

/-! ### One value at each place -/

/-- Points are told apart by their raw values. -/
theorem eq_of_raw_eq (hraw : (points.map (·.raw)).Nodup) (hp : p ∈ points) (hq : q ∈ points)
    (h : p.raw = q.raw) : p = q := List.inj_on_of_nodup_map hraw hp hq h

/-- A point has one neighbour on its right. -/
theorem Neighbours.right_unique {c : CurvePoint ℚ} (hraw : (points.map (·.raw)).Nodup)
    (h : Neighbours points a b) (h' : Neighbours points a c) : b = c := by
  have hle : b.raw ≤ c.raw := (h.apart c h'.right).resolve_left (not_le.mpr h'.lt)
  have hge : c.raw ≤ b.raw := (h'.apart b h.right).resolve_left (not_le.mpr h.lt)
  exact eq_of_raw_eq hraw h.right h'.right (le_antisymm hle hge)

/-- A point has one neighbour on its left. -/
theorem Neighbours.left_unique {c : CurvePoint ℚ} (hraw : (points.map (·.raw)).Nodup)
    (h : Neighbours points a b) (h' : Neighbours points c b) : a = c := by
  have hle : c.raw ≤ a.raw := (h.apart c h'.left).resolve_right (not_le.mpr h'.lt)
  have hge : a.raw ≤ c.raw := (h'.apart a h.left).resolve_right (not_le.mpr h.lt)
  exact eq_of_raw_eq hraw h.left h'.left (le_antisymm hge hle)

theorem Guides.near (h : Guides points extrapolate x a b) : Neighbours points a b := by
  cases h with
  | between near _ _ => exact near
  | below near _ _ _ => exact near
  | above near _ _ _ => exact near

/-- Where a line gives the value, there is no point. -/
theorem Guides.ne_raw (h : Guides points extrapolate x a b) (hp : p ∈ points) : p.raw ≠ x := by
  intro heq
  cases h with
  | between near left right =>
      rcases near.apart p hp with hle | hge
      · linarith
      · linarith
  | below _ _ first lt => linarith [first p hp]
  | above _ _ last lt => linarith [last p hp]

/-- **One pair of points gives the value.** -/
theorem Guides.unique {a' b' : CurvePoint ℚ} (hraw : (points.map (·.raw)).Nodup)
    (h : Guides points extrapolate x a b) (h' : Guides points extrapolate x a' b') :
    a = a' ∧ b = b' := by
  have hne := h.near
  have hne' := h'.near
  -- equal left ends have equal right ends, and the other way round
  have hleft (heq : a.raw = a'.raw) : a = a' ∧ b = b' := by
    obtain rfl := eq_of_raw_eq hraw hne.left hne'.left heq
    exact ⟨rfl, hne.right_unique hraw hne'⟩
  have hright (heq : b.raw = b'.raw) : a = a' ∧ b = b' := by
    obtain rfl := eq_of_raw_eq hraw hne.right hne'.right heq
    exact ⟨hne.left_unique hraw hne', rfl⟩
  cases h with
  | between near left right =>
      cases h' with
      | between near' left' right' =>
          have hle : a'.raw ≤ a.raw := (near.apart a' near'.left).resolve_right (by linarith)
          have hge : a.raw ≤ a'.raw := (near'.apart a near.left).resolve_right (by linarith)
          exact hleft (le_antisymm hge hle)
      | below _ _ first lt => linarith [first a near.left]
      | above _ _ last lt => linarith [last b near.right]
  | below near _ first lt =>
      cases h' with
      | between near' left' _ => linarith [first a' near'.left]
      | below near' _ first' _ =>
          exact hleft (le_antisymm (first a' near'.left) (first' a near.left))
      | above near' _ last' lt' => linarith [last' b near.right, near.lt]
  | above near _ last lt =>
      cases h' with
      | between near' _ right' => linarith [last b' near'.right]
      | below near' _ first' lt' => linarith [first' a near.left, near.lt]
      | above near' _ last' _ =>
          exact hright (le_antisymm (last' b near.right) (last b' near'.right))

/-- A curve of one point has no line. -/
theorem Neighbours.ne_singleton (h : Neighbours points a b) : points ≠ [p] := by
  rintro rfl
  have ha := List.mem_singleton.mp h.left
  have hb := List.mem_singleton.mp h.right
  have hlt := h.lt
  rw [ha, hb] at hlt
  exact lt_irrefl _ hlt

/-- The interpolant has no value only beyond the points of a curve that ends there. -/
theorem Interpolant.of_none (h : Interpolant points extrapolate x none) :
    extrapolate = false ∧ ((∀ p ∈ points, x < p.raw) ∨ ∀ p ∈ points, p.raw < x) := by
  cases h with
  | outside ends beyond => exact ⟨ends, beyond⟩

theorem Interpolant.not_none_of_some {y : ℚ} (h : Interpolant points extrapolate x (some y)) :
    ¬ Interpolant points extrapolate x none := by
  intro hnone
  obtain ⟨ends, beyond⟩ := hnone.of_none
  cases h with
  | point mem at_ =>
      rcases beyond with hlt | hgt
      · linarith [hlt _ mem]
      · linarith [hgt _ mem]
  | line guides on =>
      cases guides with
      | between near left right =>
          rcases beyond with hlt | hgt
          · linarith [hlt _ near.left]
          · linarith [hgt _ near.right]
      | below _ extends_ _ _ => simp [ends] at extends_
      | above _ extends_ _ _ => simp [ends] at extends_
  | alone _ extends_ => simp [ends] at extends_

/-- **The interpolant has one value at each place.** -/
theorem Interpolant.unique {v w : Option ℚ} (hraw : (points.map (·.raw)).Nodup)
    (hv : Interpolant points extrapolate x v) (hw : Interpolant points extrapolate x w) :
    v = w := by
  cases v with
  | none =>
      cases w with
      | none => rfl
      | some z => exact absurd hv hw.not_none_of_some
  | some y =>
      cases w with
      | none => exact absurd hw hv.not_none_of_some
      | some z =>
          congr 1
          cases hv with
          | point mem at_ =>
              cases hw with
              | point mem' at_' =>
                  rw [eq_of_raw_eq hraw mem mem' (at_.trans at_'.symm)]
              | line guides _ => exact absurd at_ (guides.ne_raw mem)
              | alone only _ =>
                  rw [only] at mem
                  rw [List.mem_singleton.mp mem]
          | line guides on =>
              cases hw with
              | point mem' at_' => exact absurd at_' (guides.ne_raw mem')
              | line guides' on' =>
                  obtain ⟨rfl, rfl⟩ := guides.unique hraw guides'
                  exact on.unique (ne_of_lt guides.near.lt) on'
              | alone only _ => exact absurd only guides.near.ne_singleton
          | alone only _ =>
              cases hw with
              | point mem' _ =>
                  rw [only] at mem'
                  rw [List.mem_singleton.mp mem']
              | line guides _ => exact absurd only guides.near.ne_singleton
              | alone only' _ => rw [(List.cons.inj (only.symm.trans only')).1]

/-! ### Order of the points -/

theorem Neighbours.perm (hperm : points.Perm points') (h : Neighbours points a b) :
    Neighbours points' a b where
  left := hperm.mem_iff.mp h.left
  right := hperm.mem_iff.mp h.right
  lt := h.lt
  apart := fun p hp => h.apart p (hperm.mem_iff.mpr hp)

theorem Guides.perm (hperm : points.Perm points') (h : Guides points extrapolate x a b) :
    Guides points' extrapolate x a b := by
  cases h with
  | between near left right => exact .between (near.perm hperm) left right
  | below near extends_ first lt =>
      exact .below (near.perm hperm) extends_ (fun p hp => first p (hperm.mem_iff.mpr hp)) lt
  | above near extends_ last lt =>
      exact .above (near.perm hperm) extends_ (fun p hp => last p (hperm.mem_iff.mpr hp)) lt

/-- The interpolant does not depend on the order of the points. -/
theorem Interpolant.perm {v : Option ℚ} (hperm : points.Perm points')
    (h : Interpolant points extrapolate x v) : Interpolant points' extrapolate x v := by
  cases h with
  | point mem at_ => exact .point (hperm.mem_iff.mp mem) at_
  | line guides on => exact .line (guides.perm hperm) on
  | alone only extends_ =>
      rw [only] at hperm
      exact .alone (List.perm_singleton.mp hperm.symm) extends_
  | outside ends beyond =>
      refine .outside ends ?_
      rcases beyond with hlt | hgt
      · exact .inl fun p hp => hlt p (hperm.mem_iff.mpr hp)
      · exact .inr fun p hp => hgt p (hperm.mem_iff.mpr hp)

end

/-! ## Points in order -/

/-- Points whose raw values increase. -/
def Ascending (points : List (CurvePoint ℚ)) : Prop := points.Pairwise fun p q => p.raw < q.raw

section

variable {extrapolate : Bool} {x : ℚ} {before after : List (CurvePoint ℚ)} {a b : CurvePoint ℚ}

/-- Points that follow each other are neighbours. -/
theorem Ascending.neighbours (before after : List (CurvePoint ℚ))
    (h : Ascending (before ++ a :: b :: after)) :
    Neighbours (before ++ a :: b :: after) a b := by
  obtain ⟨-, hafter, hbefore⟩ := List.pairwise_append.mp h
  obtain ⟨ha, hb⟩ := List.pairwise_cons.mp hafter
  refine ⟨by simp, by simp, ha b List.mem_cons_self, fun p hp => ?_⟩
  rcases List.mem_append.mp hp with hp | hp
  · exact .inl (le_of_lt (hbefore p hp a List.mem_cons_self))
  · rcases List.mem_cons.mp hp with rfl | hp
    · exact .inl (le_refl _)
    · rcases List.mem_cons.mp hp with rfl | hp
      · exact .inr (le_refl _)
      · exact .inr (le_of_lt ((List.pairwise_cons.mp hb).1 p hp))

/-- The first point is the lowest. -/
theorem Ascending.first_le (h : Ascending (a :: after)) {p : CurvePoint ℚ} (hp : p ∈ a :: after) :
    a.raw ≤ p.raw := by
  rcases List.mem_cons.mp hp with rfl | hp
  · exact le_refl _
  · exact le_of_lt ((List.pairwise_cons.mp h).1 p hp)

/-- The last point is the highest. -/
theorem Ascending.le_last (h : Ascending (before ++ [b])) {p : CurvePoint ℚ}
    (hp : p ∈ before ++ [b]) : p.raw ≤ b.raw := by
  rcases List.mem_append.mp hp with hp | hp
  · exact le_of_lt ((List.pairwise_append.mp h).2.2 p hp b (List.mem_singleton_self b))
  · rw [List.mem_singleton.mp hp]

/-- **The search ends on the segment below the first point that is not below the raw value.** -/
theorem valueAfter_interpolant (before : List (CurvePoint ℚ))
    (hsorted : Ascending (before ++ a :: after)) (hlt : a.raw < x)
    (hreached : ∃ p ∈ after, x ≤ p.raw) :
    ∃ y, valueAfter x a after = some y ∧
      Interpolant (before ++ a :: after) extrapolate x (some y) := by
  induction after generalizing before a with
  | nil =>
      obtain ⟨p, hp, -⟩ := hreached
      cases hp
  | cons b rest ih =>
      unfold valueAfter
      by_cases hle : x ≤ b.raw
      · have hcmp : CurveOrder.le x b.raw = true := decide_eq_true hle
        rw [hcmp, if_pos rfl]
        refine ⟨_, rfl, ?_⟩
        by_cases heq : b.raw = x
        · have hcmp : CurveOrder.eq b.raw x = true := decide_eq_true heq
          rw [hcmp, if_pos rfl]
          exact .point (by simp) heq
        · have hcmp : CurveOrder.eq b.raw x = false := decide_eq_false heq
          rw [hcmp, if_neg Bool.false_ne_true]
          have hnear := hsorted.neighbours before rest
          have hright : x < b.raw := lt_of_le_of_ne hle (Ne.symm heq)
          exact .line (.between hnear hlt hright) (onLine_interpolate (ne_of_lt hnear.lt) x)
      · have hcmp : CurveOrder.le x b.raw = false := decide_eq_false hle
        rw [hcmp, if_neg Bool.false_ne_true]
        have happend : before ++ a :: b :: rest = (before ++ [a]) ++ b :: rest := by simp
        rw [happend] at hsorted ⊢
        refine ih (before ++ [a]) hsorted (not_le.mp hle) ?_
        obtain ⟨p, hp, hxp⟩ := hreached
        rcases List.mem_cons.mp hp with rfl | hp
        · exact absurd hxp hle
        · exact ⟨p, hp, hxp⟩

/-- **The value of a curve whose points are in order is that of the interpolant.** -/
theorem value?_interpolant {points : List (CurvePoint ℚ)} (hne : points ≠ [])
    (hsorted : Ascending points) :
    Interpolant points extrapolate x ((Curve.mk points extrapolate).value? x) := by
  match points with
  | [] => exact absurd rfl hne
  | [p] =>
      show Interpolant [p] extrapolate x
        (if (decide (x = p.raw) || extrapolate) = true then some p.calibrated else none)
      by_cases heq : x = p.raw
      · rw [decide_eq_true heq, Bool.true_or, if_pos rfl]
        exact .point List.mem_cons_self heq.symm
      · rw [decide_eq_false heq, Bool.false_or]
        cases extrapolate with
        | true => exact .alone rfl rfl
        | false =>
            refine .outside rfl ?_
            rcases lt_or_gt_of_ne heq with hlt | hgt
            · exact .inl (by simpa using hlt)
            · exact .inr (by simpa using hgt)
  | first :: second :: rest =>
      obtain ⟨before, hlast⟩ := exists_append_lastSegment first second rest
      have hfirst : Neighbours (first :: second :: rest) first second :=
        Ascending.neighbours [] rest hsorted
      unfold value?
      dsimp only
      generalize lastSegment first second rest = segment at hlast ⊢
      have hend : Neighbours (first :: second :: rest) segment.1 segment.2 := by
        rw [hlast] at hsorted ⊢
        exact Ascending.neighbours before [] hsorted
      have hhigh (p : CurvePoint ℚ) (hp : p ∈ first :: second :: rest) :
          p.raw ≤ segment.2.raw := by
        have happend : before ++ [segment.1, segment.2] = (before ++ [segment.1]) ++ [segment.2] :=
          by simp
        rw [hlast, happend] at hsorted hp
        exact hsorted.le_last hp
      by_cases hbelow : x < first.raw
      · have hcmp : CurveOrder.lt x first.raw = true := decide_eq_true hbelow
        rw [hcmp, if_pos rfl]
        cases extrapolate with
        | true =>
            exact .line (.below hfirst rfl (fun p hp => hsorted.first_le hp) hbelow)
              (onLine_interpolate (ne_of_lt hfirst.lt) x)
        | false =>
            exact .outside rfl (.inl fun p hp => lt_of_lt_of_le hbelow (hsorted.first_le hp))
      · have hcmp : CurveOrder.lt x first.raw = false := decide_eq_false hbelow
        rw [hcmp, if_neg Bool.false_ne_true]
        by_cases habove : segment.2.raw < x
        · have hcmp : CurveOrder.lt segment.2.raw x = true := decide_eq_true habove
          rw [hcmp, if_pos rfl]
          cases extrapolate with
          | true =>
              exact .line (.above hend rfl hhigh habove)
                (onLine_interpolate (ne_of_lt hend.lt) x)
          | false =>
              exact .outside rfl (.inr fun p hp => lt_of_le_of_lt (hhigh p hp) habove)
        · have hcmp : CurveOrder.lt segment.2.raw x = false := decide_eq_false habove
          rw [hcmp, if_neg Bool.false_ne_true]
          by_cases hat : x ≤ first.raw
          · have hcmp : CurveOrder.le x first.raw = true := decide_eq_true hat
            rw [hcmp, if_pos rfl]
            exact .point List.mem_cons_self (le_antisymm (not_lt.mp hbelow) hat)
          · have hcmp : CurveOrder.le x first.raw = false := decide_eq_false hat
            rw [hcmp, if_neg Bool.false_ne_true]
            -- the last point is not below the raw value, so the search ends
            have hreached : ∃ p ∈ second :: rest, x ≤ p.raw := by
              rcases List.mem_cons.mp hend.right with heq | hmem
              · rw [heq] at habove
                exact absurd (not_lt.mp habove) hat
              · exact ⟨_, hmem, not_lt.mp habove⟩
            obtain ⟨y, hy, hvalue⟩ :=
              valueAfter_interpolant [] hsorted (not_le.mp hat) hreached
            rw [hy]
            exact hvalue

end

/-- Sorting brings points of different raw values in order. -/
theorem ascending_ofPoints {points : List (CurvePoint ℚ)} (hraw : (points.map (·.raw)).Nodup)
    (extrapolate : Bool) : Ascending (ofPoints points extrapolate).points := by
  have hperm : (ofPoints points extrapolate).points.Perm points := List.mergeSort_perm points _
  have hle : (ofPoints points extrapolate).points.Pairwise fun p q => p.raw ≤ q.raw := by
    refine List.Pairwise.imp of_decide_eq_true (List.pairwise_mergeSort ?_ ?_ points)
    · intro p q r hpq hqr
      exact decide_eq_true (le_trans (of_decide_eq_true hpq) (of_decide_eq_true hqr))
    · intro p q
      rcases le_total p.raw q.raw with h | h
      · exact Bool.or_eq_true_iff.mpr (.inl (decide_eq_true h))
      · exact Bool.or_eq_true_iff.mpr (.inr (decide_eq_true h))
  have hne : (ofPoints points extrapolate).points.Pairwise fun p q => p.raw ≠ q.raw :=
    List.pairwise_map.mp ((hperm.map _).nodup_iff.mpr hraw)
  exact hle.imp₂ (fun _ _ => lt_of_le_of_ne) hne

/-- **A curve has the values of the interpolant of its points, and no others.** -/
theorem value?_ofPoints_eq_iff {points order : List (CurvePoint ℚ)} (hne : points ≠ [])
    (hraw : (points.map (·.raw)).Nodup) (hperm : order.Perm points) (extrapolate : Bool) (x : ℚ)
    (v : Option ℚ) :
    (ofPoints order extrapolate).value? x = v ↔ Interpolant points extrapolate x v := by
  have hsorted : (ofPoints order extrapolate).points.Perm points :=
    (List.mergeSort_perm order _).trans hperm
  have hvalue : Interpolant points extrapolate x ((ofPoints order extrapolate).value? x) := by
    refine Interpolant.perm hsorted (value?_interpolant ?_ ?_)
    · intro hnil
      rw [hnil] at hsorted
      exact hne hsorted.symm.eq_nil
    · exact ascending_ofPoints ((hperm.map _).nodup_iff.mpr hraw) extrapolate
  constructor
  · rintro rfl
    exact hvalue
  · intro hv
    exact hvalue.unique hraw hv

/-- **A curve is the piecewise linear interpolant of its points, whatever their order.** At each
place it has the value of the interpolant and no other, and evaluated by index it has no fault. -/
theorem ofPoints_interpolates {points order : List (CurvePoint ℚ)} (hne : points ≠ [])
    (hraw : (points.map (·.raw)).Nodup) (hperm : order.Perm points) (extrapolate : Bool) (x : ℚ) :
    (∀ v, (ofPoints order extrapolate).value? x = v ↔ Interpolant points extrapolate x v) ∧
      (ofPoints order extrapolate).evaluate x =
        .ok ((ofPoints order extrapolate).value? x) := by
  constructor
  · exact value?_ofPoints_eq_iff hne hraw hperm extrapolate x
  · exact evaluate_eq _ x

/-- Between 0 and 4, on the line through `(0, 1)` and `(4, 2)`, the value at 2 is 3/2; the points
are given as 10, 0, 4 and as 0, 10, 4. -/
theorem ofPoints_interpolates_between :
    (ofPoints [⟨10, -7 / 2⟩, ⟨0, 1⟩, ⟨4, 2⟩] false).evaluate 2 = .ok (some (3 / 2)) := by
  have hperm : ([⟨10, -7 / 2⟩, ⟨0, 1⟩, ⟨4, 2⟩] : List (CurvePoint ℚ)).Perm
      [⟨0, 1⟩, ⟨10, -7 / 2⟩, ⟨4, 2⟩] := List.Perm.swap _ _ _
  have hcurve := ofPoints_interpolates (List.cons_ne_nil _ _) (by norm_num) hperm false 2
  rw [hcurve.2]
  congr 1
  rw [hcurve.1]
  have hnear : Neighbours [⟨0, 1⟩, ⟨10, -7 / 2⟩, ⟨4, 2⟩] ⟨0, 1⟩ ⟨4, 2⟩ :=
    ⟨by simp, by simp, by norm_num, by norm_num⟩
  have hline : OnLine ⟨0, 1⟩ ⟨4, 2⟩ 2 (3 / 2) := by norm_num [OnLine]
  exact .line (.between hnear (by norm_num) (by norm_num)) hline

end Curve

end MissionBase
