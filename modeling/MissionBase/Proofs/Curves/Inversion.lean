import MissionBase.Commanding.ArgumentTypes
import MissionBase.Proofs.Curves.Interpolation
import Mathlib.Tactic.LinearCombination

/-!
# Decalibration

Where a telemetry curve turns raw values into engineering values, a command goes the other way: the
curve of its argument is read through the points with their coordinates exchanged. Exchanging does
not undo anything by itself. The exchanged points are sorted by the other coordinate, which turns
their order around where the curve falls, so segments are searched from the other end, and what was
followed below the first point is followed above the last one.

Read over the rationals, the two curves are inverse to each other as soon as the points rise or fall
all the way. A line has the same points along either axis (`OnLine.swap`), and neighbours stay
neighbours, with their sides kept or exchanged (`Neighbours.swap_rises`, `Neighbours.swap_falls`);
so whatever pair of points gives the value at one place gives the way back there.
-/

namespace MissionBase

/-- Exchanging the coordinates twice changes nothing. -/
theorem CurvePoint.map_swap_swap {α : Type} (points : List (CurvePoint α)) :
    (points.map swap).map swap = points := by
  rw [List.map_map]
  exact List.map_id points

namespace Curve

/-! ## Points that rise or fall -/

/-- The point further right is the higher one. -/
def Rises (points : List (CurvePoint ℚ)) : Prop :=
  ∀ p ∈ points, ∀ q ∈ points, p.raw < q.raw → p.calibrated < q.calibrated

/-- The point further right is the lower one. -/
def Falls (points : List (CurvePoint ℚ)) : Prop :=
  ∀ p ∈ points, ∀ q ∈ points, p.raw < q.raw → q.calibrated < p.calibrated

/-- Points of different raw values, in any order, whose calibrated values all rise with the raw
values, or all fall. -/
structure StrictlyMonotone (points : List (CurvePoint ℚ)) : Prop where
  distinct : (points.map (·.raw)).Nodup
  direction : Rises points ∨ Falls points

/-- A raw value within the range of the points. -/
def InRange (points : List (CurvePoint ℚ)) (x : ℚ) : Prop :=
  ∃ p ∈ points, ∃ q ∈ points, p.raw ≤ x ∧ x ≤ q.raw

section

variable {points : List (CurvePoint ℚ)} {extrapolate : Bool} {x y : ℚ} {a b p q : CurvePoint ℚ}

theorem Rises.le (hraw : (points.map (·.raw)).Nodup) (h : Rises points) (hp : p ∈ points)
    (hq : q ∈ points) (hle : p.raw ≤ q.raw) : p.calibrated ≤ q.calibrated := by
  rcases lt_or_eq_of_le hle with hlt | heq
  · exact le_of_lt (h p hp q hq hlt)
  · rw [eq_of_raw_eq hraw hp hq heq]

theorem Falls.le (hraw : (points.map (·.raw)).Nodup) (h : Falls points) (hp : p ∈ points)
    (hq : q ∈ points) (hle : p.raw ≤ q.raw) : q.calibrated ≤ p.calibrated := by
  rcases lt_or_eq_of_le hle with hlt | heq
  · exact le_of_lt (h p hp q hq hlt)
  · rw [eq_of_raw_eq hraw hp hq heq]

/-- Points that rise or fall have different calibrated values as well. -/
theorem StrictlyMonotone.eq_of_calibrated_eq (h : StrictlyMonotone points) (hp : p ∈ points)
    (hq : q ∈ points) (heq : p.calibrated = q.calibrated) : p = q := by
  rcases lt_trichotomy p.raw q.raw with hlt | hraw | hlt
  · rcases h.direction with hrises | hfalls
    · exact absurd heq (ne_of_lt (hrises p hp q hq hlt))
    · exact absurd heq (ne_of_gt (hfalls p hp q hq hlt))
  · exact eq_of_raw_eq h.distinct hp hq hraw
  · rcases h.direction with hrises | hfalls
    · exact absurd heq (ne_of_gt (hrises q hq p hp hlt))
    · exact absurd heq (ne_of_lt (hfalls q hq p hp hlt))

/-- **What rises or falls does so along either axis.** -/
theorem StrictlyMonotone.swap (h : StrictlyMonotone points) :
    StrictlyMonotone (points.map CurvePoint.swap) := by
  have hdistinct : ((points.map CurvePoint.swap).map (·.raw)).Nodup := by
    rw [List.map_map]
    exact h.distinct.of_map.map_on fun p hp q hq heq => h.eq_of_calibrated_eq hp hq heq
  refine ⟨hdistinct, ?_⟩
  rcases h.direction with hrises | hfalls
  · left
    intro p' hp' q' hq' hlt
    obtain ⟨p, hp, rfl⟩ := List.mem_map.mp hp'
    obtain ⟨q, hq, rfl⟩ := List.mem_map.mp hq'
    rcases lt_or_ge p.raw q.raw with hraw | hraw
    · exact hraw
    · exact absurd (hrises.le h.distinct hq hp hraw) (not_le.mpr hlt)
  · right
    intro p' hp' q' hq' hlt
    obtain ⟨p, hp, rfl⟩ := List.mem_map.mp hp'
    obtain ⟨q, hq, rfl⟩ := List.mem_map.mp hq'
    rcases lt_or_ge q.raw p.raw with hraw | hraw
    · exact hraw
    · exact absurd (hfalls.le h.distinct hp hq hraw) (not_le.mpr hlt)

/-! ## The same line along the other axis -/

/-- A line passes the same places along either axis. -/
theorem OnLine.swap (h : OnLine a b x y) : OnLine a.swap b.swap y x := by
  unfold OnLine at h ⊢
  exact h.symm

/-- A line is the same from its other point. -/
theorem OnLine.exchange (h : OnLine a b x y) : OnLine b a x y := by
  unfold OnLine at h ⊢
  linear_combination -h

/-- Along a rising line, a place beside a point has its height on the same side. -/
theorem OnLine.rising (h : OnLine a b x y)
    (hslope : 0 < (b.raw - a.raw) * (b.calibrated - a.calibrated)) :
    (a.raw < x → a.calibrated < y) ∧ (x < a.raw → y < a.calibrated) := by
  have hsquare : (y - a.calibrated) * (b.raw - a.raw) ^ 2 =
      (x - a.raw) * ((b.raw - a.raw) * (b.calibrated - a.calibrated)) := by
    unfold OnLine at h
    linear_combination (b.raw - a.raw) * h
  have hpos : 0 < (b.raw - a.raw) ^ 2 := by
    have hne : b.raw - a.raw ≠ 0 := left_ne_zero_of_mul (ne_of_gt hslope)
    positivity
  constructor
  · intro hlt
    have hright := mul_pos (sub_pos.mpr hlt) hslope
    rw [← hsquare] at hright
    exact sub_pos.mp (pos_of_mul_pos_left hright (le_of_lt hpos))
  · intro hlt
    have hleft := mul_neg_of_neg_of_pos (sub_neg.mpr hlt) hslope
    rw [← hsquare] at hleft
    exact sub_neg.mp (neg_of_mul_neg_left hleft (le_of_lt hpos))

/-- Along a falling line it has its height on the other side: upside down, the line rises. -/
theorem OnLine.falling (h : OnLine a b x y)
    (hslope : (b.raw - a.raw) * (b.calibrated - a.calibrated) < 0) :
    (a.raw < x → y < a.calibrated) ∧ (x < a.raw → a.calibrated < y) := by
  have hflipped : OnLine ⟨a.raw, -a.calibrated⟩ ⟨b.raw, -b.calibrated⟩ x (-y) := by
    unfold OnLine at h ⊢
    linear_combination -h
  have hrising := hflipped.rising (by linear_combination hslope)
  exact ⟨fun hlt => neg_lt_neg_iff.mp (hrising.1 hlt), fun hlt => neg_lt_neg_iff.mp (hrising.2 hlt)⟩

/-! ## The same pair of points along the other axis -/

/-- Neighbours of a rising curve are neighbours along the other axis. -/
theorem Neighbours.swap_rises (hraw : (points.map (·.raw)).Nodup) (hrises : Rises points)
    (h : Neighbours points a b) : Neighbours (points.map CurvePoint.swap) a.swap b.swap := by
  refine ⟨List.mem_map_of_mem h.left, List.mem_map_of_mem h.right,
    hrises a h.left b h.right h.lt, fun p' hp' => ?_⟩
  obtain ⟨p, hp, rfl⟩ := List.mem_map.mp hp'
  rcases h.apart p hp with hle | hge
  · exact .inl (hrises.le hraw hp h.left hle)
  · exact .inr (hrises.le hraw h.right hp hge)

/-- Neighbours of a falling curve are neighbours along the other axis, the other way round. -/
theorem Neighbours.swap_falls (hraw : (points.map (·.raw)).Nodup) (hfalls : Falls points)
    (h : Neighbours points a b) : Neighbours (points.map CurvePoint.swap) b.swap a.swap := by
  refine ⟨List.mem_map_of_mem h.right, List.mem_map_of_mem h.left,
    hfalls a h.left b h.right h.lt, fun p' hp' => ?_⟩
  obtain ⟨p, hp, rfl⟩ := List.mem_map.mp hp'
  rcases h.apart p hp with hle | hge
  · exact .inr (hfalls.le hraw hp h.left hle)
  · exact .inl (hfalls.le hraw h.right hp hge)

/-- **On a rising curve the points that give the value also give the way back.** -/
theorem Guides.swap_rises (hraw : (points.map (·.raw)).Nodup) (hrises : Rises points)
    (h : Guides points extrapolate x a b) (hline : OnLine a b x y) :
    Guides (points.map CurvePoint.swap) extrapolate y a.swap b.swap := by
  have hslope : 0 < (b.raw - a.raw) * (b.calibrated - a.calibrated) :=
    mul_pos (sub_pos.mpr h.near.lt)
      (sub_pos.mpr (hrises a h.near.left b h.near.right h.near.lt))
  have hbeside := hline.rising hslope
  have hbeside' := hline.exchange.rising (by linear_combination hslope)
  cases h with
  | between near left right =>
      exact .between (near.swap_rises hraw hrises) (hbeside.1 left) (hbeside'.2 right)
  | below near extends_ first lt =>
      refine .below (near.swap_rises hraw hrises) extends_ (fun p' hp' => ?_) (hbeside.2 lt)
      obtain ⟨p, hp, rfl⟩ := List.mem_map.mp hp'
      exact hrises.le hraw near.left hp (first p hp)
  | above near extends_ last lt =>
      refine .above (near.swap_rises hraw hrises) extends_ (fun p' hp' => ?_) (hbeside'.1 lt)
      obtain ⟨p, hp, rfl⟩ := List.mem_map.mp hp'
      exact hrises.le hraw hp near.right (last p hp)

/-- **On a falling curve they do as well**, what lies below the first point being led back above the
last one. -/
theorem Guides.swap_falls (hraw : (points.map (·.raw)).Nodup) (hfalls : Falls points)
    (h : Guides points extrapolate x a b) (hline : OnLine a b x y) :
    Guides (points.map CurvePoint.swap) extrapolate y b.swap a.swap := by
  have hslope : (b.raw - a.raw) * (b.calibrated - a.calibrated) < 0 :=
    mul_neg_of_pos_of_neg (sub_pos.mpr h.near.lt)
      (sub_neg.mpr (hfalls a h.near.left b h.near.right h.near.lt))
  have hbeside := hline.falling hslope
  have hbeside' := hline.exchange.falling (by linear_combination hslope)
  cases h with
  | between near left right =>
      exact .between (near.swap_falls hraw hfalls) (hbeside'.2 right) (hbeside.1 left)
  | below near extends_ first lt =>
      refine .above (near.swap_falls hraw hfalls) extends_ (fun p' hp' => ?_) (hbeside.2 lt)
      obtain ⟨p, hp, rfl⟩ := List.mem_map.mp hp'
      exact hfalls.le hraw near.left hp (first p hp)
  | above near extends_ last lt =>
      refine .below (near.swap_falls hraw hfalls) extends_ (fun p' hp' => ?_) (hbeside'.1 lt)
      obtain ⟨p, hp, rfl⟩ := List.mem_map.mp hp'
      exact hfalls.le hraw hp near.right (last p hp)

/-- **The interpolant of the exchanged points leads back.** A single point would not do: its curve
has one value everywhere. -/
theorem Interpolant.swap (hmono : StrictlyMonotone points) (htwo : 2 ≤ points.length)
    (h : Interpolant points extrapolate x (some y)) :
    Interpolant (points.map CurvePoint.swap) extrapolate y (some x) := by
  cases h with
  | @point p mem at_ =>
      subst at_
      exact .point (p := p.swap) (List.mem_map_of_mem mem) rfl
  | line guides on =>
      rcases hmono.direction with hrises | hfalls
      · exact .line (guides.swap_rises hmono.distinct hrises on) on.swap
      · exact .line (guides.swap_falls hmono.distinct hfalls on) on.swap.exchange
  | alone only _ =>
      rw [only, List.length_singleton] at htwo
      omega

/-- Within its range a curve has a value, and everywhere if it extrapolates. -/
theorem Interpolant.exists_of_inRange {v : Option ℚ} (h : Interpolant points extrapolate x v)
    (hx : extrapolate = true ∨ InRange points x) : ∃ y, v = some y := by
  cases v with
  | some y => exact ⟨y, rfl⟩
  | none =>
      obtain ⟨hends, hbeyond⟩ := h.of_none
      rcases hx with hextends | ⟨p, hp, q, hq, hpx, hxq⟩
      · simp [hends] at hextends
      · rcases hbeyond with hlt | hgt
        · exact absurd hpx (not_le.mpr (hlt p hp))
        · exact absurd hxq (not_le.mpr (hgt q hq))

/-- A first curve has a value at a place, and from there a second one leads back. -/
def LeadsBack (there back : Curve ℚ) (x : ℚ) : Prop :=
  ∃ y, there.value? x = some y ∧ back.value? y = some x

/-- There and back along a curve through points that rise or fall. -/
theorem leadsBack_swap (hmono : StrictlyMonotone points) (htwo : 2 ≤ points.length)
    (hx : extrapolate = true ∨ InRange points x) :
    LeadsBack (ofPoints points extrapolate) (ofPoints (points.map CurvePoint.swap) extrapolate)
      x := by
  have hne : points ≠ [] := List.ne_nil_of_length_pos (by omega)
  have hne' : points.map CurvePoint.swap ≠ [] := by simpa using hne
  have hvalue := (value?_ofPoints_eq_iff hne hmono.distinct (.refl _) extrapolate x _).mp rfl
  obtain ⟨y, hy⟩ := hvalue.exists_of_inRange hx
  rw [hy] at hvalue
  have hback := hvalue.swap hmono htwo
  exact ⟨y, hy, (value?_ofPoints_eq_iff hne' hmono.swap.distinct (.refl _) _ y _).mpr hback⟩

end

end Curve

/-! ## The type of a calibrated argument -/

/-- A calibrated argument has the curve of its parameter, read backwards. -/
theorem CommandParameter.decalibratedType_decalibrator {p : CommandParameter}
    {calibrations : Registry} {encoding : Encoding} {type : ArgumentType}
    (h : p.decalibratedType calibrations encoding = .ok type) :
    ∃ name curve, p.decalibration = some name ∧
      calibrations.decalibrations.find? name = some curve ∧
      type.decalibrator = some curve.decalibrator := by
  unfold decalibratedType at h
  cases hname : p.decalibration with
  | none => simp [hname] at h
  | some name =>
      cases hcurve : calibrations.decalibrations.find? name with
      | none => simp [hname, hcurve] at h
      | some curve =>
          simp only [hname, hcurve] at h
          split at h
          · cases h
            exact ⟨name, curve, rfl, hcurve, rfl⟩
          · cases h

/-- **A decalibration curve is inverted exactly.** The calibrator of a curve and the decalibrator
that a calibrated argument gets from it are the same construction over the points and over the
exchanged points. Read over the rationals, for two points or more that rise or fall, in any order,
each of the two leads back what the other one does, within the range of the points and, for a curve
that extrapolates, everywhere. -/
theorem Curve.decalibration_inverts :
    (∀ (p : CommandParameter) (calibrations : Registry) (encoding : Encoding)
        (type : ArgumentType), p.decalibratedType calibrations encoding = .ok type →
      ∃ name curve, p.decalibration = some name ∧
        calibrations.decalibrations.find? name = some curve ∧
        curve.calibrator = .spline (ofPoints curve.points curve.extrapolate) ∧
        type.decalibrator =
          some (.spline (ofPoints (curve.points.map CurvePoint.swap) curve.extrapolate))) ∧
    ∀ (points : List (CurvePoint ℚ)) (extrapolate : Bool), 2 ≤ points.length →
      StrictlyMonotone points →
      (∀ x, (extrapolate = true ∨ InRange points x) →
        LeadsBack (ofPoints points extrapolate)
          (ofPoints (points.map CurvePoint.swap) extrapolate) x) ∧
      ∀ y, (extrapolate = true ∨ InRange (points.map CurvePoint.swap) y) →
        LeadsBack (ofPoints (points.map CurvePoint.swap) extrapolate)
          (ofPoints points extrapolate) y := by
  constructor
  · intro p calibrations encoding type h
    obtain ⟨name, curve, hname, hcurve, htype⟩ := p.decalibratedType_decalibrator h
    exact ⟨name, curve, hname, hcurve, rfl, htype⟩
  · intro points extrapolate htwo hmono
    constructor
    · intro x hx
      exact leadsBack_swap hmono htwo hx
    · intro y hy
      have hback := leadsBack_swap hmono.swap (by rwa [List.length_map]) hy
      rwa [CurvePoint.map_swap_swap] at hback

/-- A curve that falls from 12 over 10 to 4, its points given out of order: on the way to its last
point it is undone by the curve through the exchanged points, and this is the curve that an argument
gets. -/
theorem Curve.decalibration_inverts_falling :
    (∃ type, CommandParameter.decalibratedType
        { location := ⟨"cpc", 1⟩, name := "ANGLE", description := none, ptc := 3, pfc := 4,
          unit := none, category := 'C', rangeSet := none, decalibration := some "FALL",
          aliasSet := none, interpretation := 'R', defaultValue := none, correlated := false,
          onBoardId := none }
        { decalibrations := ⟨[("FALL",
          { name := "FALL", description := none, engineeringFormat := 'R', rawFormat := 'U',
            radix := 'D', unit := none, extrapolate := false,
            points := [⟨2.0, 4.0⟩, ⟨0.0, 12.0⟩, ⟨1.0, 10.0⟩] })]⟩ }
        (.unsignedInteger 8) = .ok type ∧
      type.decalibrator =
        some (.spline (ofPoints [⟨4.0, 2.0⟩, ⟨12.0, 0.0⟩, ⟨10.0, 1.0⟩] false))) ∧
      LeadsBack (ofPoints [⟨2, 4⟩, ⟨0, 12⟩, ⟨1, 10⟩] false)
        (ofPoints [⟨4, 2⟩, ⟨12, 0⟩, ⟨10, 1⟩] false) (3 / 2) := by
  constructor
  · refine Exists.imp (fun type hok => ⟨hok, ?_⟩) ⟨_, rfl⟩
    obtain ⟨name, curve, hname, hcurve, -, htype⟩ := decalibration_inverts.1 _ _ _ _ hok
    cases hname
    cases hcurve
    exact htype
  · have hfalls : Falls [⟨2, 4⟩, ⟨0, 12⟩, ⟨1, 10⟩] := by norm_num [Falls]
    have hmono : StrictlyMonotone [⟨2, 4⟩, ⟨0, 12⟩, ⟨1, 10⟩] := ⟨by norm_num, .inr hfalls⟩
    have hrange : InRange [⟨2, 4⟩, ⟨0, 12⟩, ⟨1, 10⟩] (3 / 2) :=
      ⟨⟨1, 10⟩, by simp, ⟨2, 4⟩, by simp, by norm_num, by norm_num⟩
    exact (decalibration_inverts.2 _ false (by decide) hmono).1 _ (.inr hrange)

end MissionBase
