import MissionBase.Proofs.Rearrangement.Tables

/-!
# Calibrations of rearranged tables

Curves sort their points and context rules are sorted by position, so that calibrations loaded from
rearranged records differ in nothing that is asked of them but the places of rules.
-/

namespace MissionBase

open Run Leniency Rearrangement

/-- A rule without its place. -/
def ContextRule.unplaced (r : ContextRule) : ContextRule := { r with location := .nowhere }

theorem ContextRule.exists_of_unplaced {r r' : ContextRule} (h : r.unplaced = r'.unplaced) :
    ∃ l, r' = { r with location := l } := by
  cases r
  cases r'
  simp only [unplaced, mk.injEq, true_and] at h
  obtain ⟨rfl, rfl, rfl, rfl⟩ := h
  exact ⟨_, rfl⟩

/-! ## The tables -/

/-- The context rules, by position. -/
def contextTable : KeyedTable ContextRule where
  read row := do return some (← Registry.contextOfRow row)
  key := (·.position)
  view := ContextRule.unplaced
  keyOf := columnKey 1
  key_view _ := rfl
  keyed {row owner b} h := by
    obtain ⟨x, hx, hout⟩ := except_bind_eq_ok.mp h
    obtain ⟨-, -, hx⟩ := except_bind_eq_ok.mp hx
    obtain ⟨position, hposition, hx⟩ := except_bind_eq_ok.mp hx
    obtain ⟨reference, -, hx⟩ := except_bind_eq_ok.mp hx
    obtain ⟨value, -, hx⟩ := except_bind_eq_ok.mp hx
    obtain ⟨select, -, hx⟩ := except_bind_eq_ok.mp hx
    obtain ⟨name, hname, hx⟩ := except_bind_eq_ok.mp hx
    cases hx
    cases hout
    exact columnKey_eq hname hposition
  placeless row := by
    refine agree_bind (Q := fun x y => Prod.map id ContextRule.unplaced x =
      Prod.map id ContextRule.unplaced y) ?_ fun x y hxy => .ok (congrArg some hxy)
    refine (row.agree_require _).bind fun _ => (row.agree_get _ _ _).bind fun position => ?_
    refine (row.agree_text _).bind fun reference => (row.agree_get _ _ _).bind fun value => ?_
    exact (row.agree_text _).bind fun select => (row.agree_text _).bind fun name => .ok rfl
  mild row := (Registry.mild_contextOfRow row).bind fun _ => mild_ok

/-- The point that a record gives to a curve. -/
def pointOfRow (curves : Index String CurveDefinition) (kind definition : String)
    (point : Row → CurveDefinition → Except Error (CurvePoint Float)) (row : Row) :
    Except Error (Option (String × CurvePoint Float)) := do
  row.require [0, 1, 2]
  let name ← row.text 0
  let curve ← Registry.defined row curves name kind definition
  let p ← point row curve
  return some (name, p)

theorem agree_defined {α : Type} (row : Row) (index : Index String α)
    (name kind definition : String) :
    Agree Eq (Registry.defined row index name kind definition)
      (Registry.defined row.unplaced index name kind definition) := by
  unfold Registry.defined
  cases index.find? name with
  | some d => exact .ok rfl
  | none => exact .error rfl

/-- The points of curves that are defined, by the number that stands first in a record. -/
def pointTable (curves : Index String CurveDefinition) (kind definition : String)
    (format : CurveDefinition → Char) (side : CurvePoint Float → Float)
    (point : Row → CurveDefinition → Except Error (CurvePoint Float))
    (hkey : ∀ {row curve p}, point row curve = .ok p →
      row.rawValue 1 (format curve) curve.radix = .ok (side p))
    (hplace : ∀ row curve, Agree Eq (point row curve) (point row.unplaced curve))
    (hmild : ∀ row curve, Mild (point row curve)) : KeyedTable (CurvePoint Float) where
  read := pointOfRow curves kind definition point
  key p := Decimal.orderKey (side p)
  view := id
  keyOf := pointKey curves format
  key_view _ := rfl
  keyed {row owner p} h := by
    obtain ⟨-, -, h⟩ := except_bind_eq_ok.mp h
    obtain ⟨name, hname, h⟩ := except_bind_eq_ok.mp h
    obtain ⟨curve, hcurve, h⟩ := except_bind_eq_ok.mp h
    obtain ⟨p', hp, h⟩ := except_bind_eq_ok.mp h
    cases h
    refine pointKey_eq hname ?_ (hkey hp)
    unfold Registry.defined at hcurve
    cases hfind : curves.find? owner with
    | none => rw [hfind] at hcurve; cases hcurve
    | some c => rw [hfind] at hcurve; cases hcurve; rfl
  placeless row := by
    refine (row.agree_require _).bind fun _ => (row.agree_text _).bind fun name => ?_
    refine (agree_defined row curves _ _ _).bind fun curve => ?_
    exact (hplace row curve).bind fun _ => .ok rfl
  mild row := (row.mild_require _).bind fun _ => (row.mild_text _).bind fun _ =>
    (Registry.mild_defined row curves _ _ _).bind fun curve => (hmild row curve).bind fun _ =>
      mild_ok

/-- The points of calibrations, by raw value. -/
def calibrationTable (curves : Index String CurveDefinition) : KeyedTable (CurvePoint Float) :=
  pointTable curves "CAP" "CAF" (·.rawFormat) (·.raw) Registry.calibrationPoint
    (fun h => by
      obtain ⟨raw, hraw, h⟩ := except_bind_eq_ok.mp h
      obtain ⟨calibrated, -, h⟩ := except_bind_eq_ok.mp h
      cases h
      exact hraw)
    (fun row _ => (row.agree_rawValue _ _ _).bind fun _ => (row.agree_rawValue _ _ _).bind fun _ =>
      .ok rfl)
    Registry.mild_calibrationPoint

/-- The points of decalibrations, by engineering value. -/
def decalibrationTable (curves : Index String CurveDefinition) : KeyedTable (CurvePoint Float) :=
  pointTable curves "CCS" "CCA" (·.engineeringFormat) (·.calibrated) Registry.decalibrationPoint
    (fun h => by
      obtain ⟨raw, -, h⟩ := except_bind_eq_ok.mp h
      obtain ⟨calibrated, hcalibrated, h⟩ := except_bind_eq_ok.mp h
      cases h
      exact hcalibrated)
    (fun row _ => (row.agree_rawValue _ _ _).bind fun _ => (row.agree_rawValue _ _ _).bind fun _ =>
      .ok rfl)
    Registry.mild_decalibrationPoint

/-! ## Curves -/

namespace CurveDefinition

/-- A curve without its points. -/
def bare (c : CurveDefinition) : CurveDefinition := { c with points := [] }

/-- A curve with its points sorted by one of their numbers. -/
def sortedBy (side : CurvePoint Float → Float) (c : CurveDefinition) : CurveDefinition :=
  { c with points := Index.sortByKey (fun p => Decimal.orderKey (side p)) c.points }

/-- The decalibrator goes through the swapped points, which are sorted by engineering value. -/
theorem decalibrator_eq (c : CurveDefinition) :
    c.decalibrator =
      .spline ⟨(c.sortedBy (·.calibrated)).points.map CurvePoint.swap, c.extrapolate⟩ := by
  let rawKey (p : CurvePoint Float) : Int := Decimal.orderKey p.raw
  have hswap (p : CurvePoint Float) : rawKey p.swap = Decimal.orderKey p.calibrated := rfl
  have hsort := Index.map_sortByKey hswap c.points
  exact congrArg (fun points => Calibrator.spline ⟨points, c.extrapolate⟩) hsort.symm

end CurveDefinition

/-- The curves with a point added to the one of a name, if there is one. -/
def withPoint (curves : Index String CurveDefinition) (x : String × CurvePoint Float) :
    Index String CurveDefinition :=
  match curves.find? x.1 with
  | some curve => curves.set x.1 { curve with points := curve.points ++ [x.2] }
  | none => curves

theorem find?_withPoint (curves : Index String CurveDefinition) (x : String × CurvePoint Float)
    (name : String) :
    (withPoint curves x).find? name = (curves.find? name).map fun c =>
      { c with points := c.points ++ if x.1 = name then [x.2] else [] } := by
  unfold withPoint
  by_cases hname : x.1 = name
  · subst hname
    cases hfind : curves.find? x.1 with
    | none => simp [hfind]
    | some c => simp
  · cases hfind : curves.find? x.1 with
    | none => simp [hname]
    | some c => simp [Index.find?_set_of_ne _ (Ne.symm hname), hname]

/-- Every curve has the points that were given to it, in their order. -/
theorem find?_foldl_withPoint (items : List (String × CurvePoint Float))
    (curves : Index String CurveDefinition) (name : String) :
    (items.foldl withPoint curves).find? name = (curves.find? name).map fun c =>
      { c with points := c.points ++ Index.itemsOf name items } := by
  induction items generalizing curves with
  | nil => simp [Index.itemsOf]
  | cons x rest ih =>
      rw [List.foldl_cons, ih, find?_withPoint, Option.map_map, Index.itemsOf_cons]
      simp [Function.comp_def]

/-- Two indexes with the same curves, once the points of each are sorted. -/
def CurvesAlike (side : CurvePoint Float → Float) (curves curves' : Index String CurveDefinition) :
    Prop :=
  ∀ name, (curves.find? name).map (·.sortedBy side) = (curves'.find? name).map (·.sortedBy side)

/-- Points that are rearranged make curves that are alike. -/
theorem curvesAlike_foldl {side : CurvePoint Float → Float}
    {items items' : List (String × CurvePoint Float)}
    (h : Rearranged (fun x => some (x.1, Decimal.orderKey (side x.2)))
      (items.map (Prod.map id id)) (items'.map (Prod.map id id)))
    (curves : Index String CurveDefinition) :
    CurvesAlike side (items.foldl withPoint curves) (items'.foldl withPoint curves) := by
  rw [Prod.map_id, List.map_id, List.map_id] at h
  intro name
  rw [find?_foldl_withPoint, find?_foldl_withPoint, Option.map_map, Option.map_map]
  congr 1
  funext c
  have hsort : Index.sortByKey (fun p => Decimal.orderKey (side p))
      (c.points ++ Index.itemsOf name items) =
      Index.sortByKey (fun p => Decimal.orderKey (side p))
        (c.points ++ Index.itemsOf name items') := by
    refine Index.sortByKey_eq_of_filter fun k => ?_
    rw [List.filter_append, List.filter_append]
    exact congrArg _ (Index.filter_itemsOf h name k)
  exact congrArg (fun points => { c with points := points }) hsort

/-- Curves without their points: those that are defined. -/
def Defines (curves : Index String CurveDefinition) (current : Index String CurveDefinition) :
    Prop :=
  ∀ name, (current.find? name).map (·.bare) = (curves.find? name).map (·.bare)

theorem Defines.withPoint {curves current : Index String CurveDefinition}
    (h : Defines curves current) (x : String × CurvePoint Float) :
    Defines curves (withPoint current x) := by
  intro name
  rw [find?_withPoint, Option.map_map, ← h name]
  rfl

/-- A point goes to the curves that are there as it goes to those that are defined. -/
theorem addPoint_eq {curves current : Index String CurveDefinition} (h : Defines curves current)
    {point : Row → CurveDefinition → Except Error (CurvePoint Float)}
    (hpoint : ∀ row c, point row c.bare = point row c) (kind definition : String) (row : Row) :
    Registry.addPoint row current kind definition point =
      (pointOfRow curves kind definition point row).map fun x =>
        x.toList.foldl withPoint current := by
  unfold Registry.addPoint pointOfRow
  cases row.require [0, 1, 2] with
  | error e => rfl
  | ok _ =>
      cases row.text 0 with
      | error e => rfl
      | ok name =>
          have hname := h name
          show (Registry.defined row current name kind definition >>= _) =
            Except.map _ (Registry.defined row curves name kind definition >>= _)
          unfold Registry.defined
          cases hcurrent : current.find? name with
          | none =>
              rw [hcurrent] at hname
              rw [Option.map_eq_none_iff.mp hname.symm]
              rfl
          | some c =>
              rw [hcurrent] at hname
              obtain ⟨c', hc', hbare⟩ := Option.map_eq_some_iff.mp hname.symm
              rw [hc']
              have hsame : point row c' = point row c := by
                rw [← hpoint row c', hbare, hpoint row c]
              show (point row c >>= _) = Except.map _ (point row c' >>= _)
              rw [hsame]
              cases point row c with
              | error e => rfl
              | ok p =>
                  show Except.ok (current.set name _) = Except.ok (withPoint current (name, p))
                  unfold withPoint
                  rw [hcurrent]

/-! ## Registries -/

/-- Two indexes with the same rules of every parameter, but for their places; the parameters may
come in another order. -/
def RulesAlike (contexts contexts' : Index String (List ContextRule)) : Prop :=
  contexts.keys.Perm contexts'.keys ∧
    ∀ parameter, (contexts.find? parameter).map (List.map ContextRule.unplaced) =
      (contexts'.find? parameter).map (List.map ContextRule.unplaced)

namespace Registry

/-- Two registries that differ in the order of points, in the places of rules and in the order of
the parameters that have rules. -/
def Alike (r r' : Registry) : Prop :=
  ∃ curves contexts decalibrations, CurvesAlike (·.raw) r.curves curves ∧
    RulesAlike r.contexts contexts ∧ CurvesAlike (·.calibrated) r.decalibrations decalibrations ∧
    r' = { r with curves := curves, contexts := contexts, decalibrations := decalibrations }

theorem Alike.refl (r : Registry) : r.Alike r :=
  ⟨_, _, _, fun _ => rfl, ⟨.refl _, fun _ => rfl⟩, fun _ => rfl, rfl⟩

namespace Alike

variable {r r' : Registry}

theorem map_contextRules (h : r.Alike r') (parameter : String) :
    (r.contextRules parameter).map ContextRule.unplaced =
      (r'.contextRules parameter).map ContextRule.unplaced := by
  obtain ⟨curves, contexts, decalibrations, -, ⟨-, hrules⟩, -, rfl⟩ := h
  have hget (x : Option (List ContextRule)) : (x.getD []).map ContextRule.unplaced =
      (x.map (List.map ContextRule.unplaced)).getD [] := by
    cases x <;> rfl
  unfold contextRules
  rw [hget, hget, hrules parameter]

theorem hasContext (h : r.Alike r') (parameter : String) :
    r'.hasContext parameter = r.hasContext parameter := by
  have hempty := congrArg List.isEmpty (h.map_contextRules parameter)
  rw [List.isEmpty_map, List.isEmpty_map] at hempty
  unfold Registry.hasContext
  rw [hempty]

/-- The calibration of the first rule is the same. -/
theorem select (h : r.Alike r') (parameter : String) :
    (r'.contextRules parameter).head?.map ContextRule.select =
      (r.contextRules parameter).head?.map ContextRule.select := by
  have hhead (l : List ContextRule) : l.head?.map ContextRule.select =
      (l.map ContextRule.unplaced).head?.map ContextRule.select := by
    rw [List.head?_map, Option.map_map]
    rfl
  rw [hhead (r'.contextRules parameter), hhead (r.contextRules parameter), h.map_contextRules]

theorem engineeringFormat? (h : r.Alike r') : r'.engineeringFormat? = r.engineeringFormat? := by
  obtain ⟨curves, contexts, decalibrations, hcurves, -, -, rfl⟩ := h
  funext name
  have hformat := congrArg (Option.map CurveDefinition.engineeringFormat) (hcurves name)
  rw [Option.map_map, Option.map_map] at hformat
  exact hformat.symm

theorem numeric? (h : r.Alike r') : r'.numeric? = r.numeric? := by
  obtain ⟨curves, contexts, decalibrations, hcurves, -, -, rfl⟩ := h
  funext name
  have hcalibrator : (curves.find? name).map CurveDefinition.calibrator =
      (r.curves.find? name).map CurveDefinition.calibrator := by
    have hname := congrArg (Option.map fun c : CurveDefinition =>
      Calibrator.spline ⟨c.points, c.extrapolate⟩) (hcurves name)
    rw [Option.map_map, Option.map_map] at hname
    exact hname.symm
  unfold Registry.numeric? resolve?
  dsimp only
  cases hfind : r.curves.find? name with
  | none =>
      rw [hfind] at hcalibrator
      rw [Option.map_eq_none_iff.mp hcalibrator]
  | some c =>
      rw [hfind] at hcalibrator
      obtain ⟨c', hc', heq⟩ := Option.map_eq_some_iff.mp hcalibrator
      rw [hc']
      dsimp only
      rw [heq]

theorem texts (h : r.Alike r') : r'.texts = r.texts := by
  obtain ⟨curves, contexts, decalibrations, -, -, -, rfl⟩ := h
  rfl

/-- The parameters with rules come in the same order once they are sorted. -/
theorem names (h : r.Alike r') :
    r'.contexts.keys.mergeSort (fun a b => decide (a ≤ b)) =
      r.contexts.keys.mergeSort fun a b => decide (a ≤ b) := by
  obtain ⟨curves, contexts, decalibrations, -, ⟨hkeys, -⟩, -, rfl⟩ := h
  exact (Index.mergeSort_eq_of_perm hkeys).symm

/-- A decalibration has the same format and the same curve. -/
theorem decalibration (h : r.Alike r') (name : String) :
    (r'.decalibrations.find? name).map (fun c => (c.engineeringFormat, c.decalibrator)) =
      (r.decalibrations.find? name).map fun c => (c.engineeringFormat, c.decalibrator) := by
  obtain ⟨curves, contexts, decalibrations, -, -, hcurves, rfl⟩ := h
  have hname := congrArg (Option.map fun c : CurveDefinition => (c.engineeringFormat,
    Calibrator.spline ⟨c.points.map CurvePoint.swap, c.extrapolate⟩)) (hcurves name)
  rw [Option.map_map, Option.map_map] at hname
  simp only [CurveDefinition.decalibrator_eq]
  exact hname.symm

end Alike

/-! ## Loading -/

theorem similar_updating {R : Registry → Registry → Prop}
    {change change' : Row → Registry → Except Error Registry} {row : Row}
    (h : ∀ r r', R r r' → Agree R (change row r) (change' row r')) :
    Similar R (updating change row) (updating change' row) := by
  refine paired_stage fun r r' hr => ?_
  exact similar_liftBind (h r r' hr) fun _ _ hab => paired_changeStage fun _ _ _ => hab

/-- A handler that changes the registry puts the item of its record in. -/
theorem updating_eq {β : Type} {t : KeyedTable β} {put : Registry → String × β → Registry}
    {change : Row → Registry → Except Error Registry} {row : Row} {d : Draft Registry}
    (h : change row d.stage = (t.read row).map fun x => x.toList.foldl put d.stage) :
    updating change row d = t.outcome put row d := by
  show (liftM (change row d.stage) >>= fun r => Build.changeStage fun _ => r :
    Build Registry Unit) d = _
  rw [h]
  unfold KeyedTable.outcome
  cases t.read row with
  | error e => rfl
  | ok x =>
      cases x with
      | none => rfl
      | some item => rfl

section

variable {setting : Setting} {files : Files}

/-- A table of curves that is kept defines the same curves in both runs. -/
theorem carries_defining {table : String}
    {P : Index String CurveDefinition → Registry → Registry → Prop}
    {f : Registry → CurveDefinition → Registry}
    (hkept : setting.config.records files table = setting.config.records setting.files table)
    (hf : ∀ curves curve r r', P curves r r' →
      P (curves.set curve.name curve) (f r curve) (f r' curve)) :
    Carries (P {}) (P (setting.config.curves setting.files table))
      (Build.scan setting table <| updating fun row r => do return f r (← curveOfRow row))
      (Build.scan { setting with files := files } table <|
        updating fun row r => do return f r (← curveOfRow row)) := by
  unfold Config.curves
  cases hrows : setting.config.records setting.files table with
  | error e =>
      rw [hrows] at hkept
      exact carries_scanFailed hrows hkept
  | ok rows =>
      rw [hrows] at hkept
      refine carries_scanFold hrows hkept (fun curves row => ?_) ({} : Index String CurveDefinition)
      refine paired_stage fun r r' hr => ?_
      beta_reduce
      cases curveOfRow row with
      | ok curve => exact paired_changeStage fun _ _ _ => hf curves curve r r' hr
      | error e => exact blind_throw e

/-- Context rules that are alike, before any curve has a point. -/
def Started (curves : Index String CurveDefinition) (r r' : Registry) : Prop :=
  ∃ contexts contexts', RulesAlike contexts contexts' ∧
    r = { curves := curves, contexts := contexts } ∧
      r' = { curves := curves, contexts := contexts' }

/-- Context rules that have been gathered from rearranged records, and nothing else. -/
def Gathered (r r' : Registry) : Prop :=
  ∃ items items', contextTable.ItemsRearranged items items' ∧
    r = { contexts := Index.gather {} items } ∧ r' = { contexts := Index.gather {} items' }

/-- Gathered context rules are alike once they are sorted. -/
theorem Gathered.started {r r' : Registry} (h : Gathered r r') :
    Started {} (sortContexts r) (sortContexts r') := by
  obtain ⟨items, items', hitems, rfl, rfl⟩ := h
  refine ⟨_, _, ⟨?_, fun parameter => ?_⟩, rfl, rfl⟩
  · rw [Index.keys_sortLists, Index.keys_sortLists]
    exact Index.perm_keys_gather hitems.perm
  · exact Index.find?_sortLists_gather contextTable.key_view hitems parameter rfl

theorem carries_rules (hlenient : setting.config.strict = false)
    (h : setting.config.Rearranges setting.files files) :
    Carries (fun r r' => r = {} ∧ r' = {}) Gathered
      (Build.scan setting "cur" <| updating fun row r => do
        let (parameter, rule) ← contextOfRow row
        return { r with contexts := r.contexts.append parameter rule })
      (Build.scan { setting with files := files } "cur" <| updating fun row r => do
        let (parameter, rule) ← contextOfRow row
        return { r with contexts := r.contexts.append parameter rule }) := by
  have hhandle (row : Row) (d : Draft Registry) (_ : True) :
      updating (fun row r => do
        let (parameter, rule) ← contextOfRow row
        return { r with contexts := r.contexts.append parameter rule }) row d =
        contextTable.outcome
          (fun r x => { r with contexts := r.contexts.append x.1 x.2 }) row d := by
    refine updating_eq ?_
    unfold contextTable
    dsimp only
    cases contextOfRow row with
    | ok x => rfl
    | error e => rfl
  refine contextTable.carries_scan (P := fun _ => True) hlenient h.contexts hhandle hhandle
    (fun _ _ _ => trivial) (fun _ _ _ => ⟨trivial, trivial⟩) ?_
  rintro _ _ items items' ⟨rfl, rfl⟩ hitems
  have hput (l : List (String × ContextRule)) : l.foldl (fun r x =>
      { r with contexts := r.contexts.append x.1 x.2 }) ({} : Registry) =
      { contexts := Index.gather {} l } :=
    List.foldl_hom (fun contexts => ({ contexts := contexts } : Registry)) fun _ _ => rfl
  exact ⟨items, items', hitems, hput items, hput items'⟩

/-- Rearranged points make curves that are alike. -/
theorem carries_calibrationPoints (hlenient : setting.config.strict = false)
    (h : setting.config.Rearranges setting.files files) :
    Carries (Started (setting.config.curves setting.files "caf")) Alike
      (Build.scan setting "cap" <| updating fun row r => do
        return { r with curves := ← addPoint row r.curves "CAP" "CAF" calibrationPoint })
      (Build.scan { setting with files := files } "cap" <| updating fun row r => do
        return { r with curves := ← addPoint row r.curves "CAP" "CAF" calibrationPoint }) := by
  generalize hcurves : setting.config.curves setting.files "caf" = curves
  have hhandle (row : Row) (d : Draft Registry) (hd : Defines curves d.stage.curves) :
      updating (fun row r => do
        return { r with curves := ← addPoint row r.curves "CAP" "CAF" calibrationPoint }) row d =
        (calibrationTable curves).outcome
          (fun r x => { r with curves := withPoint r.curves x }) row d := by
    refine updating_eq ?_
    show (addPoint row d.stage.curves "CAP" "CAF" calibrationPoint >>= _) =
      Except.map _ (pointOfRow curves "CAP" "CAF" calibrationPoint row)
    rw [addPoint_eq hd fun _ _ => rfl]
    cases pointOfRow curves "CAP" "CAF" calibrationPoint row with
    | error e => rfl
    | ok x => cases x <;> rfl
  refine (calibrationTable curves).carries_scan (P := fun r => Defines curves r.curves) hlenient
    (hcurves ▸ h.calibrations) hhandle hhandle (fun r x hr => hr.withPoint x) ?_ ?_
  · rintro _ _ ⟨contexts, contexts', -, rfl, rfl⟩
    exact ⟨fun _ => rfl, fun _ => rfl⟩
  · rintro _ _ items items' ⟨contexts, contexts', hcontexts, rfl, rfl⟩ hitems
    have hput (contexts : Index String (List ContextRule))
        (l : List (String × CurvePoint Float)) : l.foldl (fun r x =>
          { r with curves := withPoint r.curves x }) { curves := curves, contexts := contexts } =
          ({ curves := l.foldl withPoint curves, contexts := contexts } : Registry) :=
      List.foldl_hom (fun curves => ({ curves := curves, contexts := contexts } : Registry))
        fun _ _ => rfl
    rw [hput, hput]
    have halike : CurvesAlike (·.raw) (items.foldl withPoint curves)
        (items'.foldl withPoint curves) := curvesAlike_foldl hitems curves
    exact ⟨_, contexts', _, halike, hcontexts, fun _ => rfl, rfl⟩

/-- A table that is kept changes registries alike if every one of its records does. -/
theorem Alike.carries_scan {table : String} {change : Row → Registry → Except Error Registry}
    (h : setting.config.Rearranges setting.files files) (htable : table ∈ requiredTables)
    (hkept : table ∉ sortedTables)
    (hchange : ∀ row r r', Alike r r' → Agree Alike (change row r) (change row r')) :
    Carries Alike Alike (Build.scan setting table (updating change))
      (Build.scan { setting with files := files } table (updating change)) :=
  (similar_scanKept h htable hkept fun row => similar_updating (hchange row)).carries

/-- **Rearranged tables load calibrations that are alike.** -/
theorem carries_loadTelemetry (hlenient : setting.config.strict = false)
    (h : setting.config.Rearranges setting.files files) :
    Carries (fun r r' => r = {} ∧ r' = {}) Alike (loadTelemetry setting)
      (loadTelemetry { setting with files := files }) := by
  have hdefine := carries_defining (P := Started) (f := fun r curve =>
      { r with curves := r.curves.set curve.name curve })
      (h.kept "caf" (by decide) (by decide)) <| by
    rintro curves curve _ _ ⟨contexts, contexts', hcontexts, rfl, rfl⟩
    exact ⟨contexts, contexts', hcontexts, rfl, rfl⟩
  refine (carries_rules hlenient h).bind fun _ => ?_
  refine Paired.bind (paired_changeStage fun _ _ hr => hr.started) fun _ => ?_
  refine hdefine.bind fun _ => (carries_calibrationPoints hlenient h).bind fun _ => ?_
  refine Paired.bind (Alike.carries_scan h (by decide) (by decide) ?_) fun _ => ?_
  · rintro row r _ ⟨curves, contexts, decalibrations, h₁, h₂, h₃, rfl⟩
    exact (agree_refl (textOfRow row)).bind fun _ =>
      .ok ⟨curves, contexts, decalibrations, h₁, h₂, h₃, rfl⟩
  refine Paired.bind (Alike.carries_scan h (by decide) (by decide) ?_) fun _ => ?_
  · rintro row r _ ⟨curves, contexts, decalibrations, h₁, h₂, h₃, rfl⟩
    exact (agree_refl (addLabel row r.texts)).bind fun _ =>
      .ok ⟨curves, contexts, decalibrations, h₁, h₂, h₃, rfl⟩
  refine Paired.bind (Alike.carries_scan h (by decide) (by decide) ?_) fun _ => ?_
  · rintro row r _ ⟨curves, contexts, decalibrations, h₁, h₂, h₃, rfl⟩
    exact (agree_refl (polynomialOfRow row)).bind fun ⟨_, _⟩ =>
      .ok ⟨curves, contexts, decalibrations, h₁, h₂, h₃, rfl⟩
  refine Paired.bind (Alike.carries_scan h (by decide) (by decide) ?_) fun _ =>
    (blind_pure _).carries
  · rintro row r _ ⟨curves, contexts, decalibrations, h₁, h₂, h₃, rfl⟩
    exact (agree_refl (logarithmOfRow row)).bind fun ⟨_, _⟩ =>
      .ok ⟨curves, contexts, decalibrations, h₁, h₂, h₃, rfl⟩

/-- Decalibrations that are defined, before any of them has a point. -/
def Announced (curves : Index String CurveDefinition) (r r' : Registry) : Prop :=
  r = { decalibrations := curves } ∧ r' = { decalibrations := curves }

/-- Rearranged points make decalibrations that are alike. -/
theorem carries_decalibrationPoints (hlenient : setting.config.strict = false)
    (h : setting.config.Rearranges setting.files files) :
    Carries (Announced (setting.config.curves setting.files "cca")) Alike
      (Build.scan setting "ccs" <| updating fun row r => do
        return { r with
          decalibrations := ← addPoint row r.decalibrations "CCS" "CCA" decalibrationPoint })
      (Build.scan { setting with files := files } "ccs" <| updating fun row r => do
        return { r with
          decalibrations := ← addPoint row r.decalibrations "CCS" "CCA" decalibrationPoint }) := by
  generalize hcurves : setting.config.curves setting.files "cca" = curves
  have hhandle (row : Row) (d : Draft Registry) (hd : Defines curves d.stage.decalibrations) :
      updating (fun row r => do
        return { r with
          decalibrations := ← addPoint row r.decalibrations "CCS" "CCA" decalibrationPoint }) row
        d = (decalibrationTable curves).outcome
          (fun r x => { r with decalibrations := withPoint r.decalibrations x }) row d := by
    refine updating_eq ?_
    show (addPoint row d.stage.decalibrations "CCS" "CCA" decalibrationPoint >>= _) =
      Except.map _ (pointOfRow curves "CCS" "CCA" decalibrationPoint row)
    rw [addPoint_eq hd fun _ _ => rfl]
    cases pointOfRow curves "CCS" "CCA" decalibrationPoint row with
    | error e => rfl
    | ok x => cases x <;> rfl
  refine (decalibrationTable curves).carries_scan (P := fun r => Defines curves r.decalibrations)
    hlenient (hcurves ▸ h.decalibrations) hhandle hhandle (fun r x hr => hr.withPoint x) ?_ ?_
  · rintro _ _ ⟨rfl, rfl⟩
    exact ⟨fun _ => rfl, fun _ => rfl⟩
  · rintro _ _ items items' ⟨rfl, rfl⟩ hitems
    have hput (l : List (String × CurvePoint Float)) : l.foldl (fun r x =>
        { r with decalibrations := withPoint r.decalibrations x }) { decalibrations := curves } =
        ({ decalibrations := l.foldl withPoint curves } : Registry) :=
      List.foldl_hom (fun curves => ({ decalibrations := curves } : Registry)) fun _ _ => rfl
    rw [hput, hput]
    have halike : CurvesAlike (·.calibrated) (items.foldl withPoint curves)
        (items'.foldl withPoint curves) := curvesAlike_foldl hitems curves
    exact ⟨_, _, _, fun _ => rfl, ⟨.refl _, fun _ => rfl⟩, halike, rfl⟩

/-- **Rearranged tables load decalibrations that are alike.** -/
theorem carries_loadCommanding (hlenient : setting.config.strict = false)
    (h : setting.config.Rearranges setting.files files) :
    Carries (fun r r' => r = {} ∧ r' = {}) Alike (loadCommanding setting)
      (loadCommanding { setting with files := files }) := by
  have hdefine := carries_defining (P := Announced) (f := fun r curve =>
      { r with decalibrations := r.decalibrations.set curve.name curve })
      (h.kept "cca" (by decide) (by decide)) <| by
    rintro curves curve _ _ ⟨rfl, rfl⟩
    exact ⟨rfl, rfl⟩
  refine hdefine.bind fun _ => (carries_decalibrationPoints hlenient h).bind fun _ => ?_
  refine Paired.bind (Alike.carries_scan h (by decide) (by decide) ?_) fun _ => ?_
  · rintro row r _ ⟨curves, contexts, decalibrations, h₁, h₂, h₃, rfl⟩
    exact (agree_refl (aliasesOfRow row)).bind fun _ =>
      .ok ⟨curves, contexts, decalibrations, h₁, h₂, h₃, rfl⟩
  refine Paired.bind (Alike.carries_scan h (by decide) (by decide) ?_) fun _ => ?_
  · rintro row r _ ⟨curves, contexts, decalibrations, h₁, h₂, h₃, rfl⟩
    exact (agree_refl (addAliasLabel row r.aliases)).bind fun _ =>
      .ok ⟨curves, contexts, decalibrations, h₁, h₂, h₃, rfl⟩
  refine Paired.bind (Alike.carries_scan h (by decide) (by decide) ?_) fun _ => ?_
  · rintro row r _ ⟨curves, contexts, decalibrations, h₁, h₂, h₃, rfl⟩
    exact (agree_refl (rangeSetOfRow row)).bind fun _ =>
      .ok ⟨curves, contexts, decalibrations, h₁, h₂, h₃, rfl⟩
  refine Paired.bind (Alike.carries_scan h (by decide) (by decide) ?_) fun _ =>
    (blind_pure _).carries
  · rintro row r _ ⟨curves, contexts, decalibrations, h₁, h₂, h₃, rfl⟩
    exact (agree_refl (addRange row r.rangeSets)).bind fun _ =>
      .ok ⟨curves, contexts, decalibrations, h₁, h₂, h₃, rfl⟩

end

end Registry

end MissionBase
