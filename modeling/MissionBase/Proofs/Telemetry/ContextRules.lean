import MissionBase.Proofs.Gathering
import MissionBase.Proofs.Leniency.Telemetry
import MissionBase.Proofs.Numeral
import MissionBase.Telemetry.Parameters

/-!
# Context rules

A record of context rules says which calibration a parameter uses while another one has a raw value.
On the way to a decoded value this passes through four forms: the record, the rule that the registry
keeps, the calibrator with its condition that a type has, in which the raw value is a text, and the
choice of a calibrator, for which the text is read again. What is chosen is what the rules say: the
calibration of the first rule whose parameter has the raw value of the rule.

- `loadTelemetry_rules`: the registry keeps the rules of every parameter by position.
- `integer?_rawEquals`: a number is read back from the condition that it was written into.
- `selectCalibrator?_contextCalibrators`: the choice among calibrators is the choice among rules.
-/

namespace MissionBase

open Run Leniency

/-! ## Numbers in conditions -/

namespace Text

/-- A text without blanks is not trimmed. -/
theorem trimChars_of_forall {cs : List Char} (h : ∀ c ∈ cs, isBlank c = false) :
    trimChars cs = cs := by
  have hkeep {ds : List Char} (hds : ∀ c ∈ ds, isBlank c = false) : ds.dropWhile isBlank = ds := by
    cases ds with
    | nil => rfl
    | cons d rest => rw [List.dropWhile_cons_of_neg (by simp [hds d List.mem_cons_self])]
  unfold trimChars dropTrailing
  rw [hkeep h, hkeep fun c hc => h c (List.mem_reverse.mp hc), List.reverse_reverse]

theorem isBlank_of_isDigit {c : Char} (h : c.isDigit = true) : isBlank c = false := by
  unfold Char.isDigit at h
  rw [Bool.and_eq_true, decide_eq_true_eq, decide_eq_true_eq] at h
  have hlow : 48 ≤ c.toNat := UInt32.le_iff_toNat_le.mp h.1
  have hhigh : c.toNat ≤ 57 := UInt32.le_iff_toNat_le.mp h.2
  unfold isBlank
  dsimp only
  rw [Bool.eq_false_iff]
  intro hblank
  simp only [Bool.or_eq_true, Bool.and_eq_true, decide_eq_true_eq, beq_iff_eq] at hblank
  omega

/-- The text of a number holds no blanks. -/
theorem isBlank_of_mem_toString {n : Int} {c : Char} (h : c ∈ (toString n).toList) :
    isBlank c = false := by
  have hdigits {m : Nat} (hc : c ∈ (Nat.repr m).toList) : isBlank c = false := by
    rw [Nat.toList_repr] at hc
    exact isBlank_of_isDigit (Nat.isDigit_of_mem_toDigits (b := 10) (by decide) (by decide) hc)
  cases n with
  | ofNat m => exact hdigits h
  | negSucc m =>
      have htext : (toString (Int.negSucc m)).toList = '-' :: (Nat.repr (m + 1)).toList := by
        show ("-" ++ (m + 1).repr).toList = _
        rw [String.toList_append]
        rfl
      rw [htext] at h
      rcases List.mem_cons.mp h with rfl | hc
      · decide
      · exact hdigits hc

end Text

/-- **A number is read back from the condition that it was written into.** -/
theorem Comparison.integer?_rawEquals (r : ParameterRef) {n : Int}
    (h : -9223372036854775808 ≤ n ∧ n ≤ 9223372036854775807) :
    (Comparison.rawEquals r (toString n)).integer? = some n := by
  unfold integer? rawEquals
  rw [Text.trimChars_of_forall fun c hc => Text.isBlank_of_mem_toString hc]
  exact Text.int64?_toString h

/-- An integer of a column has 64 bits. -/
theorem Row.int_eq_ok {row : Row} {col : Nat} {n : Int} (h : row.int col = .ok n) :
    -9223372036854775808 ≤ n ∧ n ≤ 9223372036854775807 := by
  obtain ⟨v, -, h⟩ := except_bind_eq_ok.mp h
  unfold Row.read at h
  cases hread : Text.int64? (Text.trimChars v.toList) with
  | none =>
      rw [hread] at h
      cases h
  | some m =>
      rw [hread] at h
      cases h
      exact Text.int64?_eq_some hread

/-! ## The rules of the registry -/

namespace Registry

variable {setting : Setting} {d : Draft Registry}

/-- The rules that records give to a parameter, by position; rules at the same position stand as
their records do. -/
def rulesOf (rows : List Row) (name : String) : List ContextRule :=
  Index.sortedItems (·.position) (rows.filterMap fun row => (contextOfRow row).toOption) name

/-- The raw value of a rule is a number of 64 bits. -/
theorem value_of_mem_rulesOf {rows : List Row} {name : String} {rule : ContextRule}
    (h : rule ∈ rulesOf rows name) :
    -9223372036854775808 ≤ rule.value ∧ rule.value ≤ 9223372036854775807 := by
  have hmem := (Index.sortByKey_perm _ _).mem_iff.mp h
  unfold Index.itemsOf at hmem
  obtain ⟨x, hx, rfl⟩ := List.mem_map.mp hmem
  obtain ⟨row, -, hrow⟩ := List.mem_filterMap.mp (List.mem_filter.mp hx).1
  obtain ⟨-, -, hrow⟩ := except_bind_eq_ok.mp (eq_ok_of_toOption hrow)
  obtain ⟨position, -, hrow⟩ := except_bind_eq_ok.mp hrow
  obtain ⟨reference, -, hrow⟩ := except_bind_eq_ok.mp hrow
  obtain ⟨value, hvalue, hrow⟩ := except_bind_eq_ok.mp hrow
  obtain ⟨select, -, hrow⟩ := except_bind_eq_ok.mp hrow
  obtain ⟨name, -, hrow⟩ := except_bind_eq_ok.mp hrow
  cases hrow
  exact Row.int_eq_ok hvalue

/-- A step that leaves the context rules alone. -/
def SameRules (d t : Draft Registry) : Prop := t.stage.contexts = d.stage.contexts

instance : Std.Refl SameRules := ⟨fun _ => rfl⟩

instance : IsTrans (Draft Registry) SameRules :=
  ⟨fun _ _ _ h h' => Eq.trans h' h⟩

theorem sameRules_scan {table : String} {change : Row → Registry → Except Error Registry}
    (h : ∀ row r r', change row r = .ok r' → r'.contexts = r.contexts) :
    Steps SameRules (Build.scan setting table (updating change)) := by
  refine steps_scan (fun _ _ => rfl) fun row d => ?_
  unfold updating
  refine Ends.bind (ends_stage (Ends.bind (ends_lift (fun r' hr' => ?_) rfl)))
  exact h row d.stage r' hr'

/-- The registry with the rule of a record. -/
def appendRule (row : Row) (r : Registry) : Except Error Registry := do
  let (parameter, rule) ← contextOfRow row
  return { r with contexts := r.contexts.append parameter rule }

theorem appendRule_ends (row : Row) (d : Draft Registry) :
    Ends (updating appendRule row) d
      (fun _ t => t.stage.contexts = d.stage.contexts.gather (contextOfRow row).toOption.toList)
      fun t => t.stage.contexts = d.stage.contexts.gather (contextOfRow row).toOption.toList := by
  unfold updating appendRule
  refine Ends.bind (ends_stage ?_)
  cases contextOfRow row with
  | error e => exact rfl
  | ok x => exact rfl

/-- What is read after the context rules leaves them alone. -/
theorem loadTelemetry_ends {rows : List Row} (hrows : Build.rows setting "cur" = .ok rows)
    (hnone : d.stage.contexts = {}) :
    Ends (loadTelemetry setting) d
      (fun _ t => t.stage.contexts = (({} : Index String (List ContextRule)).gather
        (rows.filterMap fun row => (contextOfRow row).toOption)).sortLists (·.position))
      fun _ => True := by
  unfold loadTelemetry
  have hscan := ends_scanGather Registry.contexts hrows appendRule_ends d
  refine Ends.bind (hscan.mono (fun _ t _ ht => ?_) fun _ h => h)
  have hsorted : (sortContexts t.stage).contexts = (({} : Index String (List ContextRule)).gather
      (rows.filterMap fun row => (contextOfRow row).toOption)).sortLists (·.position) := by
    unfold sortContexts
    rw [ht, hnone]
  refine Ends.bind (ends_changeStage ?_)
  rw [← hsorted]
  -- the tables of the other calibrations, one after the other
  have hothers {x : Build Registry Unit} (h : Steps SameRules x) (u : Draft Registry) :
      Ends x u (fun _ v => v.stage.contexts = u.stage.contexts) fun _ => True :=
    (h u).mono (fun _ _ _ hv => hv) fun _ _ => trivial
  refine hothers ((sameRules_scan fun row r r' h => ?_).bind fun _ =>
    (sameRules_scan fun row r r' h => ?_).bind fun _ =>
    (sameRules_scan fun row r r' h => ?_).bind fun _ =>
    (sameRules_scan fun row r r' h => ?_).bind fun _ =>
    (sameRules_scan fun row r r' h => ?_).bind fun _ =>
    (sameRules_scan fun row r r' h => ?_).bind fun _ => steps_pure _)
    { t with stage := sortContexts t.stage }
  all_goals
    obtain ⟨_, -, h⟩ := except_bind_eq_ok.mp h
    cases h
    rfl

/-- **The registry keeps the rules of every parameter by position**, and each parameter with rules
once. -/
theorem loadTelemetry_rules {rows : List Row} (hrows : Build.rows setting "cur" = .ok rows)
    (hnone : d.stage.contexts = {}) :
    Ends (loadTelemetry setting) d
      (fun _ t => (∀ name, t.stage.contextRules name = rulesOf rows name) ∧
        t.stage.contexts.keys.Nodup)
      fun _ => True := by
  refine (loadTelemetry_ends hrows hnone).mono (fun _ t _ ht => ?_) fun _ h => h
  refine ⟨fun name => ?_, ?_⟩
  · unfold contextRules
    rw [ht, Index.find?_gathered]
    show (if rulesOf rows name = [] then none else some (rulesOf rows name)).getD [] = _
    by_cases hempty : rulesOf rows name = []
    · rw [if_pos hempty, hempty]
      rfl
    · rw [if_neg hempty]
      rfl
  · rw [ht, Index.keys_sortLists]
    exact Index.nodup_keys_gather _ _ List.nodup_nil

theorem hasContext_iff {r : Registry} {name : String} :
    r.hasContext name = true ↔ r.contextRules name ≠ [] := by
  unfold hasContext
  rw [Bool.not_eq_true', Bool.eq_false_iff, ne_eq, List.isEmpty_iff]

/-- A parameter with rules is one of those that the registry knows. -/
theorem mem_keys_of_hasContext {r : Registry} {name : String} (h : r.hasContext name = true) :
    name ∈ r.contexts.keys := by
  rw [hasContext_iff] at h
  unfold contextRules at h
  cases hfind : r.contexts.find? name with
  | none =>
      rw [hfind] at h
      exact absurd rfl h
  | some rules =>
      exact List.mem_map.mpr ⟨(name, rules), Index.mem_of_find? hfind, rfl⟩

end Registry

/-! ## The choice of a calibrator -/

namespace Telemetry

variable {db : Database} {calibrations : Registry}

/-- A rule that can be carried out: its parameter is there, and it names a numeric calibration. -/
def Usable (db : Database) (calibrations : Registry) (rule : ContextRule) : Prop :=
  (db.parameters.find? rule.reference).isSome = true ∧
    (calibrations.numeric? rule.select).isSome = true

/-- A rule applies where its parameter has its raw value. -/
def applies (db : Database) (raw : ParameterRef → Option Int) (rule : ContextRule) : Bool :=
  (db.parameters.find? rule.reference).any fun r => raw r == some rule.value

theorem contextCalibrator_eq_ok {rule : ContextRule} {c : ContextCalibrator} :
    contextCalibrator db calibrations rule = .ok c ↔
      ∃ r k, db.parameters.find? rule.reference = some r ∧
        calibrations.numeric? rule.select = some k ∧
        c = ⟨.rawEquals r (toString rule.value), k⟩ := by
  unfold contextCalibrator
  cases db.parameters.find? rule.reference with
  | none => simp
  | some r =>
      cases calibrations.numeric? rule.select with
      | none => simp
      | some k => simp [eq_comm]

/-- Of the database, only the parameters matter. -/
theorem contextCalibrator_congr {db' : Database} {rule : ContextRule}
    (h : db'.parameters = db.parameters) :
    contextCalibrator db' calibrations rule = contextCalibrator db calibrations rule := by
  unfold contextCalibrator
  rw [h]

/-- Rules that can all be carried out give their calibrators. -/
theorem exists_contextCalibrators {rules : List ContextRule}
    (h : ∀ rule ∈ rules, Usable db calibrations rule) :
    ∃ cs, rules.mapM (contextCalibrator db calibrations) = .ok cs := by
  induction rules with
  | nil => exact ⟨[], rfl⟩
  | cons rule rest ih =>
      obtain ⟨hreference, hselect⟩ := h rule List.mem_cons_self
      obtain ⟨r, hr⟩ := Option.isSome_iff_exists.mp hreference
      obtain ⟨k, hk⟩ := Option.isSome_iff_exists.mp hselect
      obtain ⟨cs, hcs⟩ := ih fun rule' h' => h rule' (List.mem_cons_of_mem _ h')
      rw [List.mapM_cons, contextCalibrator_eq_ok.mpr ⟨r, k, hr, hk, rfl⟩, hcs]
      exact ⟨_, rfl⟩

/-- A rule that cannot be carried out is an error that ends nothing. -/
theorem contextCalibrators_error {rules : List ContextRule}
    (h : ¬ ∀ rule ∈ rules, Usable db calibrations rule) :
    ∃ e, rules.mapM (contextCalibrator db calibrations) = .error e ∧ e.isFatal = false := by
  cases hrun : rules.mapM (contextCalibrator db calibrations) with
  | ok cs =>
      refine absurd (fun rule hrule => ?_) h
      clear h
      induction rules generalizing cs with
      | nil => cases hrule
      | cons first rest ih =>
          rw [List.mapM_cons] at hrun
          obtain ⟨c, hc, hrun⟩ := except_bind_eq_ok.mp hrun
          obtain ⟨cs', hrest, -⟩ := except_bind_eq_ok.mp hrun
          rcases List.mem_cons.mp hrule with rfl | hmem
          · obtain ⟨r, k, hr, hk, -⟩ := contextCalibrator_eq_ok.mp hc
            exact ⟨by rw [hr]; rfl, by rw [hk]; rfl⟩
          · exact ih cs' hrest hmem
  | error e =>
      have hmild (rule : ContextRule) : Mild (contextCalibrator db calibrations rule) := by
        unfold contextCalibrator
        split
        · exact mild_error rfl
        · split
          · exact mild_error rfl
          · exact mild_ok
      exact ⟨e, rfl, mild_mapM hmild rules e hrun⟩

/-- **The choice among the calibrators of rules is the choice among the rules**: the calibration of
the first rule that applies. -/
theorem selectCalibrator?_contextCalibrators {rules : List ContextRule}
    {cs : List ContextCalibrator}
    (hvalues : ∀ rule ∈ rules,
      -9223372036854775808 ≤ rule.value ∧ rule.value ≤ 9223372036854775807)
    (hrun : rules.mapM (contextCalibrator db calibrations) = .ok cs)
    (raw : ParameterRef → Option Int) :
    selectCalibrator? cs raw =
      (rules.find? (applies db raw)).bind fun rule => calibrations.numeric? rule.select := by
  induction rules generalizing cs with
  | nil =>
      rw [List.mapM_nil] at hrun
      cases hrun
      rfl
  | cons rule rest ih =>
      rw [List.mapM_cons] at hrun
      obtain ⟨c, hc, hrun⟩ := except_bind_eq_ok.mp hrun
      obtain ⟨cs', hrest, hrun⟩ := except_bind_eq_ok.mp hrun
      cases hrun
      obtain ⟨r, k, hr, hk, rfl⟩ := contextCalibrator_eq_ok.mp hc
      have hafter := ih (fun rule' h' => hvalues rule' (List.mem_cons_of_mem _ h')) hrest
      have hread := Comparison.integer?_rawEquals r (hvalues rule List.mem_cons_self)
      have happlies : applies db raw rule = (raw r == some rule.value) := by
        unfold applies
        rw [hr]
        rfl
      unfold selectCalibrator? at hafter ⊢
      rw [List.find?_cons, List.find?_cons, happlies]
      dsimp only
      rw [hread]
      cases hraw : raw r == some rule.value with
      | true =>
          have hmatch : (raw (Comparison.rawEquals r (toString rule.value)).parameter ==
              some rule.value) = true := hraw
          simp only [hmatch]
          exact hk.symm
      | false =>
          have hmatch : (raw (Comparison.rawEquals r (toString rule.value)).parameter ==
              some rule.value) = false := hraw
          simp only [hmatch]
          exact hafter

end Telemetry

end MissionBase
