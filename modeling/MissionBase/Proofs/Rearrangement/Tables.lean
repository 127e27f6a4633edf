import MissionBase.Proofs.Leniency.Commanding
import MissionBase.Proofs.Rearrangement.Basic
import MissionBase.Proofs.Rearrangement.Sorting

/-!
# Tables that are sorted by a key

Five tables are gathered by an owner and sorted by a key before they are used: the context rules,
the points of calibrations and of decalibrations, the limit checks and the elements of commands.
`KeyedTable` is what they have in common. A record gives an item to an owner, or is rejected, and
what it gives depends on its place only in the place that the item remembers. So two scans over
rearranged records gather items that are rearranged, and reject the same records.
-/

namespace MissionBase

open Run Leniency Rearrangement

/-! ## Records at two places -/

namespace Row

variable {α : Type} (row : Row)

theorem agree_require (cols : List Nat) :
    Agree Eq (row.require cols) (row.unplaced.require cols) := by
  have hfields : row.unplaced.fields = row.fields := rfl
  unfold require
  rw [hfields]
  cases cols.find? fun col => row.fields.length ≤ col with
  | some col => exact .error rfl
  | none => exact .ok rfl

theorem agree_text (col : Nat) : Agree Eq (row.text col) (row.unplaced.text col) := by
  have hfields : row.unplaced.fields = row.fields := rfl
  unfold text
  rw [hfields]
  cases row.fields[col]? with
  | some v => exact .ok rfl
  | none => exact .error rfl

theorem agree_read (parse : List Char → Option α) (expected : ColumnKind) (col : Nat)
    (value : String) :
    Agree Eq (row.read parse expected col value) (row.unplaced.read parse expected col value) := by
  unfold read
  cases parse (Text.trimChars value.toList) with
  | some x => exact .ok rfl
  | none => exact .error rfl

theorem agree_get (parse : List Char → Option α) (expected : ColumnKind) (col : Nat) :
    Agree Eq (row.get parse expected col) (row.unplaced.get parse expected col) :=
  (row.agree_text col).bind fun _ => row.agree_read _ _ _ _

theorem agree_getD (parse : List Char → Option α) (expected : ColumnKind) (col : Nat)
    (default : α) :
    Agree Eq (row.getD parse expected col default)
      (row.unplaced.getD parse expected col default) := by
  have htext : row.unplaced.text? col = row.text? col := rfl
  unfold getD
  rw [htext]
  cases row.text? col with
  | some v => exact row.agree_read _ _ _ _
  | none => exact .ok rfl

theorem agree_rawValue (col : Nat) (format radix : Char) :
    Agree Eq (row.rawValue col format radix) (row.unplaced.rawValue col format radix) := by
  refine (row.agree_text col).bind fun v => ?_
  cases rawValue? v format radix with
  | some x => exact .ok rfl
  | none => exact .error rfl

end Row

/-! ## Keys -/

/-- The owner that a record names first, with an integer of a column as the key. -/
def columnKey (col : Nat) (row : Row) : Option (String × Int) := do
  let owner ← (row.text 0).toOption
  let key ← (row.int col).toOption
  return (owner, key)

theorem columnKey_eq {col : Nat} {row : Row} {owner : String} {key : Int}
    (howner : row.text 0 = .ok owner) (hkey : row.int col = .ok key) :
    columnKey col row = some (owner, key) := by
  unfold columnKey
  rw [howner, hkey]
  rfl

/-- The curve that a record of points names first, with the number that follows as the key, in the
total order of numbers. The curve tells the format of the number. -/
def pointKey (curves : Index String CurveDefinition) (format : CurveDefinition → Char) (row : Row) :
    Option (String × Int) := do
  let owner ← (row.text 0).toOption
  let curve ← curves.find? owner
  let value ← (row.rawValue 1 (format curve) curve.radix).toOption
  return (owner, Decimal.orderKey value)

theorem pointKey_eq {curves : Index String CurveDefinition} {format : CurveDefinition → Char}
    {row : Row} {owner : String} {curve : CurveDefinition} {value : Float}
    (howner : row.text 0 = .ok owner) (hcurve : curves.find? owner = some curve)
    (hvalue : row.rawValue 1 (format curve) curve.radix = .ok value) :
    pointKey curves format row = some (owner, Decimal.orderKey value) := by
  unfold pointKey
  rw [howner]
  show (curves.find? owner >>= _) = _
  rw [hcurve]
  show ((row.rawValue 1 (format curve) curve.radix).toOption >>= _) = _
  rw [hvalue]
  rfl

theorem pointKey_owner {curves : Index String CurveDefinition} {format : CurveDefinition → Char}
    {row : Row} {key : String × Int} (h : pointKey curves format row = some key) :
    row.text 0 = .ok key.1 := by
  unfold pointKey at h
  obtain ⟨owner, howner, h⟩ := Option.bind_eq_some_iff.mp h
  obtain ⟨curve, -, h⟩ := Option.bind_eq_some_iff.mp h
  obtain ⟨value, -, h⟩ := Option.bind_eq_some_iff.mp h
  cases h
  exact eq_ok_of_toOption howner

/-- Owners that differ make keys that differ. -/
theorem keys_ne_of_owners {keyOf : Row → Option (String × Int)} {a b : Row} {owner owner' : String}
    (howner : ∀ {row key}, keyOf row = some key → row.text 0 = .ok key.1)
    (ha : a.text 0 = .ok owner) (hb : b.text 0 = .ok owner') (hne : owner ≠ owner')
    (key : String × Int) (hkey : keyOf a = some key) : keyOf b ≠ some key := fun hkey' =>
  hne (Except.ok.inj ((ha.symm.trans (howner hkey)).trans ((howner hkey').symm.trans hb)))

/-- The curves that records define, by name. -/
def definedCurves (rows : List Row) : Index String CurveDefinition :=
  rows.foldl (fun curves row =>
    match Registry.curveOfRow row with
    | .ok curve => curves.set curve.name curve
    | .error _ => curves) {}

/-- Two readings of a table: both give records, which are rearranged, or both fail alike. -/
def RowsRearranged (keyOf : Row → Option (String × Int)) (x y : Except Error (List Row)) : Prop :=
  Agree (fun rows rows' => Rearranged keyOf (rows.map Row.unplaced) (rows'.map Row.unplaced)) x y

/-- Two records in the other order, which have not the same key. -/
theorem rowsRearranged_swap {keyOf : Row → Option (String × Int)} {x y : Except Error (List Row)}
    {a b : Row} (hx : x.toOption.map (List.map Row.unplaced) = some [a, b])
    (hy : y.toOption.map (List.map Row.unplaced) = some [b, a])
    (h : ∀ key, keyOf a = some key → keyOf b ≠ some key) : RowsRearranged keyOf x y := by
  obtain ⟨rows, hrows, hab⟩ := Option.map_eq_some_iff.mp hx
  obtain ⟨rows', hrows', hba⟩ := Option.map_eq_some_iff.mp hy
  rw [eq_ok_of_toOption hrows, eq_ok_of_toOption hrows']
  refine .ok ⟨?_, fun key => ?_⟩
  · rw [hab, hba]
    exact .swap b a []
  · rw [hab, hba]
    have hkey := h key
    by_cases ha : keyOf a = some key
    · simp [ha, hkey ha]
    · simp [ha, List.filter_cons]

/-! ## Files with rearranged records -/

/-- The records of a table among files. -/
def Config.records (config : Config) (files : Files) (table : String) : Except Error (List Row) :=
  Build.rows ⟨config, .common .unix, files⟩ table

/-- The curves that the records of a table define. -/
def Config.curves (config : Config) (files : Files) (table : String) :
    Index String CurveDefinition :=
  definedCurves ((config.records files table).toOption.getD [])

/-- The tables with a sort key of their own. -/
def sortedTables : List String := ["cap", "ccs", "cur", "ocp", "cdf"]

/-- **Other files with the same tables, but for the order of records where a table has a sort
key.** Records of the same owner with the same key keep their order. -/
structure Config.Rearranges (config : Config) (files files' : Files) : Prop where
  there : checkTables files' config.path config.fileExtension =
    checkTables files config.path config.fileExtension
  /-- The other tables have the same records. -/
  kept : ∀ table ∈ requiredTables, table ∉ sortedTables →
    config.records files' table = config.records files table
  /-- The formulas of synthetic parameters are the same. -/
  formulas : ∀ name, Text.isWord name.toList = true →
    files'.read (joinPath (joinPath config.path Telemetry.formulaDirectory) name) =
      files.read (joinPath (joinPath config.path Telemetry.formulaDirectory) name)
  /-- Points of a calibration, by raw value. -/
  calibrations : RowsRearranged (pointKey (config.curves files "caf") (·.rawFormat))
    (config.records files "cap") (config.records files' "cap")
  /-- Points of a decalibration, by engineering value. -/
  decalibrations : RowsRearranged (pointKey (config.curves files "cca") (·.engineeringFormat))
    (config.records files "ccs") (config.records files' "ccs")
  /-- Context rules of a parameter, by position. -/
  contexts : RowsRearranged (columnKey 1)
    (config.records files "cur") (config.records files' "cur")
  /-- Limit checks of a parameter, by position. -/
  checks : RowsRearranged (columnKey 1)
    (config.records files "ocp") (config.records files' "ocp")
  /-- Elements of a command, by bit. -/
  elements : RowsRearranged (columnKey 4)
    (config.records files "cdf") (config.records files' "cdf")

/-- **A scan of a table that is kept** keeps drafts alike if the work on every record does. -/
theorem similar_scanKept {σ : Type} {R : σ → σ → Prop} {setting : Setting} {files : Files}
    (h : setting.config.Rearranges setting.files files) {table : String}
    {handle handle' : Row → Build σ Unit} (htable : table ∈ requiredTables)
    (hkept : table ∉ sortedTables) (hhandle : ∀ row, Similar R (handle row) (handle' row)) :
    Similar R (Build.scan setting table handle)
      (Build.scan { setting with files := files } table handle') :=
  similar_scan (h.kept table htable hkept) hhandle

/-- How the records of a table that is sorted by a key are read. -/
structure KeyedTable (β : Type) where
  /-- The item that a record gives to an owner, if it is not passed over. -/
  read : Row → Except Error (Option (String × β))
  /-- The key by which the items of an owner are sorted. -/
  key : β → Int
  /-- An item without its place. -/
  view : β → β
  /-- The owner and the key of a record. -/
  keyOf : Row → Option (String × Int)
  key_view : ∀ b, key (view b) = key b
  keyed : ∀ {row owner b}, read row = .ok (some (owner, b)) → keyOf row = some (owner, key b)
  placeless : ∀ row, Agree (fun x y => x.map (Prod.map id view) = y.map (Prod.map id view))
    (read row) (read row.unplaced)
  mild : ∀ row, Mild (read row)

namespace KeyedTable

variable {σ β : Type} (t : KeyedTable β)

/-- The item of a record that is accepted. -/
def item? (row : Row) : Option (String × β) := (t.read row).toOption.join

/-- The error of a record that is rejected. -/
def fault? (row : Row) : Option Error :=
  match t.read row with
  | .ok _ => none
  | .error e => some e

/-- The end of a unit of work that puts the item of a record into the state of its stage. -/
def outcome (put : σ → String × β → σ) (row : Row) (d : Draft σ) :
    EStateM.Result Error (Draft σ) Unit :=
  match t.read row with
  | .ok (some item) => .ok () { d with stage := put d.stage item }
  | .ok none => .ok () d
  | .error e => .error e d

/-- Items that are rearranged, seen without their places. -/
abbrev ItemsRearranged (items items' : List (String × β)) : Prop :=
  Rearranged (fun x => some (x.1, t.key x.2)) (items.map (Prod.map id t.view))
    (items'.map (Prod.map id t.view))

theorem map_item?_unplaced (row : Row) :
    (t.item? row).map (Prod.map id t.view) =
      (t.item? row.unplaced).map (Prod.map id t.view) := by
  have h := t.placeless row
  unfold item?
  revert h
  generalize t.read row = x
  generalize t.read row.unplaced = y
  intro h
  cases h with
  | ok hab => exact hab
  | error he => rfl

theorem map_fault?_unplaced (row : Row) :
    (t.fault? row).map Error.unplaced = (t.fault? row.unplaced).map Error.unplaced := by
  have h := t.placeless row
  unfold fault?
  revert h
  generalize t.read row = x
  generalize t.read row.unplaced = y
  intro h
  cases h with
  | ok hab => rfl
  | error he => exact congrArg some he

/-- **Rearranged records give rearranged items.** -/
theorem itemsRearranged {rows rows' : List Row}
    (h : Rearranged t.keyOf (rows.map Row.unplaced) (rows'.map Row.unplaced)) :
    t.ItemsRearranged (rows.filterMap t.item?) (rows'.filterMap t.item?) := by
  have hitems (l : List Row) : (l.filterMap t.item?).map (Prod.map id t.view) =
      (l.map Row.unplaced).filterMap fun row => (t.item? row).map (Prod.map id t.view) := by
    rw [List.map_filterMap, List.filterMap_map]
    exact List.filterMap_congr fun row _ => t.map_item?_unplaced row
  unfold ItemsRearranged
  rw [hitems, hitems]
  refine h.filterMap fun row x hx => ?_
  obtain ⟨⟨owner, b⟩, hitem, rfl⟩ := Option.map_eq_some_iff.mp hx
  rw [Prod.map_snd, t.key_view]
  refine t.keyed ?_
  revert hitem
  unfold item?
  cases t.read row with
  | error e => nofun
  | ok r =>
      intro hr
      rw [show r = some (owner, b) from hr]
      rfl

/-- Rearranged records are rejected for the same reasons. -/
theorem perm_faults {rows rows' : List Row}
    (h : (rows.map Row.unplaced).Perm (rows'.map Row.unplaced)) :
    ((rows.filterMap t.fault?).map Error.unplaced).Perm
      ((rows'.filterMap t.fault?).map Error.unplaced) := by
  have hfaults (l : List Row) : (l.filterMap t.fault?).map Error.unplaced =
      (l.map Row.unplaced).filterMap fun row => (t.fault? row).map Error.unplaced := by
    rw [List.map_filterMap, List.filterMap_map]
    exact List.filterMap_congr fun row _ => t.map_fault?_unplaced row
  rw [hfaults, hfaults]
  exact h.filterMap _

/-! ## Scans -/

section

variable {setting : Setting} {table : String} {handle : Row → Build σ Unit}
  {put : σ → String × β → σ} {P : σ → Prop}

/-- What the unit of work of a record leaves behind: its item put in, or its error recorded. -/
theorem recover_eq (hlenient : setting.config.strict = false) {row : Row} {d : Draft σ}
    (hhandle : handle row d = t.outcome put row d) :
    Build.recover setting (handle row) d =
      .ok () { d with
        stage := (t.item? row).toList.foldl put d.stage
        errors := d.errors ++ (t.fault? row).toList } := by
  show EStateM.tryCatch (handle row) _ d = _
  unfold EStateM.tryCatch
  rw [hhandle]
  unfold outcome item? fault?
  cases hread : t.read row with
  | ok r =>
      cases r with
      | none => simp [Except.toOption]
      | some item => simp [Except.toOption]
  | error e =>
      -- the error is recorded, since it is not fatal
      show (if e.isFatal then throw e else Build.report setting e : Build σ Unit) d = _
      rw [t.mild row e hread]
      unfold Build.report
      rw [hlenient]
      rfl

theorem forM_eq (hlenient : setting.config.strict = false)
    (hhandle : ∀ row d, P d.stage → handle row d = t.outcome put row d)
    (hput : ∀ s item, P s → P (put s item)) :
    ∀ (rows : List Row) (d : Draft σ), P d.stage →
      rows.forM (fun row => Build.recover setting (handle row)) d =
        .ok () { d with
          stage := (rows.filterMap t.item?).foldl put d.stage
          errors := d.errors ++ rows.filterMap t.fault? }
  | [], d, _ => by simp [pure, EStateM.pure]
  | row :: rest, d, hd => by
      have hfirst : P ((t.item? row).toList.foldl put d.stage) := by
        cases t.item? row with
        | none => exact hd
        | some item => exact hput _ _ hd
      refine (bind_of_ok (t.recover_eq hlenient (hhandle row d hd))).trans ?_
      refine (forM_eq hlenient hhandle hput rest _ hfirst).trans ?_
      rw [List.filterMap_cons, List.filterMap_cons]
      cases t.item? row <;> cases t.fault? row <;> simp

/-- **A lenient scan puts in what its records give and records why others are rejected.** -/
theorem scan_eq (hlenient : setting.config.strict = false) {rows : List Row}
    (hrows : Build.rows setting table = .ok rows)
    (hhandle : ∀ row d, P d.stage → handle row d = t.outcome put row d)
    (hput : ∀ s item, P s → P (put s item)) {d : Draft σ} (hd : P d.stage) :
    Build.scan setting table handle d =
      .ok rows.length { d with
        stage := (rows.filterMap t.item?).foldl put d.stage
        errors := d.errors ++ rows.filterMap t.fault? } := by
  unfold Build.scan
  rw [hrows]
  refine (bind_of_ok (x := liftM (Except.ok rows)) (a := rows) (t := d) rfl).trans ?_
  exact bind_of_ok (t.forM_eq hlenient hhandle hput rows d hd)

/-- **Scans over rearranged records put rearranged items in.** -/
theorem carries_scan {files : Files} {handle' : Row → Build σ Unit} {R S : σ → σ → Prop}
    (hlenient : setting.config.strict = false)
    (hrows : RowsRearranged t.keyOf (Build.rows setting table)
      (Build.rows { setting with files := files } table))
    (hhandle : ∀ row d, P d.stage → handle row d = t.outcome put row d)
    (hhandle' : ∀ row d, P d.stage → handle' row d = t.outcome put row d)
    (hput : ∀ s item, P s → P (put s item)) (hR : ∀ s s', R s s' → P s ∧ P s')
    (hS : ∀ s s' items items', R s s' → t.ItemsRearranged items items' →
      S (items.foldl put s) (items'.foldl put s')) :
    Carries R S (Build.scan setting table handle)
      (Build.scan { setting with files := files } table handle') := by
  intro d d' hd
  unfold RowsRearranged at hrows
  cases hx : Build.rows setting table with
  | error e =>
      cases hy : Build.rows { setting with files := files } table with
      | ok rows' => rw [hx, hy] at hrows; cases hrows
      | error e' =>
          rw [hx, hy] at hrows
          cases hrows with
          | error he =>
              unfold Build.scan
              rw [hx, hy]
              exact .error he (hd.mono fun _ => trivial)
  | ok rows =>
      cases hy : Build.rows { setting with files := files } table with
      | error e' => rw [hx, hy] at hrows; cases hrows
      | ok rows' =>
          rw [hx, hy] at hrows
          cases hrows with
          | ok hrows =>
              obtain ⟨hP, hP'⟩ := hR _ _ hd.stage
              have hlength : rows.length = rows'.length := by
                have h := hrows.perm.length_eq
                rwa [List.length_map, List.length_map] at h
              have hlenient' : ({ setting with files := files } : Setting).config.strict = false :=
                hlenient
              rw [t.scan_eq hlenient hx hhandle hput hP,
                t.scan_eq hlenient' hy hhandle' hput hP', hlength]
              refine .ok ⟨hd.database, ?_, hd.warnings,
                hS _ _ _ _ hd.stage (t.itemsRearranged hrows)⟩
              show ((d.errors ++ _).map _).Perm ((d'.errors ++ _).map _)
              rw [List.map_append, List.map_append]
              exact hd.errors.append (t.perm_faults hrows.perm)

end

end KeyedTable

end MissionBase
