import MissionBase.Proofs.Coherence
import MissionBase.Proofs.Leniency.Telemetry
import MissionBase.Proofs.Telemetry.Givers
import MissionBase.Proofs.Turns

/-!
# Errors that shared types hide

The type of an enumeration without labels is recorded as an error when the type is made. A later
parameter with the same key takes the type that is there, and nothing is recorded for it. So the
errors of the declarations are not those that would be recorded if every type were made anew.

The second way of reading the declarations is written down here, and the two are run side by side.
They declare the same parameters, and their errors differ in nothing else: a declaration with
something to complain of is complained of every time where types are made anew, and where they are
shared only if it is the first one with its key (`Compared`).
-/

namespace MissionBase

open Run Leniency

variable {σ : Type} {setting : Setting} {calibrations : Registry}

/-! ## What there is to complain of -/

namespace ParameterRecord

variable {r : ParameterRecord}

/-- The error that goes with the type of a declaration: an enumeration has no labels. -/
def complaint (calibrations : Registry) (r : ParameterRecord) : Option Error :=
  if r.category = 'S' then
    match r.calibration with
    | none =>
      if calibrations.hasContext r.name then none
      else some (r.dataError s!"textual parameter '{r.name}' has no PCF_CURTX")
    | some name =>
      if (calibrations.texts.find? name).isSome then none
      else some (.reference r.location s!"unknown textual calibration '{name}'")
  else none

/-- What the type of a declaration is made into, from everywhere: an error and nothing else, or a
type with the complaint recorded. -/
inductive Makes (x : Build σ ParameterType) (complaint : Option Error) : Prop
  | refused (e : Error) (h : ∀ d, x d = .error e d)
  | made (type : ParameterType)
      (h : ∀ d, ∃ warnings, x d = .ok type
        { d with errors := d.errors ++ complaint.toList, warnings := warnings })

theorem makes_lift {x : Except Error ParameterType} :
    Makes (liftM x : Build σ ParameterType) none := by
  cases x with
  | error e => exact .refused e fun _ => rfl
  | ok type =>
      refine .made type fun d => ⟨d.warnings, ?_⟩
      rw [Option.toList_none, List.append_nil]
      rfl

theorem Makes.map {x : Build σ ParameterType} {complaint : Option Error} (h : Makes x complaint)
    (f : ParameterType → ParameterType) : Makes (x >>= fun type => pure (f type)) complaint := by
  cases h with
  | refused e h =>
      exact .refused e fun d => bind_of_error (h d)
  | made type h =>
      refine .made (f type) fun d => ?_
      obtain ⟨warnings, hd⟩ := h d
      exact ⟨warnings, bind_of_ok hd⟩

/-- Where errors are recorded, a type is made with an error or without. -/
theorem makes_report (hlenient : setting.config.strict = false) (e : Error) (type : ParameterType) :
    Makes (Build.report setting e >>= fun _ => pure type : Build σ ParameterType) (some e) := by
  refine .made type fun d => ⟨d.warnings, ?_⟩
  unfold Build.report
  rw [hlenient]
  rfl

/-- A limitation is no error. -/
theorem makes_limitation (m : String) (type : ParameterType) :
    Makes (Build.limitation m >>= fun _ => pure type : Build σ ParameterType) none := by
  refine .made type fun d => ⟨d.warnings ++ [m], ?_⟩
  rw [Option.toList_none, List.append_nil]
  rfl

theorem makes_pure (type : ParameterType) : Makes (pure type : Build σ ParameterType) none :=
  makes_lift (x := .ok type)

theorem makes_textualType (hlenient : setting.config.strict = false) (hS : r.category = 'S') :
    Makes (r.textualType setting calibrations : Build σ ParameterType)
      (r.complaint calibrations) := by
  unfold textualType complaint
  rw [if_pos hS]
  cases r.encoding with
  | error e => exact .refused e fun _ => rfl
  | ok encoding =>
      show Makes (match r.calibration with | none => _ | some name => _) _
      cases r.calibration with
      | none =>
          dsimp only
          split
          · exact makes_limitation _ _
          · exact makes_report hlenient _ _
      | some name =>
          dsimp only
          cases calibrations.texts.find? name with
          | some text => exact makes_pure _
          | none => exact makes_report hlenient _ _

/-- **The complaint is what is recorded when the type of a declaration is made.** -/
theorem makes_buildType (hlenient : setting.config.strict = false) (r : ParameterRecord) :
    Makes (r.buildType setting calibrations : Build σ ParameterType)
      (r.complaint calibrations) := by
  unfold buildType
  dsimp only
  by_cases hS : r.category = 'S'
  · rw [if_neg (by rw [hS]; decide), if_pos hS]
    exact (makes_textualType hlenient hS).map _
  · rw [complaint, if_neg hS, if_neg hS]
    split
    · exact makes_lift.map _
    · split
      · exact makes_lift.map _
      · exact .refused _ fun _ => rfl

end ParameterRecord

namespace Telemetry

open ParameterRecord (complaint)

variable {d d' t t' : Draft TelemetryState} {r : ParameterRecord} {row : Row}

/-! ## Reading the declarations with types made anew -/

/-- The type of a declared parameter, made anew whatever types there are. -/
def typeAfresh (setting : Setting) (r : ParameterRecord) : TelemetryBuild ParameterTypeRef := do
  let state ← Build.stage
  let type ← r.buildType setting state.calibrations
  let db ← Build.database
  let name := db.uniqueTypeName (TypeKey.ofRecord r).typeName
  Build.add r.dataError fun db => db.addParameterType { type with name := name }

/-- Adds the parameter of a declaration that has a type. -/
def addTyped (r : ParameterRecord) (type : ParameterTypeRef) : TelemetryBuild Unit := do
  let parameter : Parameter :=
    { name := r.name, description := r.description, type := type, source := sourceOf r.nature }
  let ref ← Build.add r.dataError fun db => db.addParameter parameter
  match r.onBoardId with
  | some id => Build.changeDatabase fun db => db.addAlias ref ⟨onBoardSpace, toString id⟩
  | none => pure ()
  Build.changeStage fun s => { s with
    synthetic := if r.isSynthetic then s.synthetic ++ [r.name] else s.synthetic
    declared := s.declared.set r.name r }

/-- Takes up a declaration whose parameter gets its type in some way. -/
def declareWith (typeOf : ParameterRecord → TelemetryBuild ParameterTypeRef)
    (r : ParameterRecord) : TelemetryBuild Unit := do
  let state ← Build.stage
  if state.declared.has r.name || state.deduced.has r.name ||
      state.savedSynthetic.contains r.name then
    throw (r.dataError s!"duplicate parameter '{r.name}'")
  if r.ptc = 13 then
    Build.changeStage fun s => { s with savedSynthetic := s.savedSynthetic ++ [r.name] }
  else if r.ptc = 11 then
    if r.related.isNone then
      throw (r.dataError s!"deduced parameter '{r.name}' has no PCF_RELATED")
    Build.changeStage fun s => { s with deduced := s.deduced.set r.name r }
  else typeOf r >>= addTyped r

/-- Takes up the declaration of a record, with a type made anew. -/
def declareRowAfresh (setting : Setting) (row : Row) : TelemetryBuild Unit := do
  let record ← ParameterRecord.ofRow row setting.config.telemetry.sizeTagBytes
  declareWith (typeAfresh setting) record

/-- Reads `PCF`, with every type made anew. -/
def loadParametersAfresh (setting : Setting) : TelemetryBuild Unit := do
  let _ ← Build.scan setting "pcf" (declareRowAfresh setting)

/-- But for the way to the type it is the same work. -/
theorem declareWith_typeFor : declareWith (typeFor setting) r = declare setting r := rfl

/-! ## Founders -/

variable {records : List ParameterRecord}

/-- Whether a declaration founds its key is decided by those before it. -/
theorem founder_append_self :
    founder calibrations (records ++ [r]) r = founder calibrations records r := by
  unfold founder
  split
  · rfl
  · rename_i hc
    have hself : shares calibrations (TypeKey.ofRecord r) r = true :=
      shares_self (by simpa using hc)
    rw [List.find?_append, List.find?_cons, hself]
    cases records.find? (shares calibrations (TypeKey.ofRecord r)) <;> rfl

/-- A declaration that finds the shared type of its key has another founder. -/
theorem Shared.founder_ne (h : Shared setting calibrations d)
    (hfresh : d.stage.declared.find? r.name = none)
    (hplain : calibrations.hasContext r.name = false) {ref : ParameterTypeRef}
    (hfind : d.stage.sharedTypes.find? (TypeKey.ofRecord r) = some ref) :
    founder calibrations (declarations d.stage) r ≠ r := by
  have hfounded := h.types (TypeKey.ofRecord r)
  rw [hfind] at hfounded
  obtain ⟨q, hq, -⟩ := hfounded
  rw [founder, hplain, if_neg Bool.false_ne_true, hq, Option.getD_some]
  rintro rfl
  -- the founder is declared, under its own name
  obtain ⟨⟨name, q'⟩, hmem, rfl⟩ := List.mem_map.mp (List.mem_of_find?_eq_some hq)
  obtain ⟨i, hi⟩ := List.mem_iff_getElem?.mp hmem
  obtain ⟨-, -, -, hname, -⟩ := h.parameters i name q' hi
  have hnone := List.find?_eq_none.mp (Option.map_eq_none_iff.mp hfresh) _ hmem
  exact hnone (decide_eq_true hname.symm)

/-- A declaration whose type is made is its own founder. -/
theorem Shared.founder_self (h : Shared setting calibrations d)
    (hfind : calibrations.hasContext r.name = false →
      d.stage.sharedTypes.find? (TypeKey.ofRecord r) = none) :
    founder calibrations (declarations d.stage) r = r := by
  unfold founder
  split
  · rfl
  · rename_i hc
    have hfounded := h.types (TypeKey.ofRecord r)
    rw [hfind (by simpa using hc)] at hfounded
    rw [hfounded, Option.getD_none]

/-! ## One declaration, both ways -/

/-- Two drafts that have got equally far, whatever types there are. -/
structure Alongside (d d' : Draft TelemetryState) : Prop where
  stage : ∃ types, d'.stage = { d.stage with sharedTypes := types }
  names : d'.database.parameters.names = d.database.parameters.names

theorem Alongside.has (h : Alongside d d') {name : String}
    (hfree : d.database.parameters.has name = false) :
    d'.database.parameters.has name = false := by
  rw [Bool.eq_false_iff, Ne, ← Catalog.mem_names_iff, h.names, Catalog.mem_names_iff]
  exact Bool.eq_false_iff.mp hfree

/-- The name that is searched for a type is free. -/
theorem has_uniqueTypeName (db : Database) (base : String) :
    db.parameterTypes.has (db.uniqueTypeName base) = false := by
  refine @firstFree_free _ db.parameterTypes.names (fun _ => Catalog.mem_names_iff.mpr) _ _ ?_
  rw [Catalog.length_names]
  exact Nat.lt_succ_self _

/-- A type that is made anew is taken up under a free name. -/
theorem typeAfresh_eq_ok {type : ParameterType}
    (h : r.buildType setting d.stage.calibrations d = .ok type t) :
    ∃ u, typeAfresh setting r d = .ok t.database.parameterTypes.next u ∧ u.stage = t.stage ∧
      u.errors = t.errors ∧ u.database.parameters = t.database.parameters := by
  refine ⟨_, bind_eq_ok.mpr ⟨_, _, stage_eq_ok.mpr ⟨rfl, rfl⟩, bind_eq_ok.mpr ⟨type, t, h,
    bind_eq_ok.mpr ⟨_, _, database_eq_ok.mpr ⟨rfl, rfl⟩, add_eq_ok.mpr ⟨_,
      Database.addParameterType_eq_ok.mpr ⟨has_uniqueTypeName _ _, rfl⟩, rfl⟩⟩⟩⟩, rfl, rfl, rfl⟩

theorem typeAfresh_eq_error {e : Error}
    (h : r.buildType setting d.stage.calibrations d = .error e t) :
    typeAfresh setting r d = .error e t :=
  (bind_of_ok (stage_eq_ok.mpr ⟨rfl, rfl⟩)).trans (bind_of_error h)

/-- The type of a declaration is found where its key has one. -/
theorem typeFor_eq_of_find? {ref : ParameterTypeRef}
    (hplain : d.stage.calibrations.hasContext r.name = false)
    (hfind : d.stage.sharedTypes.find? (TypeKey.ofRecord r) = some ref) :
    typeFor setting r d = .ok ref d := by
  refine (bind_of_ok (stage_eq_ok.mpr ⟨rfl, rfl⟩)).trans ?_
  dsimp only
  rw [hplain, hfind]
  rfl

/-- Where there is none to be found, it is made, and nothing else fails. -/
theorem typeFor_eq_of_none (setting : Setting)
    (hfind : d.stage.calibrations.hasContext r.name = false →
      d.stage.sharedTypes.find? (TypeKey.ofRecord r) = none) :
    (∀ e t, r.buildType setting d.stage.calibrations d = .error e t →
        typeFor setting r d = .error e t) ∧
      ∀ type t, r.buildType setting d.stage.calibrations d = .ok type t →
        ∃ ref u, typeFor setting r d = .ok ref u ∧
          (∃ types, u.stage = { t.stage with sharedTypes := types }) ∧ u.errors = t.errors ∧
          u.database.parameters = t.database.parameters := by
  have hnone : (if !d.stage.calibrations.hasContext r.name then
      d.stage.sharedTypes.find? (TypeKey.ofRecord r) else none) = none := by
    split
    · rename_i hplain
      exact hfind (by simpa using hplain)
    · rfl
  constructor
  · intro e t h
    refine (bind_of_ok (stage_eq_ok.mpr ⟨rfl, rfl⟩)).trans ?_
    dsimp only
    rw [hnone]
    exact bind_of_error h
  · intro type t h
    refine Ends.exists_ok ?_
    unfold typeFor
    refine Ends.bind (ends_stage ?_)
    dsimp only
    rw [hnone]
    refine Ends.bind (ends_of_ok h (Ends.bind (ends_database (Ends.bind ?_))))
    refine ends_add_of_ok (Database.addParameterType_eq_ok.mpr ⟨?_, rfl⟩) ?_
    · -- whichever name the type gets is free
      show t.database.parameterTypes.has (if _ then _ else _) = false
      split
      · rename_i hbase
        simpa using (Bool.and_eq_true_iff.mp hbase).2
      · exact has_uniqueTypeName _ _
    · split
      · exact Ends.bind ⟨⟨_, rfl⟩, rfl, rfl⟩
      · exact ends_pure ⟨⟨t.stage.sharedTypes, rfl⟩, rfl, rfl⟩

/-- **The types of a declaration, found and made anew**: neither way fails where the other does not,
and the complaint is recorded both ways unless another declaration has founded the key. -/
theorem types_alongside (hlenient : setting.config.strict = false)
    (h : Shared setting calibrations d) (hb : Alongside d d')
    (hfresh : d.stage.declared.find? r.name = none) :
    (∃ e, typeFor setting r d = .error e d ∧ typeAfresh setting r d' = .error e d') ∨
      ∃ ref t ref' t', typeFor setting r d = .ok ref t ∧ typeAfresh setting r d' = .ok ref' t' ∧
        (∃ types, t'.stage = { t.stage with sharedTypes := types }) ∧
        t.stage.declared = d.stage.declared ∧
        t.database.parameters = d.database.parameters ∧
        t'.database.parameters = d'.database.parameters ∧
        t.errors = d.errors ++ (if founder calibrations (declarations d.stage) r = r then
          (r.complaint calibrations).toList else []) ∧
        t'.errors = d'.errors ++ (r.complaint calibrations).toList := by
  obtain ⟨types, hstage⟩ := hb.stage
  have hregistry : d'.stage.calibrations = calibrations := by
    rw [hstage]
    exact h.registry
  by_cases hfound : ∃ ref, calibrations.hasContext r.name = false ∧
      d.stage.sharedTypes.find? (TypeKey.ofRecord r) = some ref
  · obtain ⟨ref, hplain, hfind⟩ := hfound
    -- the founder has been given a type, so this declaration would be given one too
    obtain ⟨own, hgives⟩ : ∃ own,
        Gives (r.buildType setting calibrations : TelemetryBuild ParameterType) own := by
      have hfounded := h.types (TypeKey.ofRecord r)
      rw [hfind] at hfounded
      obtain ⟨q, hq, type, own, -, hown, -⟩ := hfounded
      have hsame : ParameterRecord.SameKey calibrations q r := by
        have hkey : ParameterRecord.SameKey calibrations
            (founder calibrations (declarations d.stage) r) r := sameKey_founder
        rwa [founder, hplain, if_neg Bool.false_ne_true, hq, Option.getD_some] at hkey
      obtain ⟨u, hu⟩ := hown d
      obtain ⟨own', -, hgives⟩ := hsame.buildType d own u hu
      exact ⟨own', hgives⟩
    rw [if_neg (h.founder_ne hfresh hplain hfind), List.append_nil]
    refine .inr ?_
    rcases ParameterRecord.makes_buildType hlenient r with ⟨e, hrefused⟩ | ⟨type, hmade⟩
    · obtain ⟨u, hu⟩ := hgives d
      rw [hrefused d] at hu
      cases hu
    · obtain ⟨warnings, hrun⟩ := hmade d'
      rw [← hregistry] at hrun
      obtain ⟨u, hafresh, hu, herrors, hparameters⟩ := typeAfresh_eq_ok hrun
      rw [← h.registry] at hplain
      refine ⟨ref, d, _, u, typeFor_eq_of_find? hplain hfind, hafresh, ⟨types, ?_⟩, rfl, rfl,
        hparameters, rfl, ?_⟩
      · rw [hu]
        exact hstage
      · rw [herrors, hregistry]
  · have hnone : calibrations.hasContext r.name = false →
        d.stage.sharedTypes.find? (TypeKey.ofRecord r) = none := by
      intro hplain
      exact Option.eq_none_iff_forall_ne_some.mpr fun ref hfind => hfound ⟨ref, hplain, hfind⟩
    rw [if_pos (h.founder_self hnone)]
    rw [← h.registry] at hnone
    obtain ⟨hfails, hgives⟩ := typeFor_eq_of_none setting hnone
    rw [h.registry] at hfails hgives
    rcases ParameterRecord.makes_buildType hlenient r with ⟨e, hrefused⟩ | ⟨type, hmade⟩
    · exact .inl ⟨e, hfails e d (hrefused d), typeAfresh_eq_error (hregistry ▸ hrefused d')⟩
    · refine .inr ?_
      obtain ⟨warnings, hrun⟩ := hmade d
      obtain ⟨warnings', hrun'⟩ := hmade d'
      obtain ⟨ref, u, hfor, ⟨types', hu⟩, herrors, hparameters⟩ := hgives _ _ hrun
      rw [← hregistry] at hrun'
      obtain ⟨u', hafresh, hu', herrors', hparameters'⟩ := typeAfresh_eq_ok hrun'
      refine ⟨ref, u, _, u', hfor, hafresh, ⟨types, ?_⟩, ?_, hparameters, hparameters', herrors, ?_⟩
      · rw [hu', hu]
        exact hstage
      · rw [hu]
      · rw [herrors', hregistry]

/-- An alias does not change the name of its parameter. -/
theorem names_addAlias (db : Database) (ref : ParameterRef) (a : Alias) :
    (db.addAlias ref a).parameters.names = db.parameters.names :=
  Catalog.map_toList_modify (f := Named.name) fun _ => rfl

/-- A parameter whose name is free is added, and nothing is recorded. -/
theorem addTyped_eq_ok (type : ParameterTypeRef)
    (hfree : d.database.parameters.has r.name = false) :
    ∃ t, addTyped r type d = .ok () t ∧ t.errors = d.errors ∧
      t.stage = { d.stage with
        synthetic := if r.isSynthetic then d.stage.synthetic ++ [r.name] else d.stage.synthetic
        declared := d.stage.declared.set r.name r } ∧
      t.database.parameters.names = d.database.parameters.names ++ [r.name] := by
  have hends : Ends (addTyped r type) d (fun _ t => t.errors = d.errors ∧
      t.stage = { d.stage with
        synthetic := if r.isSynthetic then d.stage.synthetic ++ [r.name] else d.stage.synthetic
        declared := d.stage.declared.set r.name r } ∧
      t.database.parameters.names = d.database.parameters.names ++ [r.name]) fun _ => False := by
    unfold addTyped
    refine Ends.bind (ends_add_of_ok (Database.addParameter_eq_ok.mpr ⟨hfree, rfl⟩) ?_)
    cases r.onBoardId with
    | none => exact ⟨rfl, rfl, Catalog.names_push (c := d.database.parameters) _⟩
    | some id =>
        exact ⟨rfl, rfl,
          (names_addAlias _ _ _).trans (Catalog.names_push (c := d.database.parameters) _)⟩
  obtain ⟨⟨⟩, t, ht⟩ := hends.exists_ok
  exact ⟨t, ht⟩

/-- How a declaration ends with shared types and with types made anew. -/
inductive Together (calibrations : Registry) (r : ParameterRecord) (d d' : Draft TelemetryState) :
    EStateM.Result Error (Draft TelemetryState) Unit →
      EStateM.Result Error (Draft TelemetryState) Unit → Prop
  | refused (e : Error) : Together calibrations r d d' (.error e d) (.error e d')
  /-- The declaration is remembered and gives no parameter. -/
  | passed {t t' : Draft TelemetryState} (beside : Alongside t t')
      (declared : t.stage.declared = d.stage.declared) (errors : t.errors = d.errors)
      (errors' : t'.errors = d'.errors) : Together calibrations r d d' (.ok () t) (.ok () t')
  | given {t t' : Draft TelemetryState} (beside : Alongside t t')
      (fresh : d.stage.declared.find? r.name = none)
      (declared : t.stage.declared = d.stage.declared.set r.name r)
      (errors : t.errors = d.errors ++ (if founder calibrations (declarations d.stage) r = r then
        (r.complaint calibrations).toList else []))
      (errors' : t'.errors = d'.errors ++ (r.complaint calibrations).toList) :
      Together calibrations r d d' (.ok () t) (.ok () t')

theorem declareWith_eq (typeOf : ParameterRecord → TelemetryBuild ParameterTypeRef) :
    declareWith typeOf r d =
      if d.stage.declared.has r.name || d.stage.deduced.has r.name ||
          d.stage.savedSynthetic.contains r.name then
        .error (r.dataError s!"duplicate parameter '{r.name}'") d
      else if r.ptc = 13 then
        .ok () { d with stage := { d.stage with
          savedSynthetic := d.stage.savedSynthetic ++ [r.name] } }
      else if r.ptc = 11 then
        if r.related.isNone then
          .error (r.dataError s!"deduced parameter '{r.name}' has no PCF_RELATED") d
        else .ok () { d with stage := { d.stage with deduced := d.stage.deduced.set r.name r } }
      else (typeOf r >>= addTyped r) d := by
  refine (bind_of_ok (stage_eq_ok.mpr ⟨rfl, rfl⟩)).trans ?_
  dsimp only
  split
  · rfl
  · split
    · rfl
    · split
      · split <;> rfl
      · rfl

/-- **A declaration ends the same way with shared types and with types made anew.** -/
theorem declare_together (hlenient : setting.config.strict = false)
    (h : Shared setting calibrations d) (hb : Alongside d d') :
    Together calibrations r d d' (declare setting r d)
      (declareWith (typeAfresh setting) r d') := by
  obtain ⟨types, hstage⟩ := hb.stage
  rw [← declareWith_typeFor, declareWith_eq, declareWith_eq, hstage]
  dsimp only
  split
  · exact .refused _
  · rename_i hnew
    split
    · exact .passed ⟨⟨types, rfl⟩, hb.names⟩ rfl rfl rfl
    · split
      · split
        · exact .refused _
        · exact .passed ⟨⟨types, rfl⟩, hb.names⟩ rfl rfl rfl
      · have hfresh : d.stage.declared.find? r.name = none := by
          rw [Bool.or_assoc, Bool.or_eq_true, not_or] at hnew
          simpa [Index.has] using hnew.1
        have hfree := h.free hfresh
        rcases types_alongside hlenient h hb hfresh with ⟨e, hfor, hafresh⟩ |
          ⟨ref, t, ref', t', hfor, hafresh, ⟨types', ht⟩, hdeclared, hparameters, hparameters',
            herrors, herrors'⟩
        · rw [bind_of_error hfor, bind_of_error hafresh]
          exact .refused e
        · obtain ⟨u, hu, huerrors, hustage, hunames⟩ :=
            addTyped_eq_ok (r := r) ref (hparameters ▸ hfree)
          obtain ⟨u', hu', huerrors', hustage', hunames'⟩ :=
            addTyped_eq_ok (r := r) ref' (hparameters' ▸ hb.has hfree)
          rw [bind_of_ok hfor, bind_of_ok hafresh, hu, hu']
          refine .given ⟨⟨types', ?_⟩, ?_⟩ hfresh ?_ (huerrors.trans herrors)
            (huerrors'.trans herrors')
          · rw [hustage', hustage, ht]
          · rw [hunames', hunames, hparameters, hparameters', hb.names]
          · rw [hustage, hdeclared]

/-! ## One record, both ways -/

/-- No errors are more than those with types made anew, and they are the same as long as nothing has
been hidden. -/
structure Heard (calibrations : Registry) (d d' : Draft TelemetryState) : Prop where
  fewer : d.errors.length ≤ d'.errors.length
  same : d'.errors = d.errors ↔ ∀ r ∈ declarations d.stage,
    founder calibrations (declarations d.stage) r ≠ r → r.complaint calibrations = none

/-- How the errors of one record compare, at its turn with shared types and at its turn with types
made anew: a declaration that there is something to complain of is complained of both times if it is
the first with its key, and otherwise once. -/
structure Compared (setting : Setting) (calibrations : Registry)
    (c c' : Row × Draft TelemetryState) : Prop where
  row : c'.1 = c.1
  complaint : ∀ r q e, giver? setting c.1 c.2 = some (r, q) → r.complaint calibrations = some e →
    recorded setting (declareRowAfresh setting) c' = [e] ∧
      recorded setting (declareRow setting) c =
        if founder calibrations (declarations c.2.stage) r = r then [e] else []
  others : (∀ r q, giver? setting c.1 c.2 = some (r, q) → r.complaint calibrations = none) →
    recorded setting (declareRowAfresh setting) c' = recorded setting (declareRow setting) c

/-- What is so after one more record has had its turn both ways. -/
structure Turned (setting : Setting) (calibrations : Registry) (row : Row)
    (d d' t t' : Draft TelemetryState) : Prop where
  shared : Shared setting calibrations t
  beside : Alongside t t'
  heard : Heard calibrations t t'
  compared : Compared setting calibrations (row, d) (row, d')
  grows : t.errors = d.errors ++ recorded setting (declareRow setting) (row, d)
  grows' : t'.errors = d'.errors ++ recorded setting (declareRowAfresh setting) (row, d')

/-- The same errors both times leave what has been hidden. -/
theorem Heard.append (h : Heard calibrations d d') {more : List Error}
    (hdeclared : t.stage.declared = d.stage.declared) (herrors : t.errors = d.errors ++ more)
    (herrors' : t'.errors = d'.errors ++ more) : Heard calibrations t t' := by
  have hrecords : declarations t.stage = declarations d.stage := by
    unfold declarations
    rw [hdeclared]
  constructor
  · rw [herrors, herrors', List.length_append, List.length_append]
    exact Nat.add_le_add_right h.fewer _
  · rw [herrors, herrors', hrecords, List.append_left_inj]
    exact h.same

/-- A declaration hides what there is to complain of if it has another founder. -/
theorem Heard.given (h : Heard calibrations d d') {complaint : List Error}
    (hcomplaint : complaint = (r.complaint calibrations).toList)
    (hrecords : declarations t.stage = declarations d.stage ++ [r])
    (herrors : t.errors = d.errors ++
      if founder calibrations (declarations d.stage) r = r then complaint else [])
    (herrors' : t'.errors = d'.errors ++ complaint) : Heard calibrations t t' := by
  have hfewer : (if founder calibrations (declarations d.stage) r = r then complaint
      else []).length ≤ complaint.length := by
    split
    · exact Nat.le_refl _
    · exact Nat.zero_le _
  constructor
  · rw [herrors, herrors', List.length_append, List.length_append]
    exact Nat.add_le_add h.fewer hfewer
  · -- the errors are the same where they were before and this declaration adds the same
    have hsplit : t'.errors = t.errors ↔ d'.errors = d.errors ∧ complaint =
        if founder calibrations (declarations d.stage) r = r then complaint else [] := by
      rw [herrors, herrors']
      constructor
      · intro heq
        have hlength := congrArg List.length heq
        rw [List.length_append, List.length_append] at hlength
        have hsame := h.fewer
        exact List.append_inj heq (by omega)
      · rintro ⟨hsame, hlast⟩
        rw [hsame, ← hlast]
    have hlast : (complaint =
          if founder calibrations (declarations d.stage) r = r then complaint else []) ↔
        (founder calibrations (declarations d.stage) r ≠ r → r.complaint calibrations = none) := by
      rw [hcomplaint]
      split
      · rename_i hself
        exact ⟨fun _ hne => absurd hself hne, fun _ => rfl⟩
      · rename_i hne
        rw [Option.toList_eq_nil_iff]
        exact ⟨fun hnone _ => hnone, fun hnone => hnone hne⟩
    rw [hsplit, hlast, h.same, hrecords]
    simp only [List.forall_mem_append, List.forall_mem_singleton, founder_append_self]
    refine and_congr_left fun _ => forall₂_congr fun q hq => ?_
    rw [founder_append hq]

/-- A record whose declaration is not read, or refused, is recorded the same way both times. -/
theorem turned_of_error (hlenient : setting.config.strict = false)
    (h : Shared setting calibrations d) (hb : Alongside d d') (hh : Heard calibrations d d')
    {e : Error} (hrun : declareRow setting row d = .error e d)
    (hrun' : declareRowAfresh setting row d' = .error e d') (he : e.isFatal = false) :
    ∃ t t', Build.recover setting (declareRow setting row) d = .ok () t ∧
      Build.recover setting (declareRowAfresh setting row) d' = .ok () t' ∧
      Turned setting calibrations row d d' t t' := by
  have hturn := recover_of_error hlenient he hrun
  have hturn' := recover_of_error hlenient he hrun'
  have hrecorded := recorded_of_ok hturn rfl
  have hrecorded' := recorded_of_ok hturn' rfl
  refine ⟨_, _, hturn, hturn', h.noted ⟨rfl, rfl⟩, ⟨hb.stage, hb.names⟩,
    hh.append rfl rfl rfl, ⟨rfl, fun r q _ hgiver => ?_, fun _ => ?_⟩, ?_, ?_⟩
  · obtain ⟨hnone, -⟩ := (ends_iff.mp (declareRow_giver? row d)).2 e d hrun
    rw [hnone] at hgiver
    cases hgiver
  · rw [hrecorded, hrecorded']
  · rw [hrecorded]
  · rw [hrecorded']

/-- What gives a parameter does not pass without one. -/
theorem Admits.not_passes (h : Admits r d t) : t.stage.declared ≠ d.stage.declared := by
  intro heq
  have hfind := Index.find?_set_self d.stage.declared r.name r
  rw [← h.declared, heq, h.fresh] at hfind
  cases hfind

/-- A giver is the declaration of its record. -/
theorem ofRow_of_giver? {q : ParameterRef} (h : giver? setting row d = some (r, q)) :
    ParameterRecord.ofRow row setting.config.telemetry.sizeTagBytes = .ok r := by
  unfold giver? at h
  split at h
  · rename_i r' t hrow _
    rw [hrow]
    split at h
    · cases h
    · cases h
      rfl
  · cases h

/-- A record that is remembered and gives no parameter leaves the errors as they were. -/
theorem turned_of_passed (hh : Heard calibrations d d') (hshared : Shared setting calibrations t)
    (hrun : declareRow setting row d = .ok () t)
    (hrun' : declareRowAfresh setting row d' = .ok () t') (hbeside : Alongside t t')
    (hdeclared : t.stage.declared = d.stage.declared) (herrors : t.errors = d.errors)
    (herrors' : t'.errors = d'.errors) : Turned setting calibrations row d d' t t' := by
  have hnothing : t.errors = d.errors ++ [] := by rw [List.append_nil, herrors]
  have hnothing' : t'.errors = d'.errors ++ [] := by rw [List.append_nil, herrors']
  have hrecorded : recorded setting (declareRow setting) (row, d) = [] :=
    recorded_of_ok (recover_of_ok hrun) hnothing
  have hrecorded' : recorded setting (declareRowAfresh setting) (row, d') = [] :=
    recorded_of_ok (recover_of_ok hrun') hnothing'
  refine ⟨hshared, hbeside, hh.append hdeclared hnothing hnothing',
    ⟨rfl, fun r q e hgiver => ?_, fun _ => ?_⟩, ?_, ?_⟩
  · rcases (declareRow_giver? row d).of_ok hrun with ⟨hnone, -⟩ | ⟨_, -, hadmits⟩
    · rw [hnone] at hgiver
      cases hgiver
    · exact absurd hdeclared hadmits.not_passes
  · rw [hrecorded, hrecorded']
  · rw [hrecorded, hnothing]
  · rw [hrecorded', hnothing']

/-- A record that gives a parameter is complained of both ways, or only where its type is made. -/
theorem turned_of_given
    (hrow : ParameterRecord.ofRow row setting.config.telemetry.sizeTagBytes = .ok r)
    (hh : Heard calibrations d d') (hshared : Shared setting calibrations t)
    (hrun : declareRow setting row d = .ok () t)
    (hrun' : declareRowAfresh setting row d' = .ok () t') (hbeside : Alongside t t')
    (hfresh : d.stage.declared.find? r.name = none)
    (hdeclared : t.stage.declared = d.stage.declared.set r.name r)
    (herrors : t.errors = d.errors ++ (if founder calibrations (declarations d.stage) r = r then
      (r.complaint calibrations).toList else []))
    (herrors' : t'.errors = d'.errors ++ (r.complaint calibrations).toList) :
    Turned setting calibrations row d d' t t' := by
  have hrecorded : recorded setting (declareRow setting) (row, d) =
      if founder calibrations (declarations d.stage) r = r then
        (r.complaint calibrations).toList else [] :=
    recorded_of_ok (recover_of_ok hrun) herrors
  have hrecorded' : recorded setting (declareRowAfresh setting) (row, d') =
      (r.complaint calibrations).toList := recorded_of_ok (recover_of_ok hrun') herrors'
  have hrecords : declarations t.stage = declarations d.stage ++ [r] := by
    unfold declarations
    rw [hdeclared, Index.entries_set_of_find?_eq_none hfresh, List.map_append]
    rfl
  have honly : ∀ r' q, giver? setting row d = some (r', q) → r' = r := by
    intro r' q hgiver
    have hrow' := ofRow_of_giver? hgiver
    rw [hrow] at hrow'
    cases hrow'
    rfl
  obtain ⟨q, hq⟩ : ∃ q, giver? setting row d = some (r, q) := by
    rcases (declareRow_giver? row d).of_ok hrun with ⟨-, hpasses⟩ | ⟨r', hsome, -⟩
    · have hfind := Index.find?_set_self d.stage.declared r.name r
      rw [← hdeclared, hpasses.declared, hfresh] at hfind
      cases hfind
    · exact ⟨_, honly r' _ hsome ▸ hsome⟩
  refine ⟨hshared, hbeside, hh.given rfl hrecords herrors herrors',
    ⟨rfl, fun r' q e hgiver hcomplaint => ?_, fun hnone => ?_⟩, ?_, ?_⟩
  · obtain rfl := honly r' q hgiver
    rw [hrecorded, hrecorded', hcomplaint]
    exact ⟨rfl, rfl⟩
  · rw [hrecorded, hrecorded', hnone r q hq]
    split <;> rfl
  · rw [hrecorded, herrors]
  · rw [hrecorded', herrors']

/-- **A record has its turn both ways**, and its errors compare. -/
theorem turn_together (hlenient : setting.config.strict = false)
    (h : Shared setting calibrations d) (hb : Alongside d d') (hh : Heard calibrations d d')
    (row : Row) :
    ∃ t t', Build.recover setting (declareRow setting row) d = .ok () t ∧
      Build.recover setting (declareRowAfresh setting row) d' = .ok () t' ∧
      Turned setting calibrations row d d' t t' := by
  cases hrow : ParameterRecord.ofRow row setting.config.telemetry.sizeTagBytes with
  | error e =>
      have hmild := ParameterRecord.mild_ofRow row setting.config.telemetry.sizeTagBytes e hrow
      refine turned_of_error hlenient h hb hh (e := e) ?_ ?_ hmild
      · unfold declareRow
        rw [hrow]
        rfl
      · unfold declareRowAfresh
        rw [hrow]
        rfl
  | ok r =>
      have hread : declareRow setting row d = declare setting r d := by
        unfold declareRow
        rw [hrow]
        rfl
      have hread' : declareRowAfresh setting row d' = declareWith (typeAfresh setting) r d' := by
        unfold declareRowAfresh
        rw [hrow]
        rfl
      have htogether := declare_together (r := r) hlenient h hb
      have hshared : Ends (declare setting r) d (fun _ => Shared setting calibrations)
          (Shared setting calibrations) := declare_ends h
      have htame : Tame (declare setting r) := tame_declare r
      generalize hx : declare setting r d = x at htogether
      generalize hx' : declareWith (typeAfresh setting) r d' = x' at htogether
      cases htogether with
      | refused e =>
          exact turned_of_error hlenient h hb hh (hread.trans hx) (hread'.trans hx')
            (htame d e d hx)
      | @passed t t' beside declared errors errors' =>
          have hrun := hread.trans hx
          have hrun' := hread'.trans hx'
          exact ⟨t, t', recover_of_ok hrun, recover_of_ok hrun', turned_of_passed hh
            (hshared.of_ok hx) hrun hrun' beside declared errors errors'⟩
      | @given t t' beside fresh declared errors errors' =>
          have hrun := hread.trans hx
          have hrun' := hread'.trans hx'
          exact ⟨t, t', recover_of_ok hrun, recover_of_ok hrun', turned_of_given hrow hh
            (hshared.of_ok hx) hrun hrun' beside fresh declared errors errors'⟩

/-! ## All records, both ways -/

/-- **Records have their turns both ways**, one after the other. -/
theorem inTurn_together (hlenient : setting.config.strict = false) :
    ∀ (rows : List Row) {d d' : Draft TelemetryState}, Shared setting calibrations d →
      Alongside d d' → Heard calibrations d d' →
      ∃ t t', inTurn setting (declareRow setting) rows d = .ok () t ∧
        inTurn setting (declareRowAfresh setting) rows d' = .ok () t' ∧
        Alongside t t' ∧ Heard calibrations t t' ∧
        List.Forall₂ (Compared setting calibrations) (turns setting (declareRow setting) rows d)
          (turns setting (declareRowAfresh setting) rows d') ∧
        t.errors = d.errors ++ (turns setting (declareRow setting) rows d).flatMap
          (recorded setting (declareRow setting)) ∧
        t'.errors = d'.errors ++ (turns setting (declareRowAfresh setting) rows d').flatMap
          (recorded setting (declareRowAfresh setting))
  | [], d, d', _, hb, hh =>
      ⟨d, d', rfl, rfl, hb, hh, .nil, (List.append_nil _).symm, (List.append_nil _).symm⟩
  | row :: rest, d, d', h, hb, hh => by
      obtain ⟨u, u', hturn, hturn', hturned⟩ := turn_together hlenient h hb hh row
      obtain ⟨t, t', hrun, hrun', hbeside, hheard, hcompared, herrors, herrors'⟩ :=
        inTurn_together hlenient rest hturned.shared hturned.beside hturned.heard
      refine ⟨t, t', inTurn_cons_eq_ok.mpr ⟨u, hturn, hrun⟩,
        inTurn_cons_eq_ok.mpr ⟨u', hturn', hrun'⟩, hbeside, hheard, ?_, ?_, ?_⟩
      · rw [turns_cons hturn, turns_cons hturn']
        exact .cons hturned.compared hcompared
      · rw [turns_cons hturn, List.flatMap_cons, ← List.append_assoc, ← hturned.grows]
        exact herrors
      · rw [turns_cons hturn', List.flatMap_cons, ← List.append_assoc, ← hturned.grows']
        exact herrors'

/-- **Shared types hide what is complained of again**: record by record, the errors of the
declarations are those with every type made anew, save that a declaration that there is something to
complain of is passed over unless it is the first with its key. So no error is missing exactly if
there is something to complain of only with such declarations. -/
theorem loadParameters_hides (hlenient : setting.config.strict = false) {rows : List Row}
    (hrows : Build.rows setting "pcf" = .ok rows) (hnone : d.database.parameters.size = 0)
    (hstage : d.stage = { calibrations := calibrations }) :
    ∃ t t', loadParameters setting d = .ok () t ∧ loadParametersAfresh setting d = .ok () t' ∧
      t'.stage.declared = t.stage.declared ∧
      t.errors = d.errors ++ (turns setting (declareRow setting) rows d).flatMap
        (recorded setting (declareRow setting)) ∧
      t'.errors = d.errors ++ (turns setting (declareRowAfresh setting) rows d).flatMap
        (recorded setting (declareRowAfresh setting)) ∧
      List.Forall₂ (Compared setting calibrations) (turns setting (declareRow setting) rows d)
        (turns setting (declareRowAfresh setting) rows d) ∧
      (t'.errors = t.errors ↔ ∀ r ∈ declarations t.stage,
        founder calibrations (declarations t.stage) r ≠ r → r.complaint calibrations = none) := by
  have hheard : Heard calibrations d d := by
    refine ⟨Nat.le_refl _, ⟨fun _ r hr => ?_, fun _ => rfl⟩⟩
    rw [hstage] at hr
    cases hr
  obtain ⟨t, t', hrun, hrun', hbeside, hh, hcompared, herrors, herrors'⟩ :=
    inTurn_together hlenient rows (shared_start hnone hstage)
      ⟨⟨d.stage.sharedTypes, rfl⟩, rfl⟩ hheard
  obtain ⟨types, hstage'⟩ := hbeside.stage
  refine ⟨t, t', bind_eq_ok.mpr ⟨_, t, scan_eq_ok.mpr ⟨rows, hrows, hrun, rfl⟩, rfl⟩,
    bind_eq_ok.mpr ⟨_, t', scan_eq_ok.mpr ⟨rows, hrows, hrun', rfl⟩, rfl⟩, ?_, herrors, herrors',
    hcompared, hh.same⟩
  rw [hstage']

/-- Two enumerations without labels, declared alike. -/
def unlabelledSetting : Setting :=
  .ofTables [("pcf", "A\t\t\t\t3\t4\t\t\t\tS\tR\n" ++ "B\t\t\t\t3\t4\t\t\t\tS\tR\n")]

/-- What there is to complain of the second of them is hidden. -/
theorem unlabelled_hidden :
    ∃ (d t t' : Draft TelemetryState) (rows : List Row),
      unlabelledSetting.config.strict = false ∧ Build.rows unlabelledSetting "pcf" = .ok rows ∧
      d.database.parameters.size = 0 ∧ d.stage = { calibrations := {} } ∧
      loadParameters unlabelledSetting d = .ok () t ∧
      loadParametersAfresh unlabelledSetting d = .ok () t' ∧ t'.errors ≠ t.errors := by
  have hok : (after? (loadParameters unlabelledSetting)
      ⟨{ name := "MIB" }, [], [], { calibrations := {} }⟩).any (fun t =>
        (declarations t.stage).any fun r => decide
          (founder {} (declarations t.stage) r ≠ r) && (r.complaint {}).isSome) = true := by
    decide +kernel
  obtain ⟨t, hafter, hfacts⟩ := (Option.any_eq_true _ _).mp hok
  obtain ⟨r, hr, hfacts⟩ := List.any_eq_true.mp hfacts
  obtain ⟨hfounder, hsome⟩ := Bool.and_eq_true_iff.mp hfacts
  obtain ⟨_, hrun⟩ := after?_eq_some.mp hafter
  obtain ⟨_, _, hscan, -⟩ := bind_eq_ok.mp hrun
  obtain ⟨rows, hrows⟩ := exists_rows_of_scan hscan
  obtain ⟨u, t', hrun', hafresh, -, -, -, -, hiff⟩ := loadParameters_hides (d :=
    ⟨{ name := "MIB" }, [], [], { calibrations := {} }⟩) rfl hrows rfl rfl
  cases hrun.symm.trans hrun'
  refine ⟨_, t, t', rows, rfl, hrows, rfl, rfl, hrun, hafresh, fun hsame => ?_⟩
  rw [hiff.mp hsame r hr (of_decide_eq_true hfounder)] at hsome
  cases hsome

end Telemetry

end MissionBase
