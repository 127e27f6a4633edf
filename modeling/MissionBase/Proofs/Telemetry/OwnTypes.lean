import MissionBase.Proofs.Telemetry.KeptTypes

/-!
# Types of their own

Types are shared, and two things that belong to one parameter are written into types: its context
calibrators and its limits. Context calibrators go into the type that is there, so the parameter has
to be its only owner; whether it is was decided when its type was made (`Owned`). Limits go into a
copy, which becomes the type of the parameter when it is complete (`Retypes`). So neither of them
shows at any other parameter, and a parameter with none of them means at the end what it meant when
it was added.
-/

namespace MissionBase

open Run

namespace Telemetry

variable {setting : Setting} {compiler : Option FormulaCompiler} {d t : Draft TelemetryState}

/-! ## Who owns a type -/

/-- A parameter with context rules shares its type with no other parameter, neither with one that is
there nor, through the shared types, with one to come. -/
structure Owned (d : Draft TelemetryState) : Prop where
  types : ∀ q p, d.database.parameters.get? q = some p →
    p.type.index < d.database.parameterTypes.size
  shared : ∀ e ∈ d.stage.sharedTypes.entries, e.2.index < d.database.parameterTypes.size
  alone : ∀ q p, d.database.parameters.get? q = some p →
    d.stage.calibrations.hasContext p.name = true →
    ∀ q' p', d.database.parameters.get? q' = some p' → p'.type = p.type → q' = q
  unshared : ∀ q p, d.database.parameters.get? q = some p →
    d.stage.calibrations.hasContext p.name = true →
    ∀ e ∈ d.stage.sharedTypes.entries, e.2 ≠ p.type

/-- A type that a parameter of some name may have without taking it from its owner. -/
structure Fits (d : Draft TelemetryState) (name : String) (ref : ParameterTypeRef) : Prop where
  lt_size : ref.index < d.database.parameterTypes.size
  unowned : ∀ q p, d.database.parameters.get? q = some p →
    d.stage.calibrations.hasContext p.name = true → p.type ≠ ref
  fresh : d.stage.calibrations.hasContext name = true →
    (∀ q p, d.database.parameters.get? q = some p → p.type ≠ ref) ∧
      ∀ e ∈ d.stage.sharedTypes.entries, e.2 ≠ ref

/-- Where there are no parameters and no types are kept, there is nothing to share. -/
theorem owned_start (hnone : d.database.parameters.size = 0)
    (hshared : d.stage.sharedTypes = {}) : Owned d := by
  have hempty (q : ParameterRef) (p : Parameter) : d.database.parameters.get? q ≠ some p := by
    intro hp
    have hlt := Catalog.lt_size_of_get? hp
    rw [hnone] at hlt
    exact Nat.not_lt_zero _ hlt
  refine ⟨fun q p hp => absurd hp (hempty q p), fun e he => ?_,
    fun q p hp => absurd hp (hempty q p), fun q p hp => absurd hp (hempty q p)⟩
  rw [hshared] at he
  cases he

/-- Types may be added, and anything may change about parameters but their names and types. -/
theorem Owned.congr (h : Owned d)
    (hsize : d.database.parameterTypes.size ≤ t.database.parameterTypes.size)
    (hparameters : ∀ q p', t.database.parameters.get? q = some p' →
      ∃ p, d.database.parameters.get? q = some p ∧ p'.name = p.name ∧ p'.type = p.type)
    (hshared : t.stage.sharedTypes = d.stage.sharedTypes)
    (hcalibrations : t.stage.calibrations = d.stage.calibrations) : Owned t where
  types := fun q p' hp' => by
    obtain ⟨p, hp, -, htype⟩ := hparameters q p' hp'
    rw [htype]
    exact Nat.lt_of_lt_of_le (h.types q p hp) hsize
  shared := fun e he => by
    rw [hshared] at he
    exact Nat.lt_of_lt_of_le (h.shared e he) hsize
  alone := fun q p' hp' hcontext q₁ p₁' hp₁' heq => by
    obtain ⟨p, hp, hname, htype⟩ := hparameters q p' hp'
    obtain ⟨p₁, hp₁, -, htype₁⟩ := hparameters q₁ p₁' hp₁'
    rw [hcalibrations, hname] at hcontext
    exact h.alone q p hp hcontext q₁ p₁ hp₁ (by rw [← htype₁, heq, htype])
  unshared := fun q p' hp' hcontext e he => by
    obtain ⟨p, hp, hname, htype⟩ := hparameters q p' hp'
    rw [hcalibrations, hname] at hcontext
    rw [hshared] at he
    rw [htype]
    exact h.unshared q p hp hcontext e he

/-- What touches neither types nor parameters. -/
theorem Owned.same (h : Owned d) (htypes : t.database.parameterTypes = d.database.parameterTypes)
    (hparameters : t.database.parameters = d.database.parameters)
    (hshared : t.stage.sharedTypes = d.stage.sharedTypes)
    (hcalibrations : t.stage.calibrations = d.stage.calibrations) : Owned t :=
  h.congr (by rw [htypes]) (fun _ p' hp' => ⟨p', by rw [← hparameters]; exact hp', rfl, rfl⟩)
    hshared hcalibrations

/-- A parameter whose type fits it. -/
theorem Owned.push (h : Owned d) {p : Parameter} (hfits : Fits d p.name p.type)
    (htypes : t.database.parameterTypes = d.database.parameterTypes)
    (hparameters : t.database.parameters = d.database.parameters.push p)
    (hshared : t.stage.sharedTypes = d.stage.sharedTypes)
    (hcalibrations : t.stage.calibrations = d.stage.calibrations) : Owned t where
  types := fun q p₁ hp₁ => by
    rw [hparameters] at hp₁
    rw [htypes]
    rcases Catalog.get?_push_eq_some hp₁ with hold | ⟨-, rfl⟩
    · exact h.types q p₁ hold
    · exact hfits.lt_size
  shared := fun e he => by
    rw [hshared] at he
    rw [htypes]
    exact h.shared e he
  alone := fun q p₁ hp₁ hcontext q₂ p₂ hp₂ heq => by
    rw [hparameters] at hp₁ hp₂
    rw [hcalibrations] at hcontext
    rcases Catalog.get?_push_eq_some hp₁ with hold₁ | ⟨rfl, rfl⟩
    · rcases Catalog.get?_push_eq_some hp₂ with hold₂ | ⟨rfl, rfl⟩
      · exact h.alone q p₁ hold₁ hcontext q₂ p₂ hold₂ heq
      · exact absurd heq.symm (hfits.unowned q p₁ hold₁ hcontext)
    · rcases Catalog.get?_push_eq_some hp₂ with hold₂ | ⟨rfl, rfl⟩
      · exact absurd heq ((hfits.fresh hcontext).1 q₂ p₂ hold₂)
      · rfl
  unshared := fun q p₁ hp₁ hcontext e he => by
    rw [hparameters] at hp₁
    rw [hcalibrations] at hcontext
    rw [hshared] at he
    rcases Catalog.get?_push_eq_some hp₁ with hold | ⟨-, rfl⟩
    · exact h.unshared q p₁ hold hcontext e he
    · exact (hfits.fresh hcontext).2 e he

/-- A type that is yet to come belongs to no parameter. -/
theorem Owned.type_ne_next (h : Owned d) {q : ParameterRef} {p : Parameter}
    (hp : d.database.parameters.get? q = some p) : p.type ≠ d.database.parameterTypes.next := by
  intro heq
  have hlt := h.types q p hp
  rw [heq] at hlt
  exact Nat.lt_irrefl _ hlt

/-- A new type is shared under its key, unless it is for a parameter with context rules; either way
it fits that parameter. -/
theorem Owned.addType (h : Owned d) {x : ParameterType} {name : String} (key : TypeKey)
    (htypes : t.database.parameterTypes = d.database.parameterTypes.push x)
    (hparameters : t.database.parameters = d.database.parameters)
    (hshared : t.stage.sharedTypes = if d.stage.calibrations.hasContext name then
      d.stage.sharedTypes else d.stage.sharedTypes.set key d.database.parameterTypes.next)
    (hcalibrations : t.stage.calibrations = d.stage.calibrations) :
    Owned t ∧ Fits t name d.database.parameterTypes.next := by
  have hsize : t.database.parameterTypes.size = d.database.parameterTypes.size + 1 := by
    rw [htypes, Catalog.size_push]
  have hentry (e : TypeKey × ParameterTypeRef) (he : e ∈ t.stage.sharedTypes.entries) :
      e ∈ d.stage.sharedTypes.entries ∨ e.2 = d.database.parameterTypes.next := by
    rw [hshared] at he
    split at he
    · exact .inl he
    · rcases Index.mem_changeEntries he with hold | ⟨-, hlast⟩ | ⟨_, -, hlast⟩
      · exact .inl hold
      · exact .inr hlast
      · exact .inr hlast
  have howned : Owned t := {
    types := fun q p hp => by
      rw [hparameters] at hp
      rw [hsize]
      exact Nat.lt_succ_of_lt (h.types q p hp)
    shared := fun e he => by
      rw [hsize]
      rcases hentry e he with hold | hlast
      · exact Nat.lt_succ_of_lt (h.shared e hold)
      · rw [hlast]
        exact Nat.lt_succ_self _
    alone := fun q p hp hcontext => by
      rw [hparameters] at hp ⊢
      rw [hcalibrations] at hcontext
      exact h.alone q p hp hcontext
    unshared := fun q p hp hcontext e he => by
      rw [hparameters] at hp
      rw [hcalibrations] at hcontext
      rcases hentry e he with hold | hlast
      · exact h.unshared q p hp hcontext e hold
      · rw [hlast]
        exact (h.type_ne_next hp).symm }
  have hfits : Fits t name d.database.parameterTypes.next := {
    lt_size := by
      rw [hsize]
      exact Nat.lt_succ_self _
    unowned := fun q p hp _ => by
      rw [hparameters] at hp
      exact h.type_ne_next hp
    -- with context rules the shared types are those from before
    fresh := fun hcontext => by
      rw [hcalibrations] at hcontext
      rw [hparameters, hshared, if_pos hcontext]
      refine ⟨fun _ _ hp => h.type_ne_next hp, fun e he heq => ?_⟩
      have hlt := h.shared e he
      rw [heq] at hlt
      exact Nat.lt_irrefl _ hlt }
  exact ⟨howned, hfits⟩

/-- **The type of a declaration fits it.** -/
theorem typeFor_fits {r : ParameterRecord} (h : Owned d) :
    Ends (typeFor setting r) d (fun ref t => Owned t ∧ Fits t r.name ref) Owned := by
  refine ends_typeFor (fun ref hplain hfind => ?_) (fun u hu => ?_) fun type name t _ _ => ?_
  · -- a shared type belongs to no parameter with context rules
    have hmem := Index.mem_of_find? hfind
    refine ⟨h, h.shared _ hmem, fun q p hp hcontext heq => ?_, fun hcontext => ?_⟩
    · exact h.unshared q p hp hcontext _ hmem heq.symm
    · cases hplain.symm.trans hcontext
  · exact h.same (by rw [hu.database]) (by rw [hu.database]) (by rw [hu.stage]) (by rw [hu.stage])
  · exact h.addType (TypeKey.ofRecord r) rfl rfl (typeKept_sharedTypes _ _ _)
      (typeKept_calibrations _ _ _)

/-- **A declaration takes no type from its owner.** -/
theorem declare_owned {r : ParameterRecord} (h : Owned d) :
    Ends (declare setting r) d (fun _ => Owned) Owned :=
  ends_declare h (fun _ _ => h.same rfl rfl rfl rfl) fun _ =>
    ends_addDeclared (typeFor_fits h) (fun _ _ ht _ => ht.1) fun ref _ ht _ =>
      ht.1.push (p := r.parameter ref) ht.2 rfl rfl rfl rfl

/-! ## Context calibrators -/

/-- A step that changes nothing but types of parameters with context rules. -/
structure Recalibrates (d t : Draft TelemetryState) : Prop where
  parameters : t.database.parameters = d.database.parameters
  stage : t.stage = d.stage
  types : ∀ r, t.database.parameterTypes.get? r ≠ d.database.parameterTypes.get? r →
    ∃ q p, d.database.parameters.get? q = some p ∧ p.type = r ∧
      d.stage.calibrations.hasContext p.name = true

instance : Std.Refl Recalibrates := ⟨fun _ => ⟨rfl, rfl, fun _ h => absurd rfl h⟩⟩

instance : IsTrans (Draft TelemetryState) Recalibrates := by
  refine ⟨fun d t u h h' => ⟨h'.parameters.trans h.parameters, h'.stage.trans h.stage,
    fun r hne => ?_⟩⟩
  by_cases heq : u.database.parameterTypes.get? r = t.database.parameterTypes.get? r
  · exact h.types r (heq ▸ hne)
  · obtain ⟨q, p, hp, htype, hcontext⟩ := h'.types r heq
    rw [h.parameters] at hp
    rw [h.stage] at hcontext
    exact ⟨q, p, hp, htype, hcontext⟩

/-- The type of a number with context rules has got the calibrators of the rules. -/
def Calibrates (name : String) (d t : Draft TelemetryState) : Prop :=
  ∃ q p calibrators, d.database.parameters.find? name = some q ∧
    d.database.parameters.get? q = some p ∧ d.stage.calibrations.hasContext name = true ∧
    (∀ r, d.stage.declared.find? name = some r → r.category = 'N') ∧
    t = { d with database := d.database.changeParameterType p.type fun type =>
      type.calibrated (.contexts calibrators) }

/-- Context rules change the type of their parameter or nothing. -/
theorem attachContexts_ends (name : String) (d : Draft TelemetryState) :
    Ends (attachContexts name) d (fun _ t => t = d ∨ Calibrates name d t) (· = d) := by
  unfold attachContexts
  refine Ends.bind (ends_stage (Ends.bind (ends_database ?_)))
  dsimp only
  cases hrules : d.stage.calibrations.contextRules name with
  | nil => exact .inl rfl
  | cons first rest =>
      refine Ends.ite (fun _ => .inl rfl) fun hnumber => ?_
      cases hfind : d.database.parameters.find? name with
      | none => exact ends_throw rfl
      | some q =>
          refine Ends.bind (ends_lift (fun calibrators _ => ?_) rfl)
          obtain ⟨p, hp, -⟩ := Catalog.exists_of_find? hfind
          rw [hp]
          refine .inr ⟨q, p, calibrators, hfind, hp, ?_, fun r hr => ?_, rfl⟩
          · rw [Registry.hasContext, hrules]
            rfl
          · rw [hr] at hnumber
            simpa using hnumber

theorem Calibrates.recalibrates {name : String} (h : Calibrates name d t) : Recalibrates d t := by
  obtain ⟨q, p, calibrators, hfind, hp, hcontext, -, rfl⟩ := h
  refine ⟨rfl, rfl, fun r hne => ⟨q, p, hp, ?_, ?_⟩⟩
  · -- a change at one place shows at no other
    by_contra hr
    refine hne (Catalog.get?_modify_of_ne _ (fun hindex => hr ?_) _)
    cases r
    exact congrArg Ref.mk hindex
  · obtain ⟨p', hp', hname⟩ := Catalog.exists_of_find? hfind
    cases hp.symm.trans hp'
    exact (congrArg _ hname).trans hcontext

theorem attachContexts_recalibrates (name : String) : Steps Recalibrates (attachContexts name) := by
  refine fun d => (attachContexts_ends name d).mono (fun _ t _ ht => ?_) fun t ht => ?_
  · rcases ht with rfl | ht
    · exact Std.Refl.refl t
    · exact ht.recalibrates
  · rw [ht]
    exact Std.Refl.refl d

theorem attachContextCalibrators_recalibrates :
    Steps Recalibrates (attachContextCalibrators setting) := by
  unfold attachContextCalibrators
  refine steps_stage.bind fun state => steps_forM (fun name => ?_) _
  refine (attachContexts_recalibrates name).recover fun _ _ => ?_
  exact ⟨rfl, rfl, fun _ h => absurd rfl h⟩

/-! ## Limits -/

/-- A record whose checks are passed over, with a limitation noted: that of a status that is checked
for consistency, or of a truth value. -/
def LimitRecord.PassedOver (r : LimitRecord) (d : Draft TelemetryState) : Prop :=
  (r.checkCount = 1 ∧
    ((d.stage.declared.find? r.parameter).map (·.statusChecked)).getD false = true) ∨
  ((d.stage.limitChecks.find? r.parameter).isSome = true ∧ r.isValueCoded = true ∧
    ∃ q type, d.database.parameters.find? r.parameter = some q ∧
      d.database.typeOf? q = some type ∧ type.value.isBoolean = true)

/-- A parameter has got a copy of its type that is new, with another name and other alarms. Nothing
else has changed. -/
def Retypes (db db' : Database) (q : ParameterRef) : Prop :=
  ∃ x name alarm, db.typeOf? q = some x ∧ db.parameterTypes.has name = false ∧
    db' = { db with
      parameterTypes := db.parameterTypes.push { x with name := name, alarm := alarm }
      parameters := db.parameters.modify q fun p => { p with type := db.parameterTypes.next } }

theorem withCheck_alarm {db : Database} {coding : LimitCoding} {violations : Nat}
    {type type' : ParameterType} {check : LimitCheck}
    (h : withCheck db coding violations type check = .ok type') :
    ∃ alarm, type' = { type with alarm := alarm } := by
  cases withCheck_eq_ok h with
  | range => exact ⟨_, rfl⟩
  | label => exact ⟨_, rfl⟩
  | unlabelled => exact ⟨type.alarm, rfl⟩

/-- The checks change nothing of a type but its alarms, and nothing of the database. -/
theorem withChecks_ends {coding : LimitCoding} {violations : Nat} {checks : List LimitCheck}
    {type : ParameterType} :
    Ends (withChecks coding violations checks type) d
      (fun type' t => Noted d t ∧ ∃ alarm, type' = { type with alarm := alarm }) (Noted d) := by
  unfold withChecks
  induction checks generalizing type d with
  | nil => exact ends_pure ⟨Std.Refl.refl d, type.alarm, rfl⟩
  | cons check rest ih =>
      rw [List.foldlM_cons]
      have hthen {t : Draft TelemetryState} {type₁ : ParameterType} (ht : Noted d t)
          (htype₁ : ∃ alarm, type₁ = { type with alarm := alarm }) :
          Ends (withChecks coding violations rest type₁) t
            (fun type' u => Noted d u ∧ ∃ alarm, type' = { type with alarm := alarm })
            (Noted d) := by
        obtain ⟨alarm₁, rfl⟩ := htype₁
        exact ih.mono (fun _ _ _ hu => ⟨IsTrans.trans _ _ _ ht hu.1, hu.2⟩)
          fun _ hu => IsTrans.trans _ _ _ ht hu
      refine Ends.bind ?_
      split
      · refine Ends.bind (ends_database (ends_lift (fun type₁ h => ?_) (Std.Refl.refl d)))
        exact hthen (Std.Refl.refl d) (withCheck_alarm h)
      · refine Ends.bind (ends_limitation fun u hdb hstage => ?_)
        exact ends_pure (hthen ⟨hdb, hstage⟩ ⟨type.alarm, rfl⟩)

/-- **A parameter gets a complete copy of its type, or nothing is changed.** -/
theorem attachChecks_ends {row : Row} {r : LimitRecord} {q : ParameterRef} {coding : LimitCoding}
    {checks : List LimitCheck} {type : ParameterType} (htype : d.database.typeOf? q = some type) :
    Ends (attachChecks row r q coding checks type) d
      (fun _ t => t.stage = d.stage ∧ Retypes d.database t.database q) (Noted d) := by
  unfold attachChecks
  refine Ends.bind (ends_database ?_)
  dsimp only
  refine Ends.bind (withChecks_ends.mono (fun alarmed t _ ht => ?_) fun _ ht => ht)
  obtain ⟨hnoted, alarm, rfl⟩ := ht
  refine Ends.bind (ends_add (fun ref db hadd => ?_) hnoted)
  obtain ⟨hfree, hplace⟩ := Database.addParameterType_eq_ok.mp hadd
  obtain ⟨rfl, rfl⟩ := Prod.mk.inj hplace
  rw [hnoted.database] at hfree
  refine ⟨hnoted.stage, type, _, alarm, htype, hfree, ?_⟩
  rw [hnoted.database]
  rfl

/-- **The ways a record of limits takes**: it fails before anything is changed, it is passed over
with one limitation noted, or the checks of its parameter are attached. -/
theorem attachLimits_cases {row : Row} {Q : Unit → Draft TelemetryState → Prop}
    {E : Draft TelemetryState → Prop} (hfails : E d)
    (hover : ∀ r q m, LimitRecord.ofRow row = .ok r →
      d.database.parameters.find? r.parameter = some q → r.PassedOver d →
      Q () { d with warnings := d.warnings ++ [m] })
    (hattach : ∀ r q checks type coding, LimitRecord.ofRow row = .ok r →
      d.database.parameters.find? r.parameter = some q → ¬ r.PassedOver d →
      d.stage.limitChecks.find? r.parameter = some checks → d.database.typeOf? q = some type →
      codingFor? r type.value = some coding →
      Ends (attachChecks row r q coding checks type) d Q E) :
    Ends (attachLimits row) d Q E := by
  unfold attachLimits
  refine Ends.bind (ends_lift (fun r hr => ?_) hfails)
  refine Ends.bind (ends_stage (Ends.bind (ends_database ?_)))
  dsimp only
  split
  · exact ends_throw hfails
  · rename_i q hfind
    split
    · rename_i hstatus
      exact hover r q _ hr hfind (.inl hstatus)
    · rename_i hstatus
      split
      · rename_i checks type hchecks htype
        split
        · rename_i hboolean
          rw [Bool.and_eq_true] at hboolean
          refine hover r q _ hr hfind (.inr ⟨by rw [hchecks]; rfl, hboolean.1, ?_⟩)
          exact ⟨q, type, hfind, htype, hboolean.2⟩
        · rename_i hboolean
          -- neither reason to pass it over is left
          have hdone : ¬ r.PassedOver d := by
            rintro (h | ⟨-, hcoded, q', type', hfind', htype', hvalue⟩)
            · exact hstatus h
            · rw [hfind] at hfind'
              cases hfind'
              rw [htype] at htype'
              cases htype'
              exact hboolean (by rw [hcoded, hvalue]; rfl)
          split
          · rename_i coding hcoding
            exact hattach r q checks type coding hr hfind hdone hchecks htype hcoding
          · exact ends_throw hfails
      · exact ends_throw hfails

/-- **What a record of limits does**: it fails and changes nothing, or it is passed over with one
limitation noted, or its parameter gets a copy of its type. -/
theorem attachLimits_ends {row : Row} :
    Ends (attachLimits row) d
      (fun _ t => t.stage = d.stage ∧ ∃ r q, LimitRecord.ofRow row = .ok r ∧
        d.database.parameters.find? r.parameter = some q ∧
        (r.PassedOver d ∧ t.database = d.database ∧ (∃ m, t.warnings = d.warnings ++ [m]) ∨
          ¬ r.PassedOver d ∧ Retypes d.database t.database q))
      (Noted d) := by
  refine attachLimits_cases (Std.Refl.refl d) (fun r q m hr hfind hover => ?_)
    fun r q checks type coding hr hfind hdone _ htype _ => ?_
  · exact ⟨rfl, r, q, hr, hfind, .inl ⟨hover, rfl, m, rfl⟩⟩
  · refine (attachChecks_ends htype).mono (fun _ t _ ht => ?_) fun _ ht => ht
    exact ⟨ht.1, r, q, hr, hfind, .inr ⟨hdone, ht.2⟩⟩

/-! ## The whole stage -/

/-- What the stage does before it attaches context calibrators. -/
def beforeContexts (setting : Setting) (compiler : Option FormulaCompiler) :
    TelemetryBuild Unit := do
  Build.within (fun _ => ({} : Registry)) (fun s r => { s with calibrations := r })
    (Registry.loadTelemetry setting)
  loadParameters setting
  compileSynthetic setting compiler

/-- What the stage does between context calibrators and limits. -/
def beforeLimits (setting : Setting) : TelemetryBuild Unit := do
  loadPackets setting
  loadFixedLayout setting
  loadVariableLayout setting
  let _ ← Build.scan setting "ocp" fun row => do
    let check ← LimitCheck.ofRow row
    let name ← row.text 0
    Build.changeStage fun s => { s with limitChecks := s.limitChecks.append name check }
  Build.changeStage fun s => { s with limitChecks := s.limitChecks.sortLists (·.position) }

/-- The limits of some records. -/
def attachAll (setting : Setting) (rows : List Row) : TelemetryBuild Unit :=
  rows.forM fun row => Build.recover setting (attachLimits row)

/-- The stage attaches context calibrators and limits in between and at the end. -/
theorem buildTelemetry_eq_ok {d' : Draft TelemetryState} :
    buildTelemetry setting compiler d = .ok () d' ↔ ∃ d₁ d₂ d₃ rows,
      beforeContexts setting compiler d = .ok () d₁ ∧
      attachContextCalibrators setting d₁ = .ok () d₂ ∧
      beforeLimits setting d₂ = .ok () d₃ ∧
      Build.rows setting "ocf" = .ok rows ∧ attachAll setting rows d₃ = .ok () d' := by
  have hscan (d₃ : Draft TelemetryState) :
      (do let _ ← Build.scan setting "ocf" attachLimits) d₃ = .ok () d' ↔
        ∃ rows, Build.rows setting "ocf" = .ok rows ∧ attachAll setting rows d₃ = .ok () d' := by
    unfold Build.scan attachAll
    simp only [bind_eq_ok, lift_eq_ok, pure_eq_ok]
    constructor
    · rintro ⟨_, u, ⟨rows, _, ⟨hrows, rfl⟩, _, _, hrun, _, rfl⟩, _, rfl⟩
      exact ⟨rows, hrows, hrun⟩
    · rintro ⟨rows, hrows, hrun⟩
      exact ⟨_, _, ⟨rows, _, ⟨hrows, rfl⟩, _, _, hrun, rfl, rfl⟩, trivial, rfl⟩
  have hstage : buildTelemetry setting compiler = (do
      beforeContexts setting compiler
      attachContextCalibrators setting
      beforeLimits setting
      let _ ← Build.scan setting "ocf" attachLimits) := by
    unfold buildTelemetry beforeContexts beforeLimits loadLimits
    simp only [bind_assoc]
  rw [hstage, bind_eq_ok]
  constructor
  · rintro ⟨_, d₁, hbefore, hrun⟩
    obtain ⟨_, d₂, hcontexts, hrun⟩ := bind_eq_ok.mp hrun
    obtain ⟨_, d₃, hbetween, hrun⟩ := bind_eq_ok.mp hrun
    obtain ⟨rows, hrows, hrun⟩ := (hscan d₃).mp hrun
    exact ⟨d₁, d₂, d₃, rows, hbefore, hcontexts, hbetween, hrows, hrun⟩
  · rintro ⟨d₁, d₂, d₃, rows, hbefore, hcontexts, hbetween, hrows, hrun⟩
    refine ⟨(), d₁, hbefore, bind_eq_ok.mpr ⟨(), d₂, hcontexts, bind_eq_ok.mpr ?_⟩⟩
    exact ⟨(), d₃, hbetween, (hscan d₃).mpr ⟨rows, hrows, hrun⟩⟩

/-- **Where declarations have been read, types with context rules have one owner.** -/
theorem beforeContexts_owned (hblank : d.database.Blank) (hstage : d.stage = {}) :
    Ends (beforeContexts setting compiler) d (fun _ => Owned) Owned := by
  have hstart (u : Draft TelemetryState) (hdb : u.database = d.database)
      (hshared : u.stage.sharedTypes = {}) : Owned u := by
    refine owned_start ?_ hshared
    rw [hdb, hblank]
    rfl
  have hrecord (u : Draft TelemetryState) (e : Error) (hu : Owned u) :
      Owned { u with errors := u.errors ++ [e] } := hu.same rfl rfl rfl rfl
  unfold beforeContexts
  refine Ends.bind (Ends.within ((Registry.loadTelemetry_sameDatabase setting _).mono
    (fun _ u _ hu => ?_) fun u hu => hstart _ hu (by rw [hstage])))
  have h₁ := hstart ⟨u.database, u.errors, u.warnings, { d.stage with calibrations := u.stage }⟩ hu
    (by rw [hstage])
  refine Ends.bind (Ends.mono (Q := fun _ => Owned) (E := Owned) ?_ (fun _ d₂ _ h₂ => ?_)
    fun _ h₂ => h₂)
  · exact loadParameters_keeps hrecord (fun _ _ ht => declare_owned ht) h₁
  · unfold compileSynthetic
    refine Ends.bind (ends_stage ?_)
    split
    · exact h₂
    · exact h₂.same rfl rfl rfl rfl
    · refine ends_forM_mem (fun name _ t ht => ?_) h₂
      split
      · -- a synthetic parameter gets an algorithm, and its type stays
        refine Ends.recover hrecord ?_
        unfold addSynthetic
        refine Ends.bind (ends_lift (fun source _ => Ends.bind (ends_database ?_)) ht)
        refine Ends.bind (ends_lift (fun algorithm _ => Ends.bind (ends_add ?_ ht)) ht)
        intro ref db hadd
        obtain ⟨-, heq⟩ := Catalog.map_add_eq_ok.mp hadd
        cases heq
        exact ht.same rfl rfl rfl rfl
      · exact ht

/-- A record of limits takes effect on a parameter: it is read, it is not passed over, and its
checks are attached. -/
def TakesEffect (row : Row) (d : Draft TelemetryState) (q : ParameterRef) : Prop :=
  ∃ r t, LimitRecord.ofRow row = .ok r ∧ d.database.parameters.find? r.parameter = some q ∧
    ¬ r.PassedOver d ∧ attachLimits row d = .ok () t

/-- A record of limits has its turn where those before it have been handled. -/
def Turn (setting : Setting) (rows : List Row) (d : Draft TelemetryState) (row : Row)
    (t : Draft TelemetryState) : Prop :=
  ∃ before after, rows = before ++ row :: after ∧ attachAll setting before d = .ok () t

theorem turn_head {row : Row} {rest : List Row} : Turn setting (row :: rest) d row d :=
  ⟨[], rest, rfl, rfl⟩

theorem Turn.cons {row row' : Row} {rest : List Row} {u t : Draft TelemetryState}
    (hrun : Build.recover setting (attachLimits row) d = .ok () u)
    (h : Turn setting rest u row' t) : Turn setting (row :: rest) d row' t := by
  obtain ⟨before, after, rfl, hbefore⟩ := h
  exact ⟨row :: before, after, rfl, bind_eq_ok.mpr ⟨(), u, hrun, hbefore⟩⟩

/-- A parameter that has got a copy of its type has this copy. -/
theorem typeOf?_retyped {db : Database} {q : ParameterRef} {x : ParameterType}
    (hx : db.typeOf? q = some x) (copy : ParameterType) :
    Database.typeOf? { db with
      parameterTypes := db.parameterTypes.push copy
      parameters := db.parameters.modify q fun p => { p with type := db.parameterTypes.next } } q =
      some copy := by
  obtain ⟨p, hp, -⟩ := Option.bind_eq_some_iff.mp hx
  unfold Database.typeOf?
  rw [Catalog.get?_modify_self, hp]
  exact Catalog.get?_push_next _ _

/-- A copy for one parameter shows at no other. -/
theorem Retypes.typeOf? {db db' : Database} {q q' : ParameterRef} (h : Retypes db db' q)
    (hne : q ≠ q') {x : ParameterType} (hx : db.typeOf? q' = some x) :
    db'.typeOf? q' = some x := by
  obtain ⟨y, name, alarm, -, -, rfl⟩ := h
  obtain ⟨p, hp, htype⟩ := Option.bind_eq_some_iff.mp hx
  refine Option.bind_eq_some_iff.mpr ⟨p, ?_, Catalog.get?_push_of_some htype _⟩
  refine (Catalog.get?_modify_of_ne _ (fun hindex => hne ?_) _).trans hp
  cases q
  cases q'
  exact congrArg Ref.mk hindex

/-- **Records that take no effect on a parameter leave its type alone.** -/
theorem attachAll_typeOf? {rows : List Row} {d' : Draft TelemetryState} {q : ParameterRef}
    {x : ParameterType} (hrun : attachAll setting rows d = .ok () d')
    (hnone : ∀ row t, Turn setting rows d row t → ¬ TakesEffect row t q)
    (hx : d.database.typeOf? q = some x) : d'.database.typeOf? q = some x := by
  induction rows generalizing d with
  | nil =>
      obtain ⟨-, rfl⟩ := pure_eq_ok.mp hrun
      exact hx
  | cons row rest ih =>
      obtain ⟨_, u, hrow, hrest⟩ := bind_eq_ok.mp hrun
      have hends : Ends (Build.recover setting (attachLimits row)) d
          (fun _ u => u.database.typeOf? q = some x) fun u => u.database.typeOf? q = some x := by
        refine Ends.recover (fun _ _ h => h) ((attachLimits_ends).mono (fun _ t hok ht => ?_)
          fun t ht => ?_)
        · obtain ⟨-, r, q', hr, hfind, ⟨-, hdb, -⟩ | ⟨hdone, hretypes⟩⟩ := ht
          · rw [hdb]
            exact hx
          · refine hretypes.typeOf? ?_ hx
            rintro rfl
            exact hnone row d turn_head ⟨r, t, hr, hfind, hdone, hok⟩
        · rw [ht.database]
          exact hx
      exact ih hrest (fun row' t ht => hnone row' t (ht.cons hrow)) (hends.of_ok hrow)

/-- The types of parameters are there. -/
theorem type_lt_size (hd : upkeep.Sound d) {q : ParameterRef} {p : Parameter}
    (hp : d.database.parameters.get? q = some p) :
    p.type.index < d.database.parameterTypes.size := by
  obtain ⟨-, hparameters, -⟩ := Database.resolves_database.mp hd.wired.closed
  exact Database.resolves_ref.mp (Database.resolves_catalog.mp hparameters q p hp)

/-- A new type is that of the parameter it was made for, and of no other. -/
theorem Retypes.only {t : Draft TelemetryState} {db' : Database} {q q' : ParameterRef}
    {p' : Parameter} (h : Retypes t.database db' q) (ht : upkeep.Sound t)
    (hp' : db'.parameters.get? q' = some p') (htype : p'.type = t.database.parameterTypes.next) :
    q' = q := by
  obtain ⟨x, name, alarm, -, -, rfl⟩ := h
  obtain ⟨p, hp, ⟨rfl, -⟩ | ⟨-, rfl⟩⟩ := Catalog.get?_modify_eq_some hp'
  · rfl
  · have hlt := type_lt_size ht hp
    rw [htype] at hlt
    exact absurd hlt (Nat.lt_irrefl _)

theorem walk_attachAll (rows : List Row) : Steps (Walk setting compiler) (attachAll setting rows) :=
  steps_forM (fun row => (steps_of_leads fun _ _ h => .single (.limits row h)).recover
    fun _ e => .single (.adding (.recorded e))) rows

theorem additions_beforeContexts :
    Steps (Additions setting compiler) (beforeContexts setting compiler) := by
  unfold beforeContexts
  refine (additions_unit fun _ _ => .calibrations).bind fun _ => ?_
  exact additions_loadParameters.bind fun _ => additions_compileSynthetic

theorem additions_beforeLimits (hd : upkeep.Sound d) :
    Ends (beforeLimits setting) d (fun _ => Additions setting compiler d)
      (Additions setting compiler d) := by
  unfold beforeLimits
  refine Ends.bind ((additions_loadPackets hd).mono (fun _ d₁ _ h₁ => ?_) fun _ h₁ => h₁)
  refine additions_loadFixedLayout.andThen h₁ fun _ d₂ h₂ => ?_
  refine additions_loadVariableLayout.andThen h₂ fun _ d₃ h₃ => ?_
  refine (additions_scan fun row _ _ => .check row).andThen h₃ fun _ d₄ h₄ => ?_
  have hsorted : Steps (Additions setting compiler) (Build.changeStage fun s : TelemetryState =>
      { s with limitChecks := s.limitChecks.sortLists (·.position) }) :=
    additions_unit fun _ _ => .sorted
  exact (hsorted d₄).mono (fun _ _ _ => h₄.trans) fun _ => h₄.trans

/-- The types that differ afterwards are those of single parameters with context rules. -/
def ChangesOwned (d t : Draft TelemetryState) : Prop :=
  t.database.parameters = d.database.parameters ∧
    ∀ r, t.database.parameterTypes.get? r ≠ d.database.parameterTypes.get? r →
      ∃ q p, d.database.parameters.get? q = some p ∧ p.type = r ∧
        d.stage.calibrations.hasContext p.name = true ∧
        ∀ q' p', d.database.parameters.get? q' = some p' → p'.type = r → q' = q

theorem attachContextCalibrators_changesOwned (h : Owned d) :
    Ends (attachContextCalibrators setting) d (fun _ => ChangesOwned d) (ChangesOwned d) := by
  have howned (t : Draft TelemetryState) (ht : Recalibrates d t) : ChangesOwned d t := by
    refine ⟨ht.parameters, fun r hne => ?_⟩
    obtain ⟨q, p, hp, rfl, hcontext⟩ := ht.types r hne
    exact ⟨q, p, hp, rfl, hcontext, h.alone q p hp hcontext⟩
  exact (attachContextCalibrators_recalibrates d).mono (fun _ t _ => howned t) howned

/-- A type stays what it was if its parameter has no context rules. -/
theorem ChangesOwned.typeOf? {t : Draft TelemetryState} (h : ChangesOwned d t) {q : ParameterRef}
    {p : Parameter} {x : ParameterType} (hp : d.database.parameters.get? q = some p)
    (hplain : d.stage.calibrations.hasContext p.name = false)
    (hx : d.database.typeOf? q = some x) : t.database.typeOf? q = some x := by
  unfold Database.typeOf? at hx ⊢
  rw [hp, Option.bind_some] at hx
  rw [h.1, hp, Option.bind_some]
  by_contra hne
  -- the type would have changed for an owner, and that owner is this parameter
  obtain ⟨q', p', hp', -, hcontext, honly⟩ := h.2 p.type fun heq => hne (heq.trans hx)
  rw [← honly q p hp rfl, hp] at hp'
  cases hp'
  rw [hplain] at hcontext
  cases hcontext

/-- What a record of limits does: it fails and changes nothing, or it is passed over with a
limitation noted, or its parameter gets a copy of its type that no other has. -/
def LimitsOne (row : Row) (d : Draft TelemetryState) : Prop :=
  Ends (attachLimits row) d
    (fun _ t => ∃ r q, LimitRecord.ofRow row = .ok r ∧
      d.database.parameters.find? r.parameter = some q ∧
      (r.PassedOver d ∧ t.database = d.database ∧ (∃ m, t.warnings = d.warnings ++ [m]) ∨
        ¬ r.PassedOver d ∧ Retypes d.database t.database q ∧
          ∀ q' p', t.database.parameters.get? q' = some p' →
            p'.type = d.database.parameterTypes.next → q' = q))
    fun t => t.database = d.database

theorem limitsOne_of_sound (hd : upkeep.Sound d) (row : Row) : LimitsOne row d := by
  refine attachLimits_ends.mono (fun _ t _ ht => ?_) fun t ht => ht.database
  obtain ⟨-, r, q, hr, hfind, hover | ⟨hdone, hretypes⟩⟩ := ht
  · exact ⟨r, q, hr, hfind, .inl hover⟩
  · exact ⟨r, q, hr, hfind, .inr ⟨hdone, hretypes, fun _ _ => hretypes.only hd⟩⟩

/--
**Context calibrators and limits are seen at their own parameter only.**

A run attaches context calibrators in one draft and limits in another, with units that only add
before each of them. Every type that context calibrators change is that of exactly one parameter,
one with context rules. A record of limits that fails leaves the database as it is, and so does one
that is passed over with a limitation noted; any other gives its parameter a new type, which differs
from the one before in name and alarms only and belongs to no other parameter. So the type that a
parameter without context rules has between any two of the units that add is the type that it has
in the end, if no record of limits takes effect on it.
-/
theorem calibrators_and_limits_stay (hblank : d.database.Blank) (hstage : d.stage = {})
    {d' : Draft TelemetryState} (hrun : buildTelemetry setting compiler d = .ok () d') :
    ∃ d₁ d₂ d₃ rows,
      (beforeContexts setting compiler d = .ok () d₁ ∧ Additions setting compiler d d₁) ∧
      (attachContextCalibrators setting d₁ = .ok () d₂ ∧ ChangesOwned d₁ d₂) ∧
      (beforeLimits setting d₂ = .ok () d₃ ∧ Additions setting compiler d₂ d₃) ∧
      (Build.rows setting "ocf" = .ok rows ∧ attachAll setting rows d₃ = .ok () d' ∧
        ∀ row t, Turn setting rows d₃ row t → LimitsOne row t) ∧
      ∀ t q p x,
        (Additions setting compiler d t ∧ Additions setting compiler t d₁ ∨
          Additions setting compiler d₂ t ∧ Additions setting compiler t d₃) →
        t.database.parameters.get? q = some p → t.database.typeOf? q = some x →
        d₁.stage.calibrations.hasContext p.name = false →
        (∀ row u, Turn setting rows d₃ row u → ¬ TakesEffect row u q) →
        d'.database.typeOf? q = some x := by
  obtain ⟨d₁, d₂, d₃, rows, h₁, h₂, h₃, hrows, hrun⟩ := buildTelemetry_eq_ok.mp hrun
  have hadded₁ : Additions setting compiler d d₁ := additions_beforeContexts.of_ok h₁
  have hsound₁ := hadded₁.walk.sound (sound_of_blank hblank hstage)
  have hwalk₂ : Walk setting compiler d₁ d₂ := walk_attachContextCalibrators.of_ok h₂
  have hsound₂ := hwalk₂.sound hsound₁
  have hadded₃ : Additions setting compiler d₂ d₃ := (additions_beforeLimits hsound₂).of_ok h₃
  have hsound₃ := hadded₃.walk.sound hsound₂
  have howned := (beforeContexts_owned hblank hstage).of_ok h₁
  have hchanges := (attachContextCalibrators_changesOwned howned).of_ok h₂
  refine ⟨d₁, d₂, d₃, rows, ⟨h₁, hadded₁⟩, ⟨h₂, hchanges⟩, ⟨h₃, hadded₃⟩,
    ⟨hrows, hrun, ?_⟩, ?_⟩
  · rintro row t ⟨before, after, -, hbefore⟩
    have hwalk : Walk setting compiler d₃ t := (walk_attachAll before).of_ok hbefore
    exact limitsOne_of_sound (hwalk.sound hsound₃) row
  · intro t q p x ht hp hx hplain hnone
    refine attachAll_typeOf? hrun hnone ?_
    rcases ht with ⟨-, ht⟩ | ⟨-, ht⟩
    · -- a draft before the context calibrators, which pass this parameter by
      obtain ⟨p₁, hp₁, hname, -⟩ := ht.keeping.parameters q p hp
      rw [← hname] at hplain
      exact hadded₃.keeping.typeOf? (hchanges.typeOf? hp₁ hplain (ht.keeping.typeOf? hx))
    · exact ht.keeping.typeOf? hx

/-- Two parameters with one type, of which the first one has limits, and one with a context rule. -/
def limitSetting : Setting :=
  .ofTables [
    ("cur", "C\t1\tA\t1\tP\n"), ("caf", ""), ("cap", ""), ("txf", ""), ("txp", ""),
    ("mcf", "P\t\t1\n"), ("lgf", ""),
    ("pcf", "A\t\t\t\t3\t4\t\t\t\tN\tR\nB\t\t\t\t3\t4\t\t\t\tN\tR\n" ++
      "C\t\t\t\t3\t4\t\t\t\tN\tR\n"),
    ("pic", ""), ("pid", ""), ("tpcf", ""), ("plf", ""), ("vpd", ""),
    ("ocp", "A\t1\tH\n"), ("ocf", "A\t1\t1\tU\tR\n")]

/-- Where the stage begins. -/
def limitDraft : Draft TelemetryState := ⟨{ name := "MIB" }, [], [], {}⟩

/-- The limits are attached to the first parameter, which has a type of its own then, and the second
one keeps the type that both had. -/
theorem limits_of_one :
    ∃ (d₃ d' : Draft TelemetryState) (rows : List Row) (x : ParameterType),
      buildTelemetry limitSetting none limitDraft = .ok () d' ∧
      attachAll limitSetting rows d₃ = .ok () d' ∧
      d₃.database.typeOf? ⟨0⟩ = d₃.database.typeOf? ⟨1⟩ ∧
      d₃.database.typeOf? ⟨1⟩ = some x ∧ d'.database.typeOf? ⟨1⟩ = some x ∧
      (d'.database.typeOf? ⟨0⟩).any fun y => y.alarm.isSome := by
  have hrun : (after? (buildTelemetry limitSetting none) limitDraft).any (fun d' =>
      (d'.database.typeOf? ⟨0⟩).any fun y => y.alarm.isSome) = true := by
    decide +kernel
  obtain ⟨d', hafter, halarm⟩ := (Option.any_eq_true _ _).mp hrun
  obtain ⟨_, hok⟩ := after?_eq_some.mp hafter
  obtain ⟨d₁, d₂, d₃, rows, ⟨h₁, -⟩, ⟨h₂, -⟩, ⟨h₃, hadded⟩, ⟨hrows, hattach, -⟩, hstay⟩ :=
    calibrators_and_limits_stay (d := limitDraft) rfl rfl hok
  -- what the drafts in between hold, and the one record of limits
  have hbetween : (after? (beforeContexts limitSetting none) limitDraft).any (fun d₁ =>
      !d₁.stage.calibrations.hasContext "B" &&
        (after? (attachContextCalibrators limitSetting) d₁).any fun d₂ =>
          (after? (beforeLimits limitSetting) d₂).any fun d₃ =>
            decide (d₃.database.parameters.find? "A" = some ⟨0⟩) &&
              (d₃.database.parameters.get? ⟨0⟩).any fun a =>
                (d₃.database.parameters.get? ⟨1⟩).any fun b =>
                  decide (a.type = b.type ∧ b.name = "B") &&
                    (d₃.database.typeOf? ⟨1⟩).isSome) = true := by
    decide +kernel
  have hrecord : ((Build.rows limitSetting "ocf").toOption.any fun rows =>
      decide (rows.length = 1) && rows.all fun row =>
        (LimitRecord.ofRow row).toOption.any fun r => decide (r.parameter = "A")) = true := by
    decide +kernel
  rw [after?_eq_some.mpr ⟨(), h₁⟩, Option.any_some, after?_eq_some.mpr ⟨(), h₂⟩, Option.any_some,
    after?_eq_some.mpr ⟨(), h₃⟩, Option.any_some] at hbetween
  simp only [Bool.and_eq_true, Bool.not_eq_true', decide_eq_true_eq, Option.any_eq_true,
    Option.isSome_iff_exists] at hbetween
  obtain ⟨hplain, hfind, a, ha, b, hb, ⟨htype, hname⟩, x, hx⟩ := hbetween
  have hshared : d₃.database.typeOf? ⟨0⟩ = d₃.database.typeOf? ⟨1⟩ := by
    unfold Database.typeOf?
    rw [ha, hb, Option.bind_some, Option.bind_some, htype]
  refine ⟨d₃, d', rows, x, hok, hattach, hshared, hx, ?_, halarm⟩
  refine hstay d₃ ⟨1⟩ b x (.inr ⟨hadded, .refl⟩) hb hx (hname ▸ hplain) ?_
  -- the one record takes effect on the first parameter
  rintro row u ⟨before, after, rfl, hbefore⟩ ⟨r, t, hr, hparameter, -, -⟩
  simp only [hrows, Except.toOption, Option.any_some, Bool.and_eq_true, decide_eq_true_eq,
    List.length_append, List.length_cons, List.all_append, List.all_cons, hr] at hrecord
  obtain ⟨hlength, -, hA, -⟩ := hrecord
  obtain rfl : before = [] := List.eq_nil_of_length_eq_zero (by omega)
  obtain ⟨-, rfl⟩ := pure_eq_ok.mp hbefore
  rw [hA, hfind] at hparameter
  cases hparameter

end Telemetry

end MissionBase
