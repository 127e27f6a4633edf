import MissionBase.Proofs.Database
import MissionBase.Proofs.Index
import MissionBase.Proofs.Names
import MissionBase.Proofs.Steps
import MissionBase.Telemetry.Parameters

/-!
# Shared parameter types

A parameter without context rules takes the type that an earlier one with the same key was given,
so its type was built for another declaration, the founder of the key. The key has everything that
the type depends on, save one thing: the value of a text that is no constant.

Building a type notes limitations, and may record an error and go on with a substitute, but it asks
nothing of what has been built before. So "the type that a declaration asks for" makes sense at any
time (`Gives`), and two declarations with one key can be compared without regard to when their types
are built (`Follows`). Between two records, every shared type is that of its founder (`Shared`).
-/

namespace MissionBase

open Run

variable {σ α β : Type} {setting : Setting}

/-! ## Computations that give the same from everywhere -/

namespace Run

/-- The computation gives this result, whatever has been built before. -/
def Gives (x : Build σ α) (a : α) : Prop := ∀ d, ∃ d', x d = .ok a d'

/-- Where the first computation gives a result, the second gives a related one from everywhere. -/
def Follows (x : Build σ α) (y : Build σ β) (R : α → β → Prop) : Prop :=
  ∀ d a d', x d = .ok a d' → ∃ b, R a b ∧ Gives y b

variable {R : α → β → Prop}

theorem Gives.unique {x : Build σ α} {a b : α} {d d' : Draft σ} (h : Gives x a)
    (hx : x d = .ok b d') : b = a := by
  obtain ⟨d'', hd⟩ := h d
  rw [hx] at hd
  cases hd
  rfl

theorem gives_pure (a : α) : Gives (pure a : Build σ α) a := fun d => ⟨d, rfl⟩

theorem Gives.bind {x : Build σ α} {f : α → Build σ β} {a : α} {b : β} (h : Gives x a)
    (hf : Gives (f a) b) : Gives (x >>= f) b := by
  intro d
  obtain ⟨d', hx⟩ := h d
  obtain ⟨d'', hfa⟩ := hf d'
  exact ⟨d'', bind_eq_ok.mpr ⟨a, d', hx, hfa⟩⟩

theorem follows_pure {a : α} {b : β} (h : R a b) :
    Follows (pure a : Build σ α) (pure b : Build σ β) R := by
  intro d a' d' ha
  obtain ⟨rfl, _⟩ := pure_eq_ok.mp ha
  exact ⟨b, h, gives_pure b⟩

theorem follows_throw {e : Error} {y : Build σ β} : Follows (throw e : Build σ α) y R :=
  fun _ _ _ h => (throw_eq_ok.mp h).elim

theorem follows_lift {x : Except Error α} {y : Except Error β}
    (h : ∀ a, x = .ok a → ∃ b, R a b ∧ y = .ok b) :
    Follows (liftM x : Build σ α) (liftM y : Build σ β) R := by
  cases x with
  | error e => exact follows_throw
  | ok a =>
      obtain ⟨b, hR, rfl⟩ := h a rfl
      exact follows_pure hR

theorem Follows.bind {γ δ : Type} {x : Build σ α} {y : Build σ β} {f : α → Build σ γ}
    {g : β → Build σ δ} {S : γ → δ → Prop} (h : Follows x y R)
    (hf : ∀ a b, R a b → Follows (f a) (g b) S) : Follows (x >>= f) (y >>= g) S := by
  intro d c d' hc
  obtain ⟨a, d₁, hx, hfa⟩ := bind_eq_ok.mp hc
  obtain ⟨b, hR, hy⟩ := h d a d₁ hx
  obtain ⟨c', hS, hg⟩ := hf a b hR d₁ c d' hfa
  exact ⟨c', hS, hy.bind hg⟩

theorem follows_limitation (m m' : String) :
    Follows (Build.limitation m : Build σ Unit) (Build.limitation m' : Build σ Unit) Eq :=
  fun _ _ _ _ => ⟨(), rfl, fun _ => ⟨_, rfl⟩⟩

/-- An error that has been recorded shows the policy, under which any other is recorded too. -/
theorem follows_report (e e' : Error) :
    Follows (Build.report setting e : Build σ Unit) (Build.report setting e' : Build σ Unit)
      Eq := by
  unfold Build.report
  split
  · exact follows_throw
  · exact fun _ _ _ _ => ⟨(), rfl, fun _ => ⟨_, rfl⟩⟩

end Run

/-! ## What a declaration asks for -/

namespace ParameterRecord

variable {calibrations : Registry} {q r : ParameterRecord}

/-- The value that a parameter has at the start: that of a constant, or of a text. -/
def startValue (r : ParameterRecord) : Option String :=
  match r.constant? with
  | some value => some value
  | none => if r.category = 'T' then r.value else none

/-- Two declarations with the same key, and with the same context rules for their parameters. -/
structure SameKey (calibrations : Registry) (q r : ParameterRecord) : Prop where
  key : TypeKey.ofRecord q = TypeKey.ofRecord r
  contexts : calibrations.contextRules q.name = calibrations.contextRules r.name

/-- The second type is the first one with some start value. -/
def Restarts (start : Option String) (t t' : ParameterType) : Prop :=
  t' = { t with initialValue := start }

/-- What the first result gives, the second gives too, with a start value of its own. -/
def Restarted (start : Option String) (x y : Except Error ParameterType) : Prop :=
  ∀ t, x = .ok t → y = .ok { t with initialValue := start }

theorem restarted_ok {t : ParameterType} (h : t.initialValue = none) :
    Restarted none (.ok t) (.ok t) := by
  intro t' ht
  cases ht
  rw [← h]

theorem restarted_error {e : Error} {start : Option String} {y : Except Error ParameterType} :
    Restarted start (.error e) y := by
  intro t h
  cases h

theorem Restarted.follows {start : Option String} {x y : Except Error ParameterType}
    (h : Restarted start x y) :
    Follows (liftM x : Build σ ParameterType) (liftM y : Build σ ParameterType) (Restarts start) :=
  follows_lift fun t ht => ⟨_, rfl, h t ht⟩

namespace SameKey

theorem refl (calibrations : Registry) (r : ParameterRecord) : SameKey calibrations r r :=
  ⟨rfl, rfl⟩

theorem ptc (h : SameKey calibrations q r) : q.ptc = r.ptc := congrArg TypeKey.ptc h.key

theorem pfc (h : SameKey calibrations q r) : q.pfc = r.pfc := congrArg TypeKey.pfc h.key

theorem category (h : SameKey calibrations q r) : q.category = r.category :=
  congrArg TypeKey.category h.key

theorem calibration (h : SameKey calibrations q r) : q.calibration = r.calibration :=
  congrArg TypeKey.calibration h.key

theorem hasContext (h : SameKey calibrations q r) :
    calibrations.hasContext q.name = calibrations.hasContext r.name := by
  unfold Registry.hasContext
  rw [h.contexts]

theorem encoding (h : SameKey calibrations q r) {e : Encoding} (hq : q.encoding = .ok e) :
    r.encoding = .ok e := by
  have hsize : q.sizeTagBytes = r.sizeTagBytes := congrArg TypeKey.sizeTagBytes h.key
  unfold ParameterRecord.encoding at hq ⊢
  rw [h.ptc, h.pfc, hsize] at hq
  cases hr : Encoding.resolve r.ptc r.pfc r.sizeTagBytes with
  | ok e' => rw [hr] at hq; exact hq
  | error fault => rw [hr] at hq; cases hq

theorem calibratedType (h : SameKey calibrations q r) (e : Encoding) :
    Restarted none (q.calibratedType calibrations e) (r.calibratedType calibrations e) := by
  unfold ParameterRecord.calibratedType
  rw [h.calibration, h.contexts]
  cases r.calibration with
  | none => exact restarted_ok rfl
  | some name =>
      dsimp only
      cases calibrations.numeric? name with
      | none => exact restarted_error
      | some c => exact restarted_ok rfl

theorem numericType (h : SameKey calibrations q r) (epoch : Epoch) :
    Restarted none (q.numericType calibrations epoch) (r.numericType calibrations epoch) := by
  unfold ParameterRecord.numericType
  cases he : q.encoding with
  | error e => exact restarted_error
  | ok e =>
      rw [h.encoding he, h.ptc, h.pfc, h.calibration, h.hasContext]
      show Restarted none (if _ then _ else _) (if _ then _ else _)
      split
      · split
        · exact restarted_error
        · exact restarted_ok rfl
      · split
        · split
          · exact h.calibratedType e
          · cases ValueType.natural? e with
            | some value => exact restarted_ok rfl
            | none => exact restarted_error
        · split
          · exact restarted_error
          · split
            · exact restarted_ok rfl
            · split
              · exact restarted_ok rfl
              · split
                · exact restarted_ok rfl
                · split
                  · exact restarted_ok rfl
                  · split
                    · cases HeaderMember.packetHeader? r.pfc with
                      | some members => exact restarted_ok rfl
                      | none => exact restarted_error
                    · exact restarted_error

theorem stringType (h : SameKey calibrations q r) :
    Restarted r.value q.stringType r.stringType := by
  intro t hq
  unfold ParameterRecord.stringType at hq ⊢
  rw [h.ptc] at hq
  split at hq
  · cases hq
  · rename_i hptc
    rw [if_neg hptc]
    obtain ⟨e, he, hq⟩ := except_bind_eq_ok.mp hq
    cases hq
    rw [h.encoding he]
    rfl

/-- The type of an enumeration is the same for both, and has no start value. -/
theorem textualType (h : SameKey calibrations q r) :
    Follows (q.textualType setting calibrations : Build σ ParameterType)
      (r.textualType setting calibrations : Build σ ParameterType) (Restarts none) := by
  unfold ParameterRecord.textualType
  refine (follows_lift (R := Eq) fun e he => ⟨e, rfl, h.encoding he⟩).bind ?_
  rintro e _ rfl
  rw [h.calibration, h.hasContext]
  cases r.calibration with
  | none =>
      dsimp only
      split
      · exact (follows_limitation _ _).bind fun _ _ _ => follows_pure rfl
      · exact (follows_report _ _).bind fun _ _ _ => follows_pure rfl
  | some name =>
      dsimp only
      cases calibrations.texts.find? name with
      | some text => exact follows_pure rfl
      | none => exact (follows_report _ _).bind fun _ _ _ => follows_pure rfl

/-- The unit and the value of a constant come last, for both alike. -/
theorem finish (h : SameKey calibrations q r) {start : Option String}
    (hstart : (if r.category = 'T' then r.value else none) = start) (t t' : ParameterType)
    (ht : Restarts start t t') :
    Follows
      (pure { t with
        unit := q.unit
        initialValue := match q.constant? with
          | some value => some value
          | none => t.initialValue } : Build σ ParameterType)
      (pure { t' with
        unit := r.unit
        initialValue := match r.constant? with
          | some value => some value
          | none => t'.initialValue } : Build σ ParameterType) (Restarts r.startValue) := by
  have hunit : q.unit = r.unit := congrArg TypeKey.unit h.key
  have hconstant : q.constant? = r.constant? := congrArg TypeKey.constant h.key
  refine follows_pure ?_
  rw [ht, hunit, hconstant, Restarts, startValue, hstart]

/-- **The key determines the type but for the start value**: where one declaration is given a type,
every other with its key and its context rules is given the same one with a start of its own. -/
theorem buildType (h : SameKey calibrations q r) :
    Follows (q.buildType setting calibrations : Build σ ParameterType)
      (r.buildType setting calibrations : Build σ ParameterType) (Restarts r.startValue) := by
  unfold ParameterRecord.buildType
  dsimp only
  rw [h.category]
  split
  · rename_i hN
    exact (h.numericType _).follows.bind (h.finish (by rw [hN]; rfl))
  · split
    · rename_i hS
      exact h.textualType.bind (h.finish (by rw [hS]; rfl))
    · split
      · rename_i hT
        exact h.stringType.follows.bind (h.finish (if_pos hT))
      · exact follows_throw

end SameKey

end ParameterRecord

/-! ## Which declarations share a type -/

/-- The aliases of the parameter that a declaration gives. -/
def ParameterRecord.aliases (r : ParameterRecord) : List Alias :=
  (r.onBoardId.map fun id => ⟨Telemetry.onBoardSpace, toString id⟩).toList

/-- The parameter that a declaration gives, of a type. -/
def ParameterRecord.parameter (r : ParameterRecord) (type : ParameterTypeRef) : Parameter :=
  { name := r.name, description := r.description, type := type,
    source := Telemetry.sourceOf r.nature, aliases := r.aliases }

namespace Telemetry

/-- Whether a declaration uses the shared type of a key. -/
def shares (calibrations : Registry) (key : TypeKey) (q : ParameterRecord) : Bool :=
  !calibrations.hasContext q.name && decide (TypeKey.ofRecord q = key)

/-- The declaration whose type a declared parameter has: its own where it has context rules, else
the first one that uses the shared type of its key. -/
def founder (calibrations : Registry) (records : List ParameterRecord) (r : ParameterRecord) :
    ParameterRecord :=
  if calibrations.hasContext r.name then r
  else (records.find? (shares calibrations (TypeKey.ofRecord r))).getD r

/-- The declarations of the parameters so far, in their order. -/
def declarations (s : TelemetryState) : List ParameterRecord := s.declared.entries.map (·.2)

/-- A place holds the type that a declaration asks for, under some name. -/
def HasType (setting : Setting) (calibrations : Registry) (db : Database) (ref : ParameterTypeRef)
    (q : ParameterRecord) : Prop :=
  ∃ type own, db.parameterTypes.get? ref = some type ∧
    Gives (q.buildType setting calibrations : TelemetryBuild ParameterType) own ∧
    type = { own with name := type.name }

/-- The shared type of a key is that of the first declaration that uses it. -/
def Founded (setting : Setting) (calibrations : Registry) (db : Database)
    (types : Index TypeKey ParameterTypeRef) (records : List ParameterRecord) : Prop :=
  ∀ key, match types.find? key with
    | some ref => ∃ q, records.find? (shares calibrations key) = some q ∧
        HasType setting calibrations db ref q
    | none => records.find? (shares calibrations key) = none

/-- What holds of parameters and their types between two records. -/
structure Shared (setting : Setting) (calibrations : Registry) (d : Draft TelemetryState) :
    Prop where
  registry : d.stage.calibrations = calibrations
  size : d.database.parameters.size = d.stage.declared.entries.length
  /-- Parameters and declarations stand in the same order. -/
  parameters : ∀ i name r, d.stage.declared.entries[i]? = some (name, r) →
    ∃ p, d.database.parameters.get? ⟨i⟩ = some p ∧ p.name = name ∧ r.name = name ∧
      HasType setting calibrations d.database p.type
        (founder calibrations (declarations d.stage) r)
  types : Founded setting calibrations d.database d.stage.sharedTypes (declarations d.stage)

variable {calibrations : Registry} {records : List ParameterRecord} {q r : ParameterRecord}

theorem shares_self (h : calibrations.hasContext r.name = false) :
    shares calibrations (TypeKey.ofRecord r) r = true := by
  simp [shares, h]

/-- A declaration that comes later changes no founder. -/
theorem founder_append (hq : q ∈ records) :
    founder calibrations (records ++ [r]) q = founder calibrations records q := by
  unfold founder
  split
  · rfl
  · rename_i hc
    have hself : shares calibrations (TypeKey.ofRecord q) q = true :=
      shares_self (by simpa using hc)
    obtain ⟨f, hf⟩ := Option.isSome_iff_exists.mp (List.find?_isSome.mpr ⟨q, hq, hself⟩)
    rw [List.find?_append, hf, Option.some_or]

theorem HasType.congr {db db' : Database} {ref : ParameterTypeRef}
    (h : HasType setting calibrations db ref q)
    (hdb : ∀ t, db.parameterTypes.get? ref = some t → db'.parameterTypes.get? ref = some t) :
    HasType setting calibrations db' ref q := by
  obtain ⟨type, own, hget, hown, heq⟩ := h
  exact ⟨type, own, hdb type hget, hown, heq⟩

/-! ## Finding the type of a declaration -/

variable {d d' : Draft TelemetryState}

/-- A step that only notes errors and limitations. -/
structure Noted (d d' : Draft σ) : Prop where
  database : d'.database = d.database
  stage : d'.stage = d.stage

instance : Std.Refl (@Noted σ) := ⟨fun _ => ⟨rfl, rfl⟩⟩

instance : IsTrans (Draft σ) Noted :=
  ⟨fun _ _ _ h h' => ⟨h'.database.trans h.database, h'.stage.trans h.stage⟩⟩

theorem noted_limitation (m : String) : Steps Noted (Build.limitation m : Build σ Unit) :=
  fun _ => ⟨rfl, rfl⟩

theorem noted_report (e : Error) : Steps Noted (Build.report setting e : Build σ Unit) :=
  steps_report (fun _ _ => ⟨rfl, rfl⟩) e

theorem noted_textualType :
    Steps Noted (r.textualType setting calibrations : Build σ ParameterType) := by
  unfold ParameterRecord.textualType
  refine (steps_lift _).bind fun e => ?_
  cases r.calibration with
  | none =>
      dsimp only
      split
      · exact (noted_limitation _).bind fun _ => steps_pure _
      · exact (noted_report _).bind fun _ => steps_pure _
  | some name =>
      dsimp only
      cases calibrations.texts.find? name with
      | some text => exact steps_pure _
      | none => exact (noted_report _).bind fun _ => steps_pure _

theorem noted_buildType :
    Steps Noted (r.buildType setting calibrations : Build σ ParameterType) := by
  unfold ParameterRecord.buildType
  dsimp only
  split
  · exact (steps_lift _).bind fun _ => steps_pure _
  · split
    · exact noted_textualType.bind fun _ => steps_pure _
    · split
      · exact (steps_lift _).bind fun _ => steps_pure _
      · exact steps_throw _

/-- The stage where a type has been made for a declaration: it is kept under its key, unless its
parameter has context rules. -/
def typeKept (r : ParameterRecord) (ref : ParameterTypeRef) (s : TelemetryState) : TelemetryState :=
  if s.calibrations.hasContext r.name then s
  else { s with sharedTypes := s.sharedTypes.set (TypeKey.ofRecord r) ref }

section

variable (r : ParameterRecord) (ref : ParameterTypeRef) (s : TelemetryState)

theorem typeKept_sharedTypes : (typeKept r ref s).sharedTypes =
    if s.calibrations.hasContext r.name then s.sharedTypes
    else s.sharedTypes.set (TypeKey.ofRecord r) ref := by
  unfold typeKept
  split <;> rfl

theorem typeKept_eq :
    typeKept r ref s = { s with sharedTypes := (typeKept r ref s).sharedTypes } := by
  unfold typeKept
  split <;> rfl

@[simp] theorem typeKept_calibrations : (typeKept r ref s).calibrations = s.calibrations := by
  rw [typeKept_eq]

@[simp] theorem typeKept_declared : (typeKept r ref s).declared = s.declared := by
  rw [typeKept_eq]

end

/-- **How the type of a declaration is found**: it is the shared one of its key, or it cannot be
made, or it is made, comes last and is kept. -/
theorem ends_typeFor {Q : ParameterTypeRef → Draft TelemetryState → Prop}
    {E : Draft TelemetryState → Prop}
    (hshared : ∀ ref, d.stage.calibrations.hasContext r.name = false →
      d.stage.sharedTypes.find? (TypeKey.ofRecord r) = some ref → Q ref d)
    (hfails : ∀ t, Noted d t → E t)
    (hmade : ∀ type name t, r.buildType setting d.stage.calibrations d = .ok type t →
      (d.stage.calibrations.hasContext r.name = false →
        d.stage.sharedTypes.find? (TypeKey.ofRecord r) = none) →
      Q d.database.parameterTypes.next { t with
        database := { d.database with
          parameterTypes := d.database.parameterTypes.push { type with name := name } }
        stage := typeKept r d.database.parameterTypes.next d.stage }) :
    Ends (typeFor setting r) d Q E := by
  unfold typeFor
  refine Ends.bind (ends_stage ?_)
  dsimp only
  split
  · rename_i ref hfind
    split at hfind
    · rename_i hplain
      exact hshared ref (by simpa using hplain) hfind
    · cases hfind
  · rename_i hfind
    have hnone (hcontext : d.stage.calibrations.hasContext r.name = false) :
        d.stage.sharedTypes.find? (TypeKey.ofRecord r) = none := by
      rw [hcontext] at hfind
      exact hfind
    refine Ends.bind ((noted_buildType d).mono (fun type t hrun ht => ?_) hfails)
    refine Ends.bind (ends_database (Ends.bind (ends_add (fun ref db hadd => ?_) (hfails t ht))))
    obtain ⟨-, hplace⟩ := Database.addParameterType_eq_ok.mp hadd
    obtain ⟨rfl, rfl⟩ := Prod.mk.inj hplace
    have hkept (name : String) := hmade type name t hrun hnone
    unfold typeKept at hkept
    rw [ht.database]
    -- a stage that has not changed on the way is the one that the type is kept in
    cases hcontext : d.stage.calibrations.hasContext r.name with
    | true =>
        rw [hcontext, if_pos rfl, ← ht.stage] at hkept
        exact hkept _
    | false =>
        rw [hcontext, if_neg Bool.false_ne_true, ← ht.stage] at hkept
        exact hkept _

/-- What else the stage remembers plays no part. -/
theorem Shared.congr (h : Shared setting calibrations d) (hdb : d'.database = d.database)
    (hcalibrations : d'.stage.calibrations = d.stage.calibrations)
    (hdeclared : d'.stage.declared = d.stage.declared)
    (htypes : d'.stage.sharedTypes = d.stage.sharedTypes) : Shared setting calibrations d' := by
  have hrecords : declarations d'.stage = declarations d.stage := by
    unfold declarations
    rw [hdeclared]
  constructor
  · rw [hcalibrations]; exact h.registry
  · rw [hdb, hdeclared]; exact h.size
  · rw [hdb, hdeclared, hrecords]; exact h.parameters
  · rw [hdb, htypes, hrecords]; exact h.types

theorem Shared.noted (h : Shared setting calibrations d) (hd : Noted d d') :
    Shared setting calibrations d' := by
  refine h.congr hd.database ?_ ?_ ?_
  all_goals rw [hd.stage]

/-- What holds where the type of a declaration is found and its parameter is not yet there. -/
structure Typed (setting : Setting) (calibrations : Registry) (d : Draft TelemetryState)
    (r : ParameterRecord) (ref : ParameterTypeRef) (d' : Draft TelemetryState) : Prop where
  registry : d'.stage.calibrations = calibrations
  parameters : d'.database.parameters = d.database.parameters
  declared : d'.stage.declared = d.stage.declared
  kept : ∀ ref' q, HasType setting calibrations d.database ref' q →
    HasType setting calibrations d'.database ref' q
  type : HasType setting calibrations d'.database ref
    (founder calibrations (declarations d.stage ++ [r]) r)
  types : Founded setting calibrations d'.database d'.stage.sharedTypes
    (declarations d.stage ++ [r])

/-- A declaration that does not use the shared type of a key does not found it. -/
theorem find?_shares_append {key : TypeKey} (h : shares calibrations key r = false) :
    (records ++ [r]).find? (shares calibrations key) = records.find? (shares calibrations key) := by
  rw [List.find?_append, List.find?_cons, h]
  exact Option.or_none

theorem Founded.kept {db db' : Database} {types : Index TypeKey ParameterTypeRef}
    (h : Founded setting calibrations db types records)
    (hkept : ∀ ref q, HasType setting calibrations db ref q →
      HasType setting calibrations db' ref q) :
    Founded setting calibrations db' types records := by
  intro key
  have hkey := h key
  revert hkey
  cases types.find? key with
  | some ref =>
      rintro ⟨q, hq, htype⟩
      exact ⟨q, hq, hkept ref q htype⟩
  | none => exact id

/-- At every key but its own a declaration changes nothing. -/
theorem Founded.other {db : Database} {types types' : Index TypeKey ParameterTypeRef}
    (h : Founded setting calibrations db types records) {key : TypeKey}
    (hshares : shares calibrations key r = false) (htypes : types'.find? key = types.find? key) :
    match types'.find? key with
    | some ref => ∃ q, (records ++ [r]).find? (shares calibrations key) = some q ∧
        HasType setting calibrations db ref q
    | none => (records ++ [r]).find? (shares calibrations key) = none := by
  rw [find?_shares_append hshares, htypes]
  exact h key

/-- **A shared type is found again**: it is that of the founder. -/
theorem Shared.found (h : Shared setting calibrations d)
    (hshared : calibrations.hasContext r.name = false) {ref : ParameterTypeRef}
    (hfind : d.stage.sharedTypes.find? (TypeKey.ofRecord r) = some ref) :
    Typed setting calibrations d r ref d := by
  have hfounder := h.types (TypeKey.ofRecord r)
  rw [hfind] at hfounder
  obtain ⟨q, hq, htype⟩ := hfounder
  refine ⟨h.registry, rfl, rfl, fun _ _ h' => h', ?_, fun key => ?_⟩
  · rw [founder, hshared, if_neg Bool.false_ne_true, List.find?_append, hq]
    exact htype
  · by_cases hkey : TypeKey.ofRecord r = key
    · rw [← hkey, hfind, List.find?_append, hq]
      exact ⟨q, rfl, htype⟩
    · exact h.types.other (by simp [shares, hkey]) rfl

/-- **A new type is the one that the declaration asks for**, and it founds the shared type of its
key unless there are context rules. -/
theorem Shared.founded (h : Shared setting calibrations d)
    (hfind : calibrations.hasContext r.name = false →
      d.stage.sharedTypes.find? (TypeKey.ofRecord r) = none)
    {own : ParameterType} {name : String}
    (hown : Gives (r.buildType setting calibrations : TelemetryBuild ParameterType) own)
    (hdb : d'.database = { d.database with
      parameterTypes := d.database.parameterTypes.push { own with name := name } })
    (hstage : d'.stage = if calibrations.hasContext r.name then d.stage else { d.stage with
      sharedTypes := d.stage.sharedTypes.set (TypeKey.ofRecord r)
        d.database.parameterTypes.next }) :
    Typed setting calibrations d r d.database.parameterTypes.next d' := by
  have hkept (ref : ParameterTypeRef) (q : ParameterRecord)
      (hq : HasType setting calibrations d.database ref q) :
      HasType setting calibrations d'.database ref q := by
    refine hq.congr fun t ht => ?_
    rw [hdb, Catalog.get?_push_of_lt _ _ (Catalog.lt_size_of_get? ht)]
    exact ht
  have hnew : HasType setting calibrations d'.database d.database.parameterTypes.next r := by
    refine ⟨{ own with name := name }, own, ?_, hown, rfl⟩
    rw [hdb]
    exact Catalog.get?_push_next _ _
  have htypes := h.types.kept hkept
  cases hcontext : calibrations.hasContext r.name with
  | true =>
      rw [hcontext, if_pos rfl] at hstage
      refine ⟨?_, by rw [hdb], by rw [hstage], hkept, ?_, fun key => ?_⟩
      · rw [hstage]
        exact h.registry
      · rw [founder, if_pos hcontext]
        exact hnew
      · exact htypes.other (by simp [shares, hcontext]) (by rw [hstage])
  | false =>
      rw [hcontext, if_neg Bool.false_ne_true] at hstage
      have hfirst : (declarations d.stage ++ [r]).find?
          (shares calibrations (TypeKey.ofRecord r)) = some r := by
        have hnone := h.types (TypeKey.ofRecord r)
        rw [hfind hcontext] at hnone
        rw [List.find?_append, hnone, List.find?_cons, shares_self hcontext]
        rfl
      refine ⟨?_, by rw [hdb], by rw [hstage], hkept, ?_, fun key => ?_⟩
      · rw [hstage]
        exact h.registry
      · rw [founder, hcontext, if_neg Bool.false_ne_true, hfirst]
        exact hnew
      · by_cases hkey : TypeKey.ofRecord r = key
        · rw [hstage, ← hkey, hfirst, Index.find?_set_self]
          exact ⟨r, rfl, hnew⟩
        · refine htypes.other (by simp [shares, hkey]) ?_
          rw [hstage]
          exact Index.find?_set_of_ne _ (Ne.symm hkey) _

/-- The type of a declaration is found or made, and nothing else is changed. -/
theorem typeFor_ends (h : Shared setting calibrations d) :
    Ends (typeFor setting r) d (fun ref => Typed setting calibrations d r ref)
      (Shared setting calibrations) := by
  refine ends_typeFor (fun ref hplain hfind => h.found (h.registry ▸ hplain) hfind)
    (fun _ => h.noted) fun type name t hrun hnone => ?_
  rw [h.registry] at hrun hnone
  obtain ⟨own, -, hown⟩ := (ParameterRecord.SameKey.refl calibrations r).buildType d type t hrun
  obtain rfl := hown.unique hrun
  refine h.founded hnone hown rfl ?_
  rw [← h.registry]
  rfl

/-! ## Reading the declarations -/

/-- A declaration whose parameter has been added with the type that was found. -/
theorem Shared.add {d₁ d₂ : Draft TelemetryState} {ref : ParameterTypeRef} {p : Parameter}
    (h : Shared setting calibrations d) (ht : Typed setting calibrations d r ref d₁)
    (hfresh : d.stage.declared.find? r.name = none)
    (htypes : d₂.database.parameterTypes = d₁.database.parameterTypes)
    (hparameters : d₂.database.parameters = d.database.parameters.push p)
    (hp : p.name = r.name ∧ p.type = ref)
    (hdeclared : d₂.stage.declared = d.stage.declared.set r.name r)
    (hcalibrations : d₂.stage.calibrations = calibrations)
    (hshared : d₂.stage.sharedTypes = d₁.stage.sharedTypes) :
    Shared setting calibrations d₂ := by
  have hentries : d₂.stage.declared.entries = d.stage.declared.entries ++ [(r.name, r)] := by
    rw [hdeclared]
    exact Index.entries_set_of_find?_eq_none hfresh r
  have hrecords : declarations d₂.stage = declarations d.stage ++ [r] := by
    unfold declarations
    rw [hentries, List.map_append]
    rfl
  have hkept (ref' : ParameterTypeRef) (q : ParameterRecord)
      (hq : HasType setting calibrations d₁.database ref' q) :
      HasType setting calibrations d₂.database ref' q :=
    hq.congr fun t ht => by rw [htypes]; exact ht
  refine ⟨hcalibrations, ?_, fun i name q hi => ?_, ?_⟩
  · rw [hparameters, Catalog.size_push, hentries, List.length_append, h.size]
    rfl
  · rw [hentries] at hi
    rw [hrecords]
    by_cases hlt : i < d.stage.declared.entries.length
    · rw [List.getElem?_append_left hlt] at hi
      obtain ⟨p', hget, hname, hq, htype⟩ := h.parameters i name q hi
      refine ⟨p', ?_, hname, hq, ?_⟩
      · rw [hparameters, Catalog.get?_push_of_lt _ _ (h.size ▸ hlt)]
        exact hget
      · have hmem : q ∈ declarations d.stage :=
          List.mem_map.mpr ⟨_, List.mem_of_getElem? hi, rfl⟩
        rw [founder_append hmem]
        exact hkept _ _ (ht.kept _ _ htype)
    · -- the last declaration is the new one
      have hlast : i = d.stage.declared.entries.length := by
        have hbound := (List.getElem?_eq_some_iff.mp hi).1
        rw [List.length_append, List.length_singleton] at hbound
        omega
      subst hlast
      rw [List.getElem?_concat_length] at hi
      cases hi
      refine ⟨p, ?_, hp.1, rfl, ?_⟩
      · rw [← h.size, hparameters]
        exact Catalog.get?_push_next _ _
      · rw [hp.2]
        exact hkept _ _ ht.type
  · rw [hrecords, hshared]
    exact ht.types.kept hkept

/-- No parameter has the name of a declaration that is new. -/
theorem Shared.free (h : Shared setting calibrations d) {name : String}
    (hfresh : d.stage.declared.find? name = none) : d.database.parameters.has name = false := by
  rw [Bool.eq_false_iff]
  intro htaken
  obtain ⟨⟨i⟩, p, hget, hname⟩ := Catalog.exists_of_has htaken
  have hlt : i < d.stage.declared.entries.length := h.size ▸ Catalog.lt_size_of_get? hget
  obtain ⟨p', hget', hname', -, -⟩ := h.parameters i _ _ (List.getElem?_eq_getElem hlt)
  rw [hget] at hget'
  cases hget'
  have hnone := List.find?_eq_none.mp (Option.map_eq_none_iff.mp hfresh) _ (List.getElem_mem hlt)
  exact hnone (decide_eq_true (hname'.symm.trans hname))

/-- Where the declarations begin, there is nothing to keep in step. -/
theorem shared_start (hnone : d.database.parameters.size = 0)
    (hstage : d.stage = { calibrations := calibrations }) : Shared setting calibrations d := by
  refine ⟨by rw [hstage], by rw [hnone, hstage]; rfl, fun i name r hi => ?_, fun key => ?_⟩
  · rw [hstage] at hi
    simp at hi
  · rw [hstage]
    rfl

/-- **How a declaration ends**: it fails with nothing done, it is remembered for later, or its
parameter is added, whose name is then new. -/
theorem ends_declare {Q : Unit → Draft TelemetryState → Prop} {E : Draft TelemetryState → Prop}
    (hfails : E d)
    (hpasses : ∀ saved deduced, Q () { d with stage := { d.stage with
      savedSynthetic := saved, deduced := deduced } })
    (hadds : d.stage.declared.find? r.name = none → Ends (addDeclared setting r) d Q E) :
    Ends (declare setting r) d Q E := by
  unfold declare
  refine Ends.bind (ends_stage ?_)
  dsimp only
  split
  · exact ends_throw hfails
  · rename_i hnew
    split
    · exact hpasses _ d.stage.deduced
    · split
      · split
        · exact ends_throw hfails
        · exact hpasses d.stage.savedSynthetic _
      · refine hadds ?_
        rw [Bool.or_assoc, Bool.or_eq_true, not_or] at hnew
        simpa [Index.has] using hnew.1

/-- The draft where the parameter of a declaration comes last, with its alias registered. -/
def withParameter (r : ParameterRecord) (ref : ParameterTypeRef) (t : Draft TelemetryState) :
    Draft TelemetryState :=
  { t with
    database := { t.database with
      parameters := t.database.parameters.push (r.parameter ref)
      aliasOwners := r.aliases.map (·, t.database.parameters.next) ++ t.database.aliasOwners }
    stage := { t.stage with
      synthetic := if r.isSynthetic then t.stage.synthetic ++ [r.name] else t.stage.synthetic
      declared := t.stage.declared.set r.name r } }

/-- **How the parameter of a declaration is added**: after its type, unless its name is taken. -/
theorem ends_addDeclared {P : ParameterTypeRef → Draft TelemetryState → Prop}
    {Q : Unit → Draft TelemetryState → Prop} {E : Draft TelemetryState → Prop}
    (htype : Ends (typeFor setting r) d P E)
    (htaken : ∀ ref t, P ref t → t.database.parameters.has r.name = true → E t)
    (hgiven : ∀ ref t, P ref t → t.database.parameters.has r.name = false →
      Q () (withParameter r ref t)) : Ends (addDeclared setting r) d Q E := by
  unfold addDeclared
  refine Ends.bind (htype.mono (fun ref t _ ht => ?_) fun _ h => h)
  cases hhas : t.database.parameters.has r.name with
  | true =>
      refine Ends.bind (ends_add (fun q db hadd => ?_) (htaken ref t ht hhas))
      cases hhas.symm.trans (Database.addParameter_eq_ok.mp hadd).1
  | false =>
      refine Ends.bind (ends_add_of_ok (Database.addParameter_eq_ok.mpr ⟨hhas, rfl⟩) ?_)
      have hgiven := hgiven ref t ht hhas
      unfold withParameter at hgiven
      cases hid : r.onBoardId with
      | none =>
          unfold ParameterRecord.parameter ParameterRecord.aliases at hgiven
          rw [hid] at hgiven
          exact hgiven
      | some id =>
          -- the alias is registered with the parameter that has just been added
          let p : Parameter :=
            { name := r.name, description := r.description, type := ref,
              source := sourceOf r.nature }
          have hadded : (t.database.parameters.push p).modify t.database.parameters.next
              (fun p => { p with aliases := p.aliases ++ [⟨onBoardSpace, toString id⟩] }) =
              t.database.parameters.push (r.parameter ref) := by
            rw [Catalog.modify_push_next, ParameterRecord.parameter, ParameterRecord.aliases, hid]
            rfl
          rw [← hadded, ParameterRecord.aliases, hid] at hgiven
          exact hgiven

/-- **A record is a unit of work that keeps parameters and types in step**, however it ends. -/
theorem declare_ends (h : Shared setting calibrations d) :
    Ends (declare setting r) d (fun _ => Shared setting calibrations)
      (Shared setting calibrations) := by
  refine ends_declare h (fun _ _ => h.congr rfl rfl rfl rfl) fun hfresh => ?_
  refine ends_addDeclared (typeFor_ends h) (fun ref t ht htaken => ?_) fun ref t ht _ => ?_
  · rw [ht.parameters] at htaken
    exact absurd htaken (Bool.eq_false_iff.mp (h.free hfresh))
  · exact h.add ht hfresh rfl (congrArg (·.push (r.parameter ref)) ht.parameters) ⟨rfl, rfl⟩
      (congrArg (·.set r.name r) ht.declared) ht.registry rfl

/-- What every record keeps, the declarations keep. -/
theorem loadParameters_keeps {P : Draft TelemetryState → Prop}
    (hrecord : ∀ d e, P d → P { d with errors := d.errors ++ [e] })
    (h : ∀ r d, P d → Ends (declare setting r) d (fun _ => P) P) (hd : P d) :
    Ends (loadParameters setting) d (fun _ => P) P := by
  unfold loadParameters
  refine Ends.bind ((ends_scan hrecord hd fun row d hd => ?_).mono (fun _ _ _ ht => ends_pure ht)
    fun _ ht => ht)
  exact Ends.bind (ends_lift (fun record _ => h record d hd) hd)

/-- **Reading the declarations keeps parameters and types in step**, under either policy. -/
theorem loadParameters_ends (h : Shared setting calibrations d) :
    Ends (loadParameters setting) d (fun _ => Shared setting calibrations)
      (Shared setting calibrations) :=
  loadParameters_keeps (fun _ _ hd => hd.noted ⟨rfl, rfl⟩) (fun _ _ hd => declare_ends hd) h

/-! ## The types of declared parameters -/

theorem sameKey_founder :
    ParameterRecord.SameKey calibrations (founder calibrations records r) r := by
  unfold founder
  split
  · exact .refl calibrations r
  · rename_i hr
    cases hf : records.find? (shares calibrations (TypeKey.ofRecord r)) with
    | none => exact .refl calibrations r
    | some q =>
        have hq := List.find?_some hf
        rw [shares, Bool.and_eq_true, decide_eq_true_eq] at hq
        refine ⟨hq.2, ?_⟩
        have hnone (name : String) (h : ¬calibrations.hasContext name = true) :
            calibrations.contextRules name = [] := by
          simpa [Registry.hasContext] using h
        rw [Option.getD_some, hnone r.name hr, hnone q.name (by simpa using hq.1)]

/-- The key leaves open only the value of a text that is no constant. -/
theorem startValue_eq_iff (h : ParameterRecord.SameKey calibrations q r) :
    q.startValue = r.startValue ↔
      (r.category = 'T' → r.constant? = none → q.value = r.value) := by
  have hconstant : q.constant? = r.constant? := congrArg TypeKey.constant h.key
  unfold ParameterRecord.startValue
  rw [hconstant, h.category]
  cases r.constant? with
  | some value => simp
  | none =>
      by_cases hT : r.category = 'T'
      · simp [hT]
      · simp [hT]

/-- How the types of declared parameters compare with the types that their own declarations ask
for: they may differ from them in the start value, which is that of the founder. -/
def TypedByFounders (setting : Setting) (calibrations : Registry) (d : Draft TelemetryState) :
    Prop :=
  d.database.parameters.size = d.stage.declared.entries.length ∧
    ∀ i name r, d.stage.declared.entries[i]? = some (name, r) →
      ∃ p type own, d.database.parameters.get? ⟨i⟩ = some p ∧ p.name = name ∧ r.name = name ∧
        d.database.parameterTypes.get? p.type = some type ∧
        Gives (r.buildType setting calibrations : TelemetryBuild ParameterType) own ∧
        type = { own with
          name := type.name
          initialValue := (founder calibrations (declarations d.stage) r).startValue } ∧
        (type = { own with name := type.name } ↔ (r.category = 'T' → r.constant? = none →
          (founder calibrations (declarations d.stage) r).value = r.value))

theorem Shared.typedByFounders (h : Shared setting calibrations d) :
    TypedByFounders setting calibrations d := by
  refine ⟨h.size, fun i name r hi => ?_⟩
  obtain ⟨p, hget, hname, hr, type, asked, htype, hasked, heq⟩ := h.parameters i name r hi
  have hsame : ParameterRecord.SameKey calibrations
      (founder calibrations (declarations d.stage) r) r := sameKey_founder
  obtain ⟨d₁, hrun⟩ := hasked d
  obtain ⟨own, hown, hgives⟩ := hsame.buildType d asked d₁ hrun
  -- what the founder asks for starts with the founder's value
  have hstart : asked.initialValue =
      (founder calibrations (declarations d.stage) r).startValue := by
    obtain ⟨_, hrestarts, hgives'⟩ :=
      (ParameterRecord.SameKey.refl calibrations _).buildType d asked d₁ hrun
    rw [← hgives'.unique hrun] at hrestarts
    exact congrArg ParameterType.initialValue hrestarts
  have htypeStart : type.initialValue =
      (founder calibrations (declarations d.stage) r).startValue := by
    rw [heq]
    exact hstart
  refine ⟨p, type, own, hget, hname, hr, htype, hgives, ?_, ?_⟩
  · rw [hown, ← hstart]
    exact heq
  · rw [← startValue_eq_iff hsame, ← htypeStart, hown]
    constructor
    · intro hequal
      exact congrArg ParameterType.initialValue hequal
    · intro hvalue
      rw [← hvalue, htypeStart, ← hstart]
      exact heq

/-- **The type of a parameter is the one that its declaration asks for, but for the value of a
text**: a text that is no constant starts with the value of the first declaration of its key.
Otherwise it makes no difference whether a type is made for a declaration or found. -/
theorem loadParameters_typed (hnone : d.database.parameters.size = 0)
    (hstage : d.stage = { calibrations := calibrations }) :
    Ends (loadParameters setting) d (fun _ => TypedByFounders setting calibrations)
      (TypedByFounders setting calibrations) := by
  exact (loadParameters_ends (shared_start hnone hstage)).mono (fun _ _ _ h => h.typedByFounders)
    fun _ h => h.typedByFounders

/-- Two texts with different values, declared alike otherwise. -/
def textSetting : Setting :=
  .ofTables [
    ("pcf", "A\t\t\t\t8\t3\t\t\t\tT\tR\t\t\t\t\tabc\n" ++
      "B\t\t\t\t8\t3\t\t\t\tT\tR\t\t\t\t\txyz\n")]

/-- The second of the texts does not start with the value that it is declared with. -/
theorem texts_share_start :
    ∃ (d d' : Draft TelemetryState) (r : ParameterRecord) (p : Parameter)
      (type own : ParameterType),
      d.database.parameters.size = 0 ∧ d.stage = { calibrations := {} } ∧
      loadParameters textSetting d = .ok () d' ∧
      d'.stage.declared.entries[1]? = some ("B", r) ∧
      d'.database.parameters.get? ⟨1⟩ = some p ∧
      d'.database.parameterTypes.get? p.type = some type ∧
      Gives (r.buildType textSetting {} : TelemetryBuild ParameterType) own ∧
      type ≠ { own with name := type.name } := by
  have hok : (after? (loadParameters textSetting)
      { database := { name := "MIB" }, stage := { calibrations := {} } }).any (fun d' =>
        d'.stage.declared.entries[1]?.any fun e => decide (e.1 = "B" ∧ e.2.category = 'T' ∧
          e.2.constant? = none ∧ (founder {} (declarations d'.stage) e.2).value ≠ e.2.value)) =
      true := by
    decide +kernel
  obtain ⟨d', hafter, hfacts⟩ := (Option.any_eq_true _ _).mp hok
  obtain ⟨⟨name, r⟩, hentry, hfacts⟩ := (Option.any_eq_true _ _).mp hfacts
  obtain ⟨rfl, hT, hconstant, hvalue⟩ := of_decide_eq_true hfacts
  obtain ⟨_, hrun⟩ := after?_eq_some.mp hafter
  obtain ⟨_, htyped⟩ := (loadParameters_typed rfl rfl).of_ok hrun
  obtain ⟨p, type, own, hp, -, -, htype, hown, -, hiff⟩ := htyped 1 _ r hentry
  exact ⟨_, d', r, p, type, own, rfl, rfl, hrun, hentry, hp, htype, hown,
    fun heq => hvalue (hiff.mp heq hT hconstant)⟩

end Telemetry

end MissionBase
