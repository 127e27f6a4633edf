import MissionBase.Proofs.Commanding.Supplements
import MissionBase.Proofs.Course

/-!
# Which databases have compatible types

Every type of arguments is compatible, because each of them is when it is added and none is changed.
A type of parameters is that of a declared parameter where the declarations end, hence compatible
unless its declaration is mismatched, and it is compatible or not for good: what is added to types
later is compatible by itself or is a copy, and context calibrators go only to encodings that hold
numbers. So a database has types that are not compatible exactly if a giver is mismatched.
-/

namespace MissionBase

open Run

/-- What holds of all elements after an addition. -/
theorem Catalog.forall_get?_push {kind : Kind} {α : Type} {c : Catalog kind α} {x : α}
    {P : α → Prop} :
    (∀ r y, (c.push x).get? r = some y → P y) ↔ (∀ r y, c.get? r = some y → P y) ∧ P x := by
  constructor
  · intro h
    exact ⟨fun r y hy => h r y (get?_push_of_some hy x), h c.next x (get?_push_next c x)⟩
  · rintro ⟨hold, hnew⟩ r y hy
    rcases get?_push_eq_some hy with hy | ⟨-, rfl⟩
    · exact hold r y hy
    · exact hnew

/-! ## Databases that keep what is compatible -/

/-- All types of parameters are compatible. -/
def Database.ParametersCompatible (db : Database) : Prop :=
  ∀ r t, db.parameterTypes.get? r = some t → t.Compatible

/-- All types of arguments are compatible. -/
def Database.ArgumentsCompatible (db : Database) : Prop :=
  ∀ r t, db.argumentTypes.get? r = some t → t.Compatible

/-- A later database whose types are compatible where those of the earlier are. -/
structure Database.KeepsCompatible (db db' : Database) : Prop where
  parameters : db'.ParametersCompatible ↔ db.ParametersCompatible
  arguments : db.ArgumentsCompatible → db'.ArgumentsCompatible

namespace Database.KeepsCompatible

variable {db db' : Database}

theorem of_eq (htypes : db'.parameterTypes = db.parameterTypes)
    (harguments : db'.argumentTypes = db.argumentTypes) : db.KeepsCompatible db' := by
  refine ⟨?_, fun h => ?_⟩
  · unfold ParametersCompatible
    rw [htypes]
  · unfold ArgumentsCompatible
    rw [harguments]
    exact h

instance : Std.Refl Database.KeepsCompatible := ⟨fun _ => of_eq rfl rfl⟩

instance : IsTrans Database Database.KeepsCompatible :=
  ⟨fun _ _ _ h h' => ⟨h'.parameters.trans h.parameters, fun ha => h'.arguments (h.arguments ha)⟩⟩

/-- A type that is compatible if all others are. -/
theorem of_push {t : ParameterType} (ht : db.ParametersCompatible → t.Compatible)
    (htypes : db'.parameterTypes = db.parameterTypes.push t)
    (harguments : db'.argumentTypes = db.argumentTypes) : db.KeepsCompatible db' := by
  refine ⟨?_, fun h => ?_⟩
  · unfold ParametersCompatible
    rw [htypes, Catalog.forall_get?_push]
    exact and_iff_left_of_imp ht
  · unfold ArgumentsCompatible
    rw [harguments]
    exact h

theorem of_addArgumentType {t : ArgumentType} (ht : t.Compatible) :
    db.KeepsCompatible (db.addArgumentType t).2 where
  parameters := Iff.rfl
  arguments := fun h => Catalog.forall_get?_push.mpr ⟨h, ⟨ht.value, ht.decalibrator⟩⟩

theorem of_supplement (h : Supplement db db') : db.KeepsCompatible db' := by
  cases h with
  | elsewhere htypes _ _ harguments => exact of_eq htypes harguments
  | unsignedType size h =>
      obtain ⟨-, heq⟩ := Database.addParameterType_eq_ok.mp h
      cases heq
      exact of_push (fun _ => ParameterType.compatible_of_numeric rfl) rfl rfl
  | parameter _ h =>
      obtain ⟨-, heq⟩ := Database.addParameter_eq_ok.mp h
      cases heq
      exact of_eq rfl rfl
  | argumentType h => exact of_addArgumentType h

theorem of_supplies {σ τ : Type} {key : σ → τ} {d t : Draft σ} (h : Supplies key d t) :
    d.database.KeepsCompatible t.database :=
  Supplement.induct h.database fun _ _ => of_supplement

theorem of_furnishing {d t : Draft CommandingState} (h : Commanding.Furnishing d t) :
    d.database.KeepsCompatible t.database := by
  induction h with
  | refl => exact Std.Refl.refl _
  | tail _ hlast ih =>
      refine IsTrans.trans _ _ _ ih ?_
      cases hlast with
      | supplying h => exact of_supplies h
      | identifiers _ h _ => exact of_addArgumentType h

/-- A copy of a type is compatible if the type is. -/
theorem of_retypes {q : ParameterRef} (h : Telemetry.Retypes db db' q) :
    db.KeepsCompatible db' := by
  obtain ⟨x, name, alarm, hx, -, rfl⟩ := h
  refine of_push (fun hall => (x.compatible_renamed name alarm).mpr ?_) rfl rfl
  obtain ⟨p, -, hp⟩ := Option.bind_eq_some_iff.mp hx
  exact hall p.type x hp

end Database.KeepsCompatible

namespace Telemetry

variable {setting : Setting} {calibrations : Registry} {d t : Draft TelemetryState}

/-! ## Where the declarations end -/

/-- Every type is that of some parameter, no declaration stands under two names, and there are no
types of arguments. -/
structure Sparse (d : Draft TelemetryState) : Prop where
  used : ∀ ref x, d.database.parameterTypes.get? ref = some x →
    ∃ q p, d.database.parameters.get? q = some p ∧ p.type = ref
  names : d.stage.declared.keys.Nodup
  arguments : d.database.argumentTypes.size = 0

theorem Sparse.same (h : Sparse d) (hdb : t.database = d.database)
    (hdeclared : t.stage.declared = d.stage.declared) : Sparse t :=
  ⟨by rw [hdb]; exact h.used, by rw [hdeclared]; exact h.names, by rw [hdb]; exact h.arguments⟩

/-- A declaration that has brought its parameter, and no type but that of the parameter. -/
theorem Sparse.push (h : Sparse d) {p : Parameter} {name : String} {r : ParameterRecord}
    (hparameters : t.database.parameters = d.database.parameters.push p)
    (htypes : ∀ ref x, t.database.parameterTypes.get? ref = some x →
      ref = p.type ∨ ∃ y, d.database.parameterTypes.get? ref = some y)
    (harguments : t.database.argumentTypes = d.database.argumentTypes)
    (hdeclared : t.stage.declared = d.stage.declared.set name r) : Sparse t where
  used := fun ref x hx => by
    rw [hparameters]
    rcases htypes ref x hx with rfl | ⟨y, hy⟩
    · exact ⟨_, p, Catalog.get?_push_next _ _, rfl⟩
    · obtain ⟨q, p', hp', htype⟩ := h.used ref y hy
      exact ⟨q, p', Catalog.get?_push_of_some hp' p, htype⟩
  names := by
    rw [hdeclared]
    exact Index.nodup_keys_change h.names
  arguments := by
    rw [harguments]
    exact h.arguments

/-- Finding the type of a declaration brings no type but the one that is found. -/
structure Finds (d : Draft TelemetryState) (ref : ParameterTypeRef) (t : Draft TelemetryState) :
    Prop where
  parameters : t.database.parameters = d.database.parameters
  types : ∀ ref' x, t.database.parameterTypes.get? ref' = some x →
    ref' = ref ∨ ∃ y, d.database.parameterTypes.get? ref' = some y
  arguments : t.database.argumentTypes = d.database.argumentTypes
  declared : t.stage.declared = d.stage.declared

theorem typeFor_finds (r : ParameterRecord) :
    Ends (typeFor setting r) d (Finds d) (Noted d) := by
  refine ends_typeFor (fun ref _ _ => ⟨rfl, fun _ x hx => .inr ⟨x, hx⟩, rfl, rfl⟩) (fun _ h => h)
    fun type name t _ _ => ⟨rfl, fun ref' x hx => ?_, rfl, typeKept_declared _ _ _⟩
  exact (Catalog.get?_push_eq_some hx).elim (fun hold => .inr ⟨x, hold⟩) fun hlast => .inl hlast.1

/-- A declaration brings no type without its parameter, whose name is free. -/
theorem declare_sparse {r : ParameterRecord} (hshared : Shared setting calibrations d)
    (h : Sparse d) : Ends (declare setting r) d (fun _ => Sparse) Sparse := by
  have htype : Ends (typeFor setting r) d (Finds d) Sparse :=
    (typeFor_finds r).mono (fun _ _ _ ht => ht) fun u hu => h.same hu.database (by rw [hu.stage])
  refine ends_declare h (fun _ _ => h.same rfl rfl) fun hfresh => ?_
  refine ends_addDeclared htype (fun ref t ht htaken => ?_) fun ref t ht _ => ?_
  · rw [ht.parameters] at htaken
    exact absurd htaken (Bool.eq_false_iff.mp (hshared.free hfresh))
  · exact h.push (p := r.parameter ref) (congrArg (·.push (r.parameter ref)) ht.parameters)
      ht.types ht.arguments (congrArg (·.set r.name r) ht.declared)

/-- What holds of types where the declarations end: none is left over, and each is that of the
founder of the declaration of its parameter. -/
theorem declareAll_ends (rows : List Row) (hshared : Shared setting calibrations d)
    (h : Sparse d) :
    Ends (declareAll setting rows) d (fun _ t => Shared setting calibrations t ∧ Sparse t)
      fun t => Shared setting calibrations t ∧ Sparse t := by
  refine ends_forM (I := fun _ t => Shared setting calibrations t ∧ Sparse t)
    (fun row _ t ht => ?_) ⟨hshared, h⟩
  refine Ends.recover (fun _ _ hu => ⟨hu.1.noted ⟨rfl, rfl⟩, hu.2.same rfl rfl⟩) ?_
  unfold declareRow
  refine Ends.bind (ends_lift (fun record _ => ?_) ht)
  have hs := ends_iff.mp (declare_ends (r := record) ht.1)
  have hp := ends_iff.mp (declare_sparse (r := record) ht.1 ht.2)
  exact ends_iff.mpr ⟨fun x u hu => ⟨hs.1 x u hu, hp.1 x u hu⟩,
    fun e u hu => ⟨hs.2 e u hu, hp.2 e u hu⟩⟩

/-- A type that a declaration asks for is compatible unless the declaration is mismatched. -/
theorem HasType.compatible_iff {db : Database} {ref : ParameterTypeRef} {r : ParameterRecord}
    (h : HasType setting calibrations db ref r) :
    ∃ type, db.parameterTypes.get? ref = some type ∧
      (type.Compatible ↔ ¬ r.Mismatched calibrations) := by
  obtain ⟨type, own, htype, hown, heq⟩ := h
  obtain ⟨_, hrun⟩ := hown ⟨db, [], [], {}⟩
  refine ⟨type, htype, ?_⟩
  rw [heq, ← ParameterRecord.buildType_compatible_iff hrun]
  exact own.compatible_renamed type.name own.alarm

/-- The declaration of a parameter that the declarations have brought. -/
theorem Shared.declaration (h : Shared setting calibrations d) {q : ParameterRef} {p : Parameter}
    (hp : d.database.parameters.get? q = some p) :
    ∃ r, (p.name, r) ∈ d.stage.declared.entries ∧ r.name = p.name ∧
      HasType setting calibrations d.database p.type
        (founder calibrations (declarations d.stage) r) := by
  have hlt : q.index < d.stage.declared.entries.length := h.size ▸ Catalog.lt_size_of_get? hp
  have hentry := List.getElem?_eq_getElem hlt
  obtain ⟨p', hp', hname, hr, htype⟩ := h.parameters q.index _ _ hentry
  cases hp.symm.trans hp'
  refine ⟨d.stage.declared.entries[q.index].2, ?_, hr.trans hname.symm, htype⟩
  rw [hname]
  exact List.getElem_mem hlt

/-- **Where the declarations end, types are compatible unless a giver is mismatched.** -/
theorem Given.compatible_iff {gs : List (ParameterRecord × ParameterRef)} (h : Given gs d)
    (hshared : Shared setting calibrations d) (hsparse : Sparse d) :
    d.database.ParametersCompatible ↔ ∀ g ∈ gs, ¬ g.1.Mismatched calibrations := by
  have hfounder (r : ParameterRecord) :
      (founder calibrations (declarations d.stage) r).Mismatched calibrations ↔
        r.Mismatched calibrations :=
    ParameterRecord.SameKey.mismatched_iff sameKey_founder
  constructor
  · intro hall g hg hmismatched
    have hmem : (g.1.name, g.1) ∈ d.stage.declared.entries := by
      rw [h.declared]
      exact List.mem_map_of_mem (f := fun g : ParameterRecord × ParameterRef => (g.1.name, g.1)) hg
    obtain ⟨i, hi⟩ := List.mem_iff_getElem?.mp hmem
    obtain ⟨p, -, -, -, htype⟩ := hshared.parameters i _ _ hi
    obtain ⟨type, hget, hiff⟩ := htype.compatible_iff
    exact hiff.mp (hall p.type type hget) ((hfounder g.1).mpr hmismatched)
  · intro hnone ref x hx
    obtain ⟨q, p, hp, rfl⟩ := hsparse.used ref x hx
    obtain ⟨r, hr, -, htype⟩ := hshared.declaration hp
    obtain ⟨type, hget, hiff⟩ := htype.compatible_iff
    cases hx.symm.trans hget
    rw [h.declared, List.mem_map] at hr
    obtain ⟨g, hg, heq⟩ := hr
    rw [← (Prod.mk.inj heq).2] at hiff
    exact hiff.mpr fun hmismatched => hnone g hg ((hfounder g.1).mp hmismatched)

/-! ## Context calibrators -/

/-- The type of a number with context rules has an encoding that holds numbers. -/
def Calibratable (d : Draft TelemetryState) : Prop :=
  ∀ q p, d.database.parameters.get? q = some p →
    d.stage.calibrations.hasContext p.name = true →
    (∀ r, d.stage.declared.find? p.name = some r → r.category = 'N') →
    ∃ x, d.database.parameterTypes.get? p.type = some x ∧
      x.encoding.any Encoding.isNumeric = true

/-- A number that was declared with context rules has a type that was made for it. -/
theorem Shared.calibratable (h : Shared setting calibrations d) (hsparse : Sparse d) :
    Calibratable d := by
  intro q p hp hcontext hnumber
  obtain ⟨r, hr, hname, type, own, htype, hown, heq⟩ := h.declaration hp
  rw [h.registry, ← hname] at hcontext
  rw [founder, if_pos hcontext] at hown
  have hcategory := hnumber r (Index.find?_of_mem hsparse.names hr)
  obtain ⟨_, hrun⟩ := hown d
  have hencoding : type.encoding = own.encoding := by rw [heq]
  refine ⟨type, htype, ?_⟩
  rw [hencoding]
  exact ParameterRecord.buildType_encoding hcategory hcontext hrun

/-- **Context calibrators are given to encodings that hold numbers.** -/
theorem Calibrates.keepsCompatible {name : String} (h : Calibrates name d t)
    (hd : Calibratable d) : d.database.KeepsCompatible t.database ∧ Calibratable t := by
  obtain ⟨q, p, calibrators, hfind, hp, hcontext, hnumber, rfl⟩ := h
  obtain ⟨p', hp', hname⟩ := Catalog.exists_of_find? hfind
  cases hp.symm.trans hp'
  have hname : p.name = name := hname
  rw [← hname] at hcontext hnumber
  obtain ⟨x, hx, hnumeric⟩ := hd q p hp hcontext hnumber
  refine ⟨⟨⟨fun hall r y hy => ?_, fun hall r y hy => ?_⟩, id⟩, fun q' p' hp' hc hn => ?_⟩
  · by_cases hr : p.type.index = r.index
    · -- the type that has changed was compatible before, because of its encoding
      have hplace : p.type = r := by cases r; exact congrArg Ref.mk hr
      rw [← hplace, hx] at hy
      cases hy
      exact ParameterType.compatible_of_numeric hnumeric
    · exact hall r y ((Catalog.get?_modify_of_ne _ hr _).trans hy)
  · obtain ⟨y', hy', ⟨rfl, rfl⟩ | ⟨-, rfl⟩⟩ := Catalog.get?_modify_eq_some hy
    · cases hx.symm.trans hy'
      exact ParameterType.compatible_of_numeric hnumeric
    · exact hall r y' hy'
  · obtain ⟨x', hx', hnumeric'⟩ := hd q' p' hp' hc hn
    obtain ⟨y, hy, rfl | rfl⟩ := Catalog.exists_get?_modify hx' p.type
      fun type => type.calibrated (.contexts calibrators)
    · exact ⟨_, hy, hnumeric'⟩
    · exact ⟨_, hy, hnumeric'⟩

/-- Taking up all context rules keeps what is compatible. -/
theorem attachContextCalibrators_keepsCompatible (hd : Calibratable d)
    (hrun : attachContextCalibrators setting d = .ok () t) :
    d.database.KeepsCompatible t.database := by
  have hends : Ends (attachContextCalibrators setting) d
      (fun _ u => d.database.KeepsCompatible u.database ∧ Calibratable u)
      fun u => d.database.KeepsCompatible u.database ∧ Calibratable u := by
    unfold attachContextCalibrators
    refine Ends.bind (ends_stage ?_)
    refine ends_forM (I := fun _ u => d.database.KeepsCompatible u.database ∧ Calibratable u)
      (fun name _ u hu => ?_) ⟨Std.Refl.refl _, hd⟩
    refine Ends.recover (fun _ _ hv => hv) ((attachContexts_ends name u).mono (fun _ v _ hv => ?_)
      fun v hv => ?_)
    · rcases hv with rfl | hv
      · exact hu
      · have hone := hv.keepsCompatible hu.2
        exact ⟨IsTrans.trans _ _ _ hu.1 hone.1, hone.2⟩
    · rw [hv]
      exact hu
  exact (hends.of_ok hrun).1

/-! ## Formulas and limits -/

/-- A step that changes neither parameters nor types. -/
structure Untouched (d t : Draft TelemetryState) : Prop where
  types : t.database.parameterTypes = d.database.parameterTypes
  parameters : t.database.parameters = d.database.parameters
  arguments : t.database.argumentTypes = d.database.argumentTypes
  stage : t.stage = d.stage

instance : Std.Refl Untouched := ⟨fun _ => ⟨rfl, rfl, rfl, rfl⟩⟩

instance : IsTrans (Draft TelemetryState) Untouched :=
  ⟨fun _ _ _ h h' => ⟨h'.types.trans h.types, h'.parameters.trans h.parameters,
    h'.arguments.trans h.arguments, h'.stage.trans h.stage⟩⟩

theorem untouched_compileSynthetic (compiler : Option FormulaCompiler) :
    Steps Untouched (compileSynthetic setting compiler) := by
  refine steps_compileSynthetic compiler (fun _ _ _ => ⟨rfl, rfl, rfl, rfl⟩) ?_
  exact steps_addSynthetic fun _ _ => steps_addAlgorithm fun _ _ => ⟨rfl, rfl, rfl, rfl⟩

theorem Untouched.calibratable (h : Untouched d t) (hd : Calibratable d) : Calibratable t := by
  intro q p hp hcontext hnumber
  rw [h.parameters] at hp
  rw [h.stage] at hcontext hnumber
  rw [h.types]
  exact hd q p hp hcontext hnumber

end Telemetry

/-! ## The whole pass -/

section

variable {config : Config} {files : Files} {compiler : Option FormulaCompiler} {out : Compiled}

/-- Where the declarations end, each type is that of the founder of a declaration. -/
theorem Course.Parts.declared_sparse {course : Course config files compiler out}
    (parts : course.Parts) :
    Telemetry.Shared course.setting course.calibrated.stage.calibrations parts.declared ∧
      Telemetry.Sparse parts.declared := by
  obtain ⟨hdb, hstage⟩ := course.calibrated_eq
  have hblank := course.blank
  rw [← hdb] at hblank
  have hsparse : Telemetry.Sparse course.calibrated := by
    refine ⟨fun ref x hx => ?_, by rw [hstage]; exact List.nodup_nil, by rw [hblank]; rfl⟩
    rw [hblank] at hx
    exact absurd (Catalog.lt_size_of_get? hx) (Nat.not_lt_zero _)
  exact (Telemetry.declareAll_ends course.rows
    (Telemetry.shared_start (by rw [hblank]; rfl) hstage) hsparse).of_ok parts.declared_eq

/-- The types of a database come from its givers, and what is added to them is compatible. -/
theorem Course.keepsCompatible (course : Course config files compiler out) :
    ∃ d : Draft TelemetryState, Telemetry.Given course.givers d ∧
      Telemetry.Shared course.setting course.calibrated.stage.calibrations d ∧
      Telemetry.Sparse d ∧ d.database.KeepsCompatible out.database := by
  obtain ⟨parts⟩ := course.exists_parts
  obtain ⟨hshared, hsparse⟩ := parts.declared_sparse
  refine ⟨parts.declared, Telemetry.declareAll_given course.given_nil parts.declared_eq, hshared,
    hsparse, ?_⟩
  have huntouched := (Telemetry.untouched_compileSynthetic compiler).of_ok parts.computed_eq
  have hcontexts := Telemetry.attachContextCalibrators_keepsCompatible
    (huntouched.calibratable (hshared.calibratable hsparse)) parts.contextual_eq
  have hpackets :=
    Database.KeepsCompatible.of_supplies (Telemetry.supplies_beforeLimits.of_ok parts.laidOut_eq)
  have hlimits := (Telemetry.steps_attachAll
    (fun _ _ _ => Database.KeepsCompatible.of_retypes) parts.limits).of_ok parts.telemetry_eq
  have hcommands := Database.KeepsCompatible.of_furnishing
    (Commanding.furnishes_buildCommands.of_ok course.commanding_eq)
  rw [course.database_eq]
  exact IsTrans.trans _ _ _ (.of_eq huntouched.types huntouched.arguments)
    (IsTrans.trans _ _ _ hcontexts (IsTrans.trans _ _ _ hpackets
      (IsTrans.trans _ _ _ hlimits hcommands)))

/-- **Types are compatible with their encodings, save those of mismatched declarations.** The types
of arguments are so without exception; those of parameters are so exactly if no declaration that
gives a parameter is an enumeration whose encoding holds no numbers. -/
theorem compile_compatible_iff (h : compile config files compiler = .ok out) :
    ∃ course : Course config files compiler out,
      out.database.ArgumentsCompatible ∧
      (out.database.ParametersCompatible ↔
        ∀ g ∈ course.givers, ¬ g.1.Mismatched course.calibrated.stage.calibrations) := by
  obtain ⟨course⟩ := exists_course h
  obtain ⟨d, hgiven, hshared, hsparse, hkeeps⟩ := course.keepsCompatible
  refine ⟨course, hkeeps.arguments fun r t hr => ?_, ?_⟩
  · have hlt := Catalog.lt_size_of_get? hr
    rw [hsparse.arguments] at hlt
    exact absurd hlt (Nat.not_lt_zero _)
  · exact hkeeps.parameters.trans (hgiven.compatible_iff hshared hsparse)

end

/-- An enumeration with the encoding of a text. -/
def labelledTextFiles : Files :=
  .ofTables "m" [
    ("vdf", "TEST\n"),
    ("txf", "TX\ttext\tU\t1\n"),
    ("txp", "TX\t1\t1\tON\n"),
    ("pcf", "LABEL\t\t\t\t8\t3\t\t\t\tS\tR\tTX\n")]

/-- The enumeration is accepted, and its type is not compatible. -/
theorem labelledText_incompatible :
    ∃ (out : Compiled) (course : Course { path := "m" } labelledTextFiles none out),
      compile { path := "m" } labelledTextFiles none = .ok out ∧
      out.errors = [] ∧ ¬ out.database.ParametersCompatible ∧
      ∃ g ∈ course.givers, g.1.Mismatched course.calibrated.stage.calibrations := by
  have hok : ((compile { path := "m" } labelledTextFiles none).toOption.any fun out =>
      out.errors.isEmpty && (out.database.parameterTypes.get? ⟨0⟩).any fun t =>
        t.value.isEnumerated && !t.encoding.any Encoding.isNumeric) = true := by
    decide +kernel
  obtain ⟨out, hout, hfacts⟩ := (Option.any_eq_true _ _).mp hok
  obtain ⟨herrors, hfacts⟩ := (Bool.and_eq_true _ _).mp hfacts
  obtain ⟨t, ht, hfacts⟩ := (Option.any_eq_true _ _).mp hfacts
  obtain ⟨henumerated, hencoding⟩ := (Bool.and_eq_true _ _).mp hfacts
  have hrun := eq_ok_of_toOption hout
  obtain ⟨course, -, hiff⟩ := compile_compatible_iff hrun
  have hnot : ¬ out.database.ParametersCompatible := by
    intro hall
    rw [(hall ⟨0⟩ t ht).value (.inr henumerated)] at hencoding
    cases hencoding
  refine ⟨out, course, hrun, List.isEmpty_iff.mp herrors, hnot, ?_⟩
  by_contra hnone
  exact hnot (hiff.mpr fun g hg hmismatched => hnone ⟨g, hg, hmismatched⟩)

end MissionBase
