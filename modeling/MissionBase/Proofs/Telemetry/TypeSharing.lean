import MissionBase.Proofs.Coherence
import MissionBase.Proofs.Telemetry.OwnTypes

/-!
# Which parameters share a type

Two parameters have one type exactly where neither has context rules and their declarations have the
same key. Three things hold of every state between two records, and the statement is made of them: a
parameter without context rules has the type that is kept under its key, no type is kept under two
keys (`Keyed`), and a parameter with context rules has a type of its own (`Owned`).

The names of types are no part of this. Different keys may make the same name, and a name that got a
number may be the one that another key makes; a type takes the first name that is free, so the names
stay apart all the same.
-/

namespace MissionBase

open Run

namespace Telemetry

variable {setting : Setting} {calibrations : Registry} {d t : Draft TelemetryState}
  {r : ParameterRecord}

/-! ## Types and keys -/

/-- The types that are kept under keys are those of the parameters without context rules. -/
structure Keyed (d : Draft TelemetryState) : Prop where
  size : d.database.parameters.size = d.stage.declared.entries.length
  placed : ∀ key ref, d.stage.sharedTypes.find? key = some ref →
    ref.index < d.database.parameterTypes.size
  /-- No type is kept under two keys. -/
  apart : ∀ key key' ref, d.stage.sharedTypes.find? key = some ref →
    d.stage.sharedTypes.find? key' = some ref → key = key'
  /-- Parameters and declarations stand in the same order. -/
  found : ∀ i name r p, d.stage.declared.entries[i]? = some (name, r) →
    d.database.parameters.get? ⟨i⟩ = some p → d.stage.calibrations.hasContext r.name = false →
    d.stage.sharedTypes.find? (TypeKey.ofRecord r) = some p.type

/-- What touches neither the types and parameters nor what is known of them. -/
theorem Keyed.same (h : Keyed d) (hdb : t.database = d.database)
    (hcalibrations : t.stage.calibrations = d.stage.calibrations)
    (hdeclared : t.stage.declared = d.stage.declared)
    (hshared : t.stage.sharedTypes = d.stage.sharedTypes) : Keyed t where
  size := by rw [hdb, hdeclared]; exact h.size
  placed := by rw [hdb, hshared]; exact h.placed
  apart := by rw [hshared]; exact h.apart
  found := by rw [hdb, hcalibrations, hdeclared, hshared]; exact h.found

theorem Keyed.noted (h : Keyed d) (hd : Noted d t) : Keyed t := by
  refine h.same hd.database ?_ ?_ ?_
  all_goals rw [hd.stage]

/-- Nothing is kept before the first declaration. -/
theorem keyed_start (hnone : d.database.parameters.size = 0)
    (hstage : d.stage = { calibrations := calibrations }) : Keyed d := by
  refine ⟨?_, ?_, ?_, ?_⟩
  · rw [hnone, hstage]
    rfl
  · rw [hstage]
    rintro _ _ ⟨⟩
  · rw [hstage]
    rintro _ _ _ ⟨⟩
  · rw [hstage]
    simp

/-- What is so where the type of a declaration has been found and its parameter is yet to come. -/
structure Found (d : Draft TelemetryState) (r : ParameterRecord) (ref : ParameterTypeRef)
    (t : Draft TelemetryState) : Prop where
  keyed : Keyed t
  parameters : t.database.parameters = d.database.parameters
  declared : t.stage.declared = d.stage.declared
  calibrations : t.stage.calibrations = d.stage.calibrations
  key : d.stage.calibrations.hasContext r.name = false →
    t.stage.sharedTypes.find? (TypeKey.ofRecord r) = some ref

/-- A new type that is kept under its key, where nothing was kept before. -/
theorem Keyed.keep (h : Keyed d) {key : TypeKey} {x : ParameterType}
    (hnone : d.stage.sharedTypes.find? key = none)
    (htypes : t.database.parameterTypes = d.database.parameterTypes.push x)
    (hparameters : t.database.parameters = d.database.parameters)
    (hstage : t.stage = { d.stage with
      sharedTypes := d.stage.sharedTypes.set key d.database.parameterTypes.next }) : Keyed t := by
  have hself : t.stage.sharedTypes.find? key = some d.database.parameterTypes.next := by
    rw [hstage]
    exact Index.find?_set_self _ _ _
  have hother (key' : TypeKey) (hne : key' ≠ key) :
      t.stage.sharedTypes.find? key' = d.stage.sharedTypes.find? key' := by
    rw [hstage]
    exact Index.find?_set_of_ne _ hne _
  -- the place of the new type is that of no other
  have hfresh (key' : TypeKey) :
      d.stage.sharedTypes.find? key' ≠ some d.database.parameterTypes.next := by
    intro hfind
    exact Nat.lt_irrefl _ (h.placed key' _ hfind)
  refine ⟨?_, fun key' ref hfind => ?_, fun key₁ key₂ ref h₁ h₂ => ?_,
    fun i name q p hi hp hq => ?_⟩
  · rw [hparameters, hstage]
    exact h.size
  · rw [htypes, Catalog.size_push]
    by_cases hkey : key' = key
    · rw [hkey, hself] at hfind
      cases hfind
      exact Nat.lt_succ_self _
    · rw [hother key' hkey] at hfind
      exact Nat.lt_succ_of_lt (h.placed key' ref hfind)
  · by_cases hkey₁ : key₁ = key
    · by_cases hkey₂ : key₂ = key
      · rw [hkey₁, hkey₂]
      · rw [hkey₁, hself] at h₁
        cases h₁
        rw [hother key₂ hkey₂] at h₂
        exact absurd h₂ (hfresh key₂)
    · rw [hother key₁ hkey₁] at h₁
      by_cases hkey₂ : key₂ = key
      · rw [hkey₂, hself] at h₂
        cases h₂
        exact absurd h₁ (hfresh key₁)
      · rw [hother key₂ hkey₂] at h₂
        exact h.apart key₁ key₂ ref h₁ h₂
  · rw [hparameters] at hp
    rw [hstage] at hi hq
    have hfind := h.found i name q p hi hp hq
    rw [hother _ fun heq => ?_]
    · exact hfind
    · rw [heq, hnone] at hfind
      cases hfind

/-- A new type that is kept under no key. -/
theorem Keyed.addType (h : Keyed d) {x : ParameterType}
    (htypes : t.database.parameterTypes = d.database.parameterTypes.push x)
    (hparameters : t.database.parameters = d.database.parameters)
    (hstage : t.stage = d.stage) : Keyed t where
  size := by rw [hparameters, hstage]; exact h.size
  placed := by
    rw [htypes, hstage, Catalog.size_push]
    exact fun key ref hfind => Nat.lt_succ_of_lt (h.placed key ref hfind)
  apart := by rw [hstage]; exact h.apart
  found := by rw [hparameters, hstage]; exact h.found

/-- **The type of a declaration without context rules is the one under its key**, found or made. -/
theorem typeFor_keyed (h : Keyed d) :
    Ends (typeFor setting r) d (fun ref => Found d r ref) Keyed := by
  refine ends_typeFor (fun ref _ hfind => ⟨h, rfl, rfl, rfl, fun _ => hfind⟩) (fun _ => h.noted)
    fun type name t _ hnone => ?_
  unfold typeKept
  cases hcontext : d.stage.calibrations.hasContext r.name with
  | true =>
      refine ⟨h.addType rfl rfl rfl, rfl, rfl, rfl, fun hplain => ?_⟩
      cases hplain.symm.trans hcontext
  | false =>
      rw [if_neg Bool.false_ne_true]
      exact ⟨h.keep (hnone hcontext) rfl rfl rfl, rfl, rfl, rfl,
        fun _ => Index.find?_set_self _ _ _⟩

/-! ## Reading the declarations -/

/-- A declaration whose parameter has been added with the type that was found. -/
theorem Found.add {d₁ d₂ : Draft TelemetryState} {ref : ParameterTypeRef} {p : Parameter}
    (h : Found d r ref d₁) (hfresh : d₁.stage.declared.find? r.name = none) (hp : p.type = ref)
    (htypes : d₂.database.parameterTypes = d₁.database.parameterTypes)
    (hparameters : d₂.database.parameters = d₁.database.parameters.push p)
    (hdeclared : d₂.stage.declared = d₁.stage.declared.set r.name r)
    (hcalibrations : d₂.stage.calibrations = d₁.stage.calibrations)
    (hshared : d₂.stage.sharedTypes = d₁.stage.sharedTypes) : Keyed d₂ := by
  have hentries : d₂.stage.declared.entries = d₁.stage.declared.entries ++ [(r.name, r)] := by
    rw [hdeclared]
    exact Index.entries_set_of_find?_eq_none hfresh r
  refine ⟨?_, ?_, ?_, fun i name q p' hi hp' hq => ?_⟩
  · rw [hparameters, Catalog.size_push, hentries, List.length_append, h.keyed.size]
    rfl
  · rw [htypes, hshared]
    exact h.keyed.placed
  · rw [hshared]
    exact h.keyed.apart
  · rw [hentries] at hi
    rw [hcalibrations] at hq
    rw [hshared]
    rw [hparameters] at hp'
    by_cases hlt : i < d₁.stage.declared.entries.length
    · rw [List.getElem?_append_left hlt] at hi
      rw [Catalog.get?_push_of_lt _ _ (h.keyed.size ▸ hlt)] at hp'
      exact h.keyed.found i name q p' hi hp' hq
    · -- the last declaration is the new one
      have hlast : i = d₁.stage.declared.entries.length := by
        have hbound := (List.getElem?_eq_some_iff.mp hi).1
        rw [List.length_append, List.length_singleton] at hbound
        omega
      subst hlast
      rw [List.getElem?_concat_length] at hi
      cases hi
      rw [← h.keyed.size] at hp'
      cases (Catalog.get?_push_next _ _).symm.trans hp'
      rw [hp]
      exact h.key (h.calibrations ▸ hq)

/-- **A record keeps types under their keys**, however it ends. -/
theorem declare_keyed (h : Keyed d) : Ends (declare setting r) d (fun _ => Keyed) Keyed := by
  refine ends_declare h (fun _ _ => h.same rfl rfl rfl rfl) fun hfresh => ?_
  refine ends_addDeclared (typeFor_keyed h) (fun _ _ ht _ => ht.keyed) fun ref t ht _ => ?_
  rw [← ht.declared] at hfresh
  exact ht.add (p := r.parameter ref) hfresh rfl rfl rfl rfl rfl rfl

/-! ## The names of types -/

/-- A step after which the names of types are apart if they were so before. -/
def NamesApart (d t : Draft TelemetryState) : Prop :=
  d.database.parameterTypes.Coherent → t.database.parameterTypes.Coherent

instance : Std.Refl NamesApart := ⟨fun _ => id⟩

instance : IsTrans (Draft TelemetryState) NamesApart := ⟨fun _ _ _ h h' hd => h' (h hd)⟩

theorem namesApart_declare (r : ParameterRecord) : Steps NamesApart (declare setting r) :=
  steps_declare (fun d t h hd => by rw [h]; exact hd)
    (fun _ type => steps_addParameterType fun _ hfree hd => hd.push hfree)
    (fun _ p => steps_addParameter fun _ _ hd => hd) (fun _ _ => steps_modify fun _ hd => hd) r

/-! ## Who shares a type with whom -/

/-- Which declared parameters share types, and that the names of types are apart. -/
structure SharedByKeys (calibrations : Registry) (d : Draft TelemetryState) : Prop where
  parameters : d.database.parameters.size = d.stage.declared.entries.length
  sharing : ∀ i j name name' r r', i ≠ j → d.stage.declared.entries[i]? = some (name, r) →
    d.stage.declared.entries[j]? = some (name', r') →
    ∃ p p', d.database.parameters.get? ⟨i⟩ = some p ∧ d.database.parameters.get? ⟨j⟩ = some p' ∧
      p.name = name ∧ r.name = name ∧ p'.name = name' ∧ r'.name = name' ∧
      (p.type = p'.type ↔ calibrations.contextRules name = [] ∧
        calibrations.contextRules name' = [] ∧ TypeKey.ofRecord r = TypeKey.ofRecord r')
  names : d.database.parameterTypes.names.Nodup

/-- Three facts about a state decide who shares a type with whom. -/
theorem sharedByKeys (hshared : Shared setting calibrations d) (howned : Owned d) (hkeyed : Keyed d)
    (hnames : d.database.parameterTypes.Coherent) : SharedByKeys calibrations d := by
  refine ⟨hshared.size, fun i j name name' r r' hne hi hj => ?_, hnames.distinct⟩
  obtain ⟨p, hp, hname, hr, -⟩ := hshared.parameters i name r hi
  obtain ⟨p', hp', hname', hr', -⟩ := hshared.parameters j name' r' hj
  refine ⟨p, p', hp, hp', hname, hr, hname', hr', ?_⟩
  have hplain {n : String} (hn : ¬d.stage.calibrations.hasContext n = true) :
      calibrations.contextRules n = [] := by
    rw [hshared.registry] at hn
    simpa [Registry.hasContext] using hn
  have hcontext {n : String} (hn : calibrations.contextRules n = []) :
      d.stage.calibrations.hasContext n = false := by
    rw [hshared.registry, Registry.hasContext, hn]
    rfl
  have hfound := hkeyed.found i name r p hi hp
  have hfound' := hkeyed.found j name' r' p' hj hp'
  rw [hr] at hfound
  rw [hr'] at hfound'
  constructor
  · intro htype
    -- neither parameter owns the type that they share
    have hno : ¬d.stage.calibrations.hasContext name = true := by
      intro hc
      have hsame := howned.alone ⟨i⟩ p hp (hname ▸ hc) ⟨j⟩ p' hp' htype.symm
      exact hne (congrArg Ref.index hsame).symm
    have hno' : ¬d.stage.calibrations.hasContext name' = true := by
      intro hc
      have hsame := howned.alone ⟨j⟩ p' hp' (hname' ▸ hc) ⟨i⟩ p hp htype
      exact hne (congrArg Ref.index hsame)
    refine ⟨hplain hno, hplain hno', hkeyed.apart _ _ p.type ?_ ?_⟩
    · exact hfound (by simpa using hno)
    · rw [htype]
      exact hfound' (by simpa using hno')
  · rintro ⟨hnone, hnone', hkey⟩
    have hfind := hfound (hcontext hnone)
    rw [hkey, hfound' (hcontext hnone')] at hfind
    exact (Option.some.inj hfind).symm

/-- **Two parameters have the same type exactly if neither has context rules and their declarations
have the same key**, and no two types have the same name, wherever the declarations end. -/
theorem loadParameters_sharedByKeys (hnone : d.database.parameters.size = 0)
    (hnames : d.database.parameterTypes.names.Nodup)
    (hstage : d.stage = { calibrations := calibrations }) :
    Ends (loadParameters setting) d (fun _ => SharedByKeys calibrations)
      (SharedByKeys calibrations) := by
  let Kept (t : Draft TelemetryState) : Prop :=
    Owned t ∧ Keyed t ∧ t.database.parameterTypes.Coherent
  have hkept : Ends (loadParameters setting) d (fun _ => Kept) Kept := by
    refine loadParameters_keeps
      (fun t e ht => ⟨ht.1.same rfl rfl rfl rfl, ht.2.1.same rfl rfl rfl rfl, ht.2.2⟩)
      (fun r t ht => ?_) ⟨owned_start hnone (by rw [hstage]), keyed_start hnone hstage,
        Catalog.coherent_of_nodup hnames⟩
    exact ((declare_owned ht.1).both
      ((declare_keyed ht.2.1).both (namesApart_declare r t))).mono
        (fun _ _ _ h => ⟨h.1, h.2.1, h.2.2 ht.2.2⟩) fun _ h => ⟨h.1, h.2.1, h.2.2 ht.2.2⟩
  have hshared : Ends (loadParameters setting) d (fun _ => Shared setting calibrations)
      (Shared setting calibrations) := loadParameters_ends (shared_start hnone hstage)
  exact (Ends.both hshared hkept).mono (fun _ _ _ h => sharedByKeys h.1 h.2.1 h.2.2.1 h.2.2.2)
    fun _ h => sharedByKeys h.1 h.2.1 h.2.2.1 h.2.2.2

/-- Three units of which two make one name, a fourth parameter with the first unit, and a fifth one
that has it too and context rules. -/
def speedSetting : Setting :=
  .ofTables [
    ("pcf", "A\t\t\tm/s\t3\t4\t\t\t\tN\tR\n" ++
      "B\t\t\tms\t3\t4\t\t\t\tN\tR\n" ++
      "C\t\t\tms_1\t3\t4\t\t\t\tN\tR\n" ++
      "D\t\t\tm/s\t3\t4\t\t\t\tN\tR\n" ++
      "E\t\t\tm/s\t3\t4\t\t\t\tN\tR\n")]

/-- A context rule for the last of the parameters. -/
def speedCalibrations : Registry :=
  { contexts := ⟨[("E", [⟨⟨"cur.dat", 1⟩, 1, "A", 0, "X"⟩])]⟩ }

/-- Only the parameters with the same unit and without context rules share a type, and the number
of one name leads to a number of another. -/
theorem speeds_shared_by_keys :
    ∃ d', loadParameters speedSetting
        ⟨{ name := "MIB" }, [], [], { calibrations := speedCalibrations }⟩ = .ok () d' ∧
      SharedByKeys speedCalibrations d' ∧
      d'.database.parameters.toList.map (fun p => p.type.index) = [0, 1, 2, 0, 3] ∧
      d'.database.parameterTypes.names =
        ["ptcpfc_3_4_N___1_ms", "ptcpfc_3_4_N___1_ms_1", "ptcpfc_3_4_N___1_ms_1_1",
          "ptcpfc_3_4_N___1_ms_2"] := by
  have hok : (after? (loadParameters speedSetting)
      ⟨{ name := "MIB" }, [], [], { calibrations := speedCalibrations }⟩).any (fun d' => decide
        (d'.database.parameters.toList.map (fun p => p.type.index) = [0, 1, 2, 0, 3] ∧
          d'.database.parameterTypes.names =
            ["ptcpfc_3_4_N___1_ms", "ptcpfc_3_4_N___1_ms_1", "ptcpfc_3_4_N___1_ms_1_1",
              "ptcpfc_3_4_N___1_ms_2"])) = true := by
    decide +kernel
  obtain ⟨d', hafter, hfacts⟩ := (Option.any_eq_true _ _).mp hok
  obtain ⟨htypes, hnames⟩ := of_decide_eq_true hfacts
  obtain ⟨_, hrun⟩ := after?_eq_some.mp hafter
  have hshared := (loadParameters_sharedByKeys rfl Catalog.coherent_empty.distinct rfl).of_ok hrun
  exact ⟨d', hrun, hshared, htypes, hnames⟩

end Telemetry

end MissionBase
