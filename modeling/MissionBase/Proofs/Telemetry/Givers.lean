import MissionBase.Proofs.Telemetry.SharedTypes

/-!
# The records that give a parameter

Not every record of a declaration gives a parameter: it may be rejected, or stand for something
that the database does not hold. Those that do are the givers (`givers`); each gives the parameter
at the next place, with the name and the alias of its identifier on board. What the database holds
of parameters, their aliases and the owners of those, and what the stage remembers of declarations,
is what the givers say, in their order (`Given`).
-/

namespace MissionBase

open Run

/-- What a parameter is found by. -/
def Parameter.identity (p : Parameter) : String × List Alias := (p.name, p.aliases)

namespace Telemetry

variable {setting : Setting} {d t : Draft TelemetryState} {r : ParameterRecord}

/-! ## One record -/

/-- Takes up the declaration of a record. -/
def declareRow (setting : Setting) (row : Row) : TelemetryBuild Unit := do
  let record ← ParameterRecord.ofRow row setting.config.telemetry.sizeTagBytes
  declare setting record

/-- Takes up the declarations of some records. -/
def declareAll (setting : Setting) (rows : List Row) : TelemetryBuild Unit :=
  rows.forM fun row => Build.recover setting (declareRow setting row)

/-- A step that gives no parameter and no alias. -/
structure Passes (d t : Draft TelemetryState) : Prop where
  parameters : t.database.parameters = d.database.parameters
  owners : t.database.aliasOwners = d.database.aliasOwners
  declared : t.stage.declared = d.stage.declared

instance : Std.Refl Passes := ⟨fun _ => ⟨rfl, rfl, rfl⟩⟩

instance : IsTrans (Draft TelemetryState) Passes :=
  ⟨fun _ _ _ h h' => ⟨h'.parameters.trans h.parameters, h'.owners.trans h.owners,
    h'.declared.trans h.declared⟩⟩

/-- A step that gives the parameter of a declaration. -/
structure Admits (r : ParameterRecord) (d t : Draft TelemetryState) : Prop where
  fresh : d.stage.declared.find? r.name = none
  parameters : ∃ p, t.database.parameters = d.database.parameters.push p ∧
    p.identity = (r.name, r.aliases)
  owners : t.database.aliasOwners =
    r.aliases.map (·, d.database.parameters.next) ++ d.database.aliasOwners
  declared : t.stage.declared = d.stage.declared.set r.name r

theorem passes_typeFor (r : ParameterRecord) : Steps Passes (typeFor setting r) := fun _ =>
  ends_typeFor (fun _ _ _ => Std.Refl.refl _)
    (fun _ h => ⟨by rw [h.database], by rw [h.database], by rw [h.stage]⟩)
    fun _ _ _ _ _ => ⟨rfl, rfl, typeKept_declared _ _ _⟩

/-- **A declaration gives its parameter or none**, and none where it fails. -/
theorem declare_admits (d : Draft TelemetryState) :
    Ends (declare setting r) d (fun _ t => Passes d t ∨ Admits r d t) (Passes d) := by
  refine ends_declare (Std.Refl.refl d) (fun _ _ => .inl ⟨rfl, rfl, rfl⟩) fun hfresh => ?_
  refine ends_addDeclared (passes_typeFor r d) (fun _ _ h _ => h) fun ref t ht _ => .inr ?_
  unfold withParameter
  exact ⟨hfresh, ⟨_, congrArg (·.push (r.parameter ref)) ht.parameters, rfl⟩,
    by rw [ht.parameters, ht.owners], by rw [ht.declared]⟩

/-- The declaration of a record that gives a parameter where it has its turn, and the place of the
parameter. -/
def giver? (setting : Setting) (row : Row) (d : Draft TelemetryState) :
    Option (ParameterRecord × ParameterRef) :=
  match ParameterRecord.ofRow row setting.config.telemetry.sizeTagBytes,
    after? (declareRow setting row) d with
  | .ok r, some t =>
    if t.database.parameters.size = d.database.parameters.size then none
    else some (r, d.database.parameters.next)
  | _, _ => none

/-- The declarations of records that give a parameter, with the places of the parameters. -/
def givers (setting : Setting) : List Row → Draft TelemetryState →
    List (ParameterRecord × ParameterRef)
  | [], _ => []
  | row :: rest, d =>
    (giver? setting row d).toList ++
      match after? (Build.recover setting (declareRow setting row)) d with
      | some t => givers setting rest t
      | none => []

/-- A record has a giver exactly if it gives a parameter. -/
theorem declareRow_giver? (row : Row) (d : Draft TelemetryState) :
    Ends (declareRow setting row) d
      (fun _ t => giver? setting row d = none ∧ Passes d t ∨
        ∃ r, giver? setting row d = some (r, d.database.parameters.next) ∧ Admits r d t)
      fun t => giver? setting row d = none ∧ Passes d t := by
  have hrow : declareRow setting row d =
      match ParameterRecord.ofRow row setting.config.telemetry.sizeTagBytes with
      | .ok r => declare setting r d
      | .error e => .error e d := by
    unfold declareRow
    cases ParameterRecord.ofRow row setting.config.telemetry.sizeTagBytes <;> rfl
  unfold Ends giver? after?
  rw [hrow]
  cases ParameterRecord.ofRow row setting.config.telemetry.sizeTagBytes with
  | error e => exact ⟨rfl, Std.Refl.refl d⟩
  | ok r =>
      have hdeclare : Ends (declare setting r) d (fun _ t => Passes d t ∨ Admits r d t)
          (Passes d) := declare_admits d
      rw [ends_iff] at hdeclare
      dsimp only
      cases hrun : declare setting r d with
      | error e t => exact ⟨rfl, hdeclare.2 e t hrun⟩
      | ok x t =>
          dsimp only
          rcases hdeclare.1 x t hrun with hpasses | hadmits
          · exact .inl ⟨if_pos (by rw [hpasses.parameters]), hpasses⟩
          · obtain ⟨p, hp, -⟩ := hadmits.parameters
            refine .inr ⟨r, if_neg ?_, hadmits⟩
            rw [hp, Catalog.size_push]
            exact Nat.succ_ne_self _

/-! ## What the givers say -/

/-- What of the database and of the stage comes from the givers. -/
structure Given (gs : List (ParameterRecord × ParameterRef)) (d : Draft TelemetryState) :
    Prop where
  /-- What the stage remembers of declarations. -/
  declared : d.stage.declared.entries = gs.map fun g => (g.1.name, g.1)
  /-- Names and aliases of parameters. -/
  parameters : d.database.parameters.toList.map Parameter.identity =
    gs.map fun g => (g.1.name, g.1.aliases)
  /-- Every giver gives the next parameter. -/
  places : gs.map (·.2.index) = List.range gs.length
  /-- The aliases, the latest first. -/
  owners : d.database.aliasOwners = gs.reverse.flatMap fun g => g.1.aliases.map (·, g.2)

variable {gs : List (ParameterRecord × ParameterRef)}

theorem Given.passes (h : Given gs d) (ht : Passes d t) : Given gs t :=
  ⟨by rw [ht.declared]; exact h.declared, by rw [ht.parameters]; exact h.parameters, h.places,
    by rw [ht.owners]; exact h.owners⟩

theorem Given.size (h : Given gs d) : d.database.parameters.size = gs.length := by
  have hlength := congrArg List.length h.parameters
  rw [List.length_map, List.length_map] at hlength
  exact hlength

theorem Given.admits (h : Given gs d) (ht : Admits r d t) :
    Given (gs ++ [(r, d.database.parameters.next)]) t where
  declared := by
    rw [ht.declared, Index.entries_set_of_find?_eq_none ht.fresh, h.declared, List.map_append]
    rfl
  parameters := by
    obtain ⟨p, hp, hidentity⟩ := ht.parameters
    rw [hp, Catalog.toList_push, List.map_append, List.map_append, h.parameters, List.map_singleton,
      hidentity]
    rfl
  places := by
    rw [List.map_append, h.places, List.length_append, List.length_singleton, List.range_succ,
      List.map_singleton, Catalog.next_index, h.size]
  owners := by
    rw [ht.owners, h.owners, List.reverse_append, List.flatMap_append]
    simp

/-- **The givers of a run say what is there after it.** -/
theorem declareAll_given {rows : List Row} (h : Given gs d)
    (hrun : declareAll setting rows d = .ok () t) : Given (gs ++ givers setting rows d) t := by
  induction rows generalizing gs d with
  | nil =>
      obtain ⟨-, rfl⟩ := pure_eq_ok.mp hrun
      rw [givers, List.append_nil]
      exact h
  | cons row rest ih =>
      obtain ⟨_, u, hrow, hrest⟩ := bind_eq_ok.mp hrun
      have hgiver : Given (gs ++ (giver? setting row d).toList) u := by
        have hends : Ends (Build.recover setting (declareRow setting row)) d
            (fun _ => Given (gs ++ (giver? setting row d).toList))
            (Given (gs ++ (giver? setting row d).toList)) := by
          refine Ends.recover (fun _ _ ht => ht.passes ⟨rfl, rfl, rfl⟩)
            ((declareRow_giver? row d).mono (fun _ v _ hv => ?_) fun v hv => ?_)
          · rcases hv with ⟨hnone, hpasses⟩ | ⟨r, hsome, hadmits⟩
            · rw [hnone, Option.toList_none, List.append_nil]
              exact h.passes hpasses
            · rw [hsome]
              exact h.admits hadmits
          · rw [hv.1, Option.toList_none, List.append_nil]
            exact h.passes hv.2
        exact hends.of_ok hrow
      have hafter : after? (Build.recover setting (declareRow setting row)) d = some u :=
        after?_eq_some.mpr ⟨(), hrow⟩
      rw [givers, hafter, ← List.append_assoc]
      exact ih hgiver hrest

/-- Where the stage begins, nothing has been given. -/
theorem given_nil (hparameters : d.database.parameters = {}) (howners : d.database.aliasOwners = [])
    (hdeclared : d.stage.declared = {}) : Given [] d :=
  ⟨by rw [hdeclared]; rfl, by rw [hparameters]; rfl, rfl, by rw [howners]; rfl⟩

/-- Reading the declarations goes through the records of their table. -/
theorem loadParameters_eq_ok {rows : List Row} (hrows : Build.rows setting "pcf" = .ok rows) :
    loadParameters setting d = .ok () t ↔ declareAll setting rows d = .ok () t := by
  unfold loadParameters Build.scan
  rw [hrows]
  simp only [bind_eq_ok, lift_eq_ok, pure_eq_ok]
  constructor
  · rintro ⟨_, _, ⟨_, _, ⟨hok, rfl⟩, _, _, hrun, _, rfl⟩, _, rfl⟩
    cases hok
    exact hrun
  · intro hrun
    exact ⟨_, _, ⟨rows, d, ⟨rfl, rfl⟩, (), _, hrun, rfl, rfl⟩, trivial, rfl⟩

/-- The parameter of a giver stands at its place. -/
theorem Given.parameter (h : Given gs d) {g : ParameterRecord × ParameterRef} (hg : g ∈ gs) :
    ∃ p, d.database.parameters.get? g.2 = some p ∧ p.name = g.1.name := by
  obtain ⟨i, hi, rfl⟩ := List.mem_iff_getElem.mp hg
  have hplace : (gs.map (·.2.index))[i]? = some gs[i].2.index := by
    rw [List.getElem?_map, List.getElem?_eq_getElem hi]
    rfl
  rw [h.places, List.getElem?_range hi] at hplace
  have hname : (d.database.parameters.toList.map Parameter.identity)[i]? =
      some (gs[i].1.name, gs[i].1.aliases) := by
    rw [h.parameters, List.getElem?_map, List.getElem?_eq_getElem hi]
    rfl
  rw [List.getElem?_map] at hname
  obtain ⟨p, hp, heq⟩ := Option.map_eq_some_iff.mp hname
  refine ⟨p, ?_, congrArg Prod.fst heq⟩
  rw [Catalog.get?, ← Option.some.inj hplace]
  exact (Array.getElem?_toList ..).symm.trans hp

/-- **A name is found where its first giver stands**, and is not found without one. -/
theorem Given.find? (h : Given gs d) (name : String) :
    d.database.parameters.find? name =
      (gs.find? fun g => g.1.name == name).map fun g => g.2 := by
  have hnames : d.database.parameters.toList.map (·.name) = gs.map (·.1.name) := by
    have hfst := congrArg (List.map Prod.fst) h.parameters
    rw [List.map_map, List.map_map] at hfst
    exact hfst
  have hindex : d.database.parameters.items.findIdx? (fun p => p.name == name) =
      gs.findIdx? fun g => g.1.name == name := by
    have hboth := congrArg (List.findIdx? (· == name)) hnames
    rw [List.findIdx?_map, List.findIdx?_map] at hboth
    exact (List.findIdx?_toArray _ d.database.parameters.items.toList).trans hboth
  show (d.database.parameters.items.findIdx? fun p => p.name == name).map _ = _
  rw [hindex]
  cases hfind : gs.findIdx? fun g => g.1.name == name with
  | none =>
      rw [List.findIdx?_eq_none_iff] at hfind
      rw [List.find?_eq_none.mpr fun g hg => by simp [hfind g hg]]
      rfl
  | some i =>
      obtain ⟨hi, hname, hbefore⟩ := List.findIdx?_eq_some_iff_getElem.mp hfind
      have hfirst : gs.find? (fun g => g.1.name == name) = some gs[i] :=
        List.find?_eq_some_iff_getElem.mpr
          ⟨hname, i, hi, rfl, fun j hj => by simpa using hbefore j hj⟩
      have hplace : (gs.map (·.2.index))[i]? = some gs[i].2.index := by
        rw [List.getElem?_map, List.getElem?_eq_getElem hi]
        rfl
      rw [h.places, List.getElem?_range hi] at hplace
      rw [hfirst, Option.map_some, Option.map_some]
      exact congrArg some (congrArg Ref.mk (Option.some.inj hplace))

end Telemetry

end MissionBase
