import MissionBase.Proofs.Commanding.FixedPatterns
import MissionBase.Proofs.Commanding.FreshTypes
import MissionBase.Proofs.Commanding.VerificationStages

/-!
# The members of records

What a group of several elements repeats is a record with a member for each of them. A member has
the name of the command parameter of its element, as it is. An argument that stands alone gets a
name that is free in its command, but nothing looks for the name of a member among those of the
others. So the members of a record can be told apart exactly if no two elements of the group have
one command parameter (`compile_records`).

No other work of the compilation brings records: what comes before the commands brings none, a
command brings those of its groups even if it is refused in the end, and what comes after brings
none again.
-/

namespace MissionBase

namespace Commanding

open Run

variable {setting : Setting} {d t u begun : Draft CommandingState} {c : Command}
  {e : CommandElement} {elements : List CommandElement} {fields : List RecordMember}

/-! ## Records and their groups -/

/-- Members that stand for a group among elements: an element counts the elements of the group,
which come after it, and each member is named for the command parameter of one of them, in their
order. -/
def StandForGroup (elements : List CommandElement) (members : List RecordMember) : Prop :=
  ∃ before counter group after, elements = before ++ counter :: (group ++ after) ∧
    counter.groupSize = group.length ∧ (∀ e ∈ group, e.kind = .editable) ∧
    members.map (·.name) = group.map fun e => e.parameter.getD ""

/-- A group of the elements that are left is a group among all of them. -/
theorem StandForGroup.of_suffix {left : List CommandElement} (h : StandForGroup left fields)
    (hleft : left <:+ elements) : StandForGroup elements fields := by
  obtain ⟨before, rfl⟩ := hleft
  obtain ⟨first, counter, group, after, rfl, hgroup⟩ := h
  exact ⟨before ++ first, counter, group, after, by rw [List.append_assoc], hgroup⟩

/-- A step after which every record is an old one, or has members of some kind. -/
def Brings (ok : List RecordMember → Prop) (d t : Draft CommandingState) : Prop :=
  ∀ type ∈ t.database.argumentTypes.toList, type ∈ d.database.argumentTypes.toList ∨
    ∀ members, type.value = .record members → ok members

section

variable {ok : List RecordMember → Prop}

instance : Std.Refl (Brings ok) := ⟨fun _ _ h => .inl h⟩

instance : IsTrans (Draft CommandingState) (Brings ok) := by
  refine ⟨fun _ _ _ h h' type htype => ?_⟩
  rcases h' type htype with hold | hok
  · exact h type hold
  · exact .inr hok

theorem brings_of_same (h : t.database.argumentTypes = d.database.argumentTypes) :
    Brings ok d t := by
  intro type htype
  rw [h] at htype
  exact .inl htype

theorem brings_push {type : ArgumentType} (h : ∀ members, type.value = .record members → ok members)
    (d : Draft CommandingState) :
    Brings ok d { d with database := (d.database.addArgumentType type).2 } := by
  intro other hother
  change other ∈ (d.database.argumentTypes.push { type with name := _ }).toList at hother
  rw [Catalog.toList_push, List.mem_append, List.mem_singleton] at hother
  rcases hother with hold | rfl
  · exact .inl hold
  · exact .inr h

theorem not_record {value : ValueType} (h : value.isRecord = false) (members : List RecordMember) :
    value = .record members → ok members := by
  rintro rfl
  cases h

/-- Only groups bring records. -/
theorem brings_tracks : Tracks (Brings ok) where
  noted := fun _ _ _ => brings_of_same rfl
  stage := fun _ => steps_modify fun _ => brings_of_same rfl
  argumentType := fun d _ ht => brings_push (not_record ht) d
  command := fun _ _ => steps_addCommand fun _ _ => brings_of_same rfl
  changeCommand := fun _ _ => steps_modify fun _ => brings_of_same rfl

theorem brings_addArgumentType {type : ArgumentType}
    (h : ∀ members, type.value = .record members → ok members) :
    Steps (Brings ok) (addArgumentType type) := fun d => brings_push h d

theorem brings_argumentTypeFor (p : CommandParameter) (tag : Int) :
    Steps (Brings ok) (argumentTypeFor setting p tag) :=
  steps_argumentTypeFor (fun _ ht => brings_addArgumentType (not_record ht))
    (fun _ _ => steps_modify fun _ => brings_of_same rfl)
    (fun _ _ => steps_modify fun _ => brings_of_same rfl) p tag

/-! ## Groups -/

section

-- the parameters at hand are kept by their names, and so they are at every moment of a definition
variable (hnamed : ∀ name p, begun.stage.parameters.find? name = some p → p.name = name)
include hnamed

/-- A member has the name of the command parameter of its element. -/
theorem memberFor_name (hd : Placing begun d) {m : RecordMember}
    (h : memberFor setting e d = .ok m t) : m.name = e.parameter.getD "" := by
  obtain ⟨a, u, hargument, hm⟩ := bind_eq_ok.mp h
  obtain ⟨rfl, -⟩ := pure_eq_ok.mp hm
  unfold argumentOf at hargument
  obtain ⟨s, _, hstage, hargument⟩ := bind_eq_ok.mp hargument
  obtain ⟨rfl, rfl⟩ := stage_eq_ok.mp hstage
  obtain ⟨p, _, hlift, hargument⟩ := bind_eq_ok.mp hargument
  obtain ⟨hp, rfl⟩ := lift_eq_ok.mp hlift
  obtain ⟨type, _, -, hargument⟩ := bind_eq_ok.mp hargument
  obtain ⟨db, _, -, hlift⟩ := bind_eq_ok.mp hargument
  have hname := (withDefault_same (lift_eq_ok.mp hlift).1).1
  rw [hd.keeps.parameterOf] at hp
  unfold parameterOf at hp
  cases hfind : begun.stage.parameters.find? (e.parameter.getD "") with
  | none => simp [hfind] at hp
  | some q =>
      simp only [hfind] at hp
      cases hp
      exact hname.trans (hnamed _ p hfind)

theorem members_names : ∀ {members : List CommandElement} {fields : List RecordMember}
    {d t : Draft CommandingState}, Placing begun d →
    members.mapM (memberFor setting) d = .ok fields t →
      fields.map (·.name) = members.map fun e => e.parameter.getD ""
  | [], fields, _, _, _, h => by
      rw [List.mapM_nil] at h
      obtain ⟨rfl, -⟩ := pure_eq_ok.mp h
      rfl
  | e :: rest, fields, d, t, hd, h => by
      rw [List.mapM_cons] at h
      obtain ⟨m, u, hfirst, h⟩ := bind_eq_ok.mp h
      obtain ⟨ms, _, hrest, h⟩ := bind_eq_ok.mp h
      obtain ⟨rfl, -⟩ := pure_eq_ok.mp h
      have hplacing : Placing d u := by
        obtain ⟨a, _, hargument, hm⟩ := bind_eq_ok.mp hfirst
        obtain ⟨-, rfl⟩ := pure_eq_ok.mp hm
        exact (steps_argumentOf placing_argumentTypeFor e).of_ok hargument
      rw [List.map_cons, List.map_cons, memberFor_name hnamed hd hfirst,
        members_names (IsTrans.trans _ _ _ hd hplacing) hrest]

omit hnamed in
/-- A group brings a record of its members, unless there is only one. -/
theorem brings_placeArray (counter : String) (hok : ok fields) :
    Steps (Brings ok) (placeArray c counter fields) := by
  unfold placeArray
  refine Steps.bind ?_ fun element =>
    (brings_addArgumentType (not_record rfl)).bind fun _ => steps_pure _
  unfold groupElement
  split
  · exact steps_pure _
  · refine (brings_addArgumentType fun members hrecord => ?_).bind fun _ => steps_pure _
    cases hrecord
    exact hok

theorem placeGroup_brings (hd : Placing begun d) (counter : String) (members : List CommandElement)
    (hok : ∀ fields : List RecordMember, (∀ e ∈ members, e.kind = .editable) →
      (fields.map (·.name) = members.map fun e => e.parameter.getD "") → ok fields) :
    Ends (placeGroup setting c counter members) d (fun _ => Brings ok d) (Brings ok d) := by
  rw [placeGroup_eq]
  have hmembers : Steps (Brings ok) (members.mapM (memberFor setting)) :=
    steps_mapM (fun e => (steps_argumentOf brings_argumentTypeFor e).bind fun _ => steps_pure _) _
  refine Ends.bind (ends_lift (fun _ hcheck => ?_) (Std.Refl.refl d))
  refine Ends.bind ((hmembers d).mono (fun fields t hrun hbrings => ?_) fun _ h => h)
  have hfields := hok fields (checkMembers_eq_ok hcheck) (members_names hnamed hd hrun)
  exact (brings_placeArray counter hfields t).mono
    (fun _ _ _ h => IsTrans.trans _ _ _ hbrings h) fun _ h => IsTrans.trans _ _ _ hbrings h

/-- The first of some elements brings the record of its group. -/
theorem placeFirst_brings (hd : Placing begun d) (rest : List CommandElement)
    (hok : ∀ fields, StandForGroup (e :: rest) fields → ok fields) :
    Ends (placeFirst setting c e rest) d (fun _ => Brings ok d) (Brings ok d) := by
  have hargument : Steps (fun s t => Brings ok s t ∧ Placing s t) (placeArgument setting c e) :=
    (steps_placeArgument brings_argumentTypeFor c e).both
      (steps_placeArgument placing_argumentTypeFor c e)
  apply ends_placeFirst (A := fun _ t => Brings ok d t ∧ Placing d t)
  case hfails => exact Std.Refl.refl d
  case harea => exact fun _ _ _ => Std.Refl.refl d
  case hargument => exact fun _ => (hargument d).mono (fun _ _ _ h => h) fun _ h => h.1
  case hplain => exact fun _ _ _ _ _ ht => ht.1
  case hoverrun => exact fun _ _ ht => ht.1
  case honce =>
    intro _ _ _ _ _ t ⟨hbrings, _⟩ _
    refine ends_limitation fun u hdb _ => ?_
    have hsame : Brings ok t u := brings_of_same (by rw [hdb])
    exact IsTrans.trans _ _ _ hbrings hsame
  case hgroup =>
    intro _ _ hfits _ c₁ counter t ⟨hbrings, hplacing⟩
    refine (placeGroup_brings hnamed (IsTrans.trans _ _ _ hd hplacing) counter _
      fun fields hkinds hnames => hok fields ?_).after hbrings
    refine ⟨[], e, rest.take e.groupSize, rest.drop e.groupSize, ?_,
      (List.length_take_of_le hfits).symm, hkinds, hnames⟩
    rw [List.take_append_drop, List.nil_append]

/-- **Elements bring the records of their groups**, even where one of them fails in the end. -/
theorem placeElements_brings (elements : List CommandElement) {c : Command}
    {d : Draft CommandingState} (hd : Placing begun d)
    (hok : ∀ fields, StandForGroup elements fields → ok fields) :
    Ends (placeElements setting c elements) d (fun _ => Brings ok d) (Brings ok d) := by
  refine (ends_placeElements (I := fun left _ t => left <:+ elements ∧ Placing begun t ∧
    Brings ok d t) (fun e rest c₁ t ht => ?_) ⟨List.suffix_rfl, hd, Std.Refl.refl d⟩).mono
    (fun _ _ _ h => h.2.2) fun _ h => h
  obtain ⟨hleft, ht, hbrings⟩ := ht
  have hfirst : Ends (placeFirst setting c₁ e rest) t (fun _ => Brings ok t) (Brings ok t) :=
    placeFirst_brings hnamed ht rest fun fields h => hok fields (h.of_suffix hleft)
  refine ((hfirst.after hbrings).both (placing_placeFirst c₁ e rest t)).mono
    (fun x u _ hu => ⟨?_, IsTrans.trans _ _ _ ht hu.2, hu.1⟩) fun _ hu => hu.1
  exact ((List.drop_suffix x.2 rest).trans (List.suffix_cons e rest)).trans hleft

end

/-! ## The tables -/

/-- The records that the definition of a command brings are those of its groups. -/
theorem defineCommand_brings (hsound : Sound setting d) (row : Row)
    (hok : ∀ name fields, StandForGroup ((d.stage.elements.find? name).getD []) fields →
      ok fields) :
    Ends (defineCommand setting row) d (fun _ => Brings ok d) (Brings ok d) :=
  ends_defineCommand (Std.Refl.refl d) (Std.Refl.refl d) fun name _ _ _ =>
    (placeElements_brings hsound.named _ (Std.Refl.refl d) (hok name)).mono
      (fun _ _ _ ht => ⟨ht, fun _ _ => ht⟩) fun _ h => h

theorem loadCommands_brings (hsound : Sound setting d)
    (hok : ∀ name fields, StandForGroup ((d.stage.elements.find? name).getD []) fields →
      ok fields) :
    Ends (loadCommands setting) d (fun _ => Brings ok d) fun _ => True := by
  refine Ends.bind ((ends_scan (Q := fun t => Keeps d t ∧ Sound setting t ∧ Brings ok d t)
    (fun t e ht => ?_) ⟨Std.Refl.refl d, hsound, Std.Refl.refl d⟩ fun row t ht => ?_).mono
    (fun _ _ _ h => h.2.2) fun _ _ => trivial)
  · have haside : Aside setting t { t with errors := t.errors ++ [e] } := ht.2.1.same rfl rfl
    exact ⟨ht.1.trans haside.keeps, haside.sound, ht.2.2⟩
  · obtain ⟨hkeeps, hsound, hbrings⟩ := ht
    have hgroups : Ends (defineCommand setting row) t (fun _ => Brings ok t) (Brings ok t) :=
      defineCommand_brings hsound row fun name fields h =>
        hok name fields (by rwa [← hkeeps.elements])
    refine ((defineCommand_ends hsound row).both hgroups).mono (fun _ u _ hu => ?_) fun u hu => ?_
    · obtain ⟨haside | ⟨hstep, hsound', -⟩, hnew⟩ := hu
      · exact ⟨hkeeps.trans haside.keeps, haside.sound, IsTrans.trans _ _ _ hbrings hnew⟩
      · exact ⟨hkeeps.trans hstep, hsound', IsTrans.trans _ _ _ hbrings hnew⟩
    · exact ⟨hkeeps.trans hu.1.keeps, hu.1.sound, IsTrans.trans _ _ _ hbrings hu.2⟩

theorem brings_changeStage (change : CommandingState → CommandingState) :
    Steps (Brings ok) (Build.changeStage change) := steps_modify fun _ => brings_of_same rfl

/-- Verification brings no types of arguments. -/
theorem brings_verification : VerifierSteps (Brings ok) where
  limitation := fun _ => steps_modify fun _ => brings_of_same rfl
  expressions := fun _ => brings_changeStage _
  passedOver := fun _ => brings_changeStage _
  unsigned := steps_addUnsigned (fun _ => steps_addParameterType fun _ _ => brings_of_same rfl)
    fun _ _ => steps_addParameter fun _ _ => brings_of_same rfl
  algorithm := fun _ => steps_addAlgorithm fun _ _ => brings_of_same rfl
  stages := fun _ => brings_changeStage _
  dropped := fun _ => brings_changeStage _
  verifier := fun _ _ => steps_modify fun _ => brings_of_same rfl

end

/-- An argument has a command parameter. -/
theorem parameter_of_ofRow {row : Row} {tag : Int} (h : CommandElement.ofRow row tag = .ok e)
    (hkind : e.isArgument = true) : ∃ name, e.parameter = some name := by
  unfold CommandElement.ofRow at h
  obtain ⟨_, -, h⟩ := except_bind_eq_ok.mp h
  obtain ⟨kind, -, h⟩ := except_bind_eq_ok.mp h
  dsimp only at h
  split at h
  · cases h
  · rename_i hhas
    obtain ⟨_, -, h⟩ := except_bind_eq_ok.mp h
    obtain ⟨_, -, h⟩ := except_bind_eq_ok.mp h
    split at h
    · cases h
    · obtain ⟨_, -, h⟩ := except_bind_eq_ok.mp h
      split at h
      · cases h
      · obtain ⟨_, -, h⟩ := except_bind_eq_ok.mp h
        obtain ⟨_, -, h⟩ := except_bind_eq_ok.mp h
        cases h
        -- a record without a command parameter is one of an area
        unfold CommandElement.isArgument at hkind
        rw [hkind, Bool.true_and, Bool.not_eq_true', Bool.not_eq_false] at hhas
        exact Option.isSome_iff_exists.mp hhas

/-- Elements of a command that are taken up and come right after one that counts them. -/
def Counted (setting : Setting) (rows : List Row) (state : CommandingState) (command : String)
    (group : List CommandElement) : Prop :=
  ∃ before counter after, (commandRows setting rows command).filter (takesUp state command) =
      before ++ counter :: (group ++ after) ∧
    counter.groupSize = group.length ∧ ∀ e ∈ group, e.kind = .editable

/-- Members that stand for a group have the names of its command parameters. -/
theorem StandForGroup.counted {rows : List Row} {state : CommandingState} {command : String}
    (h : StandForGroup ((commandRows setting rows command).filter (takesUp state command)) fields) :
    ∃ group, Counted setting rows state command group ∧
      fields.map (fun m => some m.name) = group.map (·.parameter) := by
  obtain ⟨before, counter, group, after, helements, hsize, hkinds, hnames⟩ := h
  refine ⟨group, ⟨before, counter, after, helements, hsize, hkinds⟩, ?_⟩
  have hparameter : ∀ e ∈ group, some (e.parameter.getD "") = e.parameter := by
    intro e he
    have hmem : e ∈ (commandRows setting rows command).filter (takesUp state command) := by
      rw [helements]
      simp [he]
    obtain ⟨row, -, hrow⟩ := exists_row_of_mem_commandRows (List.mem_filter.mp hmem).1
    have hargument : e.isArgument = true := by
      rw [CommandElement.isArgument, hkinds e he]
      rfl
    obtain ⟨name, hname⟩ := parameter_of_ofRow hrow hargument
    rw [hname, Option.getD_some]
  calc fields.map (fun m => some m.name)
      = (fields.map (·.name)).map some := (List.map_map ..).symm
    _ = (group.map fun e => e.parameter.getD "").map some := by rw [hnames]
    _ = group.map (·.parameter) := by
        rw [List.map_map]
        exact List.map_congr_left hparameter

/-- **The elements that commands are defined from are those of the table that are taken up.** -/
theorem beforeCommands_elements (hstage : d.stage = {})
    (hrun : beforeCommands setting d = .ok () t) :
    ∃ rows, Build.rows setting "cdf" = .ok rows ∧ ∀ name,
      (t.stage.elements.find? name).getD [] =
        (commandRows setting rows name).filter (takesUp t.stage name) := by
  obtain ⟨_, d₁, h₁, hrun⟩ := bind_eq_ok.mp hrun
  obtain ⟨_, d₂, h₂, hrun⟩ := bind_eq_ok.mp hrun
  obtain ⟨_, d₃, h₃, h₄⟩ := bind_eq_ok.mp hrun
  obtain ⟨_, _, hscan, -⟩ := bind_eq_ok.mp h₄
  obtain ⟨rows, hrows⟩ := exists_rows_of_scan hscan
  have hunread : d₃.stage.elements.entries = [] := by
    have hgathered : gathered d₂.stage = gathered {} := by
      rw [(heading_loadCalibrations.of_ok h₂).stage, (heading_loadHeaders.of_ok h₁).stage, hstage]
    rw [loadParameters_elements.of_ok h₃]
    exact congrArg (fun g => g.2.1.entries) hgathered
  obtain ⟨hparameters, htaken⟩ := (loadElements_taken hrows hunread).of_ok h₄
  have htakes : takesUp d₃.stage = takesUp t.stage := by
    funext name e
    rw [takesUp, takesUp, hparameters]
  exact ⟨rows, hrows, htakes ▸ htaken⟩

/-- **The records of the command stage are those of groups.** -/
theorem buildCommands_records (hnone : d.database.argumentTypes.toList = [])
    (hstage : d.stage = {}) (hrun : buildCommands setting d = .ok () t) :
    ∃ rows begun, Build.rows setting "cdf" = .ok rows ∧
      beforeCommands setting d = .ok () begun ∧
      ∀ type ∈ t.database.argumentTypes.toList, ∀ members, type.value = .record members →
        ∃ command group, Counted setting rows begun.stage command group ∧
          members.map (fun m => some m.name) = group.map (·.parameter) := by
  obtain ⟨_, d₁, h₁, hrun⟩ := bind_eq_ok.mp hrun
  obtain ⟨_, d₂, h₂, hrun⟩ := bind_eq_ok.mp hrun
  obtain ⟨_, d₃, h₃, hrun⟩ := bind_eq_ok.mp hrun
  obtain ⟨_, d₄, h₄, hrun⟩ := bind_eq_ok.mp hrun
  obtain ⟨_, d₅, h₅, hrun⟩ := bind_eq_ok.mp hrun
  obtain ⟨_, d₆, h₆, h₇⟩ := bind_eq_ok.mp hrun
  have hbefore : beforeCommands setting d = .ok () d₄ :=
    bind_eq_ok.mpr ⟨(), d₁, h₁, bind_eq_ok.mpr ⟨(), d₂, h₂, bind_eq_ok.mpr ⟨(), d₃, h₃, h₄⟩⟩⟩
  obtain ⟨rows, hrows, htaken⟩ := beforeCommands_elements hstage hbefore
  refine ⟨rows, d₄, hrows, hbefore, ?_⟩
  let ok (members : List RecordMember) : Prop :=
    ∃ name, StandForGroup ((d₄.stage.elements.find? name).getD []) members
  have hbrings : Brings ok d t := by
    have hnew : Brings ok d₄ d₅ := (loadCommands_brings (beforeCommands_sound hstage hbefore)
      fun name fields h => ⟨name, h⟩).of_ok h₅
    have htracks : Tracks (Brings ok) := brings_tracks
    have hgathering := htracks.gatheringSteps
    have hrecord := htracks.recorded
    refine IsTrans.trans _ _ _ ((htracks.headerSteps.loadHeaders hrecord).of_ok h₁) ?_
    refine IsTrans.trans _ _ _ (htracks.loadCalibrations.of_ok h₂) ?_
    refine IsTrans.trans _ _ _ ((hgathering.loadParameters hrecord).of_ok h₃) ?_
    refine IsTrans.trans _ _ _ ((hgathering.loadElements hrecord).of_ok h₄) ?_
    refine IsTrans.trans _ _ _ hnew ?_
    exact IsTrans.trans _ _ _ ((hgathering.loadConstraints hrecord).of_ok h₆)
      ((brings_verification.loadVerifiers hrecord).of_ok h₇)
  intro type htype members hrecord
  rcases hbrings type htype with hold | hnew
  · rw [hnone] at hold
    cases hold
  · obtain ⟨command, hgroup⟩ := hnew members hrecord
    rw [htaken] at hgroup
    exact ⟨command, hgroup.counted⟩

end Commanding

open Commanding Run

/-- **The members of a record can be told apart exactly if no two elements of its group have one
command parameter.** Every record among the types of arguments is the one of a group: elements of a
command that are taken up and come right after one that counts them. Its members have the names of
the command parameters of these elements, in their order. -/
theorem compile_records {config : Config} {files : Files} {compiler : Option FormulaCompiler}
    {out : Compiled} (h : compile config files compiler = .ok out) :
    ∃ (course : Course config files compiler out) (rows : List Row)
      (begun : Draft CommandingState), Build.rows course.setting "cdf" = .ok rows ∧
      beforeCommands course.setting ⟨course.telemetry.database, course.telemetry.errors,
        course.telemetry.warnings, {}⟩ = .ok () begun ∧
      ∀ type ∈ out.database.argumentTypes.toList, ∀ members, type.value = .record members →
        ∃ command group, Counted course.setting rows begun.stage command group ∧
          members.map (fun m => some m.name) = group.map (·.parameter) ∧
          ((members.map (·.name)).Nodup ↔ (group.map (·.parameter)).Nodup) := by
  obtain ⟨course⟩ := exists_course h
  -- no operation of the telemetry stage is about types of arguments
  have hnone : course.telemetry.database.argumentTypes.toList = [] := by
    have hoperations : Telemetry.Operations course.versioned.database course.telemetry.database :=
      (Telemetry.operates_buildTelemetry compiler).of_ok course.telemetry_eq
    rw [hoperations.commanding.2, course.blank]
    rfl
  obtain ⟨rows, begun, hrows, hbegun, hrecords⟩ :=
    buildCommands_records hnone rfl course.commanding_eq
  refine ⟨course, rows, begun, hrows, hbegun, fun type htype members hrecord => ?_⟩
  rw [course.database_eq] at htype
  obtain ⟨command, group, hcounted, hnames⟩ := hrecords type htype members hrecord
  refine ⟨command, group, hcounted, hnames, ?_⟩
  rw [← hnames, ← List.nodup_map_iff (Option.some_injective String), List.map_map]
  rfl

/-- The members that a type has as a record. -/
def ValueType.members : ValueType → List RecordMember
  | record members => members
  | _ => []

theorem ValueType.eq_record_of_members {value : ValueType} (h : value.members ≠ []) :
    value = .record value.members := by
  cases value with
  | record members => rfl
  | _ => exact absurd rfl h

/-- A group of two elements with one command parameter. -/
def twiceFiles : Files :=
  .ofTables "m" [("vdf", "TEST\n"), ("cpc", "N1\t\t3\t4\nV1\t\t3\t12\n"),
    ("cdf", "CMD\tE\t\t8\t0\t2\tN1\nCMD\tE\t\t16\t8\t0\tV1\nCMD\tE\t\t16\t24\t0\tV1\n"),
    ("ccf", "CMD\ta command\t\t\tN\tNOHEADER\n")]

/-- The command is accepted, and both members of its record have one name. -/
theorem twice_sameMembers :
    ∃ (out : Compiled) (type : ArgumentType) (members : List RecordMember)
      (group : List CommandElement), compile { path := "m" } twiceFiles none = .ok out ∧
      out.errors = [] ∧ type ∈ out.database.argumentTypes.toList ∧
      type.value = .record members ∧ members.map (·.name) = ["V1", "V1"] ∧
      group.map (·.parameter) = [some "V1", some "V1"] ∧
      ¬ (members.map (·.name)).Nodup ∧ ¬ (group.map (·.parameter)).Nodup := by
  have hok : ((compile { path := "m" } twiceFiles none).toOption.any fun out =>
      out.errors.isEmpty && out.database.argumentTypes.toList.any fun type =>
        decide (type.value.members.map (·.name) = ["V1", "V1"])) = true := by
    simp only [compile, buildDatabase, buildCommands, loadElements,
      Index.sortLists_eq_sortedLists]
    decide +kernel
  obtain ⟨out, hout, hfacts⟩ := (Option.any_eq_true _ _).mp hok
  obtain ⟨herrors, hfacts⟩ := (Bool.and_eq_true _ _).mp hfacts
  obtain ⟨type, htype, hfacts⟩ := List.any_eq_true.mp hfacts
  have hnames := of_decide_eq_true hfacts
  have hvalue : type.value = .record type.value.members := by
    refine ValueType.eq_record_of_members fun hnil => ?_
    rw [hnil] at hnames
    cases hnames
  have hrun := eq_ok_of_toOption hout
  obtain ⟨_, _, _, -, -, hrecords⟩ := compile_records hrun
  obtain ⟨_, group, -, hparameters, hiff⟩ := hrecords type htype _ hvalue
  have hgroup : group.map (·.parameter) = [some "V1", some "V1"] := by
    have hsome : type.value.members.map (fun m => some m.name) =
        (type.value.members.map (·.name)).map some := (List.map_map ..).symm
    rw [← hparameters, hsome, hnames]
    rfl
  have hnot : ¬ (type.value.members.map (·.name)).Nodup := by
    rw [hnames]
    decide
  exact ⟨out, type, type.value.members, group, hrun, List.isEmpty_iff.mp herrors, htype, hvalue,
    hnames, hgroup, hnot, fun h => hnot (hiff.mpr h)⟩

end MissionBase
