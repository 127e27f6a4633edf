import MissionBase.Proofs.Index
import MissionBase.Proofs.Telemetry.Parts
import Mathlib

/-!
# Which packets can be told apart

A received packet is of a container if it meets every comparison on the way from the root down to
that container. Two packets can be confused if some raw values meet the comparisons of both.

Packets of different kinds differ in a value that the root compares, so the argument is about the
packets of one kind. There the group exposes at most two fields, the ones that its rule describes
usably, and its members are compared by exactly these. So two members can be confused exactly if
they agree in the fields that the rule of their kind describes.

Nothing more is needed about the raw values because the parameters compared are all different:
every one is the last parameter at the time when it is added.
-/

namespace MissionBase

attribute [ext] PacketKey

/-! ## What a restriction says about raw values -/

/-- What a relation says about integers. -/
def Relation.Holds : Relation → Int → Int → Prop
  | .equality, x, y => x = y
  | .inequality, x, y => x ≠ y
  | .largerThan, x, y => x > y
  | .largerOrEqual, x, y => x ≥ y
  | .smallerThan, x, y => x < y
  | .smallerOrEqual, x, y => x ≤ y

/-- A comparison of raw values is met if the raw value of its parameter stands in its relation to
the integer that it names. -/
def Comparison.Met (raw : ParameterRef → Int) (c : Comparison) : Prop :=
  c.calibrated = false ∧ ∃ n, c.value.toInt? = some n ∧ c.relation.Holds (raw c.parameter) n

@[simp] theorem Comparison.met_rawEquals {raw : ParameterRef → Int} {p : ParameterRef} {n : Int} :
    (Comparison.rawEquals p n.repr).Met raw ↔ raw p = n := by
  simp [Met, rawEquals, Relation.Holds]

/-- The comparisons that tell the packets of a container from others of its base. -/
def Container.comparisons (k : Container) : List Comparison :=
  (k.restriction.map Criteria.toList).getD []

/-- Criteria made of comparisons ask for just these. -/
theorem Criteria.getD_ofList? :
    ∀ cs : List Comparison, ((Criteria.ofList? cs).map Criteria.toList).getD [] = cs
  | [] => rfl
  | [_] => rfl
  | _ :: _ :: _ => rfl

/-- The comparisons on the way from the root down to a container. -/
inductive Conditions (db : Database) : ContainerRef → List Comparison → Prop
  | root {r : ContainerRef} {k : Container} (get : db.containers.get? r = some k)
      (base : k.base = none) : Conditions db r k.comparisons
  | derived {r b : ContainerRef} {k : Container} {cs : List Comparison}
      (get : db.containers.get? r = some k) (base : k.base = some b) (above : Conditions db b cs) :
      Conditions db r (cs ++ k.comparisons)

/-- A packet with some raw values is of a container. -/
def Matches (db : Database) (raw : ParameterRef → Int) (r : ContainerRef) : Prop :=
  ∃ cs, Conditions db r cs ∧ ∀ c ∈ cs, c.Met raw

/-- There is one way down to a container. -/
theorem Conditions.unique {db : Database} {r : ContainerRef} {cs cs' : List Comparison}
    (h : Conditions db r cs) (h' : Conditions db r cs') : cs = cs' := by
  induction h generalizing cs' with
  | root get base =>
      cases h' with
      | root get' base' =>
          rw [get] at get'; cases get'; rfl
      | derived get' base' above' =>
          rw [get] at get'; cases get'; rw [base] at base'; cases base'
  | derived get base above ih =>
      cases h' with
      | root get' base' =>
          rw [get] at get'; cases get'; rw [base] at base'; cases base'
      | derived get' base' above' =>
          rw [get] at get'; cases get'; rw [base] at base'; cases base'; rw [ih above']

theorem Conditions.matches_iff {db : Database} {r : ContainerRef} {cs : List Comparison}
    {raw : ParameterRef → Int} (h : Conditions db r cs) :
    Matches db raw r ↔ ∀ c ∈ cs, c.Met raw := by
  constructor
  · rintro ⟨cs', h', hmet⟩
    rw [h.unique h']
    exact hmet
  · exact fun hmet => ⟨cs, h, hmet⟩

/-- A field of a packet that its rule describes usably: it has a place and a width. -/
def IdentificationField.Used (field : IdentificationField) : Prop :=
  0 ≤ field.offset ∧ 0 < field.width ∧ field.width ≤ 4294967295

instance : DecidablePred IdentificationField.Used := fun field =>
  inferInstanceAs
    (Decidable (0 ≤ field.offset ∧ 0 < field.width ∧ field.width ≤ 4294967295))

/-! ## What stays while packets are added -/

/-- A database with more in it: containers keep their names, bases, restrictions and entries, and
parameters keep their names. -/
structure Database.Grows (db db' : Database) : Prop where
  containers : ∀ r k, db.containers.get? r = some k →
    ∃ k', db'.containers.get? r = some k' ∧ k'.base = k.base ∧ k'.restriction = k.restriction ∧
      k'.name = k.name ∧ k.entries ⊆ k'.entries
  names : ∀ q p, db.parameters.get? q = some p →
    ∃ p', db'.parameters.get? q = some p' ∧ p'.name = p.name

namespace Database.Grows

theorem refl (db : Database) : db.Grows db :=
  ⟨fun _ k h => ⟨k, h, rfl, rfl, rfl, fun _ he => he⟩, fun _ p h => ⟨p, h, rfl⟩⟩

theorem trans {db db' db'' : Database} (h : db.Grows db') (h' : db'.Grows db'') :
    db.Grows db'' := by
  refine ⟨fun r k hk => ?_, fun q p hp => ?_⟩
  · obtain ⟨k', hk', hbase, hrestriction, hname, hentries⟩ := h.containers r k hk
    obtain ⟨k'', hk'', hbase', hrestriction', hname', hentries'⟩ := h'.containers r k' hk'
    exact ⟨k'', hk'', hbase'.trans hbase, hrestriction'.trans hrestriction, hname'.trans hname,
      fun _ he => hentries' (hentries he)⟩
  · obtain ⟨p', hp', hname⟩ := h.names q p hp
    obtain ⟨p'', hp'', hname'⟩ := h'.names q p' hp'
    exact ⟨p'', hp'', hname'.trans hname⟩

/-- No parameter is gone. -/
theorem parameters {db db' : Database} (h : db.Grows db') :
    db.parameters.size ≤ db'.parameters.size := by
  by_contra hlt
  have hlast : (db.parameters.get? ⟨db'.parameters.size⟩).isSome := by
    rw [Catalog.get?_isSome_iff]
    exact Nat.lt_of_not_le hlt
  obtain ⟨p, hp⟩ := Option.isSome_iff_exists.mp hlast
  obtain ⟨p', hp', -⟩ := h.names _ p hp
  exact absurd (Catalog.lt_size_of_get? hp') (Nat.lt_irrefl _)

/-- The way down to a container stays what it was. -/
theorem conditions {db db' : Database} (h : db.Grows db') {r : ContainerRef}
    {cs : List Comparison} (hr : Conditions db r cs) : Conditions db' r cs := by
  induction hr with
  | @root r k get base =>
      obtain ⟨k', get', hbase, hrestriction, -⟩ := h.containers r k get
      have hcs : k.comparisons = k'.comparisons := by
        unfold Container.comparisons
        rw [hrestriction]
      rw [hcs]
      exact .root get' (hbase.trans base)
  | @derived r b k cs get base above ih =>
      obtain ⟨k', get', hbase, hrestriction, -⟩ := h.containers r k get
      have hcs : k.comparisons = k'.comparisons := by
        unfold Container.comparisons
        rw [hrestriction]
      rw [hcs]
      exact .derived get' (hbase.trans base) ih

theorem of_containers_eq {db db' : Database} (h : db'.containers = db.containers)
    (hp : ∀ q p, db.parameters.get? q = some p →
      ∃ p', db'.parameters.get? q = some p' ∧ p'.name = p.name) : db.Grows db' :=
  ⟨fun _ k hk => ⟨k, by rw [h]; exact hk, rfl, rfl, rfl, fun _ he => he⟩, hp⟩

theorem addContainer {db db' : Database} {c : Container} {r : ContainerRef}
    (h : db.addContainer c = .ok (r, db')) : db.Grows db' := by
  obtain ⟨_, heq⟩ := addContainer_eq_ok.mp h
  cases heq
  exact ⟨fun r k hk => ⟨k, Catalog.get?_push_of_some hk c, rfl, rfl, rfl, fun _ he => he⟩,
    fun _ p hp => ⟨p, hp, rfl⟩⟩

/-- A change that leaves all of it alone but may add entries. -/
theorem changeContainer (db : Database) (r : ContainerRef) {change : Container → Container}
    (hbase : ∀ k, (change k).base = k.base)
    (hrestriction : ∀ k, (change k).restriction = k.restriction)
    (hname : ∀ k, (change k).name = k.name) (hentries : ∀ k, k.entries ⊆ (change k).entries) :
    db.Grows (db.changeContainer r change) := by
  refine ⟨fun q k hk => ?_, fun _ p hp => ⟨p, hp, rfl⟩⟩
  obtain ⟨k', hk', rfl | rfl⟩ := Catalog.exists_get?_modify hk r change
  · exact ⟨_, hk', hbase k, hrestriction k, hname k, hentries k⟩
  · exact ⟨_, hk', rfl, rfl, rfl, fun _ he => he⟩

end Database.Grows

namespace Telemetry

open Run

/-- A step that only adds to the database and to the errors. -/
structure Quiet (d d' : Draft TelemetryState) : Prop where
  stage : d'.stage = d.stage
  grows : d.database.Grows d'.database
  errors : d.errors <+: d'.errors

instance : Std.Refl Quiet := ⟨fun d => ⟨rfl, .refl d.database, List.prefix_rfl⟩⟩

instance : IsTrans (Draft TelemetryState) Quiet :=
  ⟨fun _ _ _ h h' => ⟨h'.stage.trans h.stage, h.grows.trans h'.grows,
    h.errors.trans h'.errors⟩⟩

variable {d d' d'' : Draft TelemetryState}

theorem Quiet.refl (d : Draft TelemetryState) : Quiet d d := Std.Refl.refl d

theorem Quiet.trans (h : Quiet d d') (h' : Quiet d' d'') : Quiet d d'' := IsTrans.trans _ _ _ h h'

/-! ### Parameters -/

theorem quiet_addUnsignedType (size : Nat) : Steps Quiet (Build.add .structural fun db =>
    db.addParameterType (unsignedType size) : TelemetryBuild ParameterTypeRef) :=
  steps_addParameterType fun _ _ =>
    ⟨rfl, .of_containers_eq rfl fun _ p hp => ⟨p, hp, rfl⟩, List.prefix_rfl⟩

theorem quiet_unsignedTypeRef (size : Nat) : Steps Quiet (unsignedTypeRef size) :=
  steps_unsignedTypeRef quiet_addUnsignedType size

theorem quiet_addUnsigned (name : String) (size : Nat) : Steps Quiet (addUnsigned name size) := by
  refine steps_addUnsigned quiet_addUnsignedType (fun _ _ => steps_addParameter fun _ _ => ?_) _ _
  refine ⟨rfl, ?_, List.prefix_rfl⟩
  exact .of_containers_eq rfl fun _ p hp => ⟨p, Catalog.get?_push_of_some hp _, rfl⟩

/-- **A parameter that is added comes after all others.** -/
theorem addUnsigned_index {name : String} {size : Nat} {p : ParameterRef}
    (h : addUnsigned name size d = .ok p d') :
    d.database.parameters.size ≤ p.index ∧ p.index < d'.database.parameters.size := by
  obtain ⟨t, d₁, ht, hadd⟩ := bind_eq_ok.mp h
  have hle := ((quiet_unsignedTypeRef size).of_ok ht).grows.parameters
  obtain ⟨db, hdb, rfl⟩ := add_eq_ok.mp hadd
  obtain ⟨_, heq⟩ := Database.addParameter_eq_ok.mp hdb
  cases heq
  refine ⟨hle, ?_⟩
  show d₁.database.parameters.size < (d₁.database.parameters.push _).size
  rw [Catalog.size_push]
  exact Nat.lt_succ_self _

/-! ### Containers -/

/-- An addition of a container keeps quiet, and the container is there under its place. -/
theorem quiet_addContainer (refused : String → Error) (k : Container) :
    Steps Quiet (Build.add refused fun db => db.addContainer k : TelemetryBuild ContainerRef) :=
  steps_add fun _ _ _ h => ⟨rfl, .addContainer h, List.prefix_rfl⟩

theorem addContainer_get {refused : String → Error} {k : Container} {r : ContainerRef}
    (h : (Build.add refused fun db => db.addContainer k : TelemetryBuild ContainerRef) d =
      .ok r d') : d'.database.containers.get? r = some k := by
  obtain ⟨db, hdb, rfl⟩ := add_eq_ok.mp h
  obtain ⟨_, heq⟩ := Database.addContainer_eq_ok.mp hdb
  cases heq
  exact Catalog.get?_push_next _ k

theorem quiet_addKindContainer (setting : Setting) (root : PacketRoot) (name : String)
    (packet : PacketRecord) (description : Option String) :
    Steps Quiet (addKindContainer setting root name packet description) :=
  steps_addKindContainer quiet_addUnsigned quiet_addContainer root name packet description

/-- **The container of a kind asks for the three values of its kind.** -/
theorem addKindContainer_conditions {setting : Setting} {root : PacketRoot} {name : String}
    {packet : PacketRecord} {description : Option String} {r : ContainerRef}
    (hroot : Conditions d.database root.container [])
    (h : addKindContainer setting root name packet description d = .ok r d') :
    Conditions d'.database r (packet.key.comparisons root) := by
  have hroot' := ((quiet_addKindContainer setting root name packet description).of_ok
    h).grows.conditions hroot
  obtain ⟨entries, d₁, hentries, hadd⟩ := bind_eq_ok.mp h
  have hk := Conditions.derived (addContainer_get hadd) rfl hroot'
  rw [List.nil_append] at hk
  unfold Container.comparisons at hk
  rw [Criteria.getD_ofList?] at hk
  exact hk

/-! ### Identification fields -/

theorem quiet_report (setting : Setting) (e : Error) :
    Steps Quiet (Build.report setting e : TelemetryBuild Unit) :=
  steps_report (fun d _ => ⟨rfl, .refl d.database, List.prefix_append _ _⟩) e

theorem quiet_addIdentification (setting : Setting) (container : ContainerRef) (name : String)
    (field : IdentificationField) (location : Location) :
    Steps Quiet (addIdentification setting container name field location) := by
  refine steps_addIdentification quiet_addUnsigned (quiet_report setting) (fun _ _ => ?_) _ _ _ _
  refine steps_modify fun d => ⟨rfl, ?_, List.prefix_rfl⟩
  exact .changeContainer _ _ (fun _ => rfl) (fun _ => rfl) (fun _ => rfl)
    fun _ => List.subset_append_left _ _

/-- **A field that is used gets a parameter and an entry, any other gets neither.** -/
theorem addIdentification_eq_ok {setting : Setting} {container : ContainerRef} {name : String}
    {field : IdentificationField} {location : Location} {q : Option ParameterRef}
    (h : addIdentification setting container name field location d = .ok q d') :
    ¬ field.Used ∧ q = none ∨ field.Used ∧ ∃ p width t, addUnsigned name width d = .ok p t ∧
      q = some p ∧ d' = { t with database := t.database.changeContainer container fun c =>
        { c with entries := c.entries ++ [parameterAt p (8 * field.offset)] } } := by
  unfold addIdentification fieldWidth? at h
  unfold IdentificationField.Used
  by_cases hoffset : field.offset < 0
  · rw [if_pos hoffset] at h
    exact .inl ⟨fun hused => by omega, (pure_eq_ok.mp h).1.symm⟩
  rw [if_neg hoffset] at h
  by_cases hwidth : 0 < field.width ∧ field.width ≤ 4294967295
  · rw [if_pos hwidth] at h
    obtain ⟨p, t, hp, h⟩ := bind_eq_ok.mp h
    obtain ⟨_, u, hchange, h⟩ := bind_eq_ok.mp h
    obtain ⟨rfl, rfl⟩ := pure_eq_ok.mp h
    exact .inr ⟨⟨by omega, hwidth⟩, p, _, t, hp, rfl, (changeDatabase_eq_ok.mp hchange).symm⟩
  · rw [if_neg hwidth] at h
    obtain ⟨_, t, -, h⟩ := bind_eq_ok.mp h
    exact .inl ⟨fun hused => hwidth hused.2, (pure_eq_ok.mp h).1.symm⟩

/-- **A field is exposed exactly if its rule describes it usably**, by a parameter that comes after
all others. -/
theorem addIdentification_field {setting : Setting} {container : ContainerRef} {name : String}
    {field : IdentificationField} {location : Location} {q : Option ParameterRef}
    (h : addIdentification setting container name field location d = .ok q d') :
    (q.isSome ↔ field.Used) ∧
      ∀ p ∈ q, d.database.parameters.size ≤ p.index ∧
        p.index < d'.database.parameters.size := by
  rcases addIdentification_eq_ok h with ⟨hunused, rfl⟩ | ⟨hused, p, width, t, hp, rfl, rfl⟩
  · exact ⟨iff_of_false Bool.false_ne_true hunused, nofun⟩
  · refine ⟨iff_of_true rfl hused, ?_⟩
    rintro _ ⟨⟩
    have hindex := addUnsigned_index hp
    exact hindex

/-! ### Packets of a kind -/

/-- What tells a packet from others of its group: its values of the exposed fields. -/
def fieldConditions (one two : Option ParameterRef) (p : PacketRecord) : List Comparison :=
  (one.map fun q => Comparison.rawEquals q (toString p.first)).toList ++
    (two.map fun q => Comparison.rawEquals q (toString p.second)).toList

/-- A step that gives containers to some packets, with conditions that depend on the packet. -/
structure Places (conditions : PacketRecord → List Comparison) (ps : List PacketRecord)
    (d d' : Draft TelemetryState) : Prop where
  grows : d.database.Grows d'.database
  /-- Nothing else of what the tables say changes. -/
  stage : d'.stage = { d.stage with packetContainers := d'.stage.packetContainers }
  /-- A container was there before, or it is that of one of the packets. -/
  placed : ∀ spid r, d'.stage.packetContainers.find? spid = some r →
    d.stage.packetContainers.find? spid = some r ∨
      ∃ p ∈ ps, p.spid = spid ∧ Conditions d'.database r (conditions p)

theorem Quiet.places (h : Quiet d d') (conditions : PacketRecord → List Comparison)
    (ps : List PacketRecord) : Places conditions ps d d' where
  grows := h.grows
  stage := by rw [h.stage]
  placed := fun spid r hr => .inl (by rw [← h.stage]; exact hr)

theorem Places.trans {conditions : PacketRecord → List Comparison} {ps : List PacketRecord}
    (h : Places conditions ps d d')
    (h' : Places conditions ps d' d'') : Places conditions ps d d'' where
  grows := h.grows.trans h'.grows
  stage := by rw [h'.stage, h.stage]
  placed := by
    intro spid r hr
    rcases h'.placed spid r hr with hr' | hr'
    · rcases h.placed spid r hr' with hold | ⟨p, hp, hspid, hcs⟩
      · exact .inl hold
      · exact .inr ⟨p, hp, hspid, h'.grows.conditions hcs⟩
    · exact .inr hr'

/-- Nothing fails when a packet gets its container. -/
theorem registerPacket_ends (packet : PacketRecord) (r : ContainerRef) :
    Ends (registerPacket packet r) d
      (fun _ d' => d.database.Grows d'.database ∧ d'.stage =
        { d.stage with packetContainers := d.stage.packetContainers.set packet.spid r })
      fun _ => False := by
  unfold registerPacket
  refine Ends.bind (ends_stage ?_)
  cases (d.stage.packetNames.find? packet.spid).bind (·.2) with
  | none => exact ⟨.refl _, rfl⟩
  | some size =>
      show Ends (if 0 ≤ size ∧ size ≤ 4294967295 then _ else _) d _ _
      split
      · exact ⟨.changeContainer _ _ (fun _ => rfl) (fun _ => rfl) (fun _ => rfl)
          fun _ _ he => he, rfl⟩
      · exact ⟨.refl _, rfl⟩

/-- A container with known conditions is given to its packet. -/
theorem registerPacket_places {packet : PacketRecord} {r : ContainerRef}
    {conditions : PacketRecord → List Comparison} {ps : List PacketRecord} (hp : packet ∈ ps)
    (hr : Conditions d.database r (conditions packet)) :
    Ends (registerPacket packet r) d (fun _ => Places conditions ps d)
      (Places conditions ps d) := by
  refine (registerPacket_ends packet r).mono (fun _ d' _ h => ?_) fun _ h => h.elim
  obtain ⟨hgrows, hstage⟩ := h
  refine ⟨hgrows, by rw [hstage], fun spid q hq => ?_⟩
  rw [hstage] at hq
  by_cases hspid : spid = packet.spid
  · subst hspid
    rw [Index.find?_set_self] at hq
    cases hq
    exact .inr ⟨packet, hp, rfl, hgrows.conditions hr⟩
  · rw [Index.find?_set_of_ne _ hspid] at hq
    exact .inl hq

/-- The conditions of a leaf: those of its kind, and those of its group. -/
def leafConditions (root : PacketRoot) (one two : Option ParameterRef) (p : PacketRecord) :
    List Comparison :=
  p.key.comparisons root ++ fieldConditions one two p

theorem addSinglePacket_places {setting : Setting} {root : PacketRoot} {packet : PacketRecord}
    (hroot : Conditions d.database root.container []) :
    Ends (addSinglePacket setting root packet) d
      (fun _ => Places (leafConditions root none none) [packet] d)
      (Places (leafConditions root none none) [packet] d) := by
  unfold addSinglePacket
  refine Ends.bind (ends_stage (Ends.bind (ends_database (Ends.bind ?_))))
  refine (quiet_addKindContainer _ _ _ _ _ d).mono (fun r d₁ hr hq => ?_) fun _ hq =>
    hq.places _ _
  have hcs := addKindContainer_conditions hroot hr
  have hleaf : Conditions d₁.database r (leafConditions root none none packet) := by
    show Conditions d₁.database r (packet.key.comparisons root ++ [])
    rw [List.append_nil]
    exact hcs
  exact (registerPacket_places List.mem_cons_self hleaf).mono
    (fun _ _ _ h => (hq.places _ _).trans h) fun _ h => (hq.places _ _).trans h

theorem addMember_places {root : PacketRoot} {group : ContainerRef}
    {one two : Option ParameterRef} {packet : PacketRecord} {ps : List PacketRecord}
    (hp : packet ∈ ps)
    (hgroup : Conditions d.database group (packet.key.comparisons root)) :
    Ends (addMember group one two packet) d
      (fun _ => Places (leafConditions root one two) ps d)
      (Places (leafConditions root one two) ps d) := by
  unfold addMember
  refine Ends.bind (ends_stage (Ends.bind (ends_database (Ends.bind ?_))))
  refine (quiet_addContainer _ _ d).mono (fun r d₁ hr hq => ?_) fun _ hq => hq.places _ _
  have hleaf := Conditions.derived (addContainer_get hr) rfl (hq.grows.conditions hgroup)
  unfold Container.comparisons at hleaf
  rw [Criteria.getD_ofList?] at hleaf
  exact (registerPacket_places hp hleaf).mono (fun _ _ _ h => (hq.places _ _).trans h)
    fun _ h => (hq.places _ _).trans h

/-- Parameters that come after a number of others, the first before the second. -/
structure Above (n : Nat) (one two : Option ParameterRef) : Prop where
  first : ∀ p ∈ one, n ≤ p.index
  second : ∀ q ∈ two, n ≤ q.index
  /-- So the two are different. -/
  order : ∀ p ∈ one, ∀ q ∈ two, p.index < q.index

theorem Above.mono {n m : Nat} {one two : Option ParameterRef} (h : Above m one two)
    (hle : n ≤ m) : Above n one two :=
  ⟨fun p hp => Nat.le_trans hle (h.first p hp), fun q hq => Nat.le_trans hle (h.second q hq),
    h.order⟩

/-- Both fields come after everything that was there, and the second after the first. -/
theorem addIdentification_above {setting : Setting} {container : ContainerRef}
    {name name' : String} {field field' : IdentificationField} {location location' : Location}
    {one two : Option ParameterRef}
    (hone : addIdentification setting container name field location d = .ok one d')
    (htwo : addIdentification setting container name' field' location' d' = .ok two d'') :
    Above d.database.parameters.size one two := by
  have hgrows := ((quiet_addIdentification _ _ _ _ _).of_ok hone).grows.parameters
  have hfirst := (addIdentification_field hone).2
  have hsecond := (addIdentification_field htwo).2
  refine ⟨fun p hp => (hfirst p hp).1, fun q hq => ?_, fun p hp q hq => ?_⟩
  · exact Nat.le_trans hgrows (hsecond q hq).1
  · exact Nat.lt_of_lt_of_le (hfirst p hp).2 (hsecond q hq).1

/-- The members of a group are placed one after the other below it. -/
theorem forM_addMember_places {root : PacketRoot} {group : ContainerRef} {key : PacketKey}
    {one two : Option ParameterRef} {ps : List PacketRecord} (hkey : ∀ p ∈ ps, p.key = key)
    (hgroup : Conditions d.database group (key.comparisons root)) :
    Ends (ps.forM (addMember group one two)) d
      (fun _ => Places (leafConditions root one two) ps d)
      (Places (leafConditions root one two) ps d) := by
  refine (ends_forM (I := fun rest d' => (∀ p ∈ rest, p ∈ ps) ∧
    Places (leafConditions root one two) ps d d') ?_
    ⟨fun _ hp => hp, (Quiet.refl d).places _ _⟩).mono (fun _ _ _ h => h.2) fun _ h => h
  rintro p rest d₁ ⟨hin, h₁⟩
  have hp := hin p List.mem_cons_self
  -- the group is still below the root as it was
  have hgroup' := h₁.grows.conditions hgroup
  rw [← hkey p hp] at hgroup'
  refine (addMember_places hp hgroup').mono (fun _ d₂ _ h₂ => ?_) fun _ h₂ => h₁.trans h₂
  exact ⟨fun q hq => hin q (List.mem_cons_of_mem p hq), h₁.trans h₂⟩

/-- The exposed fields are those that a rule describes usably. -/
def ByRule (rules : List IdentificationRule) (key : PacketKey) (one two : Option ParameterRef) :
    Prop :=
  ∃ rule, ruleFor? rules key = some rule ∧ (one.isSome ↔ rule.first.Used) ∧
    (two.isSome ↔ rule.second.Used)

/-- What the packets of a kind are given: leaves with the conditions of some fields, which are the
fields of a rule if there may be more than one leaf. -/
def Grouped (root : PacketRoot) (key : PacketKey) (ps : List PacketRecord)
    (d d' : Draft TelemetryState) : Prop :=
  ∃ one two, Places (leafConditions root one two) ps d d' ∧
    Above d.database.parameters.size one two ∧
    (d'.stage = d.stage ∨ (∀ p ∈ ps, ∀ q ∈ ps, q = p) ∨
      ByRule d.stage.identifications key one two)

theorem Quiet.grouped (h : Quiet d d') (root : PacketRoot) (key : PacketKey)
    (ps : List PacketRecord) : Grouped root key ps d d' :=
  ⟨none, none, h.places _ _, ⟨by simp, by simp, by simp⟩, .inl h.stage⟩

theorem addPacketGroup_grouped {setting : Setting} {root : PacketRoot} {key : PacketKey}
    {first : PacketRecord} {ps : List PacketRecord} (hfirst : first.key = key)
    (hkey : ∀ p ∈ ps, p.key = key) (hroot : Conditions d.database root.container []) :
    Ends (addPacketGroup setting root key first ps) d (fun _ => Grouped root key ps d)
      (Grouped root key ps d) := by
  have hquiet {d' : Draft TelemetryState} (h : Quiet d d') : Grouped root key ps d d' :=
    h.grouped root key ps
  unfold addPacketGroup
  refine Ends.bind (ends_stage ?_)
  cases hrule : ruleFor? d.stage.identifications key with
  | none => exact ends_throw (hquiet (.refl d))
  | some rule =>
      refine Ends.bind ((quiet_addKindContainer _ _ _ _ _ d).mono ?_ fun _ => hquiet)
      intro group d₁ hgroup hq₁
      refine Ends.bind ((quiet_addIdentification _ _ _ _ _ d₁).mono ?_
        fun _ h => hquiet (hq₁.trans h))
      intro one d₂ hone hq₂
      have hq₂' : Quiet d d₂ := hq₁.trans hq₂
      refine Ends.bind ((quiet_addIdentification _ _ _ _ _ d₂).mono ?_
        fun _ h => hquiet (hq₂'.trans h))
      intro two d₃ htwo hq₃
      have hq₃' : Quiet d d₃ := hq₂'.trans hq₃
      have hrules : ByRule d.stage.identifications key one two :=
        ⟨rule, hrule, (addIdentification_field hone).1, (addIdentification_field htwo).1⟩
      have habove := (addIdentification_above hone htwo).mono hq₁.grows.parameters
      have hcs : Conditions d₃.database group (key.comparisons root) := by
        rw [← hfirst]
        exact (hq₂.trans hq₃).grows.conditions
          (addKindContainer_conditions hroot hgroup)
      have hdone {d' : Draft TelemetryState}
          (h : Places (leafConditions root one two) ps d d') : Grouped root key ps d d' :=
        ⟨one, two, h, habove, .inr (.inr hrules)⟩
      dsimp only
      split
      · exact ends_throw (hquiet hq₃')
      · have hplace (d' : Draft TelemetryState)
            (h : Places (leafConditions root one two) ps d₃ d') : Grouped root key ps d d' :=
          hdone ((hq₃'.places _ _).trans h)
        exact (forM_addMember_places hkey hcs).mono (fun _ d' _ => hplace d') hplace

theorem addPackets_grouped (setting : Setting) {root : PacketRoot} {key : PacketKey}
    {ps : List PacketRecord} (hkey : ∀ p ∈ ps, p.key = key)
    (hroot : Conditions d.database root.container []) :
    Ends (addPackets setting root key ps) d (fun _ => Grouped root key ps d)
      (Grouped root key ps d) := by
  have hlone {p : PacketRecord} {d' : Draft TelemetryState}
      (h : Places (leafConditions root none none) [p] d d') : Grouped root key [p] d d' :=
    ⟨none, none, h, ⟨by simp, by simp, by simp⟩, .inr (.inl (by simp))⟩
  match ps with
  | [] => exact (Quiet.refl d).grouped root key []
  | [p] => exact (addSinglePacket_places hroot).mono (fun _ _ _ h => hlone h) fun _ h => hlone h
  | first :: second :: rest =>
      exact addPacketGroup_grouped (hkey first List.mem_cons_self) hkey hroot

/-! ## All packets -/

theorem mem_groupPackets {packets ps : List PacketRecord} {key : PacketKey}
    (h : (key, ps) ∈ groupPackets packets) :
    ps = packets.filter fun p => decide (p.key = key) := by
  have hnd := Index.nodup_keys_foldl_append PacketRecord.key packets
    ({} : Index PacketKey (List PacketRecord)) List.nodup_nil
  have hfind := Index.find?_foldl_append PacketRecord.key packets
    ({} : Index PacketKey (List PacketRecord)) key
  rw [Index.find?_of_mem hnd h] at hfind
  exact hfind

theorem nodup_keys_groupPackets (packets : List PacketRecord) :
    ((groupPackets packets).map (·.1)).Nodup :=
  Index.nodup_keys_foldl_append PacketRecord.key packets
    ({} : Index PacketKey (List PacketRecord)) List.nodup_nil

/-- The parameters of the root stand in this order, and are there. -/
structure Ordered (root : PacketRoot) (db : Database) : Prop where
  type : root.apid.index < root.type.index
  subtype : root.type.index < root.subtype.index
  size : root.subtype.index < db.parameters.size

/-- What is known of the containers of packets while some kinds are still to come. -/
structure Identified (root : PacketRoot) (packets : List PacketRecord) (rest : List PacketKey)
    (db : Database) (state : TelemetryState) : Prop where
  /-- The root asks for nothing. -/
  base : Conditions db root.container []
  ordered : Ordered root db
  same : state.packets = packets
  /-- There is one choice of fields for every kind, and every container is that of a packet of a
  kind that is done. If the kind has other packets, the choice is that of its rule. -/
  told : ∃ one two : PacketKey → Option ParameterRef,
    (∀ key, Above (root.subtype.index + 1) (one key) (two key)) ∧
    ∀ spid r, state.packetContainers.find? spid = some r →
      ∃ p ∈ packets, p.spid = spid ∧ p.key ∉ rest ∧
        Conditions db r (leafConditions root (one p.key) (two p.key) p) ∧
        ((∀ q ∈ packets, q.key = p.key → q = p) ∨
          ByRule state.identifications p.key (one p.key) (two p.key))

/-- **One kind more is done.** -/
theorem Identified.grouped {root : PacketRoot} {packets ps : List PacketRecord} {key : PacketKey}
    {rest : List PacketKey} (h : Identified root packets (key :: rest) d.database d.stage)
    (hnew : key ∉ rest) (hps : ps = packets.filter fun p => decide (p.key = key))
    (hg : Grouped root key ps d d') : Identified root packets rest d'.database d'.stage := by
  obtain ⟨one, two, habove, htold⟩ := h.told
  obtain ⟨one', two', hplaces, habove', hrule⟩ := hg
  have hrules : d'.stage.identifications = d.stage.identifications := by rw [hplaces.stage]
  have hpackets : d'.stage.packets = packets := by rw [hplaces.stage]; exact h.same
  have hsize := Nat.le_trans (Nat.succ_le_of_lt h.ordered.size) hplaces.grows.parameters
  have hmem (p : PacketRecord) : p ∈ ps ↔ p ∈ packets ∧ p.key = key := by simp [hps]
  refine ⟨hplaces.grows.conditions h.base, ⟨h.ordered.type, h.ordered.subtype, hsize⟩, hpackets,
    fun k => if k = key then one' else one k, fun k => if k = key then two' else two k, ?_, ?_⟩
  · intro k
    by_cases hk : k = key
    · simp only [if_pos hk]
      exact habove'.mono (Nat.succ_le_of_lt h.ordered.size)
    · simp only [if_neg hk]
      exact habove k
  · -- a container that was there belongs to another kind, whose fields stay the same
    have hold : ∀ spid r, d.stage.packetContainers.find? spid = some r →
        ∃ p ∈ packets, p.spid = spid ∧ p.key ≠ key ∧ p.key ∉ rest ∧
          Conditions d'.database r (leafConditions root (one p.key) (two p.key) p) ∧
          ((∀ q ∈ packets, q.key = p.key → q = p) ∨
            ByRule d'.stage.identifications p.key (one p.key) (two p.key)) := by
      intro spid r hr
      obtain ⟨p, hp, hspid, hdone, hcs, halone⟩ := htold spid r hr
      rw [List.mem_cons, not_or] at hdone
      rw [hrules]
      exact ⟨p, hp, hspid, hdone.1, hdone.2, hplaces.grows.conditions hcs, halone⟩
    intro spid r hr
    have hcases : d.stage.packetContainers.find? spid = some r ∨
        ((∀ p ∈ ps, ∀ q ∈ ps, q = p) ∨ ByRule d.stage.identifications key one' two') ∧
          ∃ p ∈ ps, p.spid = spid ∧
            Conditions d'.database r (leafConditions root one' two' p) := by
      rcases hrule with hsame | hrule
      · rw [hsame] at hr
        exact .inl hr
      · rcases hplaces.placed spid r hr with hr' | hr'
        · exact .inl hr'
        · exact .inr ⟨hrule, hr'⟩
    -- a container of the kind that is done now has the fields chosen for it
    rcases hcases with hr' | ⟨hrule, p, hp, hspid, hcs⟩
    · obtain ⟨p, hp, hspid, hne, hdone, hcs, halone⟩ := hold spid r hr'
      refine ⟨p, hp, hspid, hdone, ?_⟩
      simp only [if_neg hne]
      exact ⟨hcs, halone⟩
    · obtain ⟨hin, rfl⟩ := (hmem p).mp hp
      refine ⟨p, hin, hspid, hnew, ?_⟩
      simp only [if_true]
      refine ⟨hcs, ?_⟩
      rcases hrule with halone | hrule
      · refine .inl fun q hq hkey => ?_
        exact halone p hp q ((hmem q).mpr ⟨hq, hkey⟩)
      · rw [hrules]
        exact .inr hrule

/-- **All kinds are done when the run through the groups ends.** -/
theorem forM_addPackets_identified {setting : Setting} {root : PacketRoot}
    {packets : List PacketRecord} {groups : List (PacketKey × List PacketRecord)}
    (hnd : (groups.map (·.1)).Nodup)
    (hgroups : ∀ g ∈ groups, g.2 = packets.filter fun p => decide (p.key = g.1))
    (h : Identified root packets (groups.map (·.1)) d.database d.stage) :
    Ends (groups.forM fun (key, ps) => Build.recover setting (addPackets setting root key ps)) d
      (fun _ d' => Identified root packets [] d'.database d'.stage) fun _ => True := by
  refine (ends_forM (I := fun (rest : List (PacketKey × List PacketRecord))
    (d' : Draft TelemetryState) => (rest.map (·.1)).Nodup ∧
    (∀ g ∈ rest, g.2 = packets.filter fun p => decide (p.key = g.1)) ∧
    Identified root packets (rest.map (·.1)) d'.database d'.stage) (E := fun _ => True) ?_
    ⟨hnd, hgroups, h⟩).mono (fun _ _ _ h => h.2.2) fun _ _ => trivial
  rintro ⟨key, ps⟩ rest d₁ ⟨hnd₁, hgroups₁, h₁⟩
  rw [List.map_cons, List.nodup_cons] at hnd₁
  have hps : ps = packets.filter fun p => decide (p.key = key) :=
    hgroups₁ (key, ps) List.mem_cons_self
  have hkey : ∀ p ∈ ps, p.key = key := by
    intro p hp
    rw [hps, List.mem_filter] at hp
    exact of_decide_eq_true hp.2
  have hstep (d₂ : Draft TelemetryState) (hg : Grouped root key ps d₁ d₂) :
      Identified root packets (rest.map (·.1)) d₂.database d₂.stage :=
    h₁.grouped hnd₁.1 hps hg
  have hwork := (addPackets_grouped setting hkey h₁.base).mono
    (fun _ d₂ _ hg => hstep d₂ hg) hstep
  refine (hwork.recover fun _ _ h => h).mono (fun _ d₂ _ h₂ => ?_) fun _ _ => trivial
  exact ⟨hnd₁.2, fun g hg => hgroups₁ g (List.mem_cons_of_mem _ hg), h₂⟩

/-! ## The tables before, and the root -/

/-- No two packets have a number, and no packet has a container. -/
def Unplaced (state : TelemetryState) : Prop :=
  (state.packets.map (·.spid)).Nodup ∧ state.packetContainers.entries = []

theorem declarePacket_unplaced (row : Row) (packet : PacketRecord) (h : Unplaced d.stage) :
    Ends (declarePacket row packet) d (fun _ d' => Unplaced d'.stage)
      fun d' => Unplaced d'.stage := by
  unfold declarePacket
  refine Ends.bind (ends_stage ?_)
  split
  · split
    · exact ends_throw h
    · rename_i hnone
      refine ⟨?_, h.2⟩
      show ((d.stage.packets ++ [packet]).map (·.spid)).Nodup
      rw [List.map_append, List.nodup_append]
      refine ⟨h.1, List.nodup_singleton _, ?_⟩
      intro a ha b hb heq
      obtain ⟨p, hp, rfl⟩ := List.mem_map.mp ha
      obtain rfl : b = packet.spid := by simpa using hb
      -- a packet with the same number would have been refused
      exact hnone (List.any_eq_true.mpr ⟨p, hp, beq_iff_eq.mpr heq⟩)
  · exact h

theorem namePacket_unplaced (row : Row) (h : Unplaced d.stage) :
    Ends (namePacket row) d (fun _ d' => Unplaced d'.stage) fun d' => Unplaced d'.stage := by
  unfold namePacket
  refine Ends.bind (ends_lift (fun _ _ => ?_) h)
  refine Ends.bind (ends_lift (fun _ _ => ?_) h)
  exact Ends.bind (ends_lift (fun _ _ => h) h)

theorem quiet_addPacketRoot (options : TelemetryOptions) : Steps Quiet (addPacketRoot options) :=
  steps_addPacketRoot quiet_addUnsigned quiet_addContainer options

/-- **The root asks for nothing, and its parameters are different.** -/
theorem addPacketRoot_root {options : TelemetryOptions} {root : PacketRoot}
    (h : addPacketRoot options d = .ok root d') :
    Conditions d'.database root.container [] ∧ Ordered root d'.database := by
  obtain ⟨apid, d₁, hapid, h⟩ := bind_eq_ok.mp h
  obtain ⟨count, d₂, hcount, h⟩ := bind_eq_ok.mp h
  obtain ⟨type, d₃, htype, h⟩ := bind_eq_ok.mp h
  obtain ⟨subtype, d₄, hsubtype, h⟩ := bind_eq_ok.mp h
  obtain ⟨container, d₅, hcontainer, h⟩ := bind_eq_ok.mp h
  obtain ⟨rfl, rfl⟩ := pure_eq_ok.mp h
  refine ⟨.root (addContainer_get hcontainer) rfl, ?_, ?_, ?_⟩
  · -- the sequence count is added between the two, and is compared nowhere
    have h₁ := (addUnsigned_index hapid).2
    have h₂ := addUnsigned_index hcount
    have h₃ := (addUnsigned_index htype).1
    show apid.index < type.index
    omega
  · exact Nat.lt_of_lt_of_le (addUnsigned_index htype).2 (addUnsigned_index hsubtype).1
  · have hle := ((quiet_addContainer _ _).of_ok hcontainer).grows.parameters
    exact Nat.lt_of_lt_of_le (addUnsigned_index hsubtype).2 hle

theorem scan_unplaced {setting : Setting} {table : String} {handle : Row → TelemetryBuild Unit}
    (h : Unplaced d.stage) (hstep : ∀ row d, Unplaced d.stage → Ends (handle row) d
      (fun _ d' => Unplaced d'.stage) fun d' => Unplaced d'.stage) :
    Ends (Build.scan setting table handle) d (fun _ d' => Unplaced d'.stage) fun _ => True :=
  (ends_scan (Q := fun d => Unplaced d.stage) (fun _ _ h => h) h hstep).mono
    (fun _ _ _ h => h) fun _ _ => trivial

/-- The root is there with all that it needs, or the packets have none. -/
theorem addPacketRoot_ends (setting : Setting) :
    Ends (tryCatch (some <$> addPacketRoot setting.config.telemetry) fun e => do
        Build.report setting e
        return none) d
      (fun root d' => Quiet d d' ∧
        ∀ r ∈ root, Conditions d'.database r.container [] ∧ Ordered r d'.database)
      fun _ => True := by
  have hadd : Ends (some <$> addPacketRoot setting.config.telemetry) d
      (fun root d' => Quiet d d' ∧
        ∀ r ∈ root, Conditions d'.database r.container [] ∧ Ordered r d'.database)
      (Quiet d) := by
    refine Ends.map ((quiet_addPacketRoot _ d).mono (fun root d' hrun hq => ⟨hq, ?_⟩)
      fun _ hq => hq)
    intro r hr
    cases hr
    exact addPacketRoot_root hrun
  refine hadd.tryCatch fun e d₁ hq => ?_
  refine Ends.bind ((quiet_report setting e d₁).mono (fun _ d₂ _ hq' => ?_) fun _ _ => trivial)
  exact ⟨hq.trans hq', by simp⟩

/-- Before any kind is done, no packet has a container. -/
theorem Unplaced.identified {root : PacketRoot} (h : Unplaced d.stage)
    (hbase : Conditions d.database root.container []) (hordered : Ordered root d.database)
    (rest : List PacketKey) : Identified root d.stage.packets rest d.database d.stage := by
  refine ⟨hbase, hordered, rfl, fun _ => none, fun _ => none, ?_, fun spid r hr => ?_⟩
  · exact fun _ => ⟨by simp, by simp, by simp⟩
  · rw [Index.find?_of_entries_eq_nil h.2] at hr
    cases hr

/-- **The containers of packets after all tables**: there is no container at all, or every one is
identified. -/
theorem loadPackets_ends {setting : Setting} (h : Unplaced d.stage) :
    Ends (loadPackets setting) d
      (fun _ d' => (d'.stage.packets.map (·.spid)).Nodup ∧
        (d'.stage.packetContainers.entries = [] ∨
          ∃ root, Identified root d'.stage.packets [] d'.database d'.stage))
      fun _ => True := by
  unfold loadPackets
  refine Ends.bind ((scan_unplaced h ?_).mono (fun _ d₁ _ h₁ => ?_) fun _ h => h)
  · intro row d hd
    exact Ends.bind (ends_lift (fun rule _ => hd) hd)
  refine Ends.bind ((scan_unplaced h₁ ?_).mono (fun _ d₂ _ h₂ => ?_) fun _ h => h)
  · intro row d hd
    exact Ends.bind (ends_lift (fun packet _ => declarePacket_unplaced row packet hd) hd)
  refine Ends.bind ((scan_unplaced h₂ fun row d hd => namePacket_unplaced row hd).mono
    (fun _ d₃ _ h₃ => ?_) fun _ h => h)
  refine Ends.bind ((addPacketRoot_ends setting).mono (fun root d₄ _ h₄ => ?_) fun _ h => h)
  obtain ⟨hq, hroot⟩ := h₄
  have hplace : Unplaced d₄.stage := by rw [hq.stage]; exact h₃
  cases root with
  | none => exact ⟨hplace.1, .inl hplace.2⟩
  | some root =>
      obtain ⟨hbase, hordered⟩ := hroot root rfl
      refine Ends.bind (ends_stage ?_)
      have hstart := hplace.identified hbase hordered
        ((groupPackets d₄.stage.packets).map (·.1))
      refine (forM_addPackets_identified (nodup_keys_groupPackets _)
        (fun g hg => mem_groupPackets hg) hstart).mono (fun _ d₅ _ h₅ => ?_) fun _ h => h
      rw [h₅.same]
      exact ⟨hplace.1, .inr ⟨root, h₅⟩⟩

/-! ## Confusion -/

/-- Two packets that the rule of their kind does not tell apart. -/
def Indistinct (state : TelemetryState) (a b : Int) : Prop :=
  ∃ p ∈ state.packets, ∃ q ∈ state.packets, p.spid = a ∧ q.spid = b ∧ p.key = q.key ∧
    ∃ rule ∈ ruleFor? state.identifications p.key,
      (rule.first.Used → p.first = q.first) ∧ (rule.second.Used → p.second = q.second)

instance (state : TelemetryState) (a b : Int) : Decidable (Indistinct state a b) := by
  unfold Indistinct
  infer_instance

theorem met_leafConditions {root : PacketRoot} {one two : Option ParameterRef} {p : PacketRecord}
    {raw : ParameterRef → Int} :
    (∀ c ∈ leafConditions root one two p, c.Met raw) ↔
      (raw root.apid = p.key.apid ∧ raw root.type = p.key.type ∧
        raw root.subtype = p.key.subtype) ∧
        (∀ r ∈ one, raw r = p.first) ∧ ∀ r ∈ two, raw r = p.second := by
  simp only [leafConditions, fieldConditions, PacketKey.comparisons, List.mem_append, or_imp,
    forall_and]
  cases one <;> cases two <;> simp

/-- Raw values that a packet may have: every parameter but those compared before has the value of
the second field. -/
def rawOf (root : PacketRoot) (one : Option ParameterRef) (p : PacketRecord)
    (r : ParameterRef) : Int :=
  if r.index = root.apid.index then p.key.apid
  else if r.index = root.type.index then p.key.type
  else if r.index = root.subtype.index then p.key.subtype
  else if one = some r then p.first
  else p.second

theorem met_rawOf {root : PacketRoot} {db : Database} {one two : Option ParameterRef}
    {p : PacketRecord} (hroot : Ordered root db)
    (habove : Above (root.subtype.index + 1) one two) :
    ∀ c ∈ leafConditions root one two p, c.Met (rawOf root one p) := by
  have htype := hroot.type
  have hsubtype := hroot.subtype
  -- the fields are none of the parameters that the root compares
  have hbeyond : ∀ r : ParameterRef, root.subtype.index + 1 ≤ r.index →
      rawOf root one p r = if one = some r then p.first else p.second := by
    intro r hr
    unfold rawOf
    rw [if_neg (by omega), if_neg (by omega), if_neg (by omega)]
  rw [met_leafConditions]
  refine ⟨⟨if_pos rfl, ?_, ?_⟩, fun r hr => ?_, fun r hr => ?_⟩
  · unfold rawOf
    rw [if_neg (by omega), if_pos rfl]
  · unfold rawOf
    rw [if_neg (by omega), if_neg (by omega), if_pos rfl]
  · rw [hbeyond r (habove.first r hr), if_pos (Option.mem_def.mp hr)]
  · rw [hbeyond r (habove.second r hr), if_neg]
    intro heq
    exact absurd (habove.order r heq r hr) (Nat.lt_irrefl _)

/-- **Two leaves of one kind can be confused exactly if they agree in the exposed fields.** All
parameters are different, so they can have any values together. -/
theorem exists_met_iff {root : PacketRoot} {db : Database} {one two : Option ParameterRef}
    {p q : PacketRecord} (hroot : Ordered root db)
    (habove : Above (root.subtype.index + 1) one two) (hkey : p.key = q.key) :
    (∃ raw : ParameterRef → Int, (∀ c ∈ leafConditions root one two p, c.Met raw) ∧
        ∀ c ∈ leafConditions root one two q, c.Met raw) ↔
      (one.isSome → p.first = q.first) ∧ (two.isSome → p.second = q.second) := by
  constructor
  · rintro ⟨raw, hp, hq⟩
    obtain ⟨_, hp₁, hp₂⟩ := met_leafConditions.mp hp
    obtain ⟨_, hq₁, hq₂⟩ := met_leafConditions.mp hq
    constructor
    · intro hone
      obtain ⟨r, hr⟩ := Option.isSome_iff_exists.mp hone
      rw [← hp₁ r hr, hq₁ r hr]
    · intro htwo
      obtain ⟨r, hr⟩ := Option.isSome_iff_exists.mp htwo
      rw [← hp₂ r hr, hq₂ r hr]
  · rintro ⟨h₁, h₂⟩
    have hp := met_rawOf (p := p) hroot habove
    obtain ⟨hkind, hone, htwo⟩ := met_leafConditions.mp hp
    refine ⟨rawOf root one p, hp, met_leafConditions.mpr ⟨by rw [← hkey]; exact hkind, ?_, ?_⟩⟩
    · intro r hr
      rw [hone r hr, h₁ (Option.isSome_iff_exists.mpr ⟨r, hr⟩)]
    · intro r hr
      rw [htwo r hr, h₂ (Option.isSome_iff_exists.mpr ⟨r, hr⟩)]

/-- **Two packets can be confused exactly if the rule of their kind does not tell them apart.** -/
theorem matches_both_iff {setting : Setting} (hpackets : d.stage.packets = [])
    (hcontainers : d.stage.packetContainers.entries = [])
    (hrun : loadPackets setting d = .ok () d') {a b : Int} {r q : ContainerRef} (hne : a ≠ b)
    (hr : d'.stage.packetContainers.find? a = some r)
    (hq : d'.stage.packetContainers.find? b = some q) :
    (∃ cs, Conditions d'.database r cs) ∧ (∃ cs, Conditions d'.database q cs) ∧
      ((∃ raw, Matches d'.database raw r ∧ Matches d'.database raw q) ↔
        Indistinct d'.stage a b) := by
  have hstart : Unplaced d.stage := by
    refine ⟨?_, hcontainers⟩
    rw [hpackets]
    exact List.nodup_nil
  obtain ⟨hnodup, hnone | ⟨root, hid⟩⟩ := (loadPackets_ends hstart).of_ok hrun
  · rw [Index.find?_of_entries_eq_nil hnone] at hr
    cases hr
  obtain ⟨one, two, habove, htold⟩ := hid.told
  obtain ⟨p, hp, rfl, _, hpcs, hpalone⟩ := htold a r hr
  obtain ⟨p', hp', rfl, _, hpcs', _⟩ := htold b q hq
  have hinj := List.inj_on_of_nodup_map hnodup
  refine ⟨⟨_, hpcs⟩, ⟨_, hpcs'⟩, ?_⟩
  simp only [hpcs.matches_iff, hpcs'.matches_iff]
  by_cases hkey : p.key = p'.key
  · -- packets of one kind have a rule, and its fields are the exposed ones
    obtain ⟨rule, hrule, hone, htwo⟩ : ByRule d'.stage.identifications p.key (one p.key)
        (two p.key) := by
      rcases hpalone with halone | hrule
      · have heq := halone p' hp' hkey.symm
        rw [heq] at hne
        exact absurd rfl hne
      · exact hrule
    rw [← hkey, exists_met_iff hid.ordered (habove p.key) hkey, hone, htwo]
    constructor
    · rintro ⟨h₁, h₂⟩
      exact ⟨p, hp, p', hp', rfl, rfl, hkey, rule, hrule, h₁, h₂⟩
    · rintro ⟨x, hx, y, hy, hxa, hyb, _, rule', hrule', h₁, h₂⟩
      obtain rfl := hinj hx hp hxa
      obtain rfl := hinj hy hp' hyb
      rw [hrule] at hrule'
      cases hrule'
      exact ⟨h₁, h₂⟩
  · -- the root compares a value in which packets of different kinds differ
    constructor
    · rintro ⟨raw, hmet, hmet'⟩
      obtain ⟨⟨hapid, htype, hsubtype⟩, _⟩ := met_leafConditions.mp hmet
      obtain ⟨⟨hapid', htype', hsubtype'⟩, _⟩ := met_leafConditions.mp hmet'
      refine absurd (PacketKey.ext ?_ ?_ ?_) hkey
      · rw [← hapid, hapid']
      · rw [← htype, htype']
      · rw [← hsubtype, hsubtype']
    · rintro ⟨x, hx, y, hy, hxa, hyb, hxy, _⟩
      obtain rfl := hinj hx hp hxa
      obtain rfl := hinj hy hp' hyb
      exact absurd hxy hkey

/-- A rule with one field, and two packets that have the same value in it. -/
def twinSetting : Setting :=
  .ofTables [
    ("pic", "3\t25\t16\t8\t-1\t0\n"),
    ("pid", "3\t25\t100\t1\t0\t10\t\t\t\t10\n3\t25\t100\t1\t0\t11\t\t\t\t10\n"),
    ("tpcf", "")]

/-- Both packets get a container, and some raw values are of both. -/
theorem twins_match_both :
    ∃ (d d' : Draft TelemetryState) (r q : ContainerRef) (raw : ParameterRef → Int),
      d.stage.packets = [] ∧ d.stage.packetContainers.entries = [] ∧
      loadPackets twinSetting d = .ok () d' ∧
      d'.stage.packetContainers.find? 10 = some r ∧
      d'.stage.packetContainers.find? 11 = some q ∧
      Matches d'.database raw r ∧ Matches d'.database raw q := by
  have hok : (after? (loadPackets twinSetting)
      { database := { name := "MIB" }, stage := {} }).any (fun d' =>
        decide (d'.stage.packetContainers.find? 10 = some ⟨2⟩ ∧
          d'.stage.packetContainers.find? 11 = some ⟨3⟩ ∧ Indistinct d'.stage 10 11)) = true := by
    decide +kernel
  obtain ⟨d', hafter, hfacts⟩ := (Option.any_eq_true _ _).mp hok
  obtain ⟨hr, hq, hindistinct⟩ := of_decide_eq_true hfacts
  obtain ⟨_, hrun⟩ := after?_eq_some.mp hafter
  obtain ⟨_, _, hiff⟩ := matches_both_iff rfl rfl hrun (by decide) hr hq
  obtain ⟨raw, hmr, hmq⟩ := hiff.mpr hindistinct
  exact ⟨_, d', _, _, raw, rfl, rfl, hrun, hr, hq, hmr, hmq⟩

end Telemetry

end MissionBase
