import MissionBase.Proofs.Telemetry.Identification

/-!
# The hierarchy of packets

The containers of packets say what the tables say of them: a packet that is alone of its kind has a
container right below the root, and one of several has a container below that of its kind, where
the fields of the rule tell them apart. What a container compares is shown by one above it.

The containers are added kind by kind, and a kind may be left half done by an error. So the
invariant (`Standing`) says of every packet that has a container what its container looks like, and
every step that adds to a kind keeps it (`Proceeds`), however it ends.
-/

namespace MissionBase

open Run

/-! ## Places in the hierarchy -/

/-- The comparisons on the way from a container down to one below it. -/
inductive Below (db : Database) (top : ContainerRef) : ContainerRef → List Comparison → Prop
  | top : Below db top top []
  | under {r b : ContainerRef} {k : Container} {cs : List Comparison}
      (get : db.containers.get? r = some k) (base : k.base = some b) (above : Below db top b cs) :
      Below db top r (cs ++ k.comparisons)

/-- A container extends another one. -/
def Parent (db : Database) (r b : ContainerRef) : Prop :=
  ∃ k, db.containers.get? r = some k ∧ k.base = some b

/-- A container has an entry for a parameter at a bit. -/
def Shows (db : Database) (r : ContainerRef) (q : ParameterRef) (bit : Int) : Prop :=
  ∃ k, db.containers.get? r = some k ∧ Telemetry.parameterAt q bit ∈ k.entries

/-- A parameter has a name. -/
def Called (db : Database) (q : ParameterRef) (name : String) : Prop :=
  ∃ p, db.parameters.get? q = some p ∧ p.name = name

/-- Whatever a container compares is shown by a container above it. -/
def Grounded (db : Database) : Prop :=
  ∀ r k, db.containers.get? r = some k → ∀ c ∈ k.comparisons,
    ∃ a bit, Relation.TransGen (Parent db) r a ∧ Shows db a c.parameter bit

namespace Database.Grows

variable {db db' : Database}

theorem comparisons {k k' : Container} (h : k'.restriction = k.restriction) :
    k'.comparisons = k.comparisons := by
  unfold Container.comparisons
  rw [h]

theorem below (h : db.Grows db') {top r : ContainerRef} {cs : List Comparison}
    (hr : Below db top r cs) : Below db' top r cs := by
  induction hr with
  | top => exact .top
  | under get base _ ih =>
      obtain ⟨k', get', hbase, hrestriction, -⟩ := h.containers _ _ get
      rw [← comparisons hrestriction]
      exact .under get' (hbase.trans base) ih

theorem parent (h : db.Grows db') {r b : ContainerRef} (hr : Parent db r b) : Parent db' r b := by
  obtain ⟨k, hk, hb⟩ := hr
  obtain ⟨k', hk', hbase, -⟩ := h.containers r k hk
  exact ⟨k', hk', hbase.trans hb⟩

theorem shows (h : db.Grows db') {r : ContainerRef} {q : ParameterRef} {bit : Int}
    (hr : Shows db r q bit) : Shows db' r q bit := by
  obtain ⟨k, hk, hmem⟩ := hr
  obtain ⟨k', hk', -, -, -, hentries⟩ := h.containers r k hk
  exact ⟨k', hk', hentries hmem⟩

theorem called (h : db.Grows db') {q : ParameterRef} {name : String} (hq : Called db q name) :
    Called db' q name := by
  obtain ⟨p, hp, rfl⟩ := hq
  exact h.names q p hp

end Database.Grows

/-- Where no container is new, everything stays grounded. -/
theorem Grounded.grows {db db' : Database} (h : Grounded db) (hgrows : db.Grows db')
    (hsize : db'.containers.size = db.containers.size) : Grounded db' := by
  intro r k' hk' c hc
  have hlt : r.index < db.containers.size := hsize ▸ Catalog.lt_size_of_get? hk'
  obtain ⟨k, hk⟩ := Option.isSome_iff_exists.mp ((Catalog.get?_isSome_iff _ r).mpr hlt)
  obtain ⟨k₁, hk₁, -, hrestriction, -⟩ := hgrows.containers r k hk
  rw [hk'] at hk₁
  cases hk₁
  rw [Database.Grows.comparisons hrestriction] at hc
  obtain ⟨a, bit, habove, hshows⟩ := h r k hk c hc
  exact ⟨a, bit, Relation.TransGen.mono (fun _ _ => hgrows.parent) r a habove,
    hgrows.shows hshows⟩

/-- A new container is grounded if what it compares is shown by its base or above. -/
theorem Grounded.add {db db' : Database} {k : Container} {r : ContainerRef} (h : Grounded db)
    (hadd : db.addContainer k = .ok (r, db'))
    (hk : ∀ c ∈ k.comparisons, ∃ b a bit, k.base = some b ∧
      Relation.ReflTransGen (Parent db) b a ∧ Shows db a c.parameter bit) : Grounded db' := by
  have hgrows : db.Grows db' := .addContainer hadd
  obtain ⟨-, heq⟩ := Database.addContainer_eq_ok.mp hadd
  cases heq
  intro r k' hk' c hc
  rcases Catalog.get?_push_eq_some hk' with hold | ⟨rfl, rfl⟩
  · obtain ⟨a, bit, habove, hshows⟩ := h r k' hold c hc
    exact ⟨a, bit, Relation.TransGen.mono (fun _ _ => hgrows.parent) r a habove,
      hgrows.shows hshows⟩
  · obtain ⟨b, a, bit, hbase, habove, hshows⟩ := hk c hc
    refine ⟨a, bit, .head' ⟨k', hk', hbase⟩ ?_, hgrows.shows hshows⟩
    exact Relation.ReflTransGen.mono (fun _ _ => hgrows.parent) b a habove

/-! ## What the tables say -/

/-- The rules of a table. -/
def readRules (rows : List Row) : List IdentificationRule :=
  rows.filterMap fun row => (IdentificationRule.ofRow row).toOption

/-- The packets with that of one more record, which counts if it can be read, is valid, and has a
number that no packet before has. -/
def acceptRow (packets : List PacketRecord) (row : Row) : List PacketRecord :=
  match PacketRecord.ofRow row with
  | .ok p => if p.valid = true ∧ ∀ q ∈ packets, q.spid ≠ p.spid then packets ++ [p] else packets
  | .error _ => packets

/-- The accepted packets of a table. -/
def accepted (rows : List Row) : List PacketRecord := rows.foldl acceptRow []

/-- The packets of a kind. -/
def ofKind (packets : List PacketRecord) (key : PacketKey) : List PacketRecord :=
  packets.filter fun p => decide (p.key = key)

/-- The rule of a kind: the first one for its application, else the first one for all. -/
def Selected (rules : List IdentificationRule) (key : PacketKey) (rule : IdentificationRule) :
    Prop :=
  let own := rules.find? fun r => decide (r.type = key.type ∧ r.subtype = key.subtype ∧
    r.apid = some key.apid)
  own = some rule ∨ own = none ∧ rules.find? (fun r => decide (r.type = key.type ∧
    r.subtype = key.subtype ∧ r.apid = none)) = some rule

theorem ruleFor?_eq_some_iff {rules : List IdentificationRule} {key : PacketKey}
    {rule : IdentificationRule} : ruleFor? rules key = some rule ↔ Selected rules key rule := by
  have hfind (p : IdentificationRule → Bool) :
      (rules.filter fun r => r.type == key.type && r.subtype == key.subtype).find? p =
        rules.find? fun r => decide (r.type = key.type ∧ r.subtype = key.subtype ∧ p r = true) := by
    rw [List.find?_filter]
    congr 1
    funext r
    rw [Bool.eq_iff_iff]
    simp [and_assoc]
  unfold ruleFor? Selected
  dsimp only
  rw [hfind, hfind]
  simp only [beq_iff_eq, Option.isNone_iff_eq_none]
  generalize rules.find? (fun r => decide (r.type = key.type ∧ r.subtype = key.subtype ∧
    r.apid = some key.apid)) = own
  cases own with
  | none => simp
  | some r => simp

/-! ## What the containers look like -/

namespace Telemetry

/-- The container that all packets extend, with the parameters that it shows. -/
structure IsRoot (options : TelemetryOptions) (db : Database) (root : PacketRoot) : Prop where
  top : ∃ k, db.containers.get? root.container = some k ∧ k.name = rootContainerName ∧
    k.base = none ∧ k.restriction = none
  apid : Called db root.apid PacketHeader.apidName ∧
    Shows db root.container root.apid PacketHeader.apidBit
  type : Called db root.type PacketHeader.typeName ∧
    Shows db root.container root.type (8 * options.typeOffset)
  subtype : Called db root.subtype PacketHeader.subtypeName ∧
    Shows db root.container root.subtype (8 * options.subtypeOffset)

/-- A container right below the root that asks for a kind. -/
def IsKind (db : Database) (root : PacketRoot) (key : PacketKey) (r : ContainerRef) : Prop :=
  ∃ k, db.containers.get? r = some k ∧ k.base = some root.container ∧
    k.comparisons = key.comparisons root

/-- The parameter of an identification field, if the field is described usably: it has a name of
its own, and the container of the kind shows it at the place of the field. -/
structure FieldOf (db : Database) (group : ContainerRef) (name : String)
    (field : IdentificationField) (q : Option ParameterRef) : Prop where
  used : q.isSome ↔ field.Used
  shown : ∀ x ∈ q, Called db x name ∧ Shows db group x (8 * field.offset)

/-- The container of a packet: that of its kind if the packet is alone of it, else one below that of
its kind which compares the fields of the rule with the values of the packet. -/
inductive Leaf (db : Database) (root : PacketRoot) (rules : List IdentificationRule)
    (packets : List PacketRecord) (p : PacketRecord) (r : ContainerRef) : Prop
  | alone (only : ofKind packets p.key = [p]) (kind : IsKind db root p.key r)
  | member {group : ContainerRef} {rule : IdentificationRule} {one two : Option ParameterRef}
      {k : Container} (several : 1 < (ofKind packets p.key).length)
      (rule_eq : ruleFor? rules p.key = some rule) (kind : IsKind db root p.key group)
      (first : FieldOf db group (p.key.groupName ++ "_pi1") rule.first one)
      (second : FieldOf db group (p.key.groupName ++ "_pi2") rule.second two)
      (get : db.containers.get? r = some k) (base : k.base = some group)
      (comparisons : k.comparisons = fieldConditions one two p)

/-- The way from the root down to the container of a packet asks for the kind of the packet, and,
where it shares the kind with others, for the values that it has in the fields of the rule. -/
def Asks (db : Database) (root : PacketRoot) (rules : List IdentificationRule)
    (packets : List PacketRecord) (p : PacketRecord) (r : ContainerRef) : Prop :=
  ∃ one two, Below db root.container r (leafConditions root one two p) ∧
    (ofKind packets p.key = [p] ∧ one = none ∧ two = none ∨
      1 < (ofKind packets p.key).length ∧ ∃ rule group, Selected rules p.key rule ∧
        Parent db r group ∧ FieldOf db group (p.key.groupName ++ "_pi1") rule.first one ∧
        FieldOf db group (p.key.groupName ++ "_pi2") rule.second two)

section

variable {options : TelemetryOptions} {db db' : Database} {root : PacketRoot}
  {rules : List IdentificationRule} {packets : List PacketRecord} {p : PacketRecord}
  {r group : ContainerRef} {key : PacketKey}

theorem IsRoot.grows (h : IsRoot options db root) (hgrows : db.Grows db') :
    IsRoot options db' root := by
  obtain ⟨k, hk, hname, hbase, hrestriction⟩ := h.top
  obtain ⟨k', hk', hbase', hrestriction', hname', -⟩ := hgrows.containers _ k hk
  refine ⟨⟨k', hk', hname'.trans hname, hbase'.trans hbase, hrestriction'.trans hrestriction⟩,
    ?_, ?_, ?_⟩
  · exact ⟨hgrows.called h.apid.1, hgrows.shows h.apid.2⟩
  · exact ⟨hgrows.called h.type.1, hgrows.shows h.type.2⟩
  · exact ⟨hgrows.called h.subtype.1, hgrows.shows h.subtype.2⟩

theorem IsKind.grows (h : IsKind db root key r) (hgrows : db.Grows db') :
    IsKind db' root key r := by
  obtain ⟨k, hk, hbase, hcomparisons⟩ := h
  obtain ⟨k', hk', hbase', hrestriction, -⟩ := hgrows.containers r k hk
  exact ⟨k', hk', hbase'.trans hbase,
    (Database.Grows.comparisons hrestriction).trans hcomparisons⟩

theorem FieldOf.grows {name : String} {field : IdentificationField} {q : Option ParameterRef}
    (h : FieldOf db group name field q) (hgrows : db.Grows db') :
    FieldOf db' group name field q :=
  ⟨h.used, fun x hx => ⟨hgrows.called (h.shown x hx).1, hgrows.shows (h.shown x hx).2⟩⟩

theorem Leaf.grows (h : Leaf db root rules packets p r) (hgrows : db.Grows db') :
    Leaf db' root rules packets p r := by
  cases h with
  | alone only kind => exact .alone only (kind.grows hgrows)
  | member several rule_eq kind first second get base comparisons =>
      obtain ⟨k', get', hbase, hrestriction, -⟩ := hgrows.containers _ _ get
      exact .member several rule_eq (kind.grows hgrows) (first.grows hgrows) (second.grows hgrows)
        get' (hbase.trans base) ((Database.Grows.comparisons hrestriction).trans comparisons)

theorem Leaf.lt_size (h : Leaf db root rules packets p r) : r.index < db.containers.size := by
  cases h with
  | alone _ kind =>
      obtain ⟨_, hk, _⟩ := kind
      exact Catalog.lt_size_of_get? hk
  | member _ _ _ _ _ get => exact Catalog.lt_size_of_get? get

theorem IsKind.below (h : IsKind db root key r) :
    Below db root.container r (key.comparisons root) := by
  obtain ⟨k, hk, hbase, hcomparisons⟩ := h
  rw [← hcomparisons, ← List.nil_append k.comparisons]
  exact .under hk hbase .top

/-- The way from the root to the container of a packet asks for its kind and for its fields. -/
theorem Leaf.asks (h : Leaf db root rules packets p r) : Asks db root rules packets p r := by
  cases h with
  | alone only kind =>
      refine ⟨none, none, ?_, .inl ⟨only, rfl, rfl⟩⟩
      show Below db root.container r (p.key.comparisons root ++ [])
      rw [List.append_nil]
      exact kind.below
  | @member group rule one two k several rule_eq kind first second get base comparisons =>
      refine ⟨one, two, ?_, .inr ⟨several, rule, group, ruleFor?_eq_some_iff.mp rule_eq,
        ⟨k, get, base⟩, first, second⟩⟩
      unfold leafConditions
      rw [← comparisons]
      exact .under get base kind.below

end

/-! ## The invariant -/

variable {setting : Setting} {options : TelemetryOptions} {root : PacketRoot}
  {rules : List IdentificationRule} {packets : List PacketRecord} {d d' d'' : Draft TelemetryState}

/-- What holds of the containers of packets at any time. -/
structure Standing (options : TelemetryOptions) (root : PacketRoot)
    (rules : List IdentificationRule) (packets : List PacketRecord) (d : Draft TelemetryState) :
    Prop where
  isRoot : IsRoot options d.database root
  sameRules : d.stage.identifications = rules
  samePackets : d.stage.packets = packets
  grounded : Grounded d.database
  /-- A container is that of one of the packets, and says what it should. -/
  placed : ∀ spid r, d.stage.packetContainers.find? spid = some r →
    ∃ p ∈ packets, p.spid = spid ∧ Leaf d.database root rules packets p r
  injective : ∀ a b r, d.stage.packetContainers.find? a = some r →
    d.stage.packetContainers.find? b = some r → a = b

/-- A step that keeps the invariant, loses no error, and takes its container from no packet. -/
structure Proceeds (options : TelemetryOptions) (root : PacketRoot)
    (rules : List IdentificationRule) (packets : List PacketRecord)
    (d d' : Draft TelemetryState) : Prop where
  standing : Standing options root rules packets d'
  grows : d.database.Grows d'.database
  errors : d.errors <+: d'.errors
  kept : ∀ spid, (d.stage.packetContainers.find? spid).isSome →
    (d'.stage.packetContainers.find? spid).isSome

theorem Proceeds.trans (h : Proceeds options root rules packets d d')
    (h' : Proceeds options root rules packets d' d'') :
    Proceeds options root rules packets d d'' where
  standing := h'.standing
  grows := h.grows.trans h'.grows
  errors := h.errors.trans h'.errors
  kept := fun spid hspid => h'.kept spid (h.kept spid hspid)

/-- A step that gives no packet a container. -/
theorem Standing.quiet (h : Standing options root rules packets d) (hq : Quiet d d')
    (hgrounded : Grounded d'.database) : Proceeds options root rules packets d d' where
  standing := {
    isRoot := h.isRoot.grows hq.grows
    sameRules := by rw [hq.stage]; exact h.sameRules
    samePackets := by rw [hq.stage]; exact h.samePackets
    grounded := hgrounded
    placed := fun spid r hr => by
      rw [hq.stage] at hr
      obtain ⟨p, hp, hspid, hleaf⟩ := h.placed spid r hr
      exact ⟨p, hp, hspid, hleaf.grows hq.grows⟩
    injective := by rw [hq.stage]; exact h.injective }
  grows := hq.grows
  errors := hq.errors
  kept := fun spid hspid => by rw [hq.stage]; exact hspid

theorem Standing.refl (h : Standing options root rules packets d) :
    Proceeds options root rules packets d d := h.quiet (.refl d) h.grounded

/-! ### Steps that add no container -/

/-- The containers are the same ones. -/
def SameContainers (d d' : Draft TelemetryState) : Prop :=
  d'.database.containers.size = d.database.containers.size

instance : Std.Refl SameContainers := ⟨fun _ => rfl⟩

instance : IsTrans (Draft TelemetryState) SameContainers := ⟨fun _ _ _ h h' => h'.trans h⟩

/-- Not even an entry of a container is different. -/
def KeepsContainers (d d' : Draft TelemetryState) : Prop :=
  d'.database.containers = d.database.containers

instance : Std.Refl KeepsContainers := ⟨fun _ => rfl⟩

instance : IsTrans (Draft TelemetryState) KeepsContainers := ⟨fun _ _ _ h h' => h'.trans h⟩

theorem KeepsContainers.same (h : KeepsContainers d d') : SameContainers d d' :=
  congrArg Catalog.size h

theorem addUnsigned_keepsContainers (name : String) (size : Nat) :
    Steps KeepsContainers (addUnsigned name size) :=
  steps_addUnsigned (fun _ => steps_addParameterType fun _ _ => rfl)
    (fun _ _ => steps_addParameter fun _ _ => rfl) name size

theorem addUnsigned_sameContainers (name : String) (size : Nat) :
    Steps SameContainers (addUnsigned name size) :=
  (addUnsigned_keepsContainers name size).mono fun _ _ h => h.same

theorem echoEntries_keepsContainers (key : PacketKey) :
    Steps KeepsContainers (echoEntries setting key) :=
  steps_echoEntries addUnsigned_keepsContainers key

theorem echoEntries_sameContainers (key : PacketKey) :
    Steps SameContainers (echoEntries setting key) :=
  (echoEntries_keepsContainers key).mono fun _ _ h => h.same

theorem addIdentification_sameContainers (container : ContainerRef) (name : String)
    (field : IdentificationField) (location : Location) :
    Steps SameContainers (addIdentification setting container name field location) :=
  steps_addIdentification addUnsigned_sameContainers (steps_report fun _ _ => rfl)
    (fun _ _ => steps_modify fun _ => Catalog.size_modify _ _ _) container name field location

theorem registerPacket_same (packet : PacketRecord) (r : ContainerRef) :
    Steps (fun d d' => SameContainers d d' ∧ d'.errors = d.errors) (registerPacket packet r) := by
  intro d
  unfold registerPacket
  refine Ends.bind (ends_stage ?_)
  dsimp only
  split
  · refine Ends.ite (fun _ => ?_) fun _ => ⟨rfl, rfl⟩
    exact ⟨Catalog.size_modify _ _ _, rfl⟩
  · exact ⟨rfl, rfl⟩

/-! ### Containers of packets -/

/-- A container that is new belongs to no packet. -/
theorem Standing.fresh (h : Standing options root rules packets d) {r : ContainerRef}
    (hr : d.database.containers.size ≤ r.index) (spid : Int) :
    d.stage.packetContainers.find? spid ≠ some r := by
  intro hfind
  obtain ⟨p, -, -, hleaf⟩ := h.placed spid r hfind
  exact absurd hleaf.lt_size (Nat.not_lt_of_le hr)

/-- **The container of a kind is new, asks for the kind, and is grounded by the root.** -/
theorem addKindContainer_ends {name : String} {packet : PacketRecord}
    {description : Option String} (h : Standing options root rules packets d) :
    Ends (addKindContainer setting root name packet description) d
      (fun r d' => Proceeds options root rules packets d d' ∧
        IsKind d'.database root packet.key r ∧
        ∀ spid, d'.stage.packetContainers.find? spid ≠ some r)
      (Proceeds options root rules packets d) := by
  unfold addKindContainer
  have hecho (t : Draft TelemetryState) (hq : Quiet d t) (hsame : SameContainers d t) :
      Proceeds options root rules packets d t := h.quiet hq (h.grounded.grows hq.grows hsame)
  refine Ends.bind (((steps_echoEntries quiet_addUnsigned packet.key).both
    (echoEntries_sameContainers packet.key) d).mono (fun entries d₁ _ h₁ => ?_)
    fun t ht => hecho t ht.1 ht.2)
  have hproceeds₁ := hecho d₁ h₁.1 h₁.2
  refine ends_add (fun r db hadd => ?_) hproceeds₁
  have hkind : ((Criteria.ofList? (packet.key.comparisons root)).map Criteria.toList).getD [] =
      packet.key.comparisons root := Criteria.getD_ofList? _
  have hgrounded : Grounded db := by
    refine hproceeds₁.standing.grounded.add hadd fun c hc => ?_
    have hroot := hproceeds₁.standing.isRoot
    have hc' : c ∈ packet.key.comparisons root := by rw [← hkind]; exact hc
    rw [PacketKey.comparisons] at hc'
    -- the root shows all three parameters
    have hshown : ∃ bit, Shows d₁.database root.container c.parameter bit := by
      rcases List.mem_cons.mp hc' with rfl | hc'
      · exact ⟨_, hroot.apid.2⟩
      rcases List.mem_cons.mp hc' with rfl | hc'
      · exact ⟨_, hroot.type.2⟩
      obtain rfl := List.mem_singleton.mp hc'
      exact ⟨_, hroot.subtype.2⟩
    obtain ⟨bit, hshown⟩ := hshown
    exact ⟨root.container, root.container, bit, rfl, .refl, hshown⟩
  refine ⟨hproceeds₁.trans (hproceeds₁.standing.quiet ⟨rfl, .addContainer hadd, List.prefix_rfl⟩
    hgrounded), ?_, ?_⟩
  · obtain ⟨-, heq⟩ := Database.addContainer_eq_ok.mp hadd
    cases heq
    exact ⟨_, Catalog.get?_push_next _ _, rfl, hkind⟩
  · obtain ⟨-, heq⟩ := Database.addContainer_eq_ok.mp hadd
    cases heq
    exact hproceeds₁.standing.fresh (Nat.le_refl _)

/-- **A packet gets the container that is made for it.** -/
theorem registerPacket_proceeds {packet : PacketRecord} {r : ContainerRef}
    (h : Standing options root rules packets d) (hpacket : packet ∈ packets)
    (hleaf : Leaf d.database root rules packets packet r)
    (hfresh : ∀ spid, d.stage.packetContainers.find? spid ≠ some r) :
    Ends (registerPacket packet r) d
      (fun _ d' => Proceeds options root rules packets d d' ∧
        (d'.stage.packetContainers.find? packet.spid).isSome)
      (Proceeds options root rules packets d) := by
  refine ((registerPacket_ends packet r).mono (fun _ d' hrun hd' => ?_) fun _ hd' => hd'.elim)
  obtain ⟨hgrows, hstage⟩ := hd'
  obtain ⟨hsame, herrors⟩ := (registerPacket_same packet r).of_ok hrun
  -- a look-up finds the new container, or one that was there
  have hfind (spid : Int) : d'.stage.packetContainers.find? spid =
      if spid = packet.spid then some r else d.stage.packetContainers.find? spid := by
    rw [hstage]
    split
    · rename_i heq
      rw [heq]
      exact Index.find?_set_self _ _ _
    · rename_i hne
      exact Index.find?_set_of_ne _ hne _
  refine ⟨⟨⟨h.isRoot.grows hgrows, ?_, ?_, h.grounded.grows hgrows hsame, ?_, ?_⟩, hgrows, ?_, ?_⟩,
    ?_⟩
  · rw [hstage]
    exact h.sameRules
  · rw [hstage]
    exact h.samePackets
  · intro spid q hq
    rw [hfind] at hq
    split at hq
    · rename_i heq
      cases hq
      exact ⟨packet, hpacket, heq.symm, hleaf.grows hgrows⟩
    · obtain ⟨p, hp, hspid, hold⟩ := h.placed spid q hq
      exact ⟨p, hp, hspid, hold.grows hgrows⟩
  · intro a b q ha hb
    rw [hfind] at ha hb
    split at ha <;> split at hb
    · rename_i ha' hb'
      rw [ha', hb']
    · cases ha
      exact absurd hb (hfresh b)
    · cases hb
      exact absurd ha (hfresh a)
    · exact h.injective a b q ha hb
  · rw [herrors]
  · intro spid hspid
    rw [hfind]
    split
    · rfl
    · exact hspid
  · rw [hfind, if_pos rfl]
    rfl

theorem addSinglePacket_ends {packet : PacketRecord} (h : Standing options root rules packets d)
    (honly : ofKind packets packet.key = [packet]) :
    Ends (addSinglePacket setting root packet) d
      (fun _ d' => Proceeds options root rules packets d d' ∧
        (d'.stage.packetContainers.find? packet.spid).isSome)
      (Proceeds options root rules packets d) := by
  unfold addSinglePacket
  refine Ends.bind (ends_stage (Ends.bind (ends_database (Ends.bind ?_))))
  refine (addKindContainer_ends h).mono (fun r d₁ _ h₁ => ?_) fun _ h₁ => h₁
  obtain ⟨hproceeds, hkind, hnew⟩ := h₁
  have hpacket : packet ∈ packets := by
    have hmem : packet ∈ ofKind packets packet.key := by rw [honly]; exact List.mem_singleton_self _
    exact List.mem_of_mem_filter hmem
  refine (registerPacket_proceeds hproceeds.standing hpacket (.alone honly hkind) hnew).mono
    (fun _ d' _ hd' => ?_) fun _ hd' => hproceeds.trans hd'
  exact ⟨hproceeds.trans hd'.1, hd'.2⟩

/-! ### Containers of several packets of a kind -/

theorem addUnsigned_called {name : String} {size : Nat} {q : ParameterRef}
    (h : addUnsigned name size d = .ok q d') : Called d'.database q name := by
  obtain ⟨t, d₁, -, hadd⟩ := bind_eq_ok.mp h
  obtain ⟨db, hdb, rfl⟩ := add_eq_ok.mp hadd
  obtain ⟨-, heq⟩ := Database.addParameter_eq_ok.mp hdb
  cases heq
  exact ⟨_, Catalog.get?_push_next _ _, rfl⟩

/-- **A field that is used is shown by the container of the kind.** -/
theorem addIdentification_ends {container : ContainerRef} {name : String}
    {field : IdentificationField} {location : Location} {k : Container}
    (h : Standing options root rules packets d)
    (hk : d.database.containers.get? container = some k) :
    Ends (addIdentification setting container name field location) d
      (fun q d' => Proceeds options root rules packets d d' ∧
        FieldOf d'.database container name field q)
      (Proceeds options root rules packets d) := by
  have hproceeds (t : Draft TelemetryState) (ht : Quiet d t ∧ SameContainers d t) :
      Proceeds options root rules packets d t :=
    h.quiet ht.1 (h.grounded.grows ht.1.grows ht.2)
  have hquiet := (quiet_addIdentification setting container name field location).both
    (addIdentification_sameContainers container name field location)
  refine (hquiet d).mono
    (fun q d' hrun hd' => ⟨hproceeds d' hd', (addIdentification_field hrun).1, ?_⟩) hproceeds
  rcases addIdentification_eq_ok hrun with ⟨-, rfl⟩ | ⟨-, p, width, t, hp, rfl, rfl⟩
  · simp
  · rintro x ⟨⟩
    have hcalled : Called t.database p name := addUnsigned_called hp
    refine ⟨hcalled, ?_⟩
    obtain ⟨k₁, hk₁, -⟩ := ((quiet_addUnsigned _ _).of_ok hp).grows.containers container k hk
    refine ⟨_, (Catalog.get?_modify_self _ _ _).trans (congrArg _ hk₁), ?_⟩
    exact List.mem_append_right _ (List.mem_singleton_self _)

/-- The container of a kind that a rule tells apart. -/
structure IsGroup (db : Database) (root : PacketRoot) (rule : IdentificationRule)
    (key : PacketKey) (group : ContainerRef) (one two : Option ParameterRef) : Prop where
  kind : IsKind db root key group
  first : FieldOf db group (key.groupName ++ "_pi1") rule.first one
  second : FieldOf db group (key.groupName ++ "_pi2") rule.second two

theorem IsGroup.grows {db db' : Database} {rule : IdentificationRule} {key : PacketKey}
    {group : ContainerRef} {one two : Option ParameterRef}
    (h : IsGroup db root rule key group one two) (hgrows : db.Grows db') :
    IsGroup db' root rule key group one two :=
  ⟨h.kind.grows hgrows, h.first.grows hgrows, h.second.grows hgrows⟩

theorem addMember_ends {packet : PacketRecord} {rule : IdentificationRule} {group : ContainerRef}
    {one two : Option ParameterRef} (h : Standing options root rules packets d)
    (hpacket : packet ∈ packets) (hseveral : 1 < (ofKind packets packet.key).length)
    (hrule : ruleFor? rules packet.key = some rule)
    (hgroup : IsGroup d.database root rule packet.key group one two) :
    Ends (addMember group one two packet) d
      (fun _ d' => Proceeds options root rules packets d d' ∧
        (d'.stage.packetContainers.find? packet.spid).isSome)
      (Proceeds options root rules packets d) := by
  unfold addMember
  refine Ends.bind (ends_stage (Ends.bind (ends_database (Ends.bind ?_))))
  refine ends_add (fun r db hadd => ?_) h.refl
  have hcomparisons : ((Criteria.ofList? (fieldConditions one two packet)).map
      Criteria.toList).getD [] = fieldConditions one two packet := Criteria.getD_ofList? _
  have hgrounded : Grounded db := by
    refine h.grounded.add hadd fun c hc => ?_
    have hc' : c ∈ fieldConditions one two packet := by rw [← hcomparisons]; exact hc
    -- the container of the kind shows both fields
    have hshown : ∃ bit, Shows d.database group c.parameter bit := by
      rcases List.mem_append.mp hc' with hone | htwo
      · obtain ⟨q, hq, rfl⟩ := Option.map_eq_some_iff.mp (Option.mem_toList.mp hone)
        exact ⟨_, (hgroup.first.shown q hq).2⟩
      · obtain ⟨q, hq, rfl⟩ := Option.map_eq_some_iff.mp (Option.mem_toList.mp htwo)
        exact ⟨_, (hgroup.second.shown q hq).2⟩
    obtain ⟨bit, hshown⟩ := hshown
    exact ⟨group, group, bit, rfl, .refl, hshown⟩
  have hgrows : d.database.Grows db := .addContainer hadd
  have hproceeds : Proceeds options root rules packets d { d with database := db } :=
    h.quiet ⟨rfl, hgrows, List.prefix_rfl⟩ hgrounded
  have hgroup' := hgroup.grows hgrows
  obtain ⟨-, heq⟩ := Database.addContainer_eq_ok.mp hadd
  cases heq
  have hleaf := Leaf.member hseveral hrule hgroup'.kind hgroup'.first hgroup'.second
    (Catalog.get?_push_next _ _) rfl hcomparisons
  refine (registerPacket_proceeds hproceeds.standing hpacket hleaf ?_).mono (fun _ d' _ hd' => ?_)
    fun _ hd' => hproceeds.trans hd'
  · exact h.fresh (Nat.le_refl _)
  · exact ⟨hproceeds.trans hd'.1, hd'.2⟩

/-- The packets of a group all get containers, unless one of them is refused. -/
theorem forM_addMember_ends {key : PacketKey} {rule : IdentificationRule} {group : ContainerRef}
    {one two : Option ParameterRef} (hseveral : 1 < (ofKind packets key).length)
    (hrule : ruleFor? rules key = some rule) {ps : List PacketRecord}
    (hps : ∀ p ∈ ps, p ∈ ofKind packets key) (h : Standing options root rules packets d)
    (hgroup : IsGroup d.database root rule key group one two) :
    Ends (ps.forM (addMember group one two)) d
      (fun _ d' => Proceeds options root rules packets d d' ∧
        ∀ p ∈ ps, (d'.stage.packetContainers.find? p.spid).isSome)
      (Proceeds options root rules packets d) := by
  induction ps generalizing d with
  | nil => exact ends_pure ⟨h.refl, by simp⟩
  | cons p ps ih =>
      obtain ⟨hp, hkey⟩ := List.mem_filter.mp (hps p List.mem_cons_self)
      obtain rfl := of_decide_eq_true hkey
      refine Ends.bind ((addMember_ends h hp hseveral hrule hgroup).mono (fun _ d₁ _ h₁ => ?_)
        fun _ h₁ => h₁)
      obtain ⟨hproceeds, hplaced⟩ := h₁
      refine (ih (fun q hq => hps q (List.mem_cons_of_mem p hq)) hproceeds.standing
        (hgroup.grows hproceeds.grows)).mono (fun _ d₂ _ h₂ => ?_) fun _ h₂ => hproceeds.trans h₂
      refine ⟨hproceeds.trans h₂.1, fun q hq => ?_⟩
      rcases List.mem_cons.mp hq with rfl | hq
      · exact h₂.1.kept _ hplaced
      · exact h₂.2 q hq

theorem addPacketGroup_ends {key : PacketKey} {first : PacketRecord} {ps : List PacketRecord}
    (h : Standing options root rules packets d) (hps : ps = ofKind packets key)
    (hfirst : first.key = key) (hseveral : 1 < ps.length) :
    Ends (addPacketGroup setting root key first ps) d
      (fun _ d' => Proceeds options root rules packets d d' ∧
        ∀ p ∈ ps, (d'.stage.packetContainers.find? p.spid).isSome)
      (Proceeds options root rules packets d) := by
  subst hfirst hps
  unfold addPacketGroup
  refine Ends.bind (ends_stage ?_)
  cases hrule : ruleFor? d.stage.identifications first.key with
  | none => exact ends_throw h.refl
  | some rule =>
      rw [h.sameRules] at hrule
      refine Ends.bind ((addKindContainer_ends h).mono (fun group d₁ _ h₁ => ?_) fun _ h₁ => h₁)
      obtain ⟨h₁, hkind, -⟩ := h₁
      obtain ⟨k₁, hk₁, -⟩ := id hkind
      refine Ends.bind ((addIdentification_ends h₁.standing hk₁).mono (fun one d₂ _ h₂ => ?_)
        fun _ h₂ => h₁.trans h₂)
      obtain ⟨h₂, hone⟩ := h₂
      obtain ⟨k₂, hk₂, -⟩ := h₂.grows.containers group k₁ hk₁
      refine Ends.bind ((addIdentification_ends h₂.standing hk₂).mono (fun two d₃ _ h₃ => ?_)
        fun _ h₃ => (h₁.trans h₂).trans h₃)
      obtain ⟨h₃, htwo⟩ := h₃
      have hproceeds := (h₁.trans h₂).trans h₃
      have hgroup : IsGroup d₃.database root rule first.key group one two :=
        ⟨hkind.grows (h₂.grows.trans h₃.grows), hone.grows h₃.grows, htwo⟩
      refine Ends.ite (fun _ => ends_throw hproceeds) fun _ => ?_
      refine (forM_addMember_ends hseveral hrule (fun _ hp => hp) hproceeds.standing hgroup).mono
        (fun _ d₄ _ h₄ => ?_) fun _ h₄ => hproceeds.trans h₄
      exact ⟨hproceeds.trans h₄.1, h₄.2⟩

/-- **All packets of a kind get containers, unless the kind is refused.** -/
theorem addPackets_ends {key : PacketKey} {ps : List PacketRecord}
    (h : Standing options root rules packets d) (hps : ps = ofKind packets key) :
    Ends (addPackets setting root key ps) d
      (fun _ d' => Proceeds options root rules packets d d' ∧
        ∀ p ∈ ps, (d'.stage.packetContainers.find? p.spid).isSome)
      (Proceeds options root rules packets d) := by
  have hkey (p : PacketRecord) (hp : p ∈ ps) : p.key = key := by
    rw [hps] at hp
    exact of_decide_eq_true (List.mem_filter.mp hp).2
  match ps with
  | [] => exact ends_pure ⟨h.refl, by simp⟩
  | [p] =>
      obtain rfl := hkey p List.mem_cons_self
      exact (addSinglePacket_ends h hps.symm).mono (fun _ _ _ h => ⟨h.1, by simpa using h.2⟩)
        fun _ h => h
  | first :: second :: rest =>
      exact addPacketGroup_ends h hps (hkey first List.mem_cons_self) (by simp)

end Telemetry

end MissionBase
