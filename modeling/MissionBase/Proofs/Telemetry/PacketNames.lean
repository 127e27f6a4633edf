import MissionBase.Proofs.Telemetry.Faithfulness
import MissionBase.Proofs.Telemetry.GeneratedNames

/-!
# What names cost packets

The containers of packets share one space of names: that of the root, those of the kinds, and those
that packets are given. A packet whose name is taken gets the name with its number after it, but
nobody looks whether that one is taken, too, and the container of a kind never gives way. So there
are names that cost a packet its container, or all packets of a kind theirs.

The names that are formed do not depend on what becomes of them as long as nothing is refused
(`formedNames`), and once something is refused two of them are the same. What a part of the work
adds is said by `Adds`; the work is done (`Done`), or it loses one of its packets to a name that is
formed twice (`Lost`).
-/

namespace MissionBase

open Run

/-- The names of the containers in the order of their arrival. -/
def Database.containerNames (db : Database) : List String := db.containers.toList.map (·.name)

theorem Database.mem_containerNames {db : Database} {name : String} :
    name ∈ db.containerNames ↔ db.containers.has name = true := by
  unfold containerNames
  constructor
  · intro h
    obtain ⟨k, hk, rfl⟩ := List.mem_map.mp h
    exact Catalog.has_of_mem (Array.mem_toList_iff.mp hk)
  · intro h
    obtain ⟨r, k, hk, rfl⟩ := Catalog.exists_of_has h
    exact List.mem_map.mpr ⟨k, Array.mem_toList_iff.mpr (Array.mem_of_getElem? hk), rfl⟩

theorem Database.containerNames_changeContainer (db : Database) (r : ContainerRef)
    {change : Container → Container} (h : ∀ k, (change k).name = k.name) :
    (db.changeContainer r change).containerNames = db.containerNames :=
  Catalog.map_toList_modify h

namespace Telemetry

/-! ## Names that are formed -/

section

variable (given : Index Int (Option String × Option Int))

/-- The names of packets with that of one more record, which counts if it can be read. -/
def nameRow (row : Row) : Index Int (Option String × Option Int) :=
  match row.require [0], row.int? 2, row.int 0 with
  | .ok _, .ok size, .ok spid => given.set spid ((row.text? 1).map containerText, size)
  | _, _, _ => given

/-- The name that a packet is given, or else the default. -/
def ownName (p : PacketRecord) (default : String) : String :=
  ((given.find? p.spid).bind (·.1)).getD default

/-- The name of the container of a packet: its own, with its number if that is taken. -/
def formedName (taken : List String) (p : PacketRecord) (default : String) : String :=
  if ownName given p default ∈ taken then withNumber (ownName given p default) p.spid
  else ownName given p default

/-- One name more, of one of several packets of a kind. -/
def withMember (taken : List String) (p : PacketRecord) : List String :=
  taken ++ [formedName given taken p (withNumber p.key.groupName p.spid)]

/-- The names with those of a kind of packets. -/
def withKind (taken : List String) : PacketKey × List PacketRecord → List String
  | (_, []) => taken
  | (key, [p]) => taken ++ [formedName given taken p key.groupName]
  | (key, packets) => packets.foldl (withMember given) (taken ++ [key.groupName])

/-- The names that are formed for packets, after that of the root. -/
def formedNames (packets : List PacketRecord) : List String :=
  (groupPackets packets).foldl (withKind given) [rootContainerName]

end

variable {given : Index Int (Option String × Option Int)}

theorem packetName_eq (state : TelemetryState) (db : Database) (p : PacketRecord)
    (default : String) :
    packetName state db p default =
      formedName state.packetNames db.containerNames p default := by
  unfold packetName formedName
  by_cases h : ownName state.packetNames p default ∈ db.containerNames
  · rw [if_pos h]
    exact if_pos (Database.mem_containerNames.mp h)
  · rw [if_neg h]
    exact if_neg fun htaken => h (Database.mem_containerNames.mpr htaken)

/-- Folding by steps that only add at the end only adds at the end. -/
theorem prefix_foldl {α β : Type} {f : List α → β → List α} (h : ∀ acc b, acc <+: f acc b) :
    ∀ (bs : List β) (acc : List α), acc <+: bs.foldl f acc
  | [], _ => List.prefix_rfl
  | b :: bs, acc => (h acc b).trans (prefix_foldl h bs (f acc b))

theorem prefix_withMember (taken : List String) (p : PacketRecord) :
    taken <+: withMember given taken p := List.prefix_append _ _

theorem prefix_withKind (taken : List String) (g : PacketKey × List PacketRecord) :
    taken <+: withKind given taken g := by
  unfold withKind
  split
  · exact List.prefix_rfl
  · exact List.prefix_append _ _
  · exact (List.prefix_append _ _).trans (prefix_foldl prefix_withMember _ _)

/-! ## What a part of the work adds -/

variable {setting : Setting} {root : PacketRoot} {rules : List IdentificationRule}
  {packets : List PacketRecord} {fields fields' names names' : List String}
  {numbers numbers' : List Int} {d d' d'' : Draft TelemetryState}

/-- What a part of the work adds: parameters with some names, containers with names that were all
free, and containers of the packets of some numbers. -/
structure Adds (fields names : List String) (numbers : List Int) (d d' : Draft TelemetryState) :
    Prop where
  /-- Nothing else of what the tables say changes. -/
  stage : d'.stage = { d.stage with packetContainers := d'.stage.packetContainers }
  fields : ∀ n, d'.database.parameters.has n = true →
    d.database.parameters.has n = true ∨ n ∈ fields
  containers : d'.database.containerNames = d.database.containerNames ++ names
  nodup : d.database.containerNames.Nodup → d'.database.containerNames.Nodup
  placed : ∀ spid, (d'.stage.packetContainers.find? spid).isSome ↔
    (d.stage.packetContainers.find? spid).isSome ∨ spid ∈ numbers

namespace Adds

/-- A step that gives no packet a container. -/
theorem of_stage (hstage : d'.stage = d.stage)
    (hfields : ∀ n, d'.database.parameters.has n = true →
      d.database.parameters.has n = true ∨ n ∈ fields)
    (hcontainers : d'.database.containerNames = d.database.containerNames ++ names)
    (hnodup : d.database.containerNames.Nodup → d'.database.containerNames.Nodup) :
    Adds fields names [] d d' where
  stage := by rw [hstage]
  fields := hfields
  containers := hcontainers
  nodup := hnodup
  placed := fun spid => by simp [hstage]

/-- A step that adds nothing of all this. -/
theorem of_same (hstage : d'.stage = d.stage)
    (hparameters : d'.database.parameters = d.database.parameters)
    (hnames : d'.database.containerNames = d.database.containerNames) :
    Adds fields [] [] d d' := by
  refine of_stage hstage (fun n hn => .inl ?_) ?_ fun h => ?_
  · rwa [hparameters] at hn
  · rw [hnames, List.append_nil]
  · rwa [hnames]

theorem refl (d : Draft TelemetryState) : Adds fields [] [] d d := of_same rfl rfl rfl

theorem trans (h : Adds fields names numbers d d') (h' : Adds fields names' numbers' d' d'') :
    Adds fields (names ++ names') (numbers ++ numbers') d d'' where
  stage := by rw [h'.stage, h.stage]
  fields := fun n hn => by
    rcases h'.fields n hn with hold | hnew
    · exact h.fields n hold
    · exact .inr hnew
  containers := by rw [h'.containers, h.containers, List.append_assoc]
  nodup := fun hnodup => h'.nodup (h.nodup hnodup)
  placed := fun spid => by rw [h'.placed, h.placed, List.mem_append, or_assoc]

theorem mono (h : Adds fields names numbers d d') (hfields : fields ⊆ fields') :
    Adds fields' names numbers d d' :=
  { h with fields := fun n hn => (h.fields n hn).imp id fun hmem => hfields hmem }

theorem record (h : Adds fields names numbers d d') (errors : List Error) :
    Adds fields names numbers d { d' with errors := errors } := { h with }

/-- A name that is not among the new ones stays free. -/
theorem free (h : Adds fields names numbers d d') {n : String}
    (hfree : d.database.parameters.has n = false) (hn : n ∉ fields) :
    d'.database.parameters.has n = false := by
  by_contra htaken
  rcases h.fields n (by simpa using htaken) with hold | hnew
  · rw [hfree] at hold
    cases hold
  · exact hn hnew

end Adds

/-- The work is done: it has formed the names that it was to form, and its packets have
containers. -/
def Done (fields formed : List String) (numbers : List Int) (d d' : Draft TelemetryState) : Prop :=
  ∃ names, formed = d.database.containerNames ++ names ∧ Adds fields names numbers d d'

/-- One of the names that the work was to form was taken, and one of its packets has got no
container. -/
def Lost (fields formed : List String) (numbers : List Int) (d d' : Draft TelemetryState) : Prop :=
  ¬ formed.Nodup ∧ ∃ names numbers', Adds fields names numbers' d d' ∧ numbers' ⊆ numbers ∧
    ∃ n ∈ numbers, n ∉ numbers'

section

variable {formed formed' : List String}

theorem Done.containers (h : Done fields formed numbers d d') :
    d'.database.containerNames = formed := by
  obtain ⟨names, rfl, hadds⟩ := h
  exact hadds.containers

theorem Adds.done (h : Adds fields names numbers d d')
    (h' : Done fields formed numbers' d' d'') :
    Done fields formed (numbers ++ numbers') d d'' := by
  obtain ⟨names', rfl, hadds⟩ := h'
  exact ⟨names ++ names', by rw [h.containers, List.append_assoc], h.trans hadds⟩

/-- What is lost after a part of the work is lost of the whole. -/
theorem Adds.lost (h : Adds fields names numbers d d') (h' : Lost fields formed numbers' d' d'')
    (hdisjoint : ∀ n ∈ numbers', n ∉ numbers) :
    Lost fields formed (numbers ++ numbers') d d'' := by
  obtain ⟨hclash, names', placed, hadds, hsub, n, hn, hlost⟩ := h'
  refine ⟨hclash, names ++ names', numbers ++ placed, h.trans hadds,
    List.append_subset.mpr ⟨List.subset_append_left _ _,
      List.Subset.trans hsub (List.subset_append_right _ _)⟩, n, List.mem_append_right _ hn, ?_⟩
  rw [List.mem_append, not_or]
  exact ⟨hdisjoint n hn, hlost⟩

/-- A packet that is lost at first is lost of the whole. -/
theorem Lost.extend (h : Lost fields formed numbers d d') (hformed : formed <+: formed') :
    Lost fields formed' (numbers ++ numbers') d d' := by
  obtain ⟨hclash, names, placed, hadds, hsub, n, hn, hlost⟩ := h
  exact ⟨fun hnodup => hclash (hnodup.sublist hformed.sublist), names, placed, hadds,
    fun m hm => List.mem_append_left _ (hsub hm), n, List.mem_append_left _ hn, hlost⟩

theorem Done.mono (h : Done fields formed numbers d d') (hfields : fields ⊆ fields') :
    Done fields' formed numbers d d' := by
  obtain ⟨names, hformed, hadds⟩ := h
  exact ⟨names, hformed, hadds.mono hfields⟩

theorem Lost.mono (h : Lost fields formed numbers d d') (hfields : fields ⊆ fields') :
    Lost fields' formed numbers d d' := by
  obtain ⟨hclash, names, placed, hadds, hrest⟩ := h
  exact ⟨hclash, names, placed, hadds.mono hfields, hrest⟩

end

/-! ### Parameters -/

/-- A parameter with a free name is added. -/
theorem addUnsigned_adds {name : String} {size : Nat}
    (hfree : d.database.parameters.has name = false) :
    Ends (addUnsigned name size) d (fun _ => Adds [name] [] [] d) fun _ => False := by
  refine ends_iff.mpr ⟨fun q d' hrun => ?_, fun e t hrun => ?_⟩
  · have hquiet := (quiet_addUnsigned name size).of_ok hrun
    have hsame : d'.database.containers = d.database.containers :=
      (addUnsigned_keepsContainers name size).of_ok hrun
    have hnames : d'.database.containerNames = d.database.containerNames := by
      unfold Database.containerNames
      rw [hsame]
    refine .of_stage hquiet.stage (fun n hn => ?_) (hnames.trans (List.append_nil _).symm)
      fun h => hnames ▸ h
    obtain ⟨t, d₁, htype, hadd⟩ := bind_eq_ok.mp hrun
    rw [← (unsignedTypeRef_ends size).of_ok htype]
    obtain ⟨db, hdb, rfl⟩ := add_eq_ok.mp hadd
    obtain ⟨-, heq⟩ := Database.addParameter_eq_ok.mp hdb
    cases heq
    exact (Catalog.eq_or_has_of_has_push hn).imp id List.mem_singleton.mpr
  · have htaken := (raises_addUnsigned name size e t hrun).1
    rw [hfree] at htaken
    cases htaken

theorem unsignedOrNew_adds (name : String) (size : Nat) (d : Draft TelemetryState) :
    Ends (unsignedOrNew name size) d (fun _ => Adds [name] [] [] d) fun _ => False := by
  unfold unsignedOrNew
  refine Ends.bind (ends_database ?_)
  cases hfind : d.database.parameters.find? name with
  | some q => exact ends_pure (.refl d)
  | none =>
      refine addUnsigned_adds ?_
      unfold Catalog.has
      rw [hfind]
      rfl

theorem echoEntries_adds (key : PacketKey) (d : Draft TelemetryState) :
    Ends (echoEntries setting key) d (fun _ => Adds PacketHeader.echoedNames [] [] d)
      fun _ => False := by
  unfold echoEntries echoedRequest
  refine Ends.ite (fun _ => ?_) fun _ => ends_pure (.refl d)
  refine Ends.bind (Ends.bind ((unsignedOrNew_adds _ _ d).mono (fun apid d₁ _ h₁ => ?_)
    fun _ h => h))
  refine Ends.bind ((unsignedOrNew_adds _ _ d₁).mono (fun count d₂ _ h₂ => ?_) fun _ h => h)
  exact (h₁.mono (by simp [PacketHeader.echoedNames])).trans
    (h₂.mono (by simp [PacketHeader.echoedNames]))

/-- **A field is added under its name, if it is used**, and nothing fails. -/
theorem addIdentification_adds (hlenient : setting.config.strict = false)
    {container : ContainerRef} {name : String} {field : IdentificationField}
    {location : Location} (hfree : field.Used → d.database.parameters.has name = false) :
    Ends (addIdentification setting container name field location) d
      (fun q d' => Adds [name] [] [] d d' ∧ (q.isSome ↔ field.Used)) fun _ => False := by
  refine Ends.mono (Q := fun _ => Adds [name] [] [] d) ?_
    (fun q d' hrun h => ⟨h, (addIdentification_field hrun).1⟩) fun _ h => h
  unfold addIdentification fieldWidth?
  refine Ends.ite (fun _ => ends_pure (.refl d)) fun hoffset => ?_
  by_cases hwidth : 0 < field.width ∧ field.width ≤ 4294967295
  · rw [if_pos hwidth]
    have hused : field.Used := ⟨Int.not_lt.mp hoffset, hwidth⟩
    refine Ends.bind ((addUnsigned_adds (hfree hused)).mono (fun q d₁ _ h₁ => ?_) fun _ h => h)
    have hshown : Adds [name] [] [] d₁ { d₁ with
        database := d₁.database.changeContainer container fun c =>
          { c with entries := c.entries ++ [parameterAt q (8 * field.offset)] } } :=
      .of_same rfl rfl (Database.containerNames_changeContainer _ _ fun _ => rfl)
    exact h₁.trans hshown
  · rw [if_neg hwidth]
    unfold Build.report
    rw [hlenient]
    exact (Adds.refl d).record _

/-! ### Containers -/

/-- A container with a free name is added. -/
theorem addContainer_adds (refused : String → Error) (k : Container)
    (d : Draft TelemetryState) :
    Ends (Build.add refused fun db => db.addContainer k : TelemetryBuild ContainerRef) d
      (fun _ d' => k.name ∉ d.database.containerNames ∧ Adds [] [k.name] [] d d')
      fun d' => k.name ∈ d.database.containerNames ∧ d' = d := by
  cases htaken : d.database.containers.has k.name with
  | true =>
      refine ends_add (fun r db hadd => ?_) ⟨Database.mem_containerNames.mpr htaken, rfl⟩
      obtain ⟨hfree, -⟩ := Database.addContainer_eq_ok.mp hadd
      rw [htaken] at hfree
      cases hfree
  | false =>
      have hnew : k.name ∉ d.database.containerNames := fun hmem => by
        rw [Database.mem_containerNames, htaken] at hmem
        cases hmem
      have hnames : ({ d.database with containers := d.database.containers.push k } :
          Database).containerNames = d.database.containerNames ++ [k.name] := by
        simp [Database.containerNames]
      refine ends_add_of_ok (Database.addContainer_eq_ok.mpr ⟨htaken, rfl⟩) ⟨hnew, ?_⟩
      refine .of_stage rfl (fun _ hn => .inl hn) hnames fun hnodup => ?_
      rw [hnames]
      exact hnodup.append (List.nodup_singleton _) (List.disjoint_singleton.mpr hnew)

/-- A name that is taken is formed twice. -/
theorem not_nodup_of_mem {taken : List String} {name : String} (h : name ∈ taken) :
    ¬ (taken ++ [name]).Nodup := fun hnodup =>
  (List.nodup_append.mp hnodup).2.2 name h name (List.mem_singleton_self _) rfl

theorem addKindContainer_adds (name : String) (packet : PacketRecord)
    (description : Option String) (d : Draft TelemetryState) :
    Ends (addKindContainer setting root name packet description) d
      (fun _ => Adds PacketHeader.echoedNames [name] [] d)
      fun d' => name ∈ d.database.containerNames ∧ Adds PacketHeader.echoedNames [] [] d d' := by
  unfold addKindContainer
  refine Ends.bind ((echoEntries_adds packet.key d).mono (fun entries d₁ _ h₁ => ?_)
    fun _ h => h.elim)
  have hnames := h₁.containers
  rw [List.append_nil] at hnames
  refine (addContainer_adds _ _ d₁).mono (fun r d₂ _ h₂ => ?_) fun t ht => ?_
  · exact h₁.trans (h₂.2.mono (List.nil_subset _))
  · obtain ⟨htaken, rfl⟩ := ht
    rw [hnames] at htaken
    exact ⟨htaken, h₁⟩

/-- A packet gets the container that is made for it. -/
theorem registerPacket_adds (packet : PacketRecord) (r : ContainerRef)
    (d : Draft TelemetryState) :
    Ends (registerPacket packet r) d (fun _ => Adds [] [] [packet.spid] d) fun _ => False := by
  -- the size of the packet changes no name, and its number has a container then
  have hregister {t : Draft TelemetryState} (ht : Adds [] [] [] d t) :
      Adds [] [] [packet.spid] d { t with stage :=
        { t.stage with packetContainers := t.stage.packetContainers.set packet.spid r } } := by
    refine { ht with
      stage := by rw [ht.stage]
      placed := fun spid => ?_ }
    by_cases hspid : spid = packet.spid
    · simp [hspid]
    · have hold := ht.placed spid
      simpa [Index.find?_set_of_ne _ hspid, hspid] using hold
  unfold registerPacket
  refine Ends.bind (ends_stage ?_)
  dsimp only
  split
  · refine Ends.ite (fun _ => ?_) fun _ => hregister (.refl d)
    exact hregister (.of_same rfl rfl (Database.containerNames_changeContainer _ _ fun _ => rfl))
  · exact hregister (.refl d)

/-! ### Packets of a kind -/

/-- A packet that is alone of its kind gets a container, or its name is taken. -/
theorem addSinglePacket_adds (p : PacketRecord) (hgiven : d.stage.packetNames = given) :
    Ends (addSinglePacket setting root p) d
      (fun _ => Done PacketHeader.echoedNames
        (withKind given d.database.containerNames (p.key, [p])) [p.spid] d)
      (Lost PacketHeader.echoedNames
        (withKind given d.database.containerNames (p.key, [p])) [p.spid] d) := by
  unfold addSinglePacket
  refine Ends.bind (ends_stage (Ends.bind (ends_database (Ends.bind ?_))))
  rw [packetName_eq, hgiven]
  refine (addKindContainer_adds _ p p.description d).mono (fun r d₁ _ h₁ => ?_) fun t ht => ?_
  · refine (registerPacket_adds p r d₁).mono (fun _ d₂ _ h₂ => ?_) fun _ h => h.elim
    exact ⟨_, rfl, h₁.trans (h₂.mono (List.nil_subset _))⟩
  · exact ⟨not_nodup_of_mem ht.1, [], [], ht.2, List.nil_subset _, p.spid,
      List.mem_singleton_self _, List.not_mem_nil⟩

theorem addMember_adds (group : ContainerRef) (one two : Option ParameterRef) (p : PacketRecord)
    (hgiven : d.stage.packetNames = given) :
    Ends (addMember group one two p) d
      (fun _ => Done [] (withMember given d.database.containerNames p) [p.spid] d)
      (Lost [] (withMember given d.database.containerNames p) [p.spid] d) := by
  have hname : packetName d.stage d.database p s!"{p.key.groupName}_spid_{p.spid}" =
      formedName given d.database.containerNames p (withNumber p.key.groupName p.spid) := by
    rw [packetName_eq, hgiven]
    rfl
  unfold addMember
  refine Ends.bind (ends_stage (Ends.bind (ends_database (Ends.bind ?_))))
  refine (addContainer_adds _ _ d).mono (fun r d₁ _ h₁ => ?_) fun t ht => ?_
  · rw [hname] at h₁
    refine (registerPacket_adds p r d₁).mono (fun _ d₂ _ h₂ => ?_) fun _ h => h.elim
    exact ⟨_, rfl, h₁.2.trans h₂⟩
  · obtain ⟨htaken, rfl⟩ := ht
    rw [hname] at htaken
    exact ⟨not_nodup_of_mem htaken, [], [], .refl _, List.nil_subset _, p.spid,
      List.mem_singleton_self _, List.not_mem_nil⟩

/-- **The packets of a kind get containers one by one**, until a name that is formed is taken. -/
theorem forM_addMember_adds (group : ContainerRef) (one two : Option ParameterRef)
    {ps : List PacketRecord} (hnodup : (ps.map (·.spid)).Nodup)
    (hgiven : d.stage.packetNames = given) :
    Ends (ps.forM (addMember group one two)) d
      (fun _ => Done [] (ps.foldl (withMember given) d.database.containerNames)
        (ps.map (·.spid)) d)
      (Lost [] (ps.foldl (withMember given) d.database.containerNames) (ps.map (·.spid)) d) := by
  induction ps generalizing d with
  | nil => exact ends_pure ⟨[], (List.append_nil _).symm, .refl d⟩
  | cons p ps ih =>
      rw [List.map_cons, List.nodup_cons] at hnodup
      refine Ends.bind ((addMember_adds group one two p hgiven).mono (fun _ d₁ _ h₁ => ?_)
        fun t ht => ht.extend (prefix_foldl prefix_withMember _ _))
      have hnames := h₁.containers
      obtain ⟨names, -, hadds⟩ := h₁
      have hgiven₁ : d₁.stage.packetNames = given := by rw [hadds.stage]; exact hgiven
      have hrest := ih hnodup.2 hgiven₁
      rw [hnames] at hrest
      refine hrest.mono (fun _ d₂ _ h₂ => hadds.done h₂) fun t ht => hadds.lost ht ?_
      rintro n hn hp
      exact hnodup.1 (List.mem_singleton.mp hp ▸ hn)

/-- The parameters that a kind of packets may bring. -/
def kindFields (key : PacketKey) : List String := PacketHeader.echoedNames ++ key.fieldNames

/-- Several packets of a kind have a rule with a field. -/
def Ruled (rules : List IdentificationRule) (key : PacketKey) : Prop :=
  ∃ rule, Selected rules key rule ∧ (rule.first.Used ∨ rule.second.Used)

theorem ruled_iff {key : PacketKey} : Ruled rules key ↔
    (ruleFor? rules key).any (fun r => decide (r.first.Used ∨ r.second.Used)) = true := by
  simp [Ruled, ← ruleFor?_eq_some_iff, Option.any_eq_true]

instance (key : PacketKey) : Decidable (Ruled rules key) := decidable_of_iff _ ruled_iff.symm

/-- A field that is added for several packets of a kind. -/
inductive KindField (rules : List IdentificationRule) (key : PacketKey) : String → Prop
  | first {rule : IdentificationRule} (selected : Selected rules key rule)
      (used : rule.first.Used) : KindField rules key (key.groupName ++ "_pi1")
  | second {rule : IdentificationRule} (selected : Selected rules key rule)
      (used : rule.second.Used) : KindField rules key (key.groupName ++ "_pi2")

theorem KindField.mem_fieldNames {key : PacketKey} {name : String}
    (h : KindField rules key name) : name ∈ key.fieldNames := by
  cases h <;> simp [PacketKey.fieldNames]

/-- **Several packets of a kind all get containers, or a name is formed twice.** -/
theorem addPacketGroup_adds (hlenient : setting.config.strict = false) {key : PacketKey}
    {first second : PacketRecord} {rest : List PacketRecord}
    (hnodup : ((first :: second :: rest).map (·.spid)).Nodup)
    (hgiven : d.stage.packetNames = given) (hruled : Ruled d.stage.identifications key)
    (hfree : ∀ n, KindField d.stage.identifications key n →
      d.database.parameters.has n = false) :
    Ends (addPacketGroup setting root key first (first :: second :: rest)) d
      (fun _ => Done (kindFields key)
        (withKind given d.database.containerNames (key, first :: second :: rest))
        ((first :: second :: rest).map (·.spid)) d)
      (Lost (kindFields key)
        (withKind given d.database.containerNames (key, first :: second :: rest))
        ((first :: second :: rest).map (·.spid)) d) := by
  obtain ⟨rule, hrule, hused⟩ := hruled
  have hecho : PacketHeader.echoedNames ⊆ kindFields key := List.subset_append_left _ _
  have hone : [key.groupName ++ "_pi1"] ⊆ kindFields key := by
    simp [kindFields, PacketKey.fieldNames]
  have htwo : [key.groupName ++ "_pi2"] ⊆ kindFields key := by
    simp [kindFields, PacketKey.fieldNames]
  unfold addPacketGroup
  refine Ends.bind (ends_stage ?_)
  rw [ruleFor?_eq_some_iff.mpr hrule]
  refine Ends.bind ((addKindContainer_adds key.groupName first none d).mono
    (fun group d₁ _ h₁ => ?_) fun t ht => ?_)
  swap
  · -- the name of the kind is taken, and no packet has got a container
    refine ⟨fun h => not_nodup_of_mem ht.1 ?_, [], [], ht.2.mono hecho, List.nil_subset _,
      first.spid, by simp, List.not_mem_nil⟩
    exact h.sublist (prefix_foldl prefix_withMember _ _).sublist
  -- the names of the fields stay free until the fields are added
  have hfree₁ (n : String) (hn : KindField d.stage.identifications key n) :
      d₁.database.parameters.has n = false := h₁.free (hfree n hn) fun hecho =>
    PacketKey.not_mem_fieldNames_of_header (List.mem_append_right _ hecho) hn.mem_fieldNames
  have hfirst (hused : rule.first.Used) := hfree₁ _ (.first hrule hused)
  refine Ends.bind ((addIdentification_adds hlenient hfirst).mono (fun one d₂ _ h₂ => ?_)
    fun _ h => h.elim)
  have hsecond (hused : rule.second.Used) :
      d₂.database.parameters.has (key.groupName ++ "_pi2") = false :=
    h₂.1.free (hfree₁ _ (.second hrule hused)) fun hmem =>
      key.pi1_ne_pi2 (List.mem_singleton.mp hmem).symm
  refine Ends.bind ((addIdentification_adds hlenient hsecond).mono (fun two d₃ _ h₃ => ?_)
    fun _ h => h.elim)
  have hadds : Adds (kindFields key) [key.groupName] [] d d₃ :=
    ((h₁.mono hecho).trans (h₂.1.mono hone)).trans (h₃.1.mono htwo)
  refine Ends.ite (fun hnone => ?_) fun _ => ?_
  · -- one of the fields is used, and so there
    rw [Bool.and_eq_true, Option.isNone_iff_eq_none, Option.isNone_iff_eq_none] at hnone
    obtain ⟨rfl, rfl⟩ := hnone
    rcases hused with hused | hused
    · exact absurd (h₂.2.mpr hused) (by simp)
    · exact absurd (h₃.2.mpr hused) (by simp)
  have hgiven₃ : d₃.stage.packetNames = given := by rw [hadds.stage]; exact hgiven
  have hmembers := forM_addMember_adds group one two hnodup hgiven₃
  rw [hadds.containers] at hmembers
  refine hmembers.mono (fun _ d₄ _ h₄ => hadds.done (h₄.mono (List.nil_subset _))) fun t ht => ?_
  exact hadds.lost (ht.mono (List.nil_subset _)) fun _ _ => List.not_mem_nil

/-- **All packets of a kind get containers, or a name is formed twice.** -/
theorem addPackets_adds (root : PacketRoot) (hlenient : setting.config.strict = false)
    {key : PacketKey} {ps : List PacketRecord} (hkey : ∀ p ∈ ps, p.key = key)
    (hnodup : (ps.map (·.spid)).Nodup)
    (hgiven : d.stage.packetNames = given)
    (hruled : 1 < ps.length → Ruled d.stage.identifications key)
    (hfree : 1 < ps.length → ∀ n, KindField d.stage.identifications key n →
      d.database.parameters.has n = false) :
    Ends (addPackets setting root key ps) d
      (fun _ => Done (kindFields key) (withKind given d.database.containerNames (key, ps))
        (ps.map (·.spid)) d)
      (Lost (kindFields key) (withKind given d.database.containerNames (key, ps))
        (ps.map (·.spid)) d) := by
  match ps with
  | [] => exact ends_pure ⟨[], (List.append_nil _).symm, .refl d⟩
  | [p] =>
      obtain rfl := hkey p List.mem_cons_self
      have hecho : PacketHeader.echoedNames ⊆ kindFields p.key := List.subset_append_left _ _
      exact (addSinglePacket_adds p hgiven).mono (fun _ _ _ h => h.mono hecho) fun _ h =>
        h.mono hecho
  | first :: second :: rest =>
      exact addPacketGroup_adds hlenient hnodup hgiven (hruled (by simp)) (hfree (by simp))

end Telemetry

end MissionBase
