import MissionBase.Proofs.Telemetry.Hierarchy

/-!
# The hierarchy is faithful

A packet has no container of its own only if an error says so, either of its kind or of the root.
So every kind that is done is settled (`Settled`): all of its packets have containers, or an error
of that kind has been recorded. From the tables to the last kind the hierarchy is then faithful
(`Faithful`): it says what the tables say, and misses only what an error tells of.
-/

namespace MissionBase

open Run

namespace Telemetry

variable {setting : Setting} {options : TelemetryOptions} {root : PacketRoot}
  {rules : List IdentificationRule} {packets : List PacketRecord} {d d' : Draft TelemetryState}

/-! ## Errors of a kind -/

/-- An error of the packets of a kind: several packets have no rule or a rule without a field, a
container of one of the packets has a name that is taken, or a field of the kind has one. -/
inductive KindFault (rules : List IdentificationRule) (packets : List PacketRecord)
    (key : PacketKey) : Error → Prop
  | noRule {p : PacketRecord} {message : String} (mem : p ∈ ofKind packets key)
      (several : 1 < (ofKind packets key).length) (none : ruleFor? rules key = none) :
      KindFault rules packets key (.reference p.location message)
  | noField {rule : IdentificationRule} {message : String} (selected : Selected rules key rule)
      (several : 1 < (ofKind packets key).length) (first : ¬ rule.first.Used)
      (second : ¬ rule.second.Used) : KindFault rules packets key (.data rule.location message)
  | container {p : PacketRecord} {name : String} (mem : p ∈ ofKind packets key) :
      KindFault rules packets key (.data p.location (DuplicateName.message ⟨.container, name⟩))
  | field {suffix : String} (mem : suffix ∈ ["_pi1", "_pi2"]) :
      KindFault rules packets key
        (.structural (DuplicateName.message ⟨.parameter, key.groupName ++ suffix⟩))

/-- An error of the container that all packets extend: a name that it needs is taken. -/
inductive RootFault : Error → Prop
  | parameter {name : String} (mem : name ∈ [PacketHeader.apidName, PacketHeader.sequenceName,
      PacketHeader.typeName, PacketHeader.subtypeName]) :
      RootFault (.structural (DuplicateName.message ⟨.parameter, name⟩))
  | container : RootFault (.structural (DuplicateName.message ⟨.container, rootContainerName⟩))

/-- The type of natural numbers of some bits is there afterwards, and no parameter is new. -/
theorem unsignedTypeRef_ends {σ : Type} {d : Draft σ} (size : Nat) :
    Ends (unsignedTypeRef size) d
      (fun _ d' => d'.database.parameters = d.database.parameters) fun _ => False := by
  unfold unsignedTypeRef
  refine Ends.bind (ends_database ?_)
  cases hfind : d.database.parameterTypes.find? (unsignedType size).name with
  | some t => exact ends_pure rfl
  | none =>
      have hfree : d.database.parameterTypes.has (unsignedType size).name = false := by
        unfold Catalog.has
        rw [hfind]
        rfl
      exact ends_add_of_ok (Database.addParameterType_eq_ok.mpr ⟨hfree, rfl⟩) rfl

/-- A parameter is refused only if its name is taken. -/
theorem raises_addUnsigned {σ : Type} {d : Draft σ} (name : String) (size : Nat) :
    Raises (addUnsigned name size) d fun e => d.database.parameters.has name = true ∧
      e = .structural (DuplicateName.message ⟨.parameter, name⟩) := by
  unfold addUnsigned
  have htype := unsignedTypeRef_ends (d := d) size
  refine htype.raises.bind fun t d₁ hrun => raises_add fun dup hdup => ?_
  obtain ⟨htaken, rfl⟩ := Catalog.map_add_eq_error.mp hdup
  rw [htype.of_ok hrun] at htaken
  exact ⟨htaken, rfl⟩

theorem raises_unsignedOrNew {σ : Type} {d : Draft σ} (name : String) (size : Nat) :
    Raises (unsignedOrNew name size) d fun _ => False := by
  unfold unsignedOrNew
  refine Raises.database ?_
  cases hfind : d.database.parameters.find? name with
  | some p => exact raises_pure
  | none =>
      intro e t hrun
      have htaken := (raises_addUnsigned name size e t hrun).1
      unfold Catalog.has at htaken
      rw [hfind] at htaken
      cases htaken

theorem raises_echoEntries (key : PacketKey) :
    Raises (echoEntries setting key) d fun _ => False := by
  unfold echoEntries echoedRequest
  refine Raises.ite (fun _ => ?_) fun _ => raises_pure
  refine Raises.bind ?_ fun _ _ _ => raises_pure
  refine (raises_unsignedOrNew _ _).bind fun _ _ _ => ?_
  exact (raises_unsignedOrNew _ _).bind fun _ _ _ => raises_pure

/-- The container of a kind is refused only if its name is taken. -/
theorem raises_addKindContainer (name : String) (packet : PacketRecord)
    (description : Option String) :
    Raises (addKindContainer setting root name packet description) d fun e =>
      e = .data packet.location (DuplicateName.message ⟨.container, name⟩) := by
  unfold addKindContainer
  refine Raises.bind (fun e t hrun => (raises_echoEntries _ e t hrun).elim) fun _ _ _ => ?_
  refine raises_add fun dup hdup => ?_
  obtain ⟨-, rfl⟩ := Catalog.map_add_eq_error.mp hdup
  rfl

theorem raises_addIdentification (hlenient : setting.config.strict = false)
    (container : ContainerRef) (name : String) (field : IdentificationField)
    (location : Location) :
    Raises (addIdentification setting container name field location) d fun e =>
      e = .structural (DuplicateName.message ⟨.parameter, name⟩) := by
  unfold addIdentification
  refine Raises.ite (fun _ => raises_pure) fun _ => ?_
  cases fieldWidth? field.width with
  | none =>
      refine Raises.bind ?_ fun _ _ _ => raises_pure
      unfold Build.report
      rw [hlenient]
      exact raises_modify
  | some width =>
      refine Raises.bind (fun e t hrun => (raises_addUnsigned name width e t hrun).2)
        fun _ _ _ => ?_
      exact raises_modify.bind fun _ _ _ => raises_pure

theorem raises_addMember (group : ContainerRef) (one two : Option ParameterRef)
    (packet : PacketRecord) :
    Raises (addMember group one two packet) d fun e =>
      ∃ name, e = .data packet.location (DuplicateName.message ⟨.container, name⟩) := by
  unfold addMember
  refine Raises.stage (Raises.database (Raises.bind (raises_add fun dup hdup => ?_)
    fun r _ _ => (registerPacket_ends packet r).raises))
  obtain ⟨-, rfl⟩ := Catalog.map_add_eq_error.mp hdup
  exact ⟨_, rfl⟩

/-- **What a kind fails with is an error of the kind.** -/
theorem raises_addPackets (hlenient : setting.config.strict = false) {key : PacketKey}
    {ps : List PacketRecord} (hrules : d.stage.identifications = rules)
    (hps : ps = ofKind packets key) :
    Raises (addPackets setting root key ps) d (KindFault rules packets key) := by
  match ps with
  | [] => exact raises_pure
  | [p] =>
      have hp : p ∈ ofKind packets key := by rw [← hps]; exact List.mem_cons_self
      refine Raises.stage (Raises.database (Raises.bind (fun e t hrun => ?_) fun r _ _ =>
        (registerPacket_ends p r).raises))
      rw [raises_addKindContainer _ _ _ e t hrun]
      exact .container hp
  | first :: second :: rest =>
      have hmem (p : PacketRecord) (hp : p ∈ first :: second :: rest) : p ∈ ofKind packets key := by
        rw [← hps]
        exact hp
      have hfirst := hmem first List.mem_cons_self
      have hseveral : 1 < (ofKind packets key).length := by rw [← hps]; simp
      refine Raises.stage ?_
      rw [hrules]
      cases hrule : ruleFor? rules key with
      | none => exact raises_throw (.noRule hfirst hseveral hrule)
      | some rule =>
          -- the container of the kind, then its two fields, then the packets one by one
          refine Raises.bind (fun e t hrun => ?_) fun group d₁ _ => ?_
          · rw [raises_addKindContainer _ _ _ e t hrun]
            exact .container hfirst
          refine Raises.bind (fun e t hrun => ?_) fun one d₂ hone => ?_
          · rw [raises_addIdentification hlenient _ _ _ _ e t hrun]
            exact .field (by simp)
          refine Raises.bind (fun e t hrun => ?_) fun two d₃ htwo => ?_
          · rw [raises_addIdentification hlenient _ _ _ _ e t hrun]
            exact .field (by simp)
          refine Raises.ite (fun hnone => ?_) fun _ => ?_
          · rw [Bool.and_eq_true, Option.isNone_iff_eq_none, Option.isNone_iff_eq_none] at hnone
            obtain ⟨rfl, rfl⟩ := hnone
            -- a field that is used would have given a parameter
            have hused₁ := (addIdentification_field hone).1
            have hused₂ := (addIdentification_field htwo).1
            exact raises_throw (.noField (ruleFor?_eq_some_iff.mp hrule) hseveral
              (fun hused => absurd (hused₁.mpr hused) (by simp))
              fun hused => absurd (hused₂.mpr hused) (by simp))
          · refine raises_forM fun p hp t e u hrun => ?_
            obtain ⟨name, rfl⟩ := raises_addMember _ _ _ p e u hrun
            exact .container (hmem p hp)

/-! ## All kinds -/

/-- Every packet of a kind has a container, or an error of the kind came after the first ones. -/
def Settled (rules : List IdentificationRule) (packets : List PacketRecord) (base : Nat)
    (key : PacketKey) (d : Draft TelemetryState) : Prop :=
  ∀ p ∈ ofKind packets key, (d.stage.packetContainers.find? p.spid).isSome ∨
    ∃ e ∈ d.errors.drop base, KindFault rules packets key e

theorem Settled.proceeds {base : Nat} {key : PacketKey} (h : Settled rules packets base key d)
    (hproceeds : Proceeds options root rules packets d d') :
    Settled rules packets base key d' := by
  intro p hp
  rcases h p hp with hsome | ⟨e, he, hfault⟩
  · exact .inl (hproceeds.kept _ hsome)
  · exact .inr ⟨e, (hproceeds.errors.drop base).subset he, hfault⟩

/-- **A kind is settled when its unit of work is over.** -/
theorem recover_addPackets_ends (hlenient : setting.config.strict = false) {key : PacketKey}
    {ps : List PacketRecord} {base : Nat} (hbase : base ≤ d.errors.length)
    (h : Standing options root rules packets d) (hps : ps = ofKind packets key) :
    Ends (Build.recover setting (addPackets setting root key ps)) d
      (fun _ d' => Proceeds options root rules packets d d' ∧
        Settled rules packets base key d') fun _ => True := by
  refine Ends.recoverRaising (raises_addPackets hlenient h.sameRules hps)
    ((addPackets_ends h hps).mono (fun _ d' _ h' => ⟨h'.1, fun p hp => ?_⟩) fun t ht e he => ?_)
  · exact .inl (h'.2 p (hps ▸ hp))
  · refine ⟨ht.trans (ht.standing.quiet ⟨rfl, .refl _, List.prefix_append _ _⟩
      ht.standing.grounded), fun p _ => .inr ⟨e, ?_, he⟩⟩
    rw [List.drop_append_of_le_length (Nat.le_trans hbase ht.errors.length_le)]
    exact List.mem_append_right _ (List.mem_singleton_self e)

/-- **All kinds are settled in the end.** -/
theorem forM_addPackets_ends (hlenient : setting.config.strict = false) {base : Nat}
    {groups : List (PacketKey × List PacketRecord)}
    (hgroups : ∀ g ∈ groups, g.2 = ofKind packets g.1) (hbase : base ≤ d.errors.length)
    (h : Standing options root rules packets d) :
    Ends (groups.forM fun (key, ps) => Build.recover setting (addPackets setting root key ps)) d
      (fun _ d' => Proceeds options root rules packets d d' ∧
        ∀ g ∈ groups, Settled rules packets base g.1 d') fun _ => True := by
  induction groups generalizing d with
  | nil => exact ends_pure ⟨h.refl, by simp⟩
  | cons g groups ih =>
      have hg := hgroups g List.mem_cons_self
      refine Ends.bind ((recover_addPackets_ends hlenient hbase h hg).mono (fun _ d₁ _ h₁ => ?_)
        fun _ _ => trivial)
      obtain ⟨hproceeds, hsettled⟩ := h₁
      refine (ih (fun g' hg' => hgroups g' (List.mem_cons_of_mem g hg'))
        (Nat.le_trans hbase hproceeds.errors.length_le) hproceeds.standing).mono
        (fun _ d₂ _ h₂ => ?_) fun _ _ => trivial
      refine ⟨hproceeds.trans h₂.1, fun g' hg' => ?_⟩
      rcases List.mem_cons.mp hg' with rfl | hg'
      · exact hsettled.proceeds h₂.1
      · exact h₂.2 g' hg'

/-- Every packet is of one of the kinds. -/
theorem exists_mem_groupPackets {packets : List PacketRecord} {p : PacketRecord}
    (h : p ∈ packets) : ∃ ps, (p.key, ps) ∈ groupPackets packets := by
  have hfind := Index.find?_foldl_append PacketRecord.key packets
    ({} : Index PacketKey (List PacketRecord)) p.key
  cases hps : (packets.foldl (fun groups p => groups.append p.key p)
      ({} : Index PacketKey (List PacketRecord))).find? p.key with
  | some ps => exact ⟨ps, Index.mem_of_find? hps⟩
  | none =>
      rw [hps] at hfind
      have hmem : p ∈ packets.filter fun q => decide (q.key = p.key) := by simp [h]
      rw [show packets.filter (fun q => decide (q.key = p.key)) = [] from hfind.symm] at hmem
      cases hmem

/-! ## The root -/

/-- **The root shows the parameters that packets are told apart by.** -/
theorem addPacketRoot_isRoot (hgrounded : Grounded d.database) :
    Ends (addPacketRoot options) d
      (fun root d' => Quiet d d' ∧ Grounded d'.database ∧ IsRoot options d'.database root)
      fun d' => Quiet d d' ∧ Grounded d'.database := by
  unfold addPacketRoot
  have hfailed (t : Draft TelemetryState) (ht : Quiet d t ∧ SameContainers d t) :
      Quiet d t ∧ Grounded t.database := ⟨ht.1, hgrounded.grows ht.1.grows ht.2⟩
  -- a parameter is added, and has its name
  have hadd (name : String) (size : Nat) {t : Draft TelemetryState}
      (ht : Quiet d t ∧ SameContainers d t) : Ends (addUnsigned name size) t
        (fun q u => (Quiet d u ∧ SameContainers d u) ∧ t.database.Grows u.database ∧
          Called u.database q name) fun u => Quiet d u ∧ Grounded u.database :=
    ((quiet_addUnsigned name size).both (addUnsigned_sameContainers name size) t).mono
      (fun _ u hrun hu => ⟨⟨ht.1.trans hu.1, hu.2.trans ht.2⟩, hu.1.grows, addUnsigned_called hrun⟩)
      fun u hu => hfailed u ⟨ht.1.trans hu.1, hu.2.trans ht.2⟩
  refine Ends.bind ((hadd _ _ ⟨.refl d, rfl⟩).mono (fun apid d₁ _ h₁ => ?_) fun _ h => h)
  refine Ends.bind ((hadd _ _ h₁.1).mono (fun count d₂ _ h₂ => ?_) fun _ h => h)
  refine Ends.bind ((hadd _ _ h₂.1).mono (fun type d₃ _ h₃ => ?_) fun _ h => h)
  refine Ends.bind ((hadd _ _ h₃.1).mono (fun subtype d₄ _ h₄ => ?_) fun _ h => h)
  refine Ends.bind (ends_add (fun r db hdb => ?_) (hfailed d₄ h₄.1))
  have hgrows : d₄.database.Grows db := .addContainer hdb
  have hgrows₃ := h₄.2.1.trans hgrows
  have hgrows₁ := (h₂.2.1.trans h₃.2.1).trans hgrows₃
  refine ends_pure ⟨h₄.1.1.trans ⟨rfl, hgrows, List.prefix_rfl⟩,
    (hfailed d₄ h₄.1).2.add hdb fun c hc => ?_, ?_⟩
  · cases hc
  · have hcalled := And.intro (hgrows₁.called h₁.2.2)
      (And.intro (hgrows₃.called h₃.2.2) (hgrows.called h₄.2.2))
    obtain ⟨-, heq⟩ := Database.addContainer_eq_ok.mp hdb
    cases heq
    have hroot := Catalog.get?_push_next d₄.database.containers
    exact ⟨⟨_, hroot _, rfl, rfl, rfl⟩, ⟨hcalled.1, _, hroot _, by simp⟩,
      ⟨hcalled.2.1, _, hroot _, by simp⟩, ⟨hcalled.2.2, _, hroot _, by simp⟩⟩

theorem raises_addPacketRoot : Raises (addPacketRoot options) d RootFault := by
  have hadd (name : String) (size : Nat) (hname : name ∈ [PacketHeader.apidName,
      PacketHeader.sequenceName, PacketHeader.typeName, PacketHeader.subtypeName])
      (t : Draft TelemetryState) : Raises (addUnsigned name size) t RootFault := by
    intro e u hrun
    rw [(raises_addUnsigned name size e u hrun).2]
    exact .parameter hname
  unfold addPacketRoot
  refine (hadd _ _ (by simp) d).bind fun _ _ _ => ?_
  refine (hadd _ _ (by simp) _).bind fun _ _ _ => ?_
  refine (hadd _ _ (by simp) _).bind fun _ _ _ => ?_
  refine (hadd _ _ (by simp) _).bind fun _ _ _ => ?_
  refine Raises.bind (raises_add fun dup hdup => ?_) fun _ _ _ => raises_pure
  obtain ⟨-, rfl⟩ := Catalog.map_add_eq_error.mp hdup
  exact .container

/-- **There is a root, or an error says why not.** -/
theorem rootOrNone_ends (hlenient : setting.config.strict = false)
    (hgrounded : Grounded d.database) :
    Ends (tryCatch (some <$> addPacketRoot setting.config.telemetry) fun e => do
        Build.report setting e
        return none) d
      (fun root d' => Quiet d d' ∧ Grounded d'.database ∧
        (∀ x ∈ root, IsRoot setting.config.telemetry d'.database x) ∧
        (root = none → ∃ e ∈ d'.errors.drop d.errors.length, RootFault e))
      fun _ => False := by
  have hraises : Raises (some <$> addPacketRoot setting.config.telemetry) d RootFault :=
    raises_addPacketRoot.map
  have hadd : Ends (some <$> addPacketRoot setting.config.telemetry) d
      (fun root d' => Quiet d d' ∧ Grounded d'.database ∧
        (∀ x ∈ root, IsRoot setting.config.telemetry d'.database x) ∧
        (root = none → ∃ e ∈ d'.errors.drop d.errors.length, RootFault e))
      fun d' => Quiet d d' ∧ Grounded d'.database := by
    refine Ends.map ((addPacketRoot_isRoot hgrounded).mono (fun root d' _ h => ?_) fun _ h => h)
    refine ⟨h.1, h.2.1, ?_, by simp⟩
    rintro x ⟨⟩
    exact h.2.2
  refine ends_tryCatch hraises hadd fun e t he ht => ?_
  unfold Build.report
  rw [hlenient]
  refine ⟨ht.1.trans ⟨rfl, .refl _, List.prefix_append _ _⟩, ht.2, by simp, fun _ => ⟨e, ?_, he⟩⟩
  show e ∈ (t.errors ++ [e]).drop d.errors.length
  rw [List.drop_append_of_le_length ht.1.errors.length_le]
  exact List.mem_append_right _ (List.mem_singleton_self e)

/-! ## The tables -/

/-- Nothing has been read of the packets. -/
structure Unread (state : TelemetryState) : Prop where
  identifications : state.identifications = []
  packets : state.packets = []
  containers : state.packetContainers.entries = []

/-- What the tables of packets have said so far, before any packet has a container. -/
structure Read (rules : List IdentificationRule) (packets : List PacketRecord)
    (d d' : Draft TelemetryState) : Prop where
  grounded : Grounded d'.database
  errors : d.errors <+: d'.errors
  identifications : d'.stage.identifications = rules
  packets : d'.stage.packets = packets
  containers : d'.stage.packetContainers.entries = []

theorem Read.record {d₀ : Draft TelemetryState} (h : Read rules packets d₀ d) (e : Error) :
    Read rules packets d₀ { d with errors := d.errors ++ [e] } :=
  { h with errors := h.errors.trans (List.prefix_append _ _) }

theorem foldl_readRules (rows : List Row) :
    rows.foldl (fun rules row => rules ++ (IdentificationRule.ofRow row).toOption.toList) [] =
      readRules rows := by
  rw [List.foldl_append_eq_append, List.nil_append, readRules, List.filterMap_eq_flatMap_toList,
    List.flatMap_def]

/-- The rules are read one by one. -/
theorem scanRules_ends {d₀ : Draft TelemetryState} {rows : List Row}
    (hrows : Build.rows setting "pic" = .ok rows) (h : Read [] packets d₀ d) :
    Ends (Build.scan setting "pic" fun row => do
        let rule ← IdentificationRule.ofRow row
        Build.changeStage fun s => { s with identifications := s.identifications ++ [rule] }) d
      (fun _ => Read (readRules rows) packets d₀) fun _ => True := by
  rw [← foldl_readRules]
  refine ends_scanFold (I := fun rules => Read rules packets d₀) hrows
    (fun _ _ e h => Read.record h e) (fun rules row d h => ?_) h
  cases IdentificationRule.ofRow row with
  | error e =>
      show Read (rules ++ []) packets d₀ d
      rw [List.append_nil]
      exact h
  | ok rule => exact { h with identifications := congrArg (· ++ [rule]) h.identifications }

/-- **The packets are those that are accepted.** -/
theorem scanPackets_ends {d₀ : Draft TelemetryState} {rows : List Row}
    (hrows : Build.rows setting "pid" = .ok rows) (h : Read rules [] d₀ d) :
    Ends (Build.scan setting "pid" fun row => do declarePacket row (← PacketRecord.ofRow row)) d
      (fun _ => Read rules (accepted rows) d₀) fun _ => True := by
  refine ends_scanFold (I := fun packets => Read rules packets d₀) (f := acceptRow) hrows
    (fun _ _ e h => Read.record h e) (fun packets row d h => ?_) h
  unfold acceptRow
  cases PacketRecord.ofRow row with
  | error e => exact h
  | ok p =>
      show Ends (declarePacket row p) d _ _
      unfold declarePacket
      refine Ends.bind (ends_stage ?_)
      rw [h.packets]
      dsimp only
      have hseen : (packets.any fun q => q.spid == p.spid) = true ↔
          ¬ ∀ q ∈ packets, q.spid ≠ p.spid := by simp
      refine Ends.ite (fun hvalid => Ends.ite (fun hany => ?_) fun hany => ?_) fun hinvalid => ?_
      · rw [if_neg fun hnew => hseen.mp hany hnew.2]
        exact ends_throw h
      · have hnew : ∀ q ∈ packets, q.spid ≠ p.spid := not_not.mp (mt hseen.mpr hany)
        rw [if_pos ⟨hvalid, hnew⟩]
        exact { h with packets := congrArg (· ++ [p]) h.packets }
      · rw [if_neg fun hnew => hinvalid hnew.1]
        exact h

/-- The names of packets change nothing else. -/
theorem scanNames_ends {d₀ : Draft TelemetryState} (h : Read rules packets d₀ d) :
    Ends (Build.scan setting "tpcf" namePacket) d (fun _ => Read rules packets d₀)
      fun _ => True := by
  refine (ends_scan (Q := Read rules packets d₀) (fun _ e h => Read.record h e) h
    fun row d h => ?_).mono (fun _ _ _ h => h) fun _ _ => trivial
  unfold namePacket
  refine Ends.bind (ends_lift (fun _ _ => ?_) h)
  refine Ends.bind (ends_lift (fun _ _ => ?_) h)
  exact Ends.bind (ends_lift (fun _ _ => { h with }) h)

/-- A number stands for one accepted packet. -/
theorem nodup_accepted (rows : List Row) : ((accepted rows).map (·.spid)).Nodup := by
  suffices h : ∀ packets : List PacketRecord, (packets.map (·.spid)).Nodup →
      ((rows.foldl acceptRow packets).map (·.spid)).Nodup from h [] List.nodup_nil
  induction rows with
  | nil => exact fun _ h => h
  | cons row rows ih =>
      refine fun packets h => ih _ ?_
      unfold acceptRow
      cases PacketRecord.ofRow row with
      | error _ => exact h
      | ok p =>
          dsimp only
          split
          · rename_i hnew
            rw [List.map_append, List.nodup_append]
            refine ⟨h, List.nodup_singleton _, ?_⟩
            rintro _ hq _ hp rfl
            obtain ⟨q, hq, heq⟩ := List.mem_map.mp hq
            exact hnew.2 q hq (heq.trans (List.mem_singleton.mp hp))
          · exact h

/-! ## The hierarchy -/

/-- What the containers of packets say in the end, with the errors that came after the first
ones. -/
structure Faithful (options : TelemetryOptions) (rules : List IdentificationRule)
    (packets : List PacketRecord) (base : Nat) (root : Option PacketRoot)
    (d : Draft TelemetryState) : Prop where
  isRoot : ∀ x ∈ root, IsRoot options d.database x
  /-- A number stands for one packet. -/
  numbered : (packets.map (·.spid)).Nodup
  /-- No two packets share a container. -/
  injective : ∀ a b r, d.stage.packetContainers.find? a = some r →
    d.stage.packetContainers.find? b = some r → a = b
  /-- A container asks for what the packet of its number says. -/
  asks : ∀ spid r, d.stage.packetContainers.find? spid = some r →
    ∃ x ∈ root, ∃ p ∈ packets, p.spid = spid ∧ Asks d.database x rules packets p r
  grounded : Grounded d.database
  /-- No packet is lost without an error. -/
  missed : ∀ p ∈ packets, d.stage.packetContainers.find? p.spid = none →
    ∃ e ∈ d.errors.drop base, KindFault rules packets p.key e ∨ RootFault e

/-- Without a root no packet has a container. -/
theorem Read.faithful {d₀ : Draft TelemetryState} (hread : Read rules packets d₀ d)
    (hnodup : (packets.map (·.spid)).Nodup)
    (hfault : ∃ e ∈ d.errors.drop d₀.errors.length, RootFault e) :
    Faithful options rules packets d₀.errors.length none d where
  isRoot := by simp
  numbered := hnodup
  injective := fun a b r ha => by
    rw [Index.find?_of_entries_eq_nil hread.containers] at ha
    cases ha
  asks := fun spid r hr => by
    rw [Index.find?_of_entries_eq_nil hread.containers] at hr
    cases hr
  grounded := hread.grounded
  missed := fun _ _ _ => by
    obtain ⟨e, he, hroot⟩ := hfault
    exact ⟨e, he, .inr hroot⟩

/-- With a root and no container yet, the invariant holds. -/
theorem Read.standing {d₀ : Draft TelemetryState} (hread : Read rules packets d₀ d)
    (hroot : IsRoot options d.database root) :
    Standing options root rules packets d where
  isRoot := hroot
  sameRules := hread.identifications
  samePackets := hread.packets
  grounded := hread.grounded
  placed := fun spid r hr => by
    rw [Index.find?_of_entries_eq_nil hread.containers] at hr
    cases hr
  injective := fun a b r ha => by
    rw [Index.find?_of_entries_eq_nil hread.containers] at ha
    cases ha

/-- When all kinds are settled, the containers say what they should. -/
theorem Standing.faithful {base : Nat} (h : Standing options root rules packets d)
    (hnodup : (packets.map (·.spid)).Nodup)
    (hsettled : ∀ g ∈ groupPackets packets, Settled rules packets base g.1 d) :
    Faithful options rules packets base (some root) d where
  isRoot := by
    rintro x ⟨⟩
    exact h.isRoot
  numbered := hnodup
  injective := h.injective
  asks := fun spid r hr => by
    obtain ⟨p, hp, hspid, hleaf⟩ := h.placed spid r hr
    exact ⟨root, rfl, p, hp, hspid, hleaf.asks⟩
  grounded := h.grounded
  missed := fun p hp hnone => by
    obtain ⟨ps, hps⟩ := exists_mem_groupPackets hp
    have hmem : p ∈ ofKind packets p.key := List.mem_filter.mpr ⟨hp, decide_eq_true rfl⟩
    rcases hsettled _ hps p hmem with hsome | ⟨e, he, hfault⟩
    · rw [hnone] at hsome
      cases hsome
    · exact ⟨e, he, .inl hfault⟩

/-- **The hierarchy of packets says what the tables say, and loses no packet silently.** -/
theorem loadPackets_faithful (hlenient : setting.config.strict = false)
    (hcontainers : d.database.containers.size = 0) (hunread : Unread d.stage)
    (hrun : loadPackets setting d = .ok () d') :
    ∃ pics pids root, Build.rows setting "pic" = .ok pics ∧ Build.rows setting "pid" = .ok pids ∧
      Faithful setting.config.telemetry (readRules pics) (accepted pids) d.errors.length root
        d' := by
  obtain ⟨_, d₁, hpic, hrun⟩ := bind_eq_ok.mp hrun
  obtain ⟨_, d₂, hpid, hrun⟩ := bind_eq_ok.mp hrun
  obtain ⟨_, d₃, htpcf, hrun⟩ := bind_eq_ok.mp hrun
  obtain ⟨root, d₄, hroot, hrun⟩ := bind_eq_ok.mp hrun
  obtain ⟨pics, hpics⟩ := exists_rows_of_scan hpic
  obtain ⟨pids, hpids⟩ := exists_rows_of_scan hpid
  refine ⟨pics, pids, root, hpics, hpids, ?_⟩
  have hnodup := nodup_accepted pids
  -- where there is no container, none compares anything
  have hgrounded : Grounded d.database := fun r k hk => by
    have hlt := Catalog.lt_size_of_get? hk
    rw [hcontainers] at hlt
    exact absurd hlt (Nat.not_lt_zero _)
  have hstart : Read [] [] d d :=
    ⟨hgrounded, List.prefix_rfl, hunread.identifications, hunread.packets, hunread.containers⟩
  have h₁ := (scanRules_ends hpics hstart).of_ok hpic
  have h₂ := (scanPackets_ends hpids h₁).of_ok hpid
  have h₃ := (scanNames_ends h₂).of_ok htpcf
  obtain ⟨hquiet, hgrounded₄, hisRoot, hnone⟩ :=
    (rootOrNone_ends hlenient h₃.grounded).of_ok hroot
  have h₄ : Read (readRules pics) (accepted pids) d d₄ := by
    refine ⟨hgrounded₄, h₃.errors.trans hquiet.errors, ?_, ?_, ?_⟩ <;> rw [hquiet.stage]
    exacts [h₃.identifications, h₃.packets, h₃.containers]
  cases root with
  | none =>
      obtain ⟨-, rfl⟩ := pure_eq_ok.mp hrun
      obtain ⟨e, he, hfault⟩ := hnone rfl
      -- the error came after those of the tables, which came after the first ones
      have hlate := List.drop_subset_drop_left d₄.errors h₃.errors.length_le he
      exact h₄.faithful hnodup ⟨e, hlate, hfault⟩
  | some root =>
      obtain ⟨state, _, hstage, hrun⟩ := bind_eq_ok.mp hrun
      obtain ⟨rfl, rfl⟩ := stage_eq_ok.mp hstage
      rw [h₄.packets] at hrun
      obtain ⟨hproceeds, hsettled⟩ := (forM_addPackets_ends hlenient
        (fun g hg => mem_groupPackets hg) h₄.errors.length_le
        (h₄.standing (hisRoot root rfl))).of_ok hrun
      exact hproceeds.standing.faithful hnodup hsettled

/-- Three kinds: one with two packets that a rule tells apart, one with a packet alone, and one with
two packets that no rule tells apart. -/
def threeKinds : Setting :=
  .ofTables [
    ("pic", "3\t25\t16\t8\t-1\t0\n"),
    ("pid", "3\t25\t100\t1\t0\t10\t\t\t\t10\n3\t25\t100\t2\t0\t11\t\t\t\t10\n" ++
      "3\t26\t100\t0\t0\t12\t\t\t\t10\n" ++
      "3\t27\t100\t1\t0\t13\t\t\t\t10\n3\t27\t100\t2\t0\t14\t\t\t\t10\n"),
    ("tpcf", "")]

/-- The first two kinds get their containers, the third an error. -/
theorem threeKinds_faithful :
    ∃ (d d' : Draft TelemetryState) (pics pids : List Row) (root : Option PacketRoot),
      threeKinds.config.strict = false ∧ d.database.containers.size = 0 ∧ Unread d.stage ∧
      loadPackets threeKinds d = .ok () d' ∧
      Faithful threeKinds.config.telemetry (readRules pics) (accepted pids) d.errors.length root
        d' ∧
      d'.stage.packetContainers.keys = [10, 11, 12] ∧ d'.errors.length = 1 := by
  have hok : (after? (loadPackets threeKinds) { database := { name := "MIB" }, stage := {} }).any
      (fun d' => decide (d'.stage.packetContainers.keys = [10, 11, 12] ∧
        d'.errors.length = 1)) = true := by
    decide +kernel
  obtain ⟨d', hafter, hfacts⟩ := (Option.any_eq_true _ _).mp hok
  obtain ⟨hkeys, herrors⟩ := of_decide_eq_true hfacts
  obtain ⟨_, hrun⟩ := after?_eq_some.mp hafter
  obtain ⟨pics, pids, root, -, -, hfaithful⟩ :=
    loadPackets_faithful rfl rfl ⟨rfl, rfl, rfl⟩ hrun
  exact ⟨_, d', pics, pids, root, rfl, rfl, ⟨rfl, rfl, rfl⟩, hrun, hfaithful, hkeys, herrors⟩

end Telemetry

end MissionBase
