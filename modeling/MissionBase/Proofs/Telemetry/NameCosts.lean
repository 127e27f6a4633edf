import MissionBase.Proofs.Leniency.Telemetry
import MissionBase.Proofs.Policy.Telemetry
import MissionBase.Proofs.Telemetry.PacketNames

/-!
# Which packets names cost

All packets have containers exactly if the names that are formed for them are all different. One
kind after the other either gets its containers under the names that it was to form, or loses one of
its packets to a name that is formed twice. What happens after that brings no packet of the kind
back, and makes no two names different again.

Names that are given to packets cost nothing if they could not have been formed: if none is the name
of a kind of several packets, and none ends like a name with the number of a packet after it.
-/

namespace MissionBase

open Run

/-- The same setting, with errors recorded. -/
def Setting.leniently (s : Setting) : Setting :=
  { s with config := { s.config with strict := false } }

theorem Setting.strictly_leniently {s : Setting} (h : s.config.strict = true) :
    s.leniently.strictly = s := by
  obtain ⟨config, epoch, files⟩ := s
  obtain ⟨⟩ := config
  cases h
  rfl

/-- A run that ends well although the first error would end it does not depend on that. -/
theorem Policy.Agree.ok {σ α : Type} {d d' : Draft σ} {a : α}
    {r : EStateM.Result Error (Draft σ) α} (h : Agree d r (.ok a d')) : r = .ok a d' := by
  cases h with
  | same => rfl

namespace Telemetry

variable {setting : Setting} {root : PacketRoot} {rules : List IdentificationRule}
  {packets : List PacketRecord} {given : Index Int (Option String × Option Int)}
  {fields names : List String} {numbers : List Int} {d d' d'' : Draft TelemetryState}
  {g : PacketKey × List PacketRecord} {groups : List (PacketKey × List PacketRecord)}

/-! ## All kinds -/

/-- Kinds of some packets, each of which can be told apart. -/
structure Kinds (rules : List IdentificationRule) (packets : List PacketRecord)
    (groups : List (PacketKey × List PacketRecord)) : Prop where
  /-- A number stands for one packet. -/
  numbered : (packets.map (·.spid)).Nodup
  packets : ∀ g ∈ groups, g.2 = ofKind packets g.1
  keys : (groups.map (·.1)).Nodup
  octets : ∀ g ∈ groups, g.1.Octets
  ruled : ∀ g ∈ groups, 1 < g.2.length → Ruled rules g.1

namespace Kinds

theorem tail (h : Kinds rules packets (g :: groups)) : Kinds rules packets groups where
  numbered := h.numbered
  packets := fun g' hg' => h.packets g' (List.mem_cons_of_mem g hg')
  keys := (List.nodup_cons.mp h.keys).2
  octets := fun g' hg' => h.octets g' (List.mem_cons_of_mem g hg')
  ruled := fun g' hg' => h.ruled g' (List.mem_cons_of_mem g hg')

theorem mem_iff (h : Kinds rules packets groups) (hg : g ∈ groups) {p : PacketRecord} :
    p ∈ g.2 ↔ p ∈ packets ∧ p.key = g.1 := by
  rw [h.packets g hg, ofKind, List.mem_filter, decide_eq_true_iff]

theorem nodup_spids (h : Kinds rules packets groups) (hg : g ∈ groups) :
    (g.2.map (·.spid)).Nodup := by
  rw [h.packets g hg]
  exact h.numbered.sublist ((List.filter_sublist).map _)

/-- Later kinds are other ones. -/
theorem key_ne (h : Kinds rules packets (g :: groups)) {g' : PacketKey × List PacketRecord}
    (hg' : g' ∈ groups) : g.1 ≠ g'.1 := by
  intro heq
  exact (List.nodup_cons.mp h.keys).1 (List.mem_map.mpr ⟨g', hg', heq.symm⟩)

/-- Packets of later kinds have other numbers. -/
theorem spid_ne (h : Kinds rules packets (g :: groups)) {p q : PacketRecord}
    {g' : PacketKey × List PacketRecord} (hp : p ∈ g.2) (hg' : g' ∈ groups) (hq : q ∈ g'.2) :
    q.spid ≠ p.spid := by
  intro heq
  obtain ⟨hp, hkey⟩ := (h.mem_iff List.mem_cons_self).mp hp
  obtain ⟨hq, hkey'⟩ := (h.tail.mem_iff hg').mp hq
  obtain rfl := List.inj_on_of_nodup_map h.numbered hq hp heq
  exact h.key_ne hg' (hkey.symm.trans hkey')

end Kinds

/-- What holds before some kinds are added: the tables have been read, no container has the name of
another, and nothing of these kinds is there. -/
structure Awaiting (given : Index Int (Option String × Option Int))
    (rules : List IdentificationRule) (groups : List (PacketKey × List PacketRecord))
    (d : Draft TelemetryState) : Prop where
  given : d.stage.packetNames = given
  identifications : d.stage.identifications = rules
  nodup : d.database.containerNames.Nodup
  free : ∀ g ∈ groups, 1 < g.2.length → ∀ n, KindField rules g.1 n →
    d.database.parameters.has n = false
  unplaced : ∀ g ∈ groups, ∀ p ∈ g.2, (d.stage.packetContainers.find? p.spid).isSome = false

/-- What a kind adds is nothing of the later ones. -/
theorem Awaiting.adds (h : Awaiting given rules (g :: groups) d)
    (hkinds : Kinds rules packets (g :: groups))
    (hadds : Adds (kindFields g.1) names numbers d d') (hnumbers : numbers ⊆ g.2.map (·.spid)) :
    Awaiting given rules groups d' where
  given := by rw [hadds.stage]; exact h.given
  identifications := by rw [hadds.stage]; exact h.identifications
  nodup := hadds.nodup h.nodup
  free := fun g' hg' hseveral n hn => by
    refine hadds.free (h.free g' (List.mem_cons_of_mem g hg') hseveral n hn) fun hmem => ?_
    have hn' := hn.mem_fieldNames
    rcases List.mem_append.mp hmem with hecho | hfield
    · exact PacketKey.not_mem_fieldNames_of_header (List.mem_append_right _ hecho) hn'
    · exact PacketKey.not_mem_fieldNames_of_ne (hkinds.octets g List.mem_cons_self)
        (hkinds.octets g' (List.mem_cons_of_mem g hg')) (hkinds.key_ne hg') hfield hn'
  unplaced := fun g' hg' q hq => by
    rw [Bool.eq_false_iff]
    intro hplaced
    rcases (hadds.placed q.spid).mp hplaced with hold | hnew
    · rw [h.unplaced g' (List.mem_cons_of_mem g hg') q hq] at hold
      cases hold
    · obtain ⟨p, hp, heq⟩ := List.mem_map.mp (hnumbers hnew)
      exact hkinds.spid_ne hp hg' hq heq.symm

/-- **A kind is done or loses one of its packets**, whatever its unit of work ends with. -/
theorem recover_addPackets_adds (hlenient : setting.config.strict = false)
    (hkinds : Kinds rules packets (g :: groups)) (h : Awaiting given rules (g :: groups) d) :
    Ends (Build.recover setting (addPackets setting root g.1 g.2)) d
      (fun _ d' =>
        Done (kindFields g.1) (withKind given d.database.containerNames g) (g.2.map (·.spid)) d d' ∨
        Lost (kindFields g.1) (withKind given d.database.containerNames g) (g.2.map (·.spid)) d d')
      fun _ => True := by
  have hg : g ∈ g :: groups := List.mem_cons_self
  have hkey : ∀ p ∈ g.2, p.key = g.1 := fun p hp => ((hkinds.mem_iff hg).mp hp).2
  have hwork := addPackets_adds root hlenient hkey (hkinds.nodup_spids hg) h.given
    (fun hseveral => h.identifications ▸ hkinds.ruled g hg hseveral)
    (fun hseveral n hn => h.free g hg hseveral n (h.identifications ▸ hn))
  refine ((hwork.mono (fun _ _ _ => .inl) fun _ => .inr).recover fun t e ht => ?_).mono
    (fun _ _ _ ht => ht) fun _ _ => trivial
  rcases ht with ⟨names, hformed, hadds⟩ | ⟨hclash, names, numbers, hadds, hrest⟩
  · exact .inl ⟨names, hformed, hadds.record _⟩
  · exact .inr ⟨hclash, names, numbers, hadds.record _, hrest⟩

/-- What becomes of the packets of some kinds: all of them have containers exactly if the names that
are formed are all different, and no other packet gets or loses its container. -/
structure Placement (given : Index Int (Option String × Option Int))
    (groups : List (PacketKey × List PacketRecord)) (d d' : Draft TelemetryState) : Prop where
  all : (∀ g ∈ groups, ∀ p ∈ g.2, (d'.stage.packetContainers.find? p.spid).isSome) ↔
    (groups.foldl (withKind given) d.database.containerNames).Nodup
  others : ∀ spid, (∀ g ∈ groups, ∀ p ∈ g.2, p.spid ≠ spid) →
    ((d'.stage.packetContainers.find? spid).isSome ↔
      (d.stage.packetContainers.find? spid).isSome)

/-- A packet of another number keeps what it has. -/
theorem Adds.others (h : Adds fields names numbers d d') (hsub : numbers ⊆ g.2.map (·.spid))
    {spid : Int} (hspid : ∀ p ∈ g.2, p.spid ≠ spid) :
    (d'.stage.packetContainers.find? spid).isSome ↔
      (d.stage.packetContainers.find? spid).isSome := by
  rw [h.placed, or_iff_left]
  intro hmem
  obtain ⟨p, hp, heq⟩ := List.mem_map.mp (hsub hmem)
  exact hspid p hp heq

/-- The packets of a kind keep what they have while later kinds are added. -/
theorem Placement.earlier (h : Placement given groups d d')
    (hkinds : Kinds rules packets (g :: groups)) {p : PacketRecord} (hp : p ∈ g.2) :
    (d'.stage.packetContainers.find? p.spid).isSome ↔
      (d.stage.packetContainers.find? p.spid).isSome :=
  h.others p.spid fun _ hg' _ hq => hkinds.spid_ne hp hg' hq

theorem Placement.othersCons (h : Placement given groups d' d'')
    (hadds : Adds fields names numbers d d') (hsub : numbers ⊆ g.2.map (·.spid)) (spid : Int)
    (hspid : ∀ g' ∈ g :: groups, ∀ p ∈ g'.2, p.spid ≠ spid) :
    (d''.stage.packetContainers.find? spid).isSome ↔
      (d.stage.packetContainers.find? spid).isSome := by
  have hrest := h.others spid fun g' hg' => hspid g' (List.mem_cons_of_mem g hg')
  exact hrest.trans (hadds.others hsub (hspid g List.mem_cons_self))

/-- After a kind that is done it depends on the later ones. -/
theorem Done.placement (hkinds : Kinds rules packets (g :: groups))
    (hdone : Done fields (withKind given d.database.containerNames g) (g.2.map (·.spid)) d d')
    (h : Placement given groups d' d'') : Placement given (g :: groups) d d'' := by
  have hall := h.all
  rw [hdone.containers] at hall
  obtain ⟨names, -, hadds⟩ := hdone
  refine ⟨Iff.trans ⟨fun hplaced g' hg' => hplaced g' (List.mem_cons_of_mem g hg'),
    fun hplaced g' hg' p hp => ?_⟩ hall, h.othersCons hadds (List.Subset.refl _)⟩
  rcases List.mem_cons.mp hg' with rfl | hg'
  · rw [h.earlier hkinds hp, hadds.placed]
    exact .inr (List.mem_map_of_mem hp)
  · exact hplaced g' hg' p hp

/-- After a kind that has lost a packet nothing brings it back. -/
theorem Lost.placement (hkinds : Kinds rules packets (g :: groups))
    (hlost : Lost fields (withKind given d.database.containerNames g) (g.2.map (·.spid)) d d')
    (hunplaced : ∀ p ∈ g.2, (d.stage.packetContainers.find? p.spid).isSome = false)
    (h : Placement given groups d' d'') : Placement given (g :: groups) d d'' := by
  obtain ⟨hclash, names, numbers, hadds, hsub, n, hn, hnone⟩ := hlost
  obtain ⟨p, hp, rfl⟩ := List.mem_map.mp hn
  refine ⟨iff_of_false (fun hall => ?_) fun hnodup => ?_, h.othersCons hadds hsub⟩
  · have hplaced := hall g List.mem_cons_self p hp
    rw [h.earlier hkinds hp, hadds.placed, hunplaced p hp] at hplaced
    exact hnone (by simpa using hplaced)
  · exact hclash (hnodup.sublist (prefix_foldl prefix_withKind _ _).sublist)

/-- **All packets of some kinds get containers exactly if the names that are formed are all
different.** -/
theorem forM_addPackets_placement (hlenient : setting.config.strict = false)
    (hkinds : Kinds rules packets groups) (h : Awaiting given rules groups d) :
    Ends (groups.forM fun (key, ps) => Build.recover setting (addPackets setting root key ps)) d
      (fun _ => Placement given groups d) fun _ => True := by
  induction groups generalizing d with
  | nil => exact ends_pure ⟨iff_of_true (by simp) h.nodup, fun _ _ => Iff.rfl⟩
  | cons g groups ih =>
      refine Ends.bind ((recover_addPackets_adds hlenient hkinds h).mono (fun _ d₁ _ h₁ => ?_)
        fun _ _ => trivial)
      rcases h₁ with hdone | hlost
      · obtain ⟨names, -, hadds⟩ := id hdone
        refine (ih hkinds.tail (h.adds hkinds hadds (List.Subset.refl _))).mono
          (fun _ d₂ _ h₂ => hdone.placement hkinds h₂) fun _ _ => trivial
      · obtain ⟨-, names, numbers, hadds, hsub, -⟩ := id hlost
        refine (ih hkinds.tail (h.adds hkinds hadds hsub)).mono (fun _ d₂ _ h₂ => ?_)
          fun _ _ => trivial
        exact hlost.placement hkinds (h.unplaced g List.mem_cons_self) h₂

/-! ## The tables and the root -/

/-- Nothing is in the database yet, and packets have been given names. -/
structure Unbuilt (db : Database) (given : Index Int (Option String × Option Int))
    (d : Draft TelemetryState) : Prop where
  database : d.database = db
  names : d.stage.packetNames = given

theorem Unbuilt.record {db : Database} (h : Unbuilt db given d) (e : Error) :
    Unbuilt db given { d with errors := d.errors ++ [e] } := { h with }

theorem scanRules_unbuilt {db : Database} (h : Unbuilt db given d) :
    Ends (Build.scan setting "pic" fun row => do
        let rule ← IdentificationRule.ofRow row
        Build.changeStage fun s => { s with identifications := s.identifications ++ [rule] }) d
      (fun _ => Unbuilt db given) (Unbuilt db given) :=
  ends_scan (fun _ e h => h.record e) h fun _ _ h =>
    Ends.bind (ends_lift (fun _ _ => { h with }) h)

theorem scanPackets_unbuilt {db : Database} (h : Unbuilt db given d) :
    Ends (Build.scan setting "pid" fun row => do declarePacket row (← PacketRecord.ofRow row)) d
      (fun _ => Unbuilt db given) (Unbuilt db given) := by
  refine ends_scan (fun _ e h => h.record e) h fun row t ht => ?_
  refine Ends.bind (ends_lift (fun p _ => ?_) ht)
  unfold declarePacket
  refine Ends.bind (ends_stage (Ends.ite (fun _ => ?_) fun _ => ends_pure ht))
  exact Ends.ite (fun _ => ends_throw ht) fun _ => { ht with }

/-- **The names of packets are read one by one.** -/
theorem scanNames_unbuilt {db : Database} {rows : List Row}
    (hrows : Build.rows setting "tpcf" = .ok rows) (h : Unbuilt db given d) :
    Ends (Build.scan setting "tpcf" namePacket) d (fun _ => Unbuilt db (rows.foldl nameRow given))
      fun _ => True := by
  refine ends_scanFold (I := Unbuilt db) hrows (fun _ _ e h => h.record e)
    (fun given row t ht => ?_) h
  unfold namePacket nameRow
  cases row.require [0] with
  | error e => exact ends_throw ht
  | ok _ =>
      cases row.int? 2 with
      | error e => exact ends_throw ht
      | ok size =>
          cases row.int 0 with
          | error e => exact ends_throw ht
          | ok spid =>
              refine { ht with names := ?_ }
              show t.stage.packetNames.set spid ((row.text? 1).map containerText, size) = _
              rw [ht.names]

/-- **With free names the root is there**, and nothing fails. -/
theorem addPacketRoot_adds {options : TelemetryOptions}
    (hfree : ∀ n ∈ PacketHeader.names, d.database.parameters.has n = false)
    (hroot : rootContainerName ∉ d.database.containerNames) :
    Ends (addPacketRoot options) d
      (fun _ => Adds PacketHeader.names [rootContainerName] [] d) fun _ => False := by
  -- one parameter more, and the names of the others stay free
  have hadd {t : Draft TelemetryState} {added : List String} (name : String) (size : Nat)
      (ht : Adds added [] [] d t) (hname : name ∈ PacketHeader.names) (hnew : name ∉ added) :
      Ends (addUnsigned name size) t (fun _ => Adds (added ++ [name]) [] [] d) fun _ => False :=
    (addUnsigned_adds (ht.free (hfree name hname) hnew)).mono
      (fun _ _ _ hu => (ht.mono (List.subset_append_left _ _)).trans
        (hu.mono (List.subset_append_right _ _))) fun _ h => h
  unfold addPacketRoot
  have hstart : Adds [] [] [] d d := .refl d
  refine Ends.bind ((hadd _ _ hstart (by decide) (by decide)).mono (fun apid d₁ _ h₁ => ?_)
    fun _ h => h)
  refine Ends.bind ((hadd _ _ h₁ (by decide) (by decide)).mono (fun count d₂ _ h₂ => ?_)
    fun _ h => h)
  refine Ends.bind ((hadd _ _ h₂ (by decide) (by decide)).mono (fun type d₃ _ h₃ => ?_)
    fun _ h => h)
  refine Ends.bind ((hadd _ _ h₃ (by decide) (by decide)).mono (fun subtype d₄ _ h₄ => ?_)
    fun _ h => h)
  have hnames := h₄.containers
  rw [List.append_nil] at hnames
  refine Ends.bind ((addContainer_adds _ _ d₄).mono (fun r d₅ _ h₅ => ?_) fun t ht => ?_)
  · exact ends_pure (h₄.trans (h₅.2.mono (List.nil_subset _)))
  · rw [hnames] at ht
    exact hroot ht.1

/-- What becomes of a failure of the root does not matter. -/
theorem rootOrNone_adds (hfree : ∀ n ∈ PacketHeader.names, d.database.parameters.has n = false)
    (hroot : rootContainerName ∉ d.database.containerNames) :
    Ends (tryCatch (some <$> addPacketRoot setting.config.telemetry) fun e => do
        Build.report setting e
        return none) d
      (fun root d' => root.isSome ∧ Adds PacketHeader.names [rootContainerName] [] d d')
      fun _ => False :=
  Ends.tryCatch (Ends.map ((addPacketRoot_adds hfree hroot).mono (fun _ _ _ h => ⟨rfl, h⟩)
    fun _ h => h)) fun _ _ h => h.elim

/-! ## All packets -/

/-- The parameters that are added for packets, apart from those that requests echo. -/
inductive Generated (rules : List IdentificationRule) (packets : List PacketRecord) :
    String → Prop
  | header {name : String} (mem : name ∈ PacketHeader.names) : Generated rules packets name
  | field {p : PacketRecord} {name : String} (mem : p ∈ packets)
      (several : 1 < (ofKind packets p.key).length) (field : KindField rules p.key name) :
      Generated rules packets name

/-- Packets of octet types, of which several of a kind can be told apart. -/
structure Tellable (rules : List IdentificationRule) (packets : List PacketRecord) : Prop where
  octets : ∀ p ∈ packets, p.key.Octets
  ruled : ∀ p ∈ packets, 1 < (ofKind packets p.key).length → Ruled rules p.key

instance (rules : List IdentificationRule) (packets : List PacketRecord) :
    Decidable (Tellable rules packets) :=
  decidable_of_iff ((∀ p ∈ packets, p.key.Octets) ∧
      ∀ p ∈ packets, 1 < (ofKind packets p.key).length → Ruled rules p.key)
    ⟨fun h => ⟨h.1, h.2⟩, fun h => ⟨h.octets, h.ruled⟩⟩

/-- A kind is that of one of its packets. -/
theorem exists_mem_of_groupPackets (hg : g ∈ groupPackets packets) :
    ∃ p ∈ packets, p.key = g.1 := by
  have hkey : g.1 ∈ (packets.foldl (fun groups p => groups.append p.key p)
      ({} : Index PacketKey (List PacketRecord))).keys := List.mem_map_of_mem hg
  rcases (Index.mem_keys_foldl_append _ _ _).mp hkey with hnone | hsome
  · cases hnone
  · exact hsome

theorem Tellable.kinds (h : Tellable rules packets) (hnumbered : (packets.map (·.spid)).Nodup) :
    Kinds rules packets (groupPackets packets) where
  numbered := hnumbered
  packets := fun g hg => mem_groupPackets hg
  keys := nodup_keys_groupPackets packets
  octets := fun g hg => by
    obtain ⟨p, hp, hkey⟩ := exists_mem_of_groupPackets hg
    exact hkey ▸ h.octets p hp
  ruled := fun g hg hseveral => by
    obtain ⟨p, hp, hkey⟩ := exists_mem_of_groupPackets hg
    rw [← hkey]
    have hmembers : g.2 = ofKind packets p.key := hkey ▸ mem_groupPackets hg
    exact h.ruled p hp (hmembers ▸ hseveral)

/-- With the root the kinds can be added. -/
theorem Read.awaiting {start : Draft TelemetryState} (hread : Read rules packets start d)
    (hunbuilt : Unbuilt start.database given d)
    (hcontainers : start.database.containerNames = [])
    (hfree : ∀ n, Generated rules packets n → start.database.parameters.has n = false)
    (hadds : Adds PacketHeader.names [rootContainerName] [] d d') :
    Awaiting given rules (groupPackets packets) d' where
  given := by rw [hadds.stage]; exact hunbuilt.names
  identifications := by rw [hadds.stage]; exact hread.identifications
  nodup := hadds.nodup (by rw [hunbuilt.database, hcontainers]; exact List.nodup_nil)
  free := fun g hg hseveral n hn => by
    obtain ⟨p, hp, hkey⟩ := exists_mem_of_groupPackets hg
    have hmembers : g.2 = ofKind packets p.key := hkey ▸ mem_groupPackets hg
    refine hadds.free ?_ fun hheader =>
      PacketKey.not_mem_fieldNames_of_header (List.mem_append_left _ hheader) hn.mem_fieldNames
    rw [hunbuilt.database]
    exact hfree n (.field hp (hmembers ▸ hseveral) (hkey ▸ hn))
  unplaced := fun g _ p _ => by
    rw [Bool.eq_false_iff]
    intro hplaced
    rcases (hadds.placed p.spid).mp hplaced with hold | hnew
    · rw [Index.find?_of_entries_eq_nil hread.containers] at hold
      cases hold
    · cases hnew

/-- Every packet is one of its kind. -/
theorem forall_groupPackets {P : PacketRecord → Prop} :
    (∀ g ∈ groupPackets packets, ∀ p ∈ g.2, P p) ↔ ∀ p ∈ packets, P p := by
  constructor
  · intro h p hp
    obtain ⟨ps, hps⟩ := exists_mem_groupPackets hp
    refine h _ hps p ?_
    rw [mem_groupPackets hps]
    exact List.mem_filter.mpr ⟨hp, decide_eq_true rfl⟩
  · intro h g hg p hp
    rw [mem_groupPackets hg] at hp
    exact h p (List.mem_of_mem_filter hp)

/-! ## Names that cost nothing -/

/-- The kinds of several packets. -/
def severalKeys (groups : List (PacketKey × List PacketRecord)) : List PacketKey :=
  (groups.filter fun g => decide (1 < g.2.length)).map (·.1)

/-- A name that is none of those of kinds, and none with the number of one of some packets. -/
structure Harmless (keys : List PacketKey) (ps : List PacketRecord) (name : String) : Prop where
  kinds : ∀ k ∈ keys, name ≠ k.groupName
  numbers : ∀ p ∈ ps, ∀ base, name ≠ withNumber base p.spid

/-- The taken names are different, and harmless to what is still to come. -/
structure Clear (keys : List PacketKey) (ps : List PacketRecord) (taken : List String) : Prop where
  nodup : taken.Nodup
  harmless : ∀ name ∈ taken, Harmless keys ps name

section

variable {keys : List PacketKey} {ps : List PacketRecord} {p : PacketRecord} {taken : List String}
  {name default : String}

theorem Harmless.mono {keys' : List PacketKey} {ps' : List PacketRecord}
    (h : Harmless keys ps name) (hkeys : keys' ⊆ keys) (hps : ps' ⊆ ps) :
    Harmless keys' ps' name :=
  ⟨fun k hk => h.kinds k (hkeys hk), fun p hp => h.numbers p (hps hp)⟩

theorem Clear.mono {keys' : List PacketKey} {ps' : List PacketRecord} (h : Clear keys ps taken)
    (hkeys : keys' ⊆ keys) (hps : ps' ⊆ ps) : Clear keys' ps' taken :=
  ⟨h.nodup, fun name hname => (h.harmless name hname).mono hkeys hps⟩

theorem Clear.add (h : Clear keys ps taken) (hnew : name ∉ taken) (hname : Harmless keys ps name) :
    Clear keys ps (taken ++ [name]) where
  nodup := h.nodup.append (List.nodup_singleton _) (List.disjoint_singleton.mpr hnew)
  harmless := fun x hx => by
    rcases List.mem_append.mp hx with hx | hx
    · exact h.harmless x hx
    · exact List.mem_singleton.mp hx ▸ hname

/-- The number of a packet is harmless to the others. -/
theorem Harmless.withNumber (hoctets : ∀ k ∈ keys, k.Octets) {base : String} {spid : Int}
    (hspid : ∀ q ∈ ps, q.spid ≠ spid) : Harmless keys ps (MissionBase.withNumber base spid) where
  kinds := fun k hk heq => PacketKey.not_suffixed_groupName (hoctets k hk) ⟨base, spid, heq.symm⟩
  numbers := fun q hq _ heq => hspid q hq (withNumber_inj heq).symm

/-- The name of a kind is harmless to other kinds. -/
theorem Harmless.groupName {key : PacketKey} (hoctets : ∀ k ∈ keys, k.Octets) (hkey : key.Octets)
    (hne : ∀ k ∈ keys, key ≠ k) : Harmless keys ps key.groupName where
  kinds := fun k hk heq => hne k hk (PacketKey.groupName_inj hkey (hoctets k hk) heq)
  numbers := fun p _ base heq => PacketKey.not_suffixed_groupName hkey ⟨base, p.spid, heq⟩

/-- **One name more is formed**, and nothing that is to come is taken. -/
theorem Clear.form (h : Clear keys (p :: ps) taken) (hoctets : ∀ k ∈ keys, k.Octets)
    (hspid : ∀ q ∈ ps, q.spid ≠ p.spid)
    (hgiven : ∀ name ∈ (given.find? p.spid).bind (·.1), Harmless keys ps name)
    (hdefault : Harmless keys ps default) :
    Clear keys ps (taken ++ [formedName given taken p default]) := by
  have hrest : Clear keys ps taken := h.mono (List.Subset.refl _) (List.subset_cons_self _ _)
  have hown : Harmless keys ps (ownName given p default) := by
    unfold ownName
    cases hname : (given.find? p.spid).bind (·.1) with
    | none => exact hdefault
    | some name => exact hgiven name hname
  unfold formedName
  split
  · refine hrest.add (fun hmem => ?_) (.withNumber hoctets hspid)
    exact (h.harmless _ hmem).numbers p List.mem_cons_self _ rfl
  · rename_i hfree
    exact hrest.add hfree hown

theorem Clear.members {ms : List PacketRecord} (h : Clear keys (ms ++ ps) taken)
    (hoctets : ∀ k ∈ keys, k.Octets) (hnodup : (ms.map (·.spid)).Nodup)
    (hspid : ∀ p ∈ ms, ∀ q ∈ ps, q.spid ≠ p.spid)
    (hgiven : ∀ p ∈ ms, ∀ name ∈ (given.find? p.spid).bind (·.1), Harmless keys (ms ++ ps) name) :
    Clear keys ps (ms.foldl (withMember given) taken) := by
  induction ms generalizing taken with
  | nil => exact h
  | cons p ms ih =>
      rw [List.map_cons, List.nodup_cons] at hnodup
      have hother : ∀ q ∈ ms ++ ps, q.spid ≠ p.spid := by
        intro q hq heq
        rcases List.mem_append.mp hq with hq | hq
        · exact hnodup.1 (heq ▸ List.mem_map_of_mem hq)
        · exact hspid p List.mem_cons_self q hq heq
      have hsub : ms ++ ps ⊆ p :: ms ++ ps := List.subset_cons_self _ _
      have hform : Clear keys (ms ++ ps) (withMember given taken p) :=
        h.form hoctets hother (fun name hname =>
          (hgiven p List.mem_cons_self name hname).mono (List.Subset.refl _) hsub)
          (.withNumber hoctets hother)
      refine ih hform hnodup.2 (fun q hq => hspid q (List.mem_cons_of_mem p hq))
        fun q hq name hname => ?_
      exact (hgiven q (List.mem_cons_of_mem p hq) name hname).mono (List.Subset.refl _) hsub

end

/-! ### Kinds -/

theorem exists_of_mem_severalKeys {k : PacketKey} (h : k ∈ severalKeys groups) :
    ∃ g ∈ groups, g.1 = k := by
  obtain ⟨g, hg, hk⟩ := List.mem_map.mp h
  exact ⟨g, List.mem_of_mem_filter hg, hk⟩

theorem severalKeys_subset : severalKeys groups ⊆ severalKeys (g :: groups) :=
  List.map_subset _ (((List.sublist_cons_self g groups).filter _).subset)

theorem Kinds.octets_of_several (h : Kinds rules packets groups) :
    ∀ k ∈ severalKeys groups, k.Octets := by
  intro k hk
  obtain ⟨g, hg, rfl⟩ := exists_of_mem_severalKeys hk
  exact h.octets g hg

/-- The name of a kind is harmless to the later ones. -/
theorem Kinds.harmless_groupName (h : Kinds rules packets (g :: groups)) (ps : List PacketRecord) :
    Harmless (severalKeys groups) ps g.1.groupName := by
  refine .groupName h.tail.octets_of_several (h.octets g List.mem_cons_self) fun k hk => ?_
  obtain ⟨g', hg', rfl⟩ := exists_of_mem_severalKeys hk
  exact h.key_ne hg'

/-- **The names of one kind more are formed**, and nothing that is to come is taken. -/
theorem Clear.kind {taken : List String} (hkinds : Kinds rules packets (g :: groups))
    (hgiven : ∀ p ∈ g.2, ∀ name ∈ (given.find? p.spid).bind (·.1),
      Harmless (severalKeys groups) (g.2 ++ groups.flatMap (·.2)) name)
    (h : Clear (severalKeys (g :: groups)) (g.2 ++ groups.flatMap (·.2)) taken) :
    Clear (severalKeys groups) (groups.flatMap (·.2)) (withKind given taken g) := by
  have hoctets := hkinds.tail.octets_of_several
  have hname := hkinds.harmless_groupName
  have hspid : ∀ p ∈ g.2, ∀ q ∈ groups.flatMap (·.2), q.spid ≠ p.spid := by
    intro p hp q hq
    obtain ⟨g', hg', hq⟩ := List.mem_flatMap.mp hq
    exact hkinds.spid_ne hp hg' hq
  have hnodup := hkinds.nodup_spids List.mem_cons_self
  have hrest : Clear (severalKeys groups) (g.2 ++ groups.flatMap (·.2)) taken :=
    h.mono severalKeys_subset (List.Subset.refl _)
  obtain ⟨key, ps⟩ := g
  cases ps with
  | nil => exact hrest
  | cons p ps =>
      cases ps with
      | nil =>
          have hp : p ∈ [p] := List.mem_cons_self
          refine Clear.form hrest hoctets (hspid p hp) (fun name hn => ?_) (hname _)
          exact (hgiven p hp name hn).mono (List.Subset.refl _) (List.subset_append_right _ _)
      | cons q ps =>
          -- the name of the kind first, which was still to come
          have hfree : key.groupName ∉ taken := fun htaken =>
            (h.harmless _ htaken).kinds key List.mem_cons_self rfl
          exact (hrest.add hfree (hname _)).members hoctets hnodup hspid hgiven

/-- **All names that are formed for some kinds are different**, if those that packets are given are
harmless. -/
theorem nodup_foldl_withKind {taken : List String} (hkinds : Kinds rules packets groups)
    (hgiven : ∀ p ∈ packets, ∀ name ∈ (given.find? p.spid).bind (·.1),
      Harmless (severalKeys groups) (groups.flatMap (·.2)) name)
    (h : Clear (severalKeys groups) (groups.flatMap (·.2)) taken) :
    (groups.foldl (withKind given) taken).Nodup := by
  induction groups generalizing taken with
  | nil => exact h.nodup
  | cons g groups ih =>
      have hkind : Clear (severalKeys groups) (groups.flatMap (·.2)) (withKind given taken g) := by
        refine Clear.kind hkinds (fun p hp name hn => ?_) h
        have hmem := ((hkinds.mem_iff List.mem_cons_self).mp hp).1
        exact (hgiven p hmem name hn).mono severalKeys_subset (List.Subset.refl _)
      refine ih hkinds.tail (fun p hp name hn => ?_) hkind
      exact (hgiven p hp name hn).mono severalKeys_subset (List.subset_append_right _ _)

/-- A name that is formed for no packets: neither that of a kind of several, nor one that ends like
a name with the number of a packet after it. -/
structure Unformed (packets : List PacketRecord) (name : String) : Prop where
  kinds : ∀ p ∈ packets, 1 < (ofKind packets p.key).length → name ≠ p.key.groupName
  suffix : ¬ Suffixed name

/-- **Names that could not have been formed are never formed twice.** -/
theorem nodup_formedNames (hkinds : Kinds rules packets (groupPackets packets))
    (hgiven : ∀ p ∈ packets, ∀ name ∈ (given.find? p.spid).bind (·.1), Unformed packets name) :
    (formedNames given packets).Nodup := by
  refine nodup_foldl_withKind hkinds (fun p hp name hname => ?_)
    ⟨List.nodup_singleton _, fun name hname => ?_⟩
  · have hunformed := hgiven p hp name hname
    refine ⟨fun k hk heq => ?_, fun q _ base heq => hunformed.suffix ⟨base, q.spid, heq⟩⟩
    obtain ⟨g, hg, rfl⟩ := List.mem_map.mp hk
    obtain ⟨hg, hseveral⟩ := List.mem_filter.mp hg
    obtain ⟨q, hq, hkey⟩ := exists_mem_of_groupPackets hg
    have hmembers : g.2 = ofKind packets q.key := hkey ▸ mem_groupPackets hg
    exact hunformed.kinds q hq (hmembers ▸ of_decide_eq_true hseveral) (hkey ▸ heq)
  · obtain rfl := List.mem_singleton.mp hname
    exact ⟨fun k _ heq => k.groupName_ne_root heq.symm,
      fun q _ base heq => not_suffixed_root ⟨base, q.spid, heq⟩⟩

/-! ## The whole run -/

section

variable {pics pids tpcfs : List Row} (hpics : Build.rows setting "pic" = .ok pics)
  (hpids : Build.rows setting "pid" = .ok pids) (htpcfs : Build.rows setting "tpcf" = .ok tpcfs)
  (hcontainers : d.database.containers.size = 0) (hunread : Unread d.stage)
  (htellable : Tellable (readRules pics) (accepted pids))
  (hfree : ∀ n, Generated (readRules pics) (accepted pids) n →
    d.database.parameters.has n = false)

include hpics hpids htpcfs hcontainers hunread htellable hfree

/-- Where errors are recorded, a run that ends well has placed all packets, or a name was formed
twice. -/
theorem loadPackets_placed_of_lenient (hlenient : setting.config.strict = false)
    (hrun : loadPackets setting d = .ok () d') :
    (∀ p ∈ accepted pids, (d'.stage.packetContainers.find? p.spid).isSome) ↔
      (formedNames (tpcfs.foldl nameRow d.stage.packetNames) (accepted pids)).Nodup := by
  obtain ⟨_, d₁, hpic, hrun⟩ := bind_eq_ok.mp hrun
  obtain ⟨_, d₂, hpid, hrun⟩ := bind_eq_ok.mp hrun
  obtain ⟨_, d₃, htpcf, hrun⟩ := bind_eq_ok.mp hrun
  obtain ⟨root, d₄, hroot, hrun⟩ := bind_eq_ok.mp hrun
  -- what the tables say
  have hgrounded : Grounded d.database := fun r k hk => by
    have hlt := Catalog.lt_size_of_get? hk
    rw [hcontainers] at hlt
    exact absurd hlt (Nat.not_lt_zero _)
  have hstart : Read [] [] d d :=
    ⟨hgrounded, List.prefix_rfl, hunread.identifications, hunread.packets, hunread.containers⟩
  have hread₂ := (scanPackets_ends hpids ((scanRules_ends hpics hstart).of_ok hpic)).of_ok hpid
  have hread := (scanNames_ends hread₂).of_ok htpcf
  have hunbuilt₂ := (scanPackets_unbuilt ((scanRules_unbuilt ⟨rfl, rfl⟩).of_ok hpic)).of_ok hpid
  have hunbuilt := (scanNames_unbuilt htpcfs hunbuilt₂).of_ok htpcf
  -- the root is there, and its name is the first one
  have hnone : d.database.containerNames = [] := by
    unfold Database.containerNames
    rw [List.map_eq_nil_iff, ← List.length_eq_zero_iff]
    exact hcontainers
  obtain ⟨hsome, hadds⟩ := (rootOrNone_adds (fun n hn => by
      rw [hunbuilt.database]
      exact hfree n (.header hn)) (by rw [hunbuilt.database, hnone]; exact List.not_mem_nil)).of_ok
    hroot
  obtain ⟨root, rfl⟩ := Option.isSome_iff_exists.mp hsome
  have hawaiting := hread.awaiting hunbuilt hnone hfree hadds
  obtain ⟨state, _, hstage, hrun⟩ := bind_eq_ok.mp hrun
  obtain ⟨rfl, rfl⟩ := stage_eq_ok.mp hstage
  have hpackets : d₄.stage.packets = accepted pids := by rw [hadds.stage]; exact hread.packets
  rw [hpackets] at hrun
  have hplaced := ((forM_addPackets_placement hlenient (htellable.kinds (nodup_accepted pids))
    hawaiting).of_ok hrun).all
  rw [forall_groupPackets, hadds.containers, hunbuilt.database, hnone] at hplaced
  exact hplaced

/-- A run that ends well has placed all packets, or a name was formed twice. -/
theorem loadPackets_placed :
    Ends (loadPackets setting) d
      (fun _ d' => (∀ p ∈ accepted pids, (d'.stage.packetContainers.find? p.spid).isSome) ↔
        (formedNames (tpcfs.foldl nameRow d.stage.packetNames) (accepted pids)).Nodup)
      fun _ => setting.config.strict = true := by
  by_cases hstrict : setting.config.strict = true
  · refine ends_iff.mpr ⟨fun _ d' hrun => ?_, fun _ _ _ => hstrict⟩
    -- a strict run that ends well is the lenient one, which reads the same tables
    rw [← Setting.strictly_leniently hstrict] at hrun
    have hlenient : setting.leniently.config.strict = false := rfl
    have hagree := agrees_loadPackets hlenient d
    rw [hrun] at hagree
    refine loadPackets_placed_of_lenient ?_ ?_ ?_ hcontainers hunread htellable hfree hlenient
      hagree.ok
    exacts [hpics, hpids, htpcfs]
  · have hlenient : setting.config.strict = false := by simpa using hstrict
    obtain ⟨_, d', hrun⟩ := sure_loadPackets_of_rows hlenient hpics hpids htpcfs d
    unfold Ends
    rw [hrun]
    exact loadPackets_placed_of_lenient hpics hpids htpcfs hcontainers hunread htellable hfree
      hlenient hrun

/-- **All packets have containers exactly if the names that are formed for them are all different**,
and so they have if the names that packets are given could not have been formed. The run ends well
unless the first error ends it. -/
theorem loadPackets_placed_iff :
    Ends (loadPackets setting) d
      (fun _ d' =>
        ((∀ p ∈ accepted pids, (d'.stage.packetContainers.find? p.spid).isSome) ↔
          (formedNames (tpcfs.foldl nameRow d.stage.packetNames) (accepted pids)).Nodup) ∧
        ((∀ p ∈ accepted pids,
            ∀ name ∈ ((tpcfs.foldl nameRow d.stage.packetNames).find? p.spid).bind (·.1),
              Unformed (accepted pids) name) →
          ∀ p ∈ accepted pids, (d'.stage.packetContainers.find? p.spid).isSome))
      fun _ => setting.config.strict = true := by
  refine (loadPackets_placed hpics hpids htpcfs hcontainers hunread htellable hfree).mono
    (fun _ d' _ hiff => ⟨hiff, fun hgiven => hiff.mpr ?_⟩) fun _ h => h
  exact nodup_formedNames (htellable.kinds (nodup_accepted pids)) hgiven

end

/-- Two packets of a kind, and before them one of another kind, which is named like theirs. -/
def takenKind : Setting :=
  .ofTables [
    ("pic", "3\t25\t16\t8\t-1\t0\n"),
    ("pid", "3\t26\t100\t0\t0\t12\t\t\t\t10\n" ++
      "3\t25\t100\t1\t0\t10\t\t\t\t10\n3\t25\t100\t2\t0\t11\t\t\t\t10\n"),
    ("tpcf", "12\tpus_100_0319\n")]

/-- The name costs a packet its container, although nothing else is wrong. -/
theorem takenKind_loses_packet :
    ∃ (d d' : Draft TelemetryState) (pics pids tpcfs : List Row),
      Build.rows takenKind "pic" = .ok pics ∧ Build.rows takenKind "pid" = .ok pids ∧
      Build.rows takenKind "tpcf" = .ok tpcfs ∧ d.database.containers.size = 0 ∧ Unread d.stage ∧
      Tellable (readRules pics) (accepted pids) ∧
      (∀ n, Generated (readRules pics) (accepted pids) n →
        d.database.parameters.has n = false) ∧
      loadPackets takenKind d = .ok () d' ∧
      ∃ p ∈ accepted pids, d'.stage.packetContainers.find? p.spid = none := by
  have hfacts : ((Build.rows takenKind "pic").toOption.any fun pics =>
      (Build.rows takenKind "pid").toOption.any fun pids =>
      (Build.rows takenKind "tpcf").toOption.any fun tpcfs =>
        decide (Tellable (readRules pics) (accepted pids) ∧
          ¬ (formedNames (tpcfs.foldl nameRow {}) (accepted pids)).Nodup)) = true := by
    decide +kernel
  obtain ⟨pics, hpics, hfacts⟩ := (Option.any_eq_true _ _).mp hfacts
  obtain ⟨pids, hpids, hfacts⟩ := (Option.any_eq_true _ _).mp hfacts
  obtain ⟨tpcfs, htpcfs, hfacts⟩ := (Option.any_eq_true _ _).mp hfacts
  obtain ⟨htellable, htwice⟩ := of_decide_eq_true hfacts
  have hpics := eq_ok_of_toOption hpics
  have hpids := eq_ok_of_toOption hpids
  have htpcfs := eq_ok_of_toOption htpcfs
  have hfree (n : String) : ({ name := "MIB" } : Database).parameters.has n = false := by
    simp [Catalog.has, Catalog.find?]
  have hends := loadPackets_placed_iff (d := ⟨{ name := "MIB" }, [], [], {}⟩) hpics hpids htpcfs
    rfl ⟨rfl, rfl, rfl⟩ htellable fun n _ => hfree n
  cases hrun : loadPackets takenKind ⟨{ name := "MIB" }, [], [], {}⟩ with
  | ok _ d' =>
      have hlost := mt (hends.of_ok hrun).1.mp htwice
      push Not at hlost
      obtain ⟨p, hp, hnone⟩ := hlost
      exact ⟨_, d', pics, pids, tpcfs, hpics, hpids, htpcfs, rfl, ⟨rfl, rfl, rfl⟩, htellable,
        fun n _ => hfree n, hrun, p, hp, by simpa using hnone⟩
  | error e t => exact absurd ((ends_iff.mp hends).2 e t hrun) (by decide)

end Telemetry

end MissionBase
