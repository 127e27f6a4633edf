import MissionBase.Proofs.Telemetry.Faithfulness
import MissionBase.Proofs.Telemetry.Parts

/-!
# What a failed kind of packets leaves behind

The packets of a kind are added piece by piece: the parameters of echoed requests, the container
that the packets share, its identification fields, and then one container for each packet. A failure
ends this where it stands, and what was added stays. Only two failures come before anything is
added: several packets for which there is no rule, and a first container whose name is taken, if the
parameters of echoed requests did not have to be added for it (`EchoReady`). After any other failure
there are containers or parameters that were not there before, although the kind was refused.

Nothing is ever taken away, so it is enough to find one thing that is new: where the first container
was added, there is one container more than before (`NoFewer`).
-/

namespace MissionBase

open Run

namespace Telemetry

variable {setting : Setting} {root : PacketRoot} {key : PacketKey} {d d' : Draft TelemetryState}

/-- What packets are made of is what it was. -/
structure LeavesNothing (d d' : Draft TelemetryState) : Prop where
  containers : d'.database.containers = d.database.containers
  parameters : d'.database.parameters = d.database.parameters
  parameterTypes : d'.database.parameterTypes = d.database.parameterTypes
  packetContainers : d'.stage.packetContainers = d.stage.packetContainers

theorem LeavesNothing.refl (d : Draft TelemetryState) : LeavesNothing d d := ⟨rfl, rfl, rfl, rfl⟩

/-- The parameters of echoed requests, which packets of service 1 carry, are there already. -/
def EchoReady (db : Database) (key : PacketKey) : Prop :=
  key.type = 1 → db.parameters.has PacketHeader.echoedApidName = true ∧
    db.parameters.has PacketHeader.echoedSequenceName = true

/-! ## Parameters of echoed requests -/

/-- Either nothing is missing and nothing changes, or there are more parameters. -/
def Fills (there : Prop) (d d' : Draft TelemetryState) : Prop :=
  there ∧ d' = d ∨ ¬ there ∧ d.database.parameters.size < d'.database.parameters.size

theorem Fills.le {there : Prop} (h : Fills there d d') :
    d.database.parameters.size ≤ d'.database.parameters.size := by
  rcases h with ⟨-, rfl⟩ | ⟨-, hlt⟩
  · exact Nat.le_refl _
  · exact Nat.le_of_lt hlt

theorem unsignedOrNew_fills (name : String) (size : Nat) (d : Draft TelemetryState) :
    Ends (unsignedOrNew name size) d
      (fun _ d' => Fills (d.database.parameters.has name = true) d d') fun _ => False := by
  refine ends_iff.mpr ⟨fun p d' hrun => ?_, raises_unsignedOrNew name size⟩
  obtain ⟨db, _, hdb, hrun⟩ := bind_eq_ok.mp hrun
  obtain ⟨rfl, rfl⟩ := database_eq_ok.mp hdb
  unfold Fills Catalog.has
  cases hfind : d.database.parameters.find? name with
  | some q =>
      rw [hfind] at hrun
      obtain ⟨-, rfl⟩ := pure_eq_ok.mp hrun
      exact .inl ⟨rfl, rfl⟩
  | none =>
      rw [hfind] at hrun
      obtain ⟨hle, hlt⟩ := addUnsigned_index hrun
      exact .inr ⟨by simp, Nat.lt_of_le_of_lt hle hlt⟩

/-- **The parameters of echoed requests are added where one of them is missing.** -/
theorem echoEntries_fills (key : PacketKey) (d : Draft TelemetryState) :
    Ends (echoEntries setting key) d (fun _ d' => Fills (EchoReady d.database key) d d')
      fun _ => False := by
  unfold echoEntries echoedRequest
  by_cases htype : key.type = 1
  · rw [if_pos htype]
    refine Ends.bind (Ends.bind ((unsignedOrNew_fills _ _ d).mono (fun apid d₁ _ h₁ => ?_)
      fun _ h => h))
    refine Ends.bind ((unsignedOrNew_fills _ _ d₁).mono (fun count d₂ _ h₂ => ?_) fun _ h => h)
    show Fills (EchoReady d.database key) d d₂
    rcases h₁ with ⟨hapid, rfl⟩ | ⟨hapid, hlt⟩
    · rcases h₂ with ⟨hcount, rfl⟩ | ⟨hcount, hlt⟩
      · exact .inl ⟨fun _ => ⟨hapid, hcount⟩, rfl⟩
      · exact .inr ⟨fun hready => hcount (hready htype).2, hlt⟩
    · exact .inr ⟨fun hready => hapid (hready htype).1, Nat.lt_of_lt_of_le hlt h₂.le⟩
  · rw [if_neg htype]
    exact .inl ⟨fun h => absurd h htype, rfl⟩

/-! ## Containers -/

/-- There are as many containers as before, or more. -/
def NoFewer (d d' : Draft TelemetryState) : Prop :=
  d.database.containers.size ≤ d'.database.containers.size

instance : Std.Refl NoFewer := ⟨fun _ => Nat.le_refl _⟩

instance : IsTrans (Draft TelemetryState) NoFewer := ⟨fun _ _ _ => Nat.le_trans⟩

/-- Nothing that packets are made of takes a container away. -/
theorem noFewer_tracks : Tracks NoFewer where
  noted := fun _ _ _ => Nat.le_refl _
  stage := fun _ _ => steps_modify fun _ => Nat.le_refl _
  unsigned := fun name size =>
    (addUnsigned_sameContainers name size).mono fun _ _ h => Nat.le_of_eq h.symm
  container := fun _ _ => steps_addContainer fun d _ => by
    show d.database.containers.size ≤ (d.database.containers.push _).size
    rw [Catalog.size_push]
    exact Nat.le_succ _
  changeContainer := fun r change => steps_modify fun d => by
    show d.database.containers.size ≤ (d.database.containers.modify r change).size
    rw [Catalog.size_modify]

/-- **The first container of a kind** is there afterwards, or its name was taken and only the
parameters of echoed requests may be new. -/
theorem addKindContainer_leaves (name : String) (packet : PacketRecord)
    (description : Option String) (d : Draft TelemetryState) :
    Ends (addKindContainer setting root name packet description) d
      (fun _ d' => d.database.containers.has name = false ∧
        d.database.containers.size < d'.database.containers.size)
      fun d' => d.database.containers.has name = true ∧
        Fills (EchoReady d.database packet.key) d d' := by
  unfold addKindContainer
  refine Ends.bind ((echoEntries_fills packet.key d).mono (fun entries d₁ hrun hfills => ?_)
    fun _ h => h.elim)
  have hsame : d₁.database.containers = d.database.containers :=
    (echoEntries_keepsContainers packet.key).of_ok hrun
  by_cases htaken : d.database.containers.has name = true
  · refine ends_add (fun r db hadd => ?_) ⟨htaken, hfills⟩
    obtain ⟨hfree, -⟩ := Database.addContainer_eq_ok.mp hadd
    rw [hsame, htaken] at hfree
    cases hfree
  · have hfree : d.database.containers.has name = false := by simpa using htaken
    rw [← hsame] at hfree
    refine ends_add_of_ok (Database.addContainer_eq_ok.mpr ⟨hfree, rfl⟩) ?_
    rw [← hsame]
    refine ⟨hfree, ?_⟩
    show _ < (d₁.database.containers.push _).size
    rw [Catalog.size_push]
    exact Nat.lt_succ_self _

/-! ## Kinds -/

/-- The name of the container that the packets of a kind need first. -/
def firstName (state : TelemetryState) (db : Database) (key : PacketKey) :
    List PacketRecord → String
  | [packet] => packetName state db packet key.groupName
  | _ => key.groupName

/-- Several packets for which there is no rule. -/
def Ruleless (state : TelemetryState) (key : PacketKey) (packets : List PacketRecord) : Prop :=
  1 < packets.length ∧ ruleFor? state.identifications key = none

/-- How a kind of packets that is refused leaves the draft: as it was, if there is no rule; else
with what the first container needs, if its name is taken; else with that container. -/
inductive Refused (name : String) (ruleless : Prop) (key : PacketKey)
    (d d' : Draft TelemetryState) : Prop
  | ruleless (h : ruleless) (same : d' = d)
  | taken (h : ¬ ruleless) (taken : d.database.containers.has name = true)
      (fills : Fills (EchoReady d.database key) d d')
  | late (h : ¬ ruleless) (free : d.database.containers.has name = false)
      (more : d.database.containers.size < d'.database.containers.size)

/-- **A kind of packets is refused in one of three ways.** -/
theorem addPackets_refused {packets : List PacketRecord} (hkind : ∀ p ∈ packets, p.key = key)
    (d : Draft TelemetryState) :
    Ends (addPackets setting root key packets) d (fun _ _ => True)
      (Refused (firstName d.stage d.database key packets) (Ruleless d.stage key packets) key
        d) := by
  match packets with
  | [] => exact ends_pure trivial
  | [packet] =>
      obtain rfl := hkind packet List.mem_cons_self
      have hrule : ¬ Ruleless d.stage packet.key [packet] := fun h => absurd h.1 (by simp)
      refine Ends.bind (ends_stage (Ends.bind (ends_database (Ends.bind ?_))))
      refine (addKindContainer_leaves _ packet packet.description d).mono (fun r d₁ _ _ => ?_)
        fun d' h => .taken hrule h.1 h.2
      exact (registerPacket_ends packet r).mono (fun _ _ _ _ => trivial) fun _ h => h.elim
  | first :: second :: rest =>
      obtain rfl := hkind first List.mem_cons_self
      refine Ends.bind (ends_stage ?_)
      cases hrule : ruleFor? d.stage.identifications first.key with
      | none => exact ends_throw (.ruleless ⟨by simp, hrule⟩ rfl)
      | some rule =>
          have hruled : ¬ Ruleless d.stage first.key (first :: second :: rest) := by
            rintro ⟨-, hnone⟩
            rw [hrule] at hnone
            cases hnone
          refine Ends.bind ((addKindContainer_leaves _ first none d).mono
            (fun group d₁ _ h₁ => ?_) fun d' h => .taken hruled h.1 h.2)
          obtain ⟨hfree, hmore⟩ := h₁
          -- from here on there is one container more than before
          have hlate (t : Draft TelemetryState) (ht : NoFewer d₁ t) :
              Refused first.key.groupName (Ruleless d.stage first.key (first :: second :: rest))
                first.key d t := .late hruled hfree (Nat.lt_of_lt_of_le hmore ht)
          refine Ends.mono (Q := fun _ => NoFewer d₁) (E := NoFewer d₁) ?_ (fun _ _ _ _ => trivial)
            hlate
          refine Steps.bind (tracks_addIdentification noFewer_tracks _ _ _ _) (fun one => ?_) d₁
          refine (tracks_addIdentification noFewer_tracks _ _ _ _).bind fun two => ?_
          exact Steps.unless (steps_forM (noFewer_tracks.packetSteps.addMember group one two) _)

/-- **What a refusal leaves behind** follows from what it was. -/
theorem Refused.leavesNothing_iff {name : String} {ruleless : Prop}
    (h : Refused name ruleless key d d') :
    LeavesNothing d d' ↔
      ruleless ∨ d.database.containers.has name = true ∧ EchoReady d.database key := by
  cases h with
  | ruleless hrule hsame =>
      rw [hsame]
      exact iff_of_true (.refl d) (.inl hrule)
  | taken hrule htaken hfills =>
      rcases hfills with ⟨hready, rfl⟩ | ⟨hready, hmore⟩
      · exact iff_of_true (.refl _) (.inr ⟨htaken, hready⟩)
      · refine iff_of_false (fun h => ?_) ?_
        · rw [h.parameters] at hmore
          exact Nat.lt_irrefl _ hmore
        · rintro (hruleless | ⟨-, hready'⟩)
          · exact hrule hruleless
          · exact hready hready'
  | late hrule hfree hmore =>
      refine iff_of_false (fun h => ?_) ?_
      · rw [h.containers] at hmore
        exact Nat.lt_irrefl _ hmore
      · rintro (hruleless | ⟨htaken, -⟩)
        · exact hrule hruleless
        · rw [hfree] at htaken
          cases htaken

/-- **A kind of packets that is refused leaves nothing behind in two cases only**: several packets
have no rule, or the name of their first container is taken and the parameters of echoed requests
were not needed or there already. After any other failure something of the kind stays. -/
theorem addPackets_leavesNothing_iff {packets : List PacketRecord}
    (hkind : ∀ p ∈ packets, p.key = key) {e : Error}
    (hrun : addPackets setting root key packets d = .error e d') :
    LeavesNothing d d' ↔
      (1 < packets.length ∧ ruleFor? d.stage.identifications key = none) ∨
        d.database.containers.has (firstName d.stage d.database key packets) = true ∧
          EchoReady d.database key := by
  have hrefused := (ends_iff.mp (addPackets_refused hkind d)).2 e d' hrun
  exact hrefused.leavesNothing_iff

/-- A packet of service 5, which shares its kind with all others that differ in their number. -/
def eventPacket (spid : Int) : PacketRecord where
  location := ⟨"pid.dat", 1⟩
  key := ⟨100, 5, 1⟩
  first := 0
  second := 0
  spid := spid
  description := none
  structureId := none
  headerBytes := 10
  valid := true

/-- The container that all packets extend, and a rule for service 5 without a field. -/
def fieldlessDraft : Draft TelemetryState where
  database := {
    name := "MIB"
    containers := ⟨#[{ name := rootContainerName, isAbstract := true }]⟩ }
  stage := {
    identifications := [{
      location := ⟨"pic.dat", 1⟩
      type := 5
      subtype := 1
      first := ⟨-1, 0⟩
      second := ⟨-1, 0⟩
      apid := none }] }

/-- Two packets that the rule cannot tell apart are refused, and their container stays. -/
theorem fieldless_leaves_container :
    ∃ e d', addPackets (.ofTables []) ⟨⟨0⟩, ⟨0⟩, ⟨1⟩, ⟨2⟩⟩ ⟨100, 5, 1⟩
        [eventPacket 10, eventPacket 11] fieldlessDraft = .error e d' ∧
      d'.database.containers.has "pus_100_0501" = true ∧ ¬ LeavesNothing fieldlessDraft d' := by
  have hfails : (match addPackets (.ofTables []) ⟨⟨0⟩, ⟨0⟩, ⟨1⟩, ⟨2⟩⟩ ⟨100, 5, 1⟩
      [eventPacket 10, eventPacket 11] fieldlessDraft with
    | .ok _ _ => false
    | .error _ d' => d'.database.containers.has "pus_100_0501") = true := by decide +kernel
  split at hfails
  · cases hfails
  · rename_i e d' hrun
    refine ⟨e, d', hrun, hfails, ?_⟩
    rw [addPackets_leavesNothing_iff (by simp [eventPacket]) hrun]
    -- there is a rule, and the name of the container was free
    have hrule : (ruleFor? fieldlessDraft.stage.identifications ⟨100, 5, 1⟩).isSome = true := by
      decide +kernel
    have hfree : fieldlessDraft.database.containers.has (firstName fieldlessDraft.stage
        fieldlessDraft.database ⟨100, 5, 1⟩ [eventPacket 10, eventPacket 11]) = false := by
      decide +kernel
    rintro (⟨-, hnone⟩ | ⟨htaken, -⟩)
    · rw [hnone] at hrule
      cases hrule
    · rw [hfree] at htaken
      cases htaken

end Telemetry

end MissionBase
