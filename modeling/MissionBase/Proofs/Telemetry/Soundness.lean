import MissionBase.Proofs.DeclaredTypes
import MissionBase.Proofs.Names
import MissionBase.Proofs.Telemetry.BitLayout
import MissionBase.Proofs.Upkeep
import MissionBase.Telemetry.Stage

/-!
# The telemetry stage keeps the database wired

The stage remembers the shared types and the containers of packets. Every unit of its work is safe:
what it adds refers to what is there already, and packet containers extend others and never become
part of one. This module is about parameters and packets.
-/

namespace MissionBase

open Run Refers

variable {σ : Type} {setting : Setting}

/-! ## Calibrations -/

namespace Registry

/-- The database is the same. -/
def SameDatabase (d t : Draft σ) : Prop := t.database = d.database

instance : Std.Refl (@SameDatabase σ) := ⟨fun _ => rfl⟩

instance : IsTrans (Draft σ) SameDatabase := ⟨fun _ _ _ h h' => h'.trans h⟩

theorem scanUpdating_sameDatabase (table : String)
    (change : Row → Registry → Except Error Registry) :
    Steps SameDatabase (Build.scan setting table (updating change)) :=
  steps_scan (fun _ _ => rfl) fun _ =>
    steps_stage.bind fun _ => (steps_lift _).bind fun _ => steps_modify fun _ => rfl

/-- Calibrations do not enter the database. -/
theorem loadTelemetry_sameDatabase (setting : Setting) :
    Steps SameDatabase (loadTelemetry setting) := by
  unfold loadTelemetry
  refine (scanUpdating_sameDatabase _ _).bind fun _ => ?_
  refine (steps_modify fun _ => rfl : Steps SameDatabase (Build.changeStage sortContexts)).bind ?_
  refine fun _ => (scanUpdating_sameDatabase _ _).bind fun _ => ?_
  refine (scanUpdating_sameDatabase _ _).bind fun _ => ?_
  refine (scanUpdating_sameDatabase _ _).bind fun _ => ?_
  refine (scanUpdating_sameDatabase _ _).bind fun _ => ?_
  refine (scanUpdating_sameDatabase _ _).bind fun _ => ?_
  exact (scanUpdating_sameDatabase _ _).bind fun _ => steps_pure _

theorem loadCommanding_sameDatabase (setting : Setting) :
    Steps SameDatabase (loadCommanding setting) := by
  unfold loadCommanding
  refine (scanUpdating_sameDatabase _ _).bind fun _ => ?_
  refine (scanUpdating_sameDatabase _ _).bind fun _ => ?_
  refine (scanUpdating_sameDatabase _ _).bind fun _ => ?_
  refine (scanUpdating_sameDatabase _ _).bind fun _ => ?_
  refine (scanUpdating_sameDatabase _ _).bind fun _ => ?_
  exact (scanUpdating_sameDatabase _ _).bind fun _ => steps_pure _

end Registry

/-! ## Types that refer to nothing -/

/-- A type refers to what its value and its alarms refer to. -/
theorem ParameterType.targets_of_value {t : ParameterType} (hvalue : targets t.value = [])
    (hcontexts : t.contextCalibrators = []) (halarm : t.alarm = none) : targets t = [] := by
  show targets t.value ++ targets t.contextCalibrators ++ targets t.alarm = []
  rw [hvalue, hcontexts, halarm]
  rfl

theorem CurveDefinition.targets_valueType (format : Option Char) :
    targets (valueType format) = [] := by
  unfold valueType
  split
  · rfl
  · split <;> rfl

theorem ValueType.targets_natural? {e : Encoding} {v : ValueType} (h : natural? e = some v) :
    targets v = [] := by
  unfold natural? at h
  split at h <;> cases h <;> rfl

theorem ValueType.targets_of_isPlain {v : ValueType} (h : v.isPlain = true) : targets v = [] := by
  cases v <;> first | rfl | cases h

namespace ParameterRecord

variable {U : Upkeep σ} {d : Draft σ} {r : ParameterRecord} {calibrations : Registry}

theorem targets_rawType (encoding : Encoding) : targets (rawType encoding) = [] := by
  refine ParameterType.targets_of_value ?_ rfl rfl
  show targets ((ValueType.natural? encoding).getD _) = []
  cases h : ValueType.natural? encoding with
  | none => rfl
  | some value => exact ValueType.targets_natural? h

theorem NumericMade.bare {e : Encoding} {t : ParameterType} (h : r.NumericMade calibrations e t) :
    targets t = [] := by
  cases h with
  | calibrated _ hok =>
      obtain ⟨format, -, rfl⟩ := calibratedType_eq_ok hok
      exact ParameterType.targets_of_value (CurveDefinition.targets_valueType format) rfl rfl
  | natural _ hvalue =>
      exact ParameterType.targets_of_value (ValueType.targets_natural? hvalue) rfl rfl
  | plain _ _ hvalue =>
      exact ParameterType.targets_of_value (ValueType.targets_of_isPlain hvalue) rfl rfl

theorem TypeMade.bare {t : ParameterType} (h : r.TypeMade setting calibrations t) :
    targets t = [] := by
  cases h with
  | numeric _ _ hmade => exact hmade.bare
  | raw => exact targets_rawType _
  | labelled => exact ParameterType.targets_of_value rfl rfl rfl
  | text => exact ParameterType.targets_of_value rfl rfl rfl

/-- **The type that a declaration asks for refers to nothing.** -/
theorem safe_buildType :
    U.Safe d (r.buildType setting calibrations) fun t _ => targets t = [] := by
  intro hd
  have hkept {u : Draft σ} (h : Telemetry.Noted d u) : U.Sound u ∧ d.database.Kept u.database :=
    ⟨hd.of_same h.database h.stage, by rw [h.database]; exact .refl _⟩
  refine (Telemetry.noted_buildType d).mono (fun t u hrun h => ?_) fun u h => hkept h
  obtain ⟨own, hmade, rfl⟩ := buildType_eq_ok hrun
  exact ⟨(hkept h).1, (hkept h).2, hmade.bare⟩

end ParameterRecord

namespace Telemetry

/-- The stage remembers types that are there, and the containers of packets. -/
def upkeep : Upkeep TelemetryState where
  Holds db s := db.Resolves s.sharedTypes ∧ ∀ e ∈ s.packetContainers.entries,
    ∃ k, db.containers.get? e.2 = some k ∧ k.base.isSome
  kept := fun hkept h => ⟨h.1.kept hkept, fun e he => by
    obtain ⟨k, hk, hbase⟩ := h.2 e he
    exact hkept.packet e.2 k hk hbase⟩

open Upkeep

variable {d : Draft TelemetryState}

/-- A change of the stage that touches none of what it remembers of the database. -/
theorem safe_note {change : TelemetryState → TelemetryState}
    (htypes : ∀ s, (change s).sharedTypes = s.sharedTypes)
    (hpackets : ∀ s, (change s).packetContainers = s.packetContainers) :
    upkeep.Safe d (Build.changeStage change) fun _ _ => True :=
  safe_changeStage (fun hd => by
    obtain ⟨h1, h2⟩ := hd.stage
    refine ⟨?_, ?_⟩
    · rw [htypes]; exact h1
    · rw [hpackets]; exact h2) trivial

/-! ## Parameters -/

theorem safe_typeFor (r : ParameterRecord) :
    upkeep.Safe d (typeFor setting r) fun ref db => db.Resolves ref := by
  unfold typeFor
  refine Safe.stage fun hd => ?_
  dsimp only
  split
  · rename_i type hfind
    split at hfind
    · exact safe_pure (hd.stage.1.find? hfind)
    · cases hfind
  · refine ParameterRecord.safe_buildType.bind fun type t _ _ htype => ?_
    refine Safe.database fun _ => ?_
    refine Safe.bind (Q := fun ref db => db.Resolves ref) ?_ fun ref u _ _ href => ?_
    · refine safe_add fun ht ref db hadd => ht.wired.addParameterType ?_ hadd
      exact Database.resolves_of_eq_nil htype
    split
    · refine Safe.bind (Q := fun _ db => db.Resolves ref)
        (safe_changeStage (fun hu => ⟨hu.stage.1.set href, hu.stage.2⟩) href)
        fun _ _ _ _ href => safe_pure href
    · exact safe_pure href

theorem safe_addDeclared (r : ParameterRecord) :
    upkeep.Safe d (addDeclared setting r) fun _ _ => True := by
  unfold addDeclared
  refine (safe_typeFor r).bind fun type t _ _ htype => ?_
  refine Safe.bind (safe_add fun ht ref db hadd => ht.wired.addParameter htype hadd)
    fun ref u _ _ href => ?_
  dsimp only
  split
  · refine Safe.bind (Q := fun _ _ => True)
      (safe_changeDatabase (fun hu => hu.wired.addAlias href _) trivial) fun _ _ _ _ _ => ?_
    exact safe_note (fun _ => rfl) fun _ => rfl
  · exact safe_note (fun _ => rfl) fun _ => rfl

theorem safe_declare (r : ParameterRecord) :
    upkeep.Safe d (declare setting r) fun _ _ => True := by
  unfold declare
  refine Safe.stage fun _ => Safe.unless fun _ => ?_
  split
  · exact safe_note (fun _ => rfl) fun _ => rfl
  · split
    · exact Safe.unless fun _ => safe_note (fun _ => rfl) fun _ => rfl
    · exact safe_addDeclared r

/-! ### Synthetic parameters -/

theorem formulaInput_resolves {db : Database} {name : String} {input : FormulaInput}
    {x : ParameterRef × Bool} (h : formulaInput db name input = .ok x) : db.Resolves x.1 := by
  unfold formulaInput at h
  split at h
  · rename_i r hfind
    cases h
    exact Database.resolves_ref.mpr (Catalog.lt_size_of_find? hfind)
  · cases h

theorem syntheticAlgorithm_resolves {db : Database} {compiler : FormulaCompiler}
    {name source : String} {a : Algorithm}
    (h : syntheticAlgorithm db compiler name source = .ok a) : db.Resolves a := by
  unfold syntheticAlgorithm at h
  dsimp only at h
  split at h
  rotate_left
  · cases h
  obtain ⟨inputs, -, h⟩ := except_bind_eq_ok.mp h
  split at h
  · cases h
  · rename_i output houtput
    obtain ⟨read, hread, h⟩ := except_bind_eq_ok.mp h
    cases h
    have hall := forall_of_mapM_eq_ok (fun _ _ hx => formulaInput_resolves hx) hread
    refine Database.resolves_algorithm.mpr ⟨?_, ?_, ?_⟩
    · rw [Database.resolves_list, List.forall_mem_map]
      exact fun x hx => hall x.2 (List.of_mem_zip hx).2
    · rw [Database.resolves_list, List.forall_mem_map]
      exact fun x hx => hall x (List.mem_of_mem_filter hx)
    · have hlt := Catalog.lt_size_of_find? houtput
      exact Database.resolves_cons.mpr ⟨Database.resolves_ref.mpr hlt, Database.resolves_nil⟩

theorem safe_addSynthetic (compiler : FormulaCompiler) (name : String) (location : Location) :
    upkeep.Safe d (addSynthetic setting compiler name location) fun _ _ => True := by
  unfold addSynthetic
  refine Safe.read fun source _ => Safe.database fun _ => Safe.read fun a ha => ?_
  refine Safe.bind (Q := fun _ _ => True) ?_ fun _ _ _ _ _ => safe_pure trivial
  refine safe_add fun hd ref db hadd => ⟨?_, trivial⟩
  exact (hd.wired.addAlgorithm (syntheticAlgorithm_resolves ha) hadd).1

/-! ### Context calibrations -/

theorem contextCalibrator_resolves {db : Database} {calibrations : Registry} {rule : ContextRule}
    {c : ContextCalibrator} (h : contextCalibrator db calibrations rule = .ok c) :
    db.Resolves c := by
  unfold contextCalibrator at h
  split at h
  · cases h
  · rename_i reference hfind
    split at h
    · cases h
    · cases h
      exact Database.resolves_ref.mpr (Catalog.lt_size_of_find? hfind)

theorem safe_attachContexts (name : String) :
    upkeep.Safe d (attachContexts name) fun _ _ => True := by
  unfold attachContexts
  refine Safe.stage fun _ => Safe.database fun _ => ?_
  dsimp only
  generalize d.stage.calibrations.contextRules name = rules
  have hall : ∀ cs, rules.mapM (contextCalibrator d.database d.stage.calibrations) = .ok cs →
      ∀ c ∈ cs, d.database.Resolves c :=
    fun _ => forall_of_mapM_eq_ok fun _ _ hc => contextCalibrator_resolves hc
  cases rules with
  | nil => exact safe_pure trivial
  | cons first rest =>
      refine Safe.ite (fun _ => safe_pure trivial) fun _ => ?_
      cases d.database.parameters.find? name with
      | none => exact safe_throw
      | some ref =>
          refine Safe.read fun calibrators hcalibrators => ?_
          cases d.database.parameters.get? ref with
          | none => exact safe_pure trivial
          | some parameter =>
              refine safe_changeDatabase (fun hd => hd.wired.changeParameterType fun t ht => ?_)
                trivial
              obtain ⟨hvalue, -, halarm⟩ := Database.resolves_parameterType.mp ht
              exact Database.resolves_parameterType.mpr
                ⟨hvalue, Database.resolves_list.mpr (hall _ hcalibrators), halarm⟩

/-! ## Packets -/

/-- A container that extends another. -/
def IsPacket (r : ContainerRef) (db : Database) : Prop :=
  ∃ k, db.containers.get? r = some k ∧ k.base.isSome

theorem lasting_isPacket : Lasting IsPacket := by
  rintro r db db' hkept ⟨k, hk, hbase⟩
  exact hkept.packet r k hk hbase

theorem IsPacket.resolves {r : ContainerRef} {db : Database} (h : IsPacket r db) :
    db.Resolves r := by
  obtain ⟨_, hk, _⟩ := h
  exact Database.resolves_ref.mpr (Catalog.lt_size_of_get? hk)

/-- An entry that holds no container, and refers to what is there. -/
def Simple (e : Entry) (db : Database) : Prop := db.Resolves e ∧ e.item.container? = none

theorem lasting_simple : Lasting Simple := fun hkept h => ⟨h.1.kept hkept, h.2⟩

theorem simple_parameterAt {db : Database} {p : ParameterRef} (h : db.Resolves p) (bit : Int) :
    Simple (parameterAt p bit) db :=
  ⟨Database.resolves_entry.mpr ⟨Database.resolves_none, h⟩, rfl⟩

theorem inner_eq_nil {k : Container} {db : Database} (h : ∀ e ∈ k.entries, Simple e db) :
    k.inner = [] := List.filterMap_eq_nil_iff.mpr fun e he => (h e he).2

instance : Refers PacketRoot :=
  ⟨fun r => targets r.container ++ targets r.apid ++ targets r.type ++ targets r.subtype⟩

theorem resolves_root {db : Database} {root : PacketRoot} :
    db.Resolves root ↔ db.Resolves root.container ∧ db.Resolves root.apid ∧
      db.Resolves root.type ∧ db.Resolves root.subtype := by
  simp [Database.Resolves, targets]

theorem safe_addPacketRoot (options : TelemetryOptions) :
    upkeep.Safe d (addPacketRoot options) fun root db => db.Resolves root := by
  unfold addPacketRoot
  refine (safe_addUnsigned _ _).bind fun apid t _ _ hapid => ?_
  refine (safe_addUnsigned _ _).bind fun count u _ hu hcount => ?_
  refine (safe_addUnsigned _ _).bind fun type v _ hv htype => ?_
  refine (safe_addUnsigned _ _).bind fun subtype w _ hw hsubtype => ?_
  have hapid := ((hapid.kept hu).kept hv).kept hw
  have hcount := (hcount.kept hv).kept hw
  have htype := htype.kept hw
  dsimp only
  generalize hroot : ({ name := rootContainerName, isAbstract := true, entries := _ } : Container)
    = root
  have hsimple : ∀ e ∈ root.entries, Simple e w.database := by
    subst hroot
    intro e he
    simp only [List.mem_cons, List.not_mem_nil, or_false] at he
    rcases he with rfl | rfl | rfl | rfl
    · exact simple_parameterAt hapid _
    · exact simple_parameterAt hcount _
    · exact simple_parameterAt htype _
    · exact simple_parameterAt hsubtype _
  refine Safe.bind (Q := fun r db => db.Resolves r) ?_ fun container x _ hx hcontainer => ?_
  · refine safe_add fun hsound r db hadd => ?_
    have hresolves : w.database.Resolves root := by
      refine Database.resolves_container.mpr ⟨?_, ?_, ?_⟩
      · subst hroot; exact Database.resolves_none
      · subst hroot; exact Database.resolves_none
      · exact Database.resolves_list.mpr fun e he => (hsimple e he).1
    have hgroup : root.isGroup = false := by subst hroot; rfl
    obtain ⟨hfollows, hget⟩ :=
      hsound.wired.addContainer hresolves hgroup (inner_eq_nil hsimple) hadd
    exact ⟨hfollows, Database.resolves_ref.mpr (Catalog.lt_size_of_get? hget)⟩
  · exact safe_pure (resolves_root.mpr
      ⟨hcontainer, hapid.kept hx, htype.kept hx, hsubtype.kept hx⟩)

theorem safe_echoEntries (key : PacketKey) :
    upkeep.Safe d (echoEntries setting key) fun es db => ∀ e ∈ es, Simple e db := by
  unfold echoEntries
  split
  · refine safe_echoedRequest.bind fun request t _ _ hrequest => ?_
    obtain ⟨hapid, hcount⟩ := Database.resolves_pair.mp hrequest
    refine safe_pure fun e he => ?_
    simp only [List.mem_cons, List.not_mem_nil, or_false] at he
    rcases he with rfl | rfl
    · exact simple_parameterAt hapid _
    · exact simple_parameterAt hcount _
  · exact safe_pure (by simp)

/-- A container that extends another is added without groups. -/
theorem safe_addPacket {refused : String → Error} {k : Container} {base : ContainerRef}
    (hbase : k.base = some base) (hresolves : d.database.Resolves base)
    (hrestriction : d.database.Resolves k.restriction)
    (hentries : ∀ e ∈ k.entries, Simple e d.database) :
    upkeep.Safe d (Build.add refused fun db => db.addContainer k) IsPacket := by
  refine safe_add fun hd r db hadd => ?_
  have hk : d.database.Resolves k := by
    refine Database.resolves_container.mpr ⟨?_, hrestriction, ?_⟩
    · rw [hbase]
      exact Database.resolves_some.mpr hresolves
    · exact Database.resolves_list.mpr fun e he => (hentries e he).1
  have hsome : k.base.isSome := by rw [hbase]; rfl
  obtain ⟨hfollows, hget⟩ := hd.wired.addContainer hk (Container.isGroup_of_base hsome)
    (inner_eq_nil hentries) hadd
  exact ⟨hfollows, k, hget, hsome⟩

theorem safe_addKindContainer {root : PacketRoot} (hroot : d.database.Resolves root)
    (name : String) (packet : PacketRecord) (description : Option String) :
    upkeep.Safe d (addKindContainer setting root name packet description) IsPacket := by
  unfold addKindContainer
  refine (safe_echoEntries packet.key).bind fun entries t _ hkept hentries => ?_
  obtain ⟨hcontainer, hapid, htype, hsubtype⟩ := resolves_root.mp (hroot.kept hkept)
  refine safe_addPacket rfl hcontainer ?_ hentries
  show t.database.Resolves (Criteria.ofList? (packet.key.comparisons root))
  refine Database.resolves_ofList? (Database.resolves_list.mpr fun c hc => ?_)
  simp only [PacketKey.comparisons, List.mem_cons, List.not_mem_nil, or_false] at hc
  rcases hc with rfl | rfl | rfl
  · exact hapid
  · exact htype
  · exact hsubtype

theorem safe_addIdentification (container : ContainerRef) (name : String)
    (field : IdentificationField) (location : Location) :
    upkeep.Safe d (addIdentification setting container name field location)
      fun p db => db.Resolves p := by
  unfold addIdentification
  split
  · exact safe_pure Database.resolves_none
  · split
    · refine (safe_report (Q := fun _ _ => True) trivial).bind fun _ _ _ _ _ => ?_
      exact safe_pure Database.resolves_none
    · refine (safe_addUnsigned _ _).bind fun parameter t _ _ hparameter => ?_
      have hentry := simple_parameterAt hparameter (8 * field.offset)
      refine Safe.bind (Q := fun _ db => db.Resolves parameter) ?_ fun _ _ _ _ h =>
        safe_pure (Database.resolves_some.mpr h)
      intro ht
      have hfollows := ht.wired.addEntry (r := container) hentry.1 hentry.2
      exact safe_changeDatabase (Q := fun _ db => db.Resolves parameter) (fun _ => hfollows)
        (hparameter.kept hfollows.kept) ht

theorem safe_registerPacket (packet : PacketRecord) {container : ContainerRef}
    (hcontainer : IsPacket container d.database) :
    upkeep.Safe d (registerPacket packet container) fun _ _ => True := by
  -- the size is no reference, and the container goes on extending another
  have hkeep {t : Draft TelemetryState} (h : IsPacket container t.database) :
      upkeep.Safe t (Build.changeStage fun s =>
        { s with packetContainers := s.packetContainers.set packet.spid container })
        fun _ _ => True :=
    safe_changeStage (fun ht => ⟨ht.stage.1, Index.forall_set (P := fun r => IsPacket r t.database)
      ht.stage.2 h⟩) trivial
  unfold registerPacket
  refine Safe.stage fun _ => ?_
  dsimp only
  split
  · rename_i size _
    split
    · refine Safe.bind (Q := fun _ db => IsPacket container db) ?_ fun _ _ _ _ h => hkeep h
      intro hd
      let change (c : Container) : Container := { c with size := some (8 * size.toNat) }
      have hfollows : d.database.Follows (d.database.changeContainer container change) :=
        hd.wired.changeContainer (fun _ => rfl) (fun _ => rfl) (fun _ => rfl) fun _ hc => hc
      exact safe_changeDatabase (Q := fun _ db => IsPacket container db) (fun _ => hfollows)
        (lasting_isPacket hfollows.kept hcontainer) hd
    · exact hkeep hcontainer
  · exact hkeep hcontainer

theorem safe_addSinglePacket {root : PacketRoot} (hroot : d.database.Resolves root)
    (packet : PacketRecord) :
    upkeep.Safe d (addSinglePacket setting root packet) fun _ _ => True := by
  unfold addSinglePacket
  refine Safe.stage fun _ => Safe.database fun _ => ?_
  refine (safe_addKindContainer hroot _ _ _).bind fun container t _ _ hcontainer => ?_
  exact safe_registerPacket packet hcontainer

theorem safe_addMember {group : ContainerRef} {first second : Option ParameterRef}
    (hgroup : IsPacket group d.database) (hfirst : d.database.Resolves first)
    (hsecond : d.database.Resolves second) (packet : PacketRecord) :
    upkeep.Safe d (addMember group first second packet) fun _ _ => True := by
  unfold addMember
  refine Safe.stage fun _ => Safe.database fun _ => ?_
  have hfield {p : Option ParameterRef} (hp : d.database.Resolves p) (value : String) :
      d.database.Resolves (p.map fun q => Comparison.rawEquals q value).toList := by
    cases p with
    | none => exact Database.resolves_nil
    | some q =>
        exact Database.resolves_cons.mpr ⟨Database.resolves_some.mp hp, Database.resolves_nil⟩
  refine (safe_addPacket rfl hgroup.resolves ?_ (by simp)).bind fun ref t _ _ href =>
    safe_registerPacket packet href
  exact Database.resolves_ofList? (Database.resolves_append.mpr ⟨hfield hfirst _, hfield hsecond _⟩)

theorem safe_addPacketGroup {root : PacketRoot} (hroot : d.database.Resolves root)
    (key : PacketKey) (first : PacketRecord) (packets : List PacketRecord) :
    upkeep.Safe d (addPacketGroup setting root key first packets) fun _ _ => True := by
  unfold addPacketGroup
  refine Safe.stage fun _ => ?_
  split
  · exact safe_throw
  · refine (safe_addKindContainer hroot _ _ _).bind fun group t _ _ hgroup => ?_
    refine (safe_addIdentification _ _ _ _).bind fun one u _ hu hone => ?_
    refine (safe_addIdentification _ _ _ _).bind fun two v _ hv htwo => ?_
    refine Safe.unless fun _ => safe_forM fun packet _ w hw => ?_
    exact safe_addMember (lasting_isPacket hw (lasting_isPacket hv (lasting_isPacket hu hgroup)))
      ((hone.kept hv).kept hw) (htwo.kept hw) packet

theorem safe_addPackets {root : PacketRoot} (hroot : d.database.Resolves root) (key : PacketKey)
    (packets : List PacketRecord) :
    upkeep.Safe d (addPackets setting root key packets) fun _ _ => True := by
  unfold addPackets
  split
  · exact safe_pure trivial
  · exact safe_addSinglePacket hroot _
  · exact safe_addPacketGroup hroot key _ _

end Telemetry

end MissionBase
