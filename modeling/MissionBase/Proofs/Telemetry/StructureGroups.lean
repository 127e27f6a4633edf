import MissionBase.Proofs.Additions
import MissionBase.Proofs.Groups
import MissionBase.Proofs.Index
import MissionBase.Proofs.Telemetry.BitLayout

/-!
# Groups of variable structures

The elements of a structure are taken up while the table is read, and those whose names stand for
nothing are rejected then. The groups are counted afterwards, on the elements that are left. This
file follows both passes. The first one leaves, for every structure in use, the known ones among its
records in the order of their positions (`Taking`). The second one puts the entries of structures
after those of the containers of packets (`Expanded`), and every repetition among these entries is
a group as `GroupAmong` says it, with respect to all records of the structure.
-/

namespace MissionBase.Telemetry

open Run

variable {setting : Setting} {start d d' d'' : Draft TelemetryState} {rows rest : List Row}

/-! ## What repetitions cover -/

mutual

/-- What the repetitions in entries cover of a walk that goes into containers, where the first entry
is met at a place. -/
def spans (first : Nat) : List PlannedEntry → List Span
  | [] => []
  | entry :: rest => spansOf first entry ++ spans (first + (traverseEntry entry).length) rest

/-- What the repetitions in one entry cover: the entry or container that is repeated, and inside of
a container what is repeated there. -/
def spansOf (first : Nat) : PlannedEntry → List Span
  | .single entry => if entry.repetition.isSome then [⟨first, 1⟩] else []
  | .nested _ entries _ => ⟨first, (traverse entries).length⟩ :: spans first entries

end

theorem spans_single {entry : Entry} (h : entry.repetition = none) (first : Nat)
    (after : List PlannedEntry) :
    spans first (.single entry :: after) = spans (first + 1) after := by
  rw [spans, spansOf, h]
  rfl

theorem spans_repeated {entry : Entry} {repetition : Repeat}
    (h : entry.repetition = some repetition) (first : Nat) (after : List PlannedEntry) :
    spans first (.single entry :: after) = ⟨first, 1⟩ :: spans (first + 1) after := by
  rw [spans, spansOf, h]
  rfl

theorem spans_nested (name : String) (repetition : Repeat) (inner after : List PlannedEntry)
    (first : Nat) : spans first (.nested name inner repetition :: after) =
      ⟨first, (traverse inner).length⟩ ::
        (spans first inner ++ spans (first + (traverse inner).length) after) := by
  rw [spans, spansOf]
  rfl

theorem Covers.length_traverse {elements : List VariableElement} {planned : List PlannedEntry}
    (h : Covers elements planned) : (traverse planned).length = elements.length := by
  induction h with
  | nil => rfl
  | plain _ _ _ ih => simp only [traverse, traverseEntry, List.cons_append, List.nil_append,
      List.length_cons, ih]
  | lone _ _ _ _ _ _ ih => simp only [traverse, traverseEntry, List.cons_append, List.nil_append,
      List.length_cons, ih]
  | nest _ _ _ _ _ _ ihInner ih => simp only [traverse, traverseEntry, List.cons_append,
      List.nil_append, List.length_cons, List.length_append, ihInner, ih]

/-- **Every repetition covers what some counter claims.** -/
theorem Covers.claimed {elements : List VariableElement} {planned : List PlannedEntry}
    (h : Covers elements planned) : ∀ before : List VariableElement,
    ∀ s ∈ spans before.length planned,
      Claimed VariableElement.groupSize (before ++ elements) s := by
  -- the places count from the front of the whole list, so the elements before go along
  induction h with
  | nil =>
      intro before s hs
      rw [spans] at hs
      cases hs
  | @plain e entry rest after _ hnone _ ih =>
      intro before s hs
      rw [spans_single hnone] at hs
      have hrest := ih (before ++ [e]) s (by simpa using hs)
      simpa using hrest
  | @lone counter e entry entry' repetition rest after hsize _ hnone hsome _ _ ih =>
      intro before s hs
      rw [spans_single hnone, spans_repeated hsome] at hs
      rcases List.mem_cons.mp hs with rfl | hs
      · have hcount : 1 = counter.groupSize := hsize.symm
        exact ⟨before, counter, e :: rest, rfl, by rw [← hcount], by simp [← hcount]⟩
      · have hrest := ih (before ++ [counter, e]) s (by simpa using hs)
        simpa using hrest
  | @nest counter entry name repetition members rest inner after _ hlength hnone _ hinner _
      ihInner ih =>
      intro before s hs
      rw [spans_single hnone, spans_nested, hinner.length_traverse] at hs
      -- the container itself, what is repeated inside of it, or what comes after it
      rcases List.mem_cons.mp hs with rfl | hs
      · exact ⟨before, counter, members ++ rest, rfl, by rw [hlength], by simp [hlength]⟩
      rcases List.mem_append.mp hs with hs | hs
      · have hin := (ihInner (before ++ [counter]) s (by simpa using hs)).append rest
        simpa using hin
      · have hplace : (before ++ counter :: members).length =
            before.length + 1 + members.length := by
          rw [List.length_append, List.length_cons]
          omega
        have hrest := ih (before ++ counter :: members) s (by rw [hplace]; exact hs)
        simpa using hrest

/-- What a counter claims is repeated. -/
theorem Covers.mem_spans {counter : VariableElement} {rest : List VariableElement}
    {planned : List PlannedEntry} (h : Covers (counter :: rest) planned)
    (hcounts : counter.groupSize ≠ 0) : ⟨1, counter.groupSize⟩ ∈ spans 0 planned := by
  cases h with
  | plain hsize _ _ => exact absurd hsize hcounts
  | lone hsize _ hnone hsome _ _ =>
      rw [spans_single hnone, spans_repeated hsome, hsize]
      exact List.mem_cons_self
  | nest _ hlength hnone _ hinner _ =>
      rw [spans_single hnone, spans_nested, hinner.length_traverse, hlength]
      exact List.mem_cons_self

/-! ## Taking up elements -/

/-- Whether the name of an element stands for something. -/
def known (d : Draft TelemetryState) (e : VariableElement) : Bool :=
  (entryItem d.stage d.database e.name e.location).isOk

/-- The elements of the records that can be read. -/
def readElements (rows : List Row) : List VariableElement :=
  rows.filterMap fun row => (VariableElement.ofRow row).toOption

/-- The elements of a structure in the order of their records. -/
def recordsOf (rows : List Row) (id : Int) : List VariableElement :=
  (readElements rows).filter fun e => decide (e.structureId = id)

/-- The elements of a structure in the order of their positions, rejected ones among them. -/
def structureRows (rows : List Row) (id : Int) : List VariableElement :=
  Index.sortByKey (·.position) (recordsOf rows id)

/-- A packet has the structure. -/
def InUse (d : Draft TelemetryState) (id : Int) : Prop :=
  ∃ p ∈ d.stage.packets, p.structureId = some id

/-- The records have been read up to the ones that are still to come. -/
structure Taking (start : Draft TelemetryState) (rows rest : List Row)
    (d : Draft TelemetryState) : Prop where
  database : d.database = start.database
  /-- Besides the elements, only the structures that no packet uses are noted. -/
  stage : d.stage = { start.stage with
    structures := d.stage.structures, unusedStructures := d.stage.unusedStructures }
  nodup : d.stage.structures.keys.Nodup
  /-- Of a structure in use, the known elements have been taken up. -/
  elements : ∀ id, InUse start id →
    (d.stage.structures.find? id).getD [] ++ (recordsOf rest id).filter (known start) =
      (recordsOf rows id).filter (known start)

theorem recordsOf_cons_error {row : Row} {e : Error} (h : VariableElement.ofRow row = .error e)
    (rest : List Row) (id : Int) : recordsOf (row :: rest) id = recordsOf rest id := by
  unfold recordsOf readElements
  rw [List.filterMap_cons, h]
  rfl

/-- The known elements of a structure in use are those of a record and those of the others, unless
the record has none, one of another structure, or an unknown one. -/
theorem known_recordsOf_cons {row : Row} {e : VariableElement}
    (h : VariableElement.ofRow row = .ok e) (rest : List Row) (id : Int) :
    (recordsOf (row :: rest) id).filter (known start) =
      (if e.structureId = id ∧ known start e = true then [e] else []) ++
        (recordsOf rest id).filter (known start) := by
  unfold recordsOf readElements
  rw [List.filterMap_cons, h]
  by_cases hid : e.structureId = id <;> by_cases hknown : known start e = true <;>
    simp [Except.toOption, hid, hknown]

/-- A record of which nothing is taken up. -/
theorem Taking.skip {row : Row} (h : Taking start rows (row :: rest) d)
    (hskip : ∀ id, InUse start id → (recordsOf (row :: rest) id).filter (known start) =
      (recordsOf rest id).filter (known start)) : Taking start rows rest d where
  database := h.database
  stage := h.stage
  nodup := h.nodup
  elements := fun id hid => by rw [← hskip id hid, h.elements id hid]

/-- What names stand for does not change. -/
theorem Taking.entryItem (h : Taking start rows rest d) (name : String) (location : Location) :
    entryItem d.stage d.database name location =
      entryItem start.stage start.database name location := by
  rw [h.database, h.stage]
  rfl

/-- A record whose element is taken up. -/
theorem Taking.take {row : Row} {e : VariableElement} (h : Taking start rows (row :: rest) d)
    (hrow : VariableElement.ofRow row = .ok e) (hknown : known start e = true) :
    Taking start rows rest { d with stage := { d.stage with
      structures := d.stage.structures.append e.structureId e } } where
  database := h.database
  stage := by
    rw [h.stage]
  nodup := Index.nodup_keys_change h.nodup
  elements := by
    intro id hid
    have helements := h.elements id hid
    rw [known_recordsOf_cons hrow] at helements
    show ((d.stage.structures.append e.structureId e).find? id).getD [] ++ _ = _
    rw [Index.getD_find?_append, List.append_assoc, ← helements]
    simp [hknown]

/-- **A record is taken up if its name stands for something**, and nothing else happens. -/
theorem declareElement_taking {row : Row} (h : Taking start rows (row :: rest) d) :
    Ends (do declareElement row (← VariableElement.ofRow row) : TelemetryBuild Unit) d
      (fun _ => Taking start rows rest) (Taking start rows rest) := by
  refine Ends.bind ?_
  cases hrow : VariableElement.ofRow row with
  | error e => exact h.skip fun id _ => by rw [recordsOf_cons_error hrow]
  | ok e =>
      show Ends (declareElement row e) d _ _
      unfold declareElement
      refine Ends.bind (ends_stage ?_)
      split
      · -- the structure is in use, so the name decides
        refine Ends.bind (ends_database (Ends.bind ?_))
        have hitem := h.entryItem e.name e.location
        cases hfound : entryItem d.stage d.database e.name e.location with
        | error fault =>
            have hunknown : known start e = false := by
              rw [known, ← hitem, hfound]
              rfl
            refine h.skip fun id _ => ?_
            rw [known_recordsOf_cons hrow, if_neg (by simp [hunknown]), List.nil_append]
        | ok item =>
            refine h.take hrow ?_
            rw [known, ← hitem, hfound]
            rfl
      · -- no structure that is in use is concerned
        rename_i hunused
        have hskip (id : Int) (hid : InUse start id) :
            (recordsOf (row :: rest) id).filter (known start) =
              (recordsOf rest id).filter (known start) := by
          rw [known_recordsOf_cons hrow, if_neg, List.nil_append]
          rintro ⟨rfl, -⟩
          obtain ⟨p, hp, hstructure⟩ := hid
          refine hunused (List.any_eq_true.mpr ⟨p, ?_, beq_iff_eq.mpr hstructure⟩)
          rw [h.stage]
          exact hp
        split
        · -- the structure is noted before the record is an error
          have hnoted : Taking start rows rest { d with stage := { d.stage with
              unusedStructures := e.structureId :: d.stage.unusedStructures } } := by
            have hskipped := h.skip hskip
            exact ⟨hskipped.database, by rw [hskipped.stage], hskipped.nodup, hskipped.elements⟩
          exact Ends.bind hnoted
        · exact h.skip hskip

/-! ## Putting structures into containers -/

/-- A step that adds nothing but containers, and numbers of groups. -/
structure Beside (d d' : Draft TelemetryState) : Prop where
  stage : d'.stage = { d.stage with groupCount := d'.stage.groupCount }
  parameters : d'.database.parameters = d.database.parameters
  containers : Extends d d'

instance : Std.Refl Beside := ⟨fun d => ⟨rfl, rfl, .refl d⟩⟩

instance : IsTrans (Draft TelemetryState) Beside :=
  ⟨fun _ _ _ h h' => ⟨by rw [h'.stage, h.stage], h'.parameters.trans h.parameters,
    h.containers.trans h'.containers⟩⟩

theorem beside_addContainer (refused : String → Error) (k : Container) :
    Steps Beside (Build.add refused fun db => db.addContainer k : TelemetryBuild ContainerRef) := by
  refine steps_addContainer fun d _ => ⟨rfl, rfl, ?_, fun q hq => Catalog.get?_push_of_lt _ _ hq⟩
  show d.database.containers.size ≤ (d.database.containers.push k).size
  rw [Catalog.size_push]
  exact Nat.le_succ _

/-- A structure changes its own container last, and none of the others. -/
theorem expandStructure_beside (container : ContainerRef) (bit : Int)
    (elements : List VariableElement) :
    Ends (expandStructure container bit elements) d
      (fun _ d' => ∃ d₁ change, Beside d d₁ ∧
        d' = { d₁ with database := d₁.database.changeContainer container change })
      (Beside d) := by
  refine Ends.bind (ends_stage (Ends.bind (ends_database ?_)))
  have hcount (n : Nat) : Steps Beside
      (Build.changeStage fun s => { s with groupCount := n } : TelemetryBuild Unit) :=
    steps_modify fun _ => ⟨rfl, rfl, Nat.le_refl _, fun _ _ => rfl⟩
  refine Ends.bind ((steps_planned hcount _ d).mono (fun entries d₁ _ h₁ => ?_) fun _ h => h)
  refine Ends.bind ((steps_commitEntries beside_addContainer _ d₁).mono (fun es d₂ _ h₂ => ?_)
    fun _ h => ?_)
  · exact ⟨d₂, _, IsTrans.trans _ _ _ h₁ h₂, rfl⟩
  · exact IsTrans.trans _ _ _ h₁ h

/-- The elements of a structure that are taken up. -/
def taken (start : Draft TelemetryState) (rows : List Row) (id : Int) : List VariableElement :=
  (structureRows rows id).filter (known start)

/-- Entries of a container are a structure of the packet of the container. -/
def Expansion (start : Draft TelemetryState) (rows : List Row) (db : Database) (r : ContainerRef)
    (entries : List Entry) : Prop :=
  ∃ p ∈ start.stage.packets, ∃ id planned, p.structureId = some id ∧
    start.stage.packetContainers.find? p.spid = some r ∧
    Realizes db start.database.containers.size db.containers.size planned entries ∧
    (traverse planned).map (fun entry => .ok entry.item) =
      (taken start rows id).map (fun e =>
        entryItem start.stage start.database e.name e.location) ∧
    Covers (taken start rows id) planned ∧
    ∀ s ∈ spans 0 planned, GroupAmong VariableElement.groupSize (known start)
      (structureRows rows id) s

/-- Structures have been put into the containers of packets. -/
structure Expanded (start : Draft TelemetryState) (rows : List Row)
    (d : Draft TelemetryState) : Prop where
  packetContainers : d.stage.packetContainers = start.stage.packetContainers
  deduced : d.stage.deduced = start.stage.deduced
  parameters : d.database.parameters = start.database.parameters
  size : start.database.containers.size ≤ d.database.containers.size
  /-- A container has its entries, and after them those of structures. -/
  entries : ∀ r k, start.database.containers.get? r = some k → ∃ parts : List (List Entry),
    d.database.containers.get? r = some { k with entries := k.entries ++ parts.flatten } ∧
      ∀ part ∈ parts, Expansion start rows d.database r part

/-- What is in a container stays a structure of its packet when containers are added. -/
theorem Expansion.mono {db db' : Database} {r : ContainerRef} {part : List Entry}
    (h : Expansion start rows db r part) (hsize : db.containers.size ≤ db'.containers.size)
    (hsame : ∀ q : ContainerRef, start.database.containers.size ≤ q.index →
      q.index < db.containers.size → db'.containers.get? q = db.containers.get? q) :
    Expansion start rows db' r part := by
  obtain ⟨p, hp, id, planned, hid, hfind, hreal, hplan⟩ := h
  exact ⟨p, hp, id, planned, hid, hfind, hreal.mono (Nat.le_refl _) hsize hsame, hplan⟩

theorem Expansion.beside {r : ContainerRef} {part : List Entry}
    (h : Expansion start rows d.database r part) (hd : Beside d d') :
    Expansion start rows d'.database r part :=
  h.mono hd.containers.size fun q _ hq => hd.containers.same q hq

theorem Expanded.entryItem (h : Expanded start rows d) :
    Telemetry.entryItem d.stage d.database = Telemetry.entryItem start.stage start.database := by
  funext name location
  unfold Telemetry.entryItem
  rw [h.deduced, h.parameters]

/-- Containers that are added leave the others what they are. -/
theorem Expanded.beside (h : Expanded start rows d) (hd : Beside d d') :
    Expanded start rows d' where
  packetContainers := by rw [hd.stage, ← h.packetContainers]
  deduced := by rw [hd.stage, ← h.deduced]
  parameters := hd.parameters.trans h.parameters
  size := Nat.le_trans h.size hd.containers.size
  entries := by
    intro r k hk
    obtain ⟨parts, hget, hparts⟩ := h.entries r k hk
    exact ⟨parts, (hd.containers.same r (Catalog.lt_size_of_get? hget)).trans hget,
      fun part hpart => (hparts part hpart).beside hd⟩

/-- A change of a container that was there before the containers of groups is none of these. -/
theorem Expansion.changeContainer {db : Database} {q r : ContainerRef} {part : List Entry}
    {change : Container → Container} (h : Expansion start rows db q part)
    (hr : r.index < start.database.containers.size) :
    Expansion start rows (db.changeContainer r change) q part := by
  refine h.mono (Nat.le_of_eq (Catalog.size_modify ..).symm) fun q hq _ => ?_
  exact Catalog.get?_modify_of_ne _ (by omega) _

/-- A change of one container is looked at in that container. -/
theorem Expanded.changeContainer (h : Expanded start rows d) {r : ContainerRef}
    {change : Container → Container} (hr : r.index < start.database.containers.size)
    (hchanged : ∀ k, start.database.containers.get? r = some k → ∃ parts : List (List Entry),
      (d.database.changeContainer r change).containers.get? r =
        some { k with entries := k.entries ++ parts.flatten } ∧
      ∀ part ∈ parts, Expansion start rows (d.database.changeContainer r change) r part) :
    Expanded start rows { d with database := d.database.changeContainer r change } := by
  refine ⟨h.packetContainers, h.deduced, h.parameters,
    Nat.le_trans h.size (Nat.le_of_eq (Catalog.size_modify ..).symm), fun q k hq => ?_⟩
  by_cases heq : r.index = q.index
  · obtain rfl : r = q := by cases r; cases q; cases heq; rfl
    exact hchanged k hq
  · obtain ⟨parts, hget, hparts⟩ := h.entries q k hq
    refine ⟨parts, (Catalog.get?_modify_of_ne _ heq _).trans hget, fun part hpart => ?_⟩
    exact (hparts part hpart).changeContainer hr

/-- The containers of packets are in the database. -/
def Housed (d : Draft TelemetryState) : Prop :=
  ∀ spid r, d.stage.packetContainers.find? spid = some r →
    r.index < d.database.containers.size

/-- **A structure that is accepted is one part more of its container.** -/
theorem Expanded.expandStructure (h : Expanded start rows d) (hhoused : Housed start)
    {p : PacketRecord} {id : Int} {r : ContainerRef} {bit : Int} (hp : p ∈ start.stage.packets)
    (hid : p.structureId = some id) (hr : start.stage.packetContainers.find? p.spid = some r) :
    Ends (expandStructure r bit (taken start rows id)) d (fun _ => Expanded start rows)
      (Expanded start rows) := by
  refine (expandStructure_beside r bit _).mono (fun _ d' hrun hd' => ?_) fun _ => h.beside
  obtain ⟨d₁, change, hbeside, rfl⟩ := hd'
  have hlt := hhoused p.spid r hr
  refine (h.beside hbeside).changeContainer hlt fun k hk => ?_
  -- the parts that the container had before are still there, and the new one comes after them
  obtain ⟨parts, hget, hparts⟩ := h.entries r k hk
  obtain ⟨planned, m, entries, hplan, hget', hreal⟩ := expandStructure_eq_ok hrun hget
  refine ⟨parts ++ [entries], hget'.trans (by simp), fun part hpart => ?_⟩
  rcases List.mem_append.mp hpart with hold | hnew
  · exact ((hparts part hold).beside hbeside).changeContainer hlt
  · cases List.mem_singleton.mp hnew
    refine ⟨p, hp, id, planned, hid, hr, hreal.mono h.size (Nat.le_refl _) fun _ _ _ => rfl,
      ?_, hplan.covers, fun s hs => (hplan.covers.claimed [] s hs).groupAmong⟩
    rw [hplan.traverse_items, h.entryItem]

theorem Expanded.expandPacket (h : Expanded start rows d) (hhoused : Housed start)
    {p : PacketRecord} {id : Int} (hp : p ∈ start.stage.packets) (hid : p.structureId = some id) :
    Ends (expandPacket setting (taken start rows id) p) d (fun _ => Expanded start rows)
      (Expanded start rows) := by
  refine Ends.bind (ends_stage ?_)
  rw [h.packetContainers]
  cases hr : start.stage.packetContainers.find? p.spid with
  | none => exact h
  | some r =>
      refine Ends.recover (fun d e hd => ?_) (h.expandStructure hhoused hp hid hr)
      exact ⟨hd.packetContainers, hd.deduced, hd.parameters, hd.size, hd.entries⟩

/-! ## The table -/

/-- A structure that is in use comes out with its known elements, in their order. -/
theorem Taking.taken {id : Int} {elements : List VariableElement} (h : Taking start rows [] d)
    (hid : InUse start id)
    (hmem : (id, elements) ∈ (d.stage.structures.sortLists (·.position)).entries) :
    elements = Telemetry.taken start rows id := by
  obtain ⟨⟨n, es⟩, hes, heq⟩ := List.mem_map.mp hmem
  cases heq
  have helements := h.elements n hid
  rw [Index.find?_of_mem h.nodup hes, Option.getD_some] at helements
  have hnone : (recordsOf [] n).filter (known start) = [] := rfl
  rw [hnone, List.append_nil] at helements
  rw [helements, Telemetry.taken, structureRows, Index.filter_sortByKey]

theorem loadVariableLayout_ends (hrows : Build.rows setting "vpd" = .ok rows)
    (hnone : d.stage.structures.entries = []) (hhoused : Housed d) :
    Ends (loadVariableLayout setting) d (fun _ => Expanded d rows) fun _ => True := by
  have hstart : Taking d rows rows d := by
    refine ⟨rfl, rfl, ?_, fun id _ => ?_⟩
    · rw [Index.keys, hnone]
      exact List.nodup_nil
    · rw [Index.find?_of_entries_eq_nil hnone]
      rfl
  refine Ends.bind ((ends_scanRows (I := Taking d rows) hrows
    (fun rest d' e h => ⟨h.database, by rw [h.stage], h.nodup, h.elements⟩)
    (fun _ _ _ => trivial) (fun row rest d' h => declareElement_taking h) hstart).mono
    (fun _ d₁ _ h₁ => ?_) fun _ h => h)
  -- from here on the elements stay what they are, and containers are filled
  refine Ends.bind (ends_stage ?_)
  have hexpanded : Expanded d rows d₁ := by
    refine ⟨by rw [h₁.stage], by rw [h₁.stage], by rw [h₁.database],
      Nat.le_of_eq (by rw [h₁.database]), fun r k hk => ⟨[], ?_, by simp⟩⟩
    rw [h₁.database, hk]
    simp
  refine (ends_forM_mem (E := Expanded d rows) (fun e he d₂ h₂ => ?_) hexpanded).mono
    (fun _ _ _ h => h) fun _ _ => trivial
  obtain ⟨id, elements⟩ := e
  refine ends_forM_mem (fun p hp d₃ h₃ => ?_) h₂
  have hpackets : d₁.stage.packets = d.stage.packets := by rw [h₁.stage]
  obtain ⟨hmem, hid⟩ := List.mem_filter.mp hp
  rw [hpackets] at hmem
  have hstructure : p.structureId = some id := beq_iff_eq.mp hid
  rw [h₁.taken ⟨p, hmem, hstructure⟩ he]
  exact h₃.expandPacket hhoused hmem hstructure

end MissionBase.Telemetry
