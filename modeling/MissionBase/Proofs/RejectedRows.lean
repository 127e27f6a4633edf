import MissionBase.Proofs.Commanding.ElementGroups
import MissionBase.Proofs.Telemetry.Identification
import MissionBase.Proofs.Telemetry.StructureGroups

/-!
# Rejected rows and groups

Rows of variable structures and of commands are rejected while their table is read, one by one, and
what is left is laid out afterwards. A group is counted on what is left: a repetition covers as many
of the rows after its counter as this one claims, but only of those that were not rejected. So a row
that is rejected inside of a group does not make the group smaller. The row after the group takes
its place, and is repeated though no counter claims it.
-/

namespace MissionBase

open Run

/-- A container with conditions is in the database. -/
theorem Conditions.lt_size {db : Database} {r : ContainerRef} {cs : List Comparison}
    (h : Conditions db r cs) : r.index < db.containers.size := by
  cases h with
  | root get _ => exact Catalog.lt_size_of_get? get
  | derived get _ _ => exact Catalog.lt_size_of_get? get

/-- The containers of packets are there when the packets have been read. -/
theorem Telemetry.loadPackets_housed {setting : Setting} {d : Draft TelemetryState}
    (h : Unplaced d.stage) : Ends (loadPackets setting) d (fun _ => Housed) fun _ => True := by
  refine (loadPackets_ends h).mono (fun _ d' _ h' spid r hr => ?_) fun _ h => h
  rcases h'.2 with hnone | ⟨root, hid⟩
  · rw [Index.find?_of_entries_eq_nil hnone] at hr
    cases hr
  · obtain ⟨one, two, _, htold⟩ := hid.told
    obtain ⟨p, _, _, _, hconditions, _⟩ := htold spid r hr
    exact hconditions.lt_size

/--
**A repetition covers the rows that its counter claims exactly if none of them was rejected.**

The entries that reading the variable layouts adds to a container are those of structures of its
packet, and every repetition in them, at any depth, covers the first rows after its counter that
were taken up, as many as it claims. It is the same for every array in every command. These rows are
among those that the counter claims of all rows, in the order of their positions or bits, exactly if
all of the latter were taken up.
-/
theorem repetitions_groupAmong (setting : Setting) :
    (∀ {d d' : Draft TelemetryState} {rows : List Row},
      Build.rows setting "vpd" = .ok rows → d.stage.structures.entries = [] →
      Telemetry.Housed d → Telemetry.loadVariableLayout setting d = .ok () d' →
      ∀ {r : ContainerRef} {k : Container}, d.database.containers.get? r = some k →
      ∃ parts : List (List Entry),
        d'.database.containers.get? r = some { k with entries := k.entries ++ parts.flatten } ∧
        ∀ part ∈ parts, Telemetry.Expansion d rows d'.database r part) ∧
    (∀ {d d' : Draft CommandingState} {rows : List Row},
      Build.rows setting "cdf" = .ok rows → d.stage.parameters.entries = [] →
      d.stage.argumentTypes.entries = [] → d.stage.identifierTypes.entries = [] →
      d.stage.elements.entries = [] →
      (do
        Commanding.loadParameters setting
        Commanding.loadElements setting
        Commanding.loadCommands setting : CommandingBuild Unit) d = .ok () d' →
      ∀ {r : CommandRef} {c : Command}, d.database.commands.get? r = none →
      d'.database.commands.get? r = some c →
      Commanding.ArraysGrouped setting d'.stage rows c) := by
  constructor
  · intro d d' rows hrows hnone hhoused hrun r k hk
    have hexpanded := (Telemetry.loadVariableLayout_ends hrows hnone hhoused).of_ok hrun
    exact hexpanded.entries r k hk
  · intro d d' rows hrows hparameters hshared hidentifiers helements hrun r c hnew hget
    exact Commanding.loadCommands_grouped hrows hparameters hshared hidentifiers helements hrun
      hnew hget

/-- A structure and a command, each with a counter, an unknown row right after it and known ones
after that. The counter of the structure claims two rows, that of the command one. -/
def groupSetting : Setting :=
  .ofTables [
    ("pic", ""), ("pid", "3\t25\t100\t0\t0\t1\t\t\t1\t10\n"), ("tpcf", ""),
    ("vpd", "1\t1\tN\t2\t0\n1\t2\tX\t0\t0\n1\t3\tA\t0\t0\n1\t4\tB\t0\t0\n"),
    ("cpc", "N\t\t3\t4\nA\t\t3\t4\nB\t\t3\t12\n"),
    ("cdf", "CMD\tE\t\t8\t0\t1\tN\nCMD\tE\t\t8\t8\t0\tX\n" ++
      "CMD\tE\t\t8\t16\t0\tA\nCMD\tE\t\t16\t24\t0\tB\n"),
    ("ccf", "CMD\ta command\t\t\tN\tNOHEADER\n")]

/-- The known parameters of the structure. -/
def groupDraft : Draft TelemetryState where
  database := {
    name := "MIB"
    parameters := ⟨#[{ name := "N", type := ⟨0⟩ }, { name := "A", type := ⟨0⟩ },
      { name := "B", type := ⟨0⟩ }]⟩ }
  stage := {}

/-- The records of the structure. -/
def structureTable : List Row := [
  ⟨["1", "1", "N", "2", "0"], ⟨"vpd.dat", 1⟩⟩, ⟨["1", "2", "X", "0", "0"], ⟨"vpd.dat", 2⟩⟩,
  ⟨["1", "3", "A", "0", "0"], ⟨"vpd.dat", 3⟩⟩, ⟨["1", "4", "B", "0", "0"], ⟨"vpd.dat", 4⟩⟩]

/-- The elements of the structure. -/
def structureElements : List VariableElement := [
  ⟨⟨"vpd.dat", 1⟩, 1, 1, "N", 2, 0, 0⟩, ⟨⟨"vpd.dat", 2⟩, 1, 2, "X", 0, 0, 0⟩,
  ⟨⟨"vpd.dat", 3⟩, 1, 3, "A", 0, 0, 0⟩, ⟨⟨"vpd.dat", 4⟩, 1, 4, "B", 0, 0, 0⟩]

theorem structureRows_structureTable :
    Telemetry.structureRows structureTable 1 = structureElements := by
  have hrecords : Telemetry.recordsOf structureTable 1 = structureElements := by decide +kernel
  rw [Telemetry.structureRows, hrecords]
  exact Index.sortByKey_of_pairwise (by decide)

/-- The structure is expanded without the unknown element. -/
theorem exists_structure_run :
    ∃ (d d' : Draft TelemetryState) (r : ContainerRef) (k k' : Container),
      Build.rows groupSetting "vpd" = .ok structureTable ∧ d.stage.structures.entries = [] ∧
      Telemetry.Housed d ∧ Telemetry.loadVariableLayout groupSetting d = .ok () d' ∧
      d.database.containers.get? r = some k ∧ d'.database.containers.get? r = some k' ∧
      k.entries.length < k'.entries.length ∧
      (∀ p ∈ d.stage.packets, p.structureId = some 1) ∧
      structureElements.map (Telemetry.known d) = [true, false, true, true] := by
  have hrows : Build.rows groupSetting "vpd" = .ok structureTable :=
    eq_ok_of_toOption (by decide +kernel)
  have hok : (after? (Telemetry.loadPackets groupSetting) groupDraft).any (fun d =>
      (after? (Build.scan groupSetting "vpd" fun row => do
        Telemetry.declareElement row (← VariableElement.ofRow row)) d).any fun d₁ =>
      (after? (d₁.stage.structures.entries.forM fun e =>
        (d₁.stage.packets.filter fun p => p.structureId == some e.1).forM
          (Telemetry.expandPacket groupSetting e.2)) d₁).any fun d' =>
      (d.database.containers.get? ⟨1⟩).any fun k =>
      (d'.database.containers.get? ⟨1⟩).any fun k' =>
      decide (d.stage.structures.keys = [] ∧
        (∀ e ∈ d₁.stage.structures.entries, e.2.Pairwise fun a b => a.position ≤ b.position) ∧
        k.entries.length < k'.entries.length ∧
        (∀ p ∈ d.stage.packets, p.structureId = some 1) ∧
        structureElements.map (Telemetry.known d) = [true, false, true, true])) = true := by
    decide +kernel
  obtain ⟨d, h, hok⟩ := (Option.any_eq_true _ _).mp hok
  obtain ⟨d₁, h₁, hok⟩ := (Option.any_eq_true _ _).mp hok
  obtain ⟨d', h', hok⟩ := (Option.any_eq_true _ _).mp hok
  obtain ⟨k, hk, hok⟩ := (Option.any_eq_true _ _).mp hok
  obtain ⟨k', hk', hok⟩ := (Option.any_eq_true _ _).mp hok
  obtain ⟨hnone, hsorted, hlonger, hpackets, hknown⟩ := of_decide_eq_true hok
  obtain ⟨_, h⟩ := after?_eq_some.mp h
  obtain ⟨n, h₁⟩ := after?_eq_some.mp h₁
  obtain ⟨_, h'⟩ := after?_eq_some.mp h'
  have hhoused := (Telemetry.loadPackets_housed (d := groupDraft)
    ⟨List.nodup_nil, rfl⟩).of_ok h
  -- the elements are declared in the order of their positions, so sorting leaves them as they are
  have hrun : Telemetry.loadVariableLayout groupSetting d = .ok () d' := by
    refine bind_eq_ok.mpr ⟨n, d₁, h₁, bind_eq_ok.mpr ⟨d₁.stage, d₁, rfl, ?_⟩⟩
    rw [Index.sortLists_of_sorted hsorted]
    exact h'
  exact ⟨d, d', ⟨1⟩, k, k', hrows, List.map_eq_nil_iff.mp hnone, hhoused, hrun, hk, hk', hlonger,
    hpackets, hknown⟩

/-- The records of the command. -/
def commandTable : List Row := [
  ⟨["CMD", "E", "", "8", "0", "1", "N"], ⟨"cdf.dat", 1⟩⟩,
  ⟨["CMD", "E", "", "8", "8", "0", "X"], ⟨"cdf.dat", 2⟩⟩,
  ⟨["CMD", "E", "", "8", "16", "0", "A"], ⟨"cdf.dat", 3⟩⟩,
  ⟨["CMD", "E", "", "16", "24", "0", "B"], ⟨"cdf.dat", 4⟩⟩]

/-- An element of the command. -/
def commandElement (line size bit groupSize : Nat) (parameter : String) : CommandElement where
  location := ⟨"cdf.dat", line⟩
  kind := .editable
  description := none
  size := size
  bit := bit
  groupSize := groupSize
  parameter := some parameter
  origin := .raw
  value := none
  telemetryParameter := none
  sizeTagBytes := 1

/-- The elements of the command. -/
def commandElements : List CommandElement := [
  commandElement 1 8 0 1 "N", commandElement 2 8 8 0 "X", commandElement 3 8 16 0 "A",
  commandElement 4 16 24 0 "B"]

theorem commandRows_commandTable :
    Commanding.commandRows groupSetting commandTable "CMD" = commandElements := by
  have hrecords : Commanding.recordsOf groupSetting commandTable "CMD" = commandElements := by
    decide +kernel
  rw [Commanding.commandRows, hrecords]
  exact Index.sortByKey_of_pairwise (by decide)

/-- The command is defined without the unknown element. -/
theorem exists_command_run :
    ∃ (d d' : Draft CommandingState) (c : Command),
      Build.rows groupSetting "cdf" = .ok commandTable ∧ d.stage.parameters.entries = [] ∧
      d.stage.argumentTypes.entries = [] ∧ d.stage.identifierTypes.entries = [] ∧
      d.stage.elements.entries = [] ∧
      (do
        Commanding.loadParameters groupSetting
        Commanding.loadElements groupSetting
        Commanding.loadCommands groupSetting : CommandingBuild Unit) d = .ok () d' ∧
      d.database.commands.get? ⟨0⟩ = none ∧ d'.database.commands.get? ⟨0⟩ = some c ∧
      c.name = "CMD" ∧
      commandElements.map (Commanding.takesUp d'.stage "CMD") = [true, false, true, true] := by
  have hrows : Build.rows groupSetting "cdf" = .ok commandTable :=
    eq_ok_of_toOption (by decide +kernel)
  have hok : (after? (Commanding.loadParameters groupSetting)
      { database := { name := "MIB" }, stage := {} }).any (fun d₁ =>
        (after? (Build.scan groupSetting "cdf" (Commanding.declareElement groupSetting)) d₁).any
          fun d₂ =>
        (after? (Commanding.loadCommands groupSetting) d₂).any fun d' =>
        (d'.database.commands.get? ⟨0⟩).any fun c =>
        decide ((∀ e ∈ d₂.stage.elements.entries, e.2.Pairwise fun a b => a.bit ≤ b.bit) ∧
          c.name = "CMD" ∧ commandElements.map (Commanding.takesUp d'.stage "CMD") =
            [true, false, true, true])) = true := by decide +kernel
  obtain ⟨d₁, h₁, hok⟩ := (Option.any_eq_true _ _).mp hok
  obtain ⟨d₂, h₂, hok⟩ := (Option.any_eq_true _ _).mp hok
  obtain ⟨d', h', hok⟩ := (Option.any_eq_true _ _).mp hok
  obtain ⟨c, hc, hok⟩ := (Option.any_eq_true _ _).mp hok
  obtain ⟨hsorted, hname, htakes⟩ := of_decide_eq_true hok
  obtain ⟨_, h₁⟩ := after?_eq_some.mp h₁
  obtain ⟨n, h₂⟩ := after?_eq_some.mp h₂
  obtain ⟨_, h'⟩ := after?_eq_some.mp h'
  have helements : Commanding.loadElements groupSetting d₁ = .ok () d₂ := by
    refine bind_eq_ok.mpr ⟨n, d₂, h₂, changeStage_eq_ok.mpr ?_⟩
    rw [Index.sortLists_of_sorted hsorted]
  exact ⟨{ database := { name := "MIB" }, stage := {} }, d', c, hrows, rfl, rfl, rfl, rfl,
    bind_eq_ok.mpr ⟨(), d₁, h₁, bind_eq_ok.mpr ⟨(), d₂, helements, h'⟩⟩, rfl, hc, hname, htakes⟩

/-- Some items are kept of a list of four: all but the second. -/
theorem filter_of_map_eq {α : Type} {p : α → Bool} {a b c e : α}
    (h : [a, b, c, e].map p = [true, false, true, true]) : [a, b, c, e].filter p = [a, c, e] := by
  simp only [List.map_cons, List.map_nil, List.cons.injEq] at h
  simp [h]

/-- The rows after the groups are repeated: the last element of the structure, and the last but one
of the command. -/
theorem rejected_rows_are_replaced :
    (∃ (d d' : Draft TelemetryState) (r : ContainerRef) (k : Container)
        (parts : List (List Entry)) (part : List Entry) (planned : List PlannedEntry),
      Build.rows groupSetting "vpd" = .ok structureTable ∧ d.stage.structures.entries = [] ∧
      Telemetry.Housed d ∧ Telemetry.loadVariableLayout groupSetting d = .ok () d' ∧
      d.database.containers.get? r = some k ∧
      d'.database.containers.get? r = some { k with entries := k.entries ++ parts.flatten } ∧
      part ∈ parts ∧ Telemetry.Realizes d'.database d.database.containers.size
        d'.database.containers.size planned part ∧
      Telemetry.structureRows structureTable 1 = structureElements ∧
      ⟨1, 2⟩ ∈ Telemetry.spans 0 planned ∧
      ¬ (Span.of ⟨1, 2⟩ (structureElements.filter (Telemetry.known d))).Sublist
        ((structureElements.drop 1).take 2)) ∧
    ∃ (d d' : Draft CommandingState) (c : Command) (blocks : List Commanding.Block),
      Build.rows groupSetting "cdf" = .ok commandTable ∧ d.stage.parameters.entries = [] ∧
      d.stage.argumentTypes.entries = [] ∧ d.stage.identifierTypes.entries = [] ∧
      d.stage.elements.entries = [] ∧
      (do
        Commanding.loadParameters groupSetting
        Commanding.loadElements groupSetting
        Commanding.loadCommands groupSetting : CommandingBuild Unit) d = .ok () d' ∧
      d.database.commands.get? ⟨0⟩ = none ∧ d'.database.commands.get? ⟨0⟩ = some c ∧
      c.entries = blocks.map Commanding.Block.entry ∧
      Commanding.commandRows groupSetting commandTable c.name = commandElements ∧
      ⟨1, 1⟩ ∈ Commanding.spans 0 blocks ∧
      ¬ (Span.of ⟨1, 1⟩ (commandElements.filter (Commanding.takesUp d'.stage c.name))).Sublist
        ((commandElements.drop 1).take 1) := by
  obtain ⟨hstructures, hcommands⟩ := repetitions_groupAmong groupSetting
  constructor
  · obtain ⟨d, d', r, k, k', hrows, hnone, hhoused, hrun, hk, hk', hlonger, hpackets, hknown⟩ :=
      exists_structure_run
    obtain ⟨parts, hparts, hexpansion⟩ := hstructures hrows hnone hhoused hrun hk
    -- the container is longer than before, so there is a structure in it
    obtain ⟨part, hpart⟩ : ∃ part, part ∈ parts := by
      refine List.exists_mem_of_ne_nil parts ?_
      rintro rfl
      rw [hk'] at hparts
      cases hparts
      simp at hlonger
    obtain ⟨p, hp, id, planned, hid, -, hreal, -, hcovers, -⟩ := hexpansion part hpart
    -- its counter claims two rows, and is repeated over two that are left
    have hone : id = 1 := Option.some.inj (hid.symm.trans (hpackets p hp))
    have hfilter := filter_of_map_eq hknown
    rw [hone, Telemetry.taken, structureRows_structureTable, structureElements, hfilter] at hcovers
    refine ⟨d, d', r, k, parts, part, planned, hrows, hnone, hhoused, hrun, hk, hparts, hpart,
      hreal, structureRows_structureTable, hcovers.mem_spans (by decide), ?_⟩
    rw [structureElements, hfilter]
    decide
  · obtain ⟨d, d', c, hrows, hparameters, hshared, hidentifiers, helements, hrun, hnew, hget,
      hname, htakes⟩ := exists_command_run
    obtain ⟨blocks, hlayout, hentries, -⟩ :=
      hcommands hrows hparameters hshared hidentifiers helements hrun hnew hget
    have hfilter := filter_of_map_eq htakes
    rw [hname, commandRows_commandTable, commandElements, hfilter] at hlayout
    refine ⟨d, d', c, blocks, hrows, hparameters, hshared, hidentifiers, helements, hrun, hnew,
      hget, hentries, ?_, hlayout.mem_spans rfl (by decide) (by decide), ?_⟩
    · rw [hname]
      exact commandRows_commandTable
    · rw [hname, commandElements, hfilter]
      decide

end MissionBase
