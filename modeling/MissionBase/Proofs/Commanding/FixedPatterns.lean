import MissionBase.Proofs.Commanding.ElementGroups
import MissionBase.Proofs.Commanding.NameClashes
import MissionBase.Proofs.Commanding.Supplements
import MissionBase.Proofs.Course
import MissionBase.Proofs.Octets
import MissionBase.Proofs.Telemetry.Operations

/-!
# Fixed bit patterns

A fixed bit pattern comes from a record: from a constant field or from spare bits of a header, or
from a constant area of a command. The record says how many bits the pattern has, and it may give
digits for it. Both go into the entry as they are: digits are filled up with zeros to the octets
that the bits take, but nothing compares them with the bits. So a pattern can be longer than its
field, or be a number that its field cannot hold; this is so exactly where the digits do not fit.

- **`loadHeaders_carries`, `loadCommands_carries`**: every pattern is one that a record asks for.
- **`buildCommands_carries`**: so it is when all tables are read.
-/

namespace MissionBase

namespace Commanding

open Run Command Text

variable {setting : Setting} {d d' : Draft CommandingState} {fields elements : List Row}

/-! ## Patterns and their records -/

/-- The octets of a pattern: those of its digits, or zeros where it gives none. -/
def patternOctets (size : Nat) : Option String → Option (List UInt8)
  | some text => octets? text size
  | none => some (zeroOctets size)

/-- What the records of header fields and of command elements ask for: patterns of some bits, with
or without digits. -/
inductive Asks (setting : Setting) (fields elements : List Row) : Option String → Nat → Prop
  /-- A constant field of a header. -/
  | constant {row : Row} {text : String} {size : Nat} (mem : row ∈ fields)
      (flag : row.flagD 2 ' ' = 'F') (bits : sizeOf row 3 = .ok size)
      (digits : row.text 6 = .ok text) : Asks setting fields elements (some text) size
  /-- Spare bits of a header. -/
  | spare {row : Row} {size : Nat} (mem : row ∈ fields) (flag : row.flagD 2 ' ' = 'P')
      (bits : sizeOf row 3 = .ok size) : Asks setting fields elements none size
  /-- A constant area of a command. -/
  | area {row : Row} {e : CommandElement} (mem : row ∈ elements)
      (element : CommandElement.ofRow row setting.config.command.sizeTagBytes = .ok e)
      (kind : e.isArgument = false) : Asks setting fields elements e.value e.size

/-- An item is no pattern, or the pattern that some record asks for. -/
inductive Asked (setting : Setting) (fields elements : List Row) : CommandItem → Prop
  | argument (name : String) : Asked setting fields elements (.argument name)
  | fixedValue {name digits : Option String} {octets : List UInt8} {size : Nat}
      (asks : Asks setting fields elements digits size)
      (reads : patternOctets size digits = some octets) :
      Asked setting fields elements (.fixedValue name octets size)

/-- **A pattern is within the bits of its field exactly if the digits that it has fit.** -/
theorem patternOctets_withinBits_iff {size : Nat} {digits : Option String} {octets : List UInt8}
    (h : patternOctets size digits = some octets) :
    WithinBits octets size ↔ ∀ text ∈ digits, Fits text size := by
  cases digits with
  | none =>
      cases h
      exact iff_of_true (zeros_withinBits size) fun _ htext => nomatch htext
  | some text =>
      rw [octets?_withinBits_iff h]
      simp

theorem octets?_of_pattern {location : Location} {text : String} {size : Nat}
    {octets : List UInt8} (h : pattern location text size = .ok octets) :
    octets? text size = some octets := by
  unfold pattern at h
  cases hoctets : octets? text size with
  | none =>
      rw [hoctets] at h
      cases h
  | some os =>
      rw [hoctets] at h
      cases h
      rfl

theorem patternOctets_of_areaOctets {e : CommandElement} {octets : List UInt8}
    (h : areaOctets e = .ok octets) : patternOctets e.size e.value = some octets := by
  unfold areaOctets at h
  cases hvalue : e.value with
  | none =>
      rw [hvalue] at h
      cases h
      rfl
  | some text =>
      rw [hvalue] at h
      exact octets?_of_pattern h

/-! ## Items that commands carry -/

/-- Every item of every command has a property. -/
def Carries (P : CommandItem → Prop) (d : Draft CommandingState) : Prop :=
  ∀ r c, d.database.commands.get? r = some c → ∀ e ∈ c.entries, P e.item

variable {P : CommandItem → Prop}

theorem Carries.annotates (h : Carries P d) (hd : Annotates d d') : Carries P d' := by
  intro r c' hc' e he
  obtain ⟨c, hc, hplain⟩ := hd.symm.get? hc'
  have hentries : c.entries = c'.entries := (congrArg Command.entries hplain :)
  rw [← hentries] at he
  exact h r c hc e he

theorem Carries.changeCommand (h : Carries P d) (r : CommandRef) {change : Command → Command}
    (hchange : ∀ c, ∀ e ∈ (change c).entries, e ∈ c.entries ∨ P e.item) :
    Carries P { d with database := d.database.changeCommand r change } := by
  intro q c' hc' e he
  obtain ⟨c, hc, ⟨-, rfl⟩ | ⟨-, rfl⟩⟩ := Catalog.get?_modify_eq_some hc'
  · rcases hchange c e he with hold | hnew
    · exact h q c hc e hold
    · exact hnew
  · exact h q c hc e he

theorem Carries.pushCommand (h : Carries P d) {c : Command} (hc : ∀ e ∈ c.entries, P e.item) :
    Carries P
      { d with database := { d.database with commands := d.database.commands.push c } } := by
  intro q k hk e he
  rcases Catalog.get?_push_eq_some hk with hold | ⟨-, rfl⟩
  · exact h q k hold e he
  · exact hc e he

/-! ## Headers -/

/-- A header begins without entries. -/
theorem Carries.withTemplate (h : Carries P d) (name : String) : Carries P (withTemplate d name) :=
  h.pushCommand (c := { Command.named name with isAbstract := true }) nofun

/-- **What a header field holds is what its record asks for**, and no entry changes for it. -/
theorem Carries.fieldItem (h : Carries (Asked setting fields elements) d) {row : Row}
    (hrow : row ∈ fields) {size : Nat} (hsize : sizeOf row 3 = .ok size) {header : String}
    {command : CommandRef} {item : CommandItem}
    (hitem : FieldItem d row header command size item d') :
    Carries (Asked setting fields elements) d' ∧ Asked setting fields elements item := by
  cases hitem with
  | constant hflag htext hoctets =>
      exact ⟨h, .fixedValue (.constant hrow hflag hsize htext) (octets?_of_pattern hoctets)⟩
  | spare hflag => exact ⟨h, .fixedValue (.spare hrow hflag hsize) rfl⟩
  | argument _ _ htyped =>
      refine ⟨(h.annotates htyped.annotates).changeCommand command fun c e he => .inl ?_,
        .argument _⟩
      rwa [entries_declaring] at he

theorem placeHeaderField_carries (h : Carries (Asked setting fields elements) d) {row : Row}
    (hrow : row ∈ fields) :
    Ends (placeHeaderField row) d (fun _ => Carries (Asked setting fields elements))
      (Carries (Asked setting fields elements)) := by
  refine ends_placeHeaderField h fun header t size bit item d' _ _ hsize hitem => ?_
  obtain ⟨hcarries, hasked⟩ := h.fieldItem hrow hsize hitem
  -- the header keeps the entries that it has, and the new one comes last
  refine hcarries.changeCommand t.command fun c e he => ?_
  rcases List.mem_append.mp he with hold | hnew
  · exact .inl hold
  · rw [List.mem_singleton.mp hnew]
    exact .inr hasked

/-- **Every pattern of a header is one that a record of its table asks for.** -/
theorem loadHeaders_carries (hfields : Build.rows setting "pcdf" = .ok fields)
    (h : Carries (Asked setting fields elements) d) :
    Ends (loadHeaders setting) d (fun _ => Carries (Asked setting fields elements))
      fun _ => True := by
  have hrecord (d : Draft CommandingState) (e : Error)
      (hd : Carries (Asked setting fields elements) d) :
      Carries (Asked setting fields elements) { d with errors := d.errors ++ [e] } := hd
  unfold loadHeaders
  refine Ends.bind ((ends_scan hrecord h fun row d hd => ends_declareHeader hd fun name _ =>
    hd.withTemplate name).mono (fun _ d₁ _ h₁ => ?_) fun _ _ => trivial)
  refine Ends.bind ((ends_scan hrecord h₁ fun row d hd => ends_declareHeaderArgument hd
    fun _ _ _ _ => hd).mono (fun _ d₂ _ h₂ => ?_) fun _ _ => trivial)
  -- the rows still to come are rows of the table
  refine Ends.bind ((ends_scanRows
    (I := fun rest d => rest ⊆ fields ∧ Carries (Asked setting fields elements) d) hfields
    (fun _ _ _ h => h) (fun _ _ _ => trivial) (fun row rest d hd => ?_)
    ⟨List.Subset.refl _, h₂⟩).mono (fun _ _ _ h => h.2) fun _ _ => trivial)
  obtain ⟨hsubset, hcarries⟩ := hd
  obtain ⟨hmem, hrest⟩ := List.cons_subset.mp hsubset
  exact (placeHeaderField_carries hcarries hmem).mono (fun _ _ _ h => ⟨hrest, h⟩)
    fun _ h => ⟨hrest, h⟩

/-! ## Commands -/

/-- A constant area of a layout is one of the elements. -/
theorem Layout.mem_of_area {es : List CommandElement} {blocks : List Block}
    (h : Layout es blocks) {e : CommandElement} {octets : List UInt8}
    (hb : .area e octets ∈ blocks) : e ∈ es ∧ e.isArgument = false := by
  induction h with
  | nil => cases hb
  | area kind _ ih =>
      rcases List.mem_cons.mp hb with heq | hb
      · cases heq
        exact ⟨List.mem_cons_self, kind⟩
      · exact ⟨List.mem_cons_of_mem _ (ih hb).1, (ih hb).2⟩
  | argument _ _ _ ih =>
      rcases List.mem_cons.mp hb with heq | hb
      · cases heq
      · exact ⟨List.mem_cons_of_mem _ (ih hb).1, (ih hb).2⟩
  | once _ _ _ _ ih =>
      rcases List.mem_cons.mp hb with heq | hb
      · cases heq
      · exact ⟨List.mem_cons_of_mem _ (ih hb).1, (ih hb).2⟩
  | group _ _ _ _ _ ih =>
      rcases List.mem_cons.mp hb with heq | hb
      · cases heq
      · rcases List.mem_cons.mp hb with heq | hb
        · cases heq
        · exact ⟨List.mem_cons_of_mem _ (List.mem_append_right _ (ih hb).1), (ih hb).2⟩

/-- An element of a command is that of a record. -/
theorem exists_row_of_mem_commandRows {rows : List Row} {command : String} {e : CommandElement}
    (h : e ∈ commandRows setting rows command) :
    ∃ row ∈ rows, CommandElement.ofRow row setting.config.command.sizeTagBytes = .ok e := by
  have hmem : e ∈ recordsOf setting rows command := List.mem_mergeSort.mp h
  obtain ⟨row, hrow, he⟩ := List.mem_filterMap.mp hmem
  split at he
  · exact ⟨row, hrow, eq_ok_of_toOption he⟩
  · cases he

/-- **Every pattern of a command in step with its elements is one that a record asks for.** -/
theorem InStep.asked {c : Command} (h : InStep setting d c)
    (hrows : ∀ e ∈ (d.stage.elements.find? c.name).getD [],
      ∃ row ∈ elements, CommandElement.ofRow row setting.config.command.sizeTagBytes = .ok e) :
    ∀ e ∈ c.entries, Asked setting fields elements e.item := by
  obtain ⟨blocks, hlayout, hentries, hplaced⟩ := h
  intro entry hentry
  rw [hentries] at hentry
  obtain ⟨b, hb, rfl⟩ := List.mem_map.mp hentry
  -- of all blocks only a constant area has a pattern
  cases b with
  | area e octets =>
      obtain ⟨he, hkind⟩ := hlayout.mem_of_area hb
      obtain ⟨row, hrow, helement⟩ := hrows e he
      have hoctets : areaOctets e = .ok octets := hplaced _ hb
      exact .fixedValue (.area hrow helement hkind) (patternOctets_of_areaOctets hoctets)
  | argument _ name | once _ name | array _ _ name => exact .argument name

/-- **Every pattern of the commands that the tables add is one that a record asks for.** -/
theorem loadCommands_carries (helements : Build.rows setting "cdf" = .ok elements)
    (hparameters : d.stage.parameters.entries = []) (hunread : d.stage.elements.entries = [])
    (hshared : d.stage.argumentTypes.entries = [])
    (hidentifiers : d.stage.identifierTypes.entries = [])
    (h : Carries (Asked setting fields elements) d)
    (hrun : (do
      loadParameters setting
      loadElements setting
      loadCommands setting : CommandingBuild Unit) d = .ok () d') :
    Carries (Asked setting fields elements) d' := by
  intro r c hget
  rcases loadCommands_inRows helements hparameters hshared hidentifiers hunread hrun hget with
    hold | ⟨hstep, htaken⟩
  · exact h r c hold
  · refine hstep.asked fun e he => ?_
    rw [htaken] at he
    exact exists_row_of_mem_commandRows (List.mem_filter.mp he).1

/-! ## The command stage -/

/-- **Every pattern of a command or of a header template is one that a record asks for.** -/
theorem buildCommands_carries (hcommands : d.database.commands.size = 0)
    (hstage : gathered d.stage = gathered {}) (hrun : buildCommands setting d = .ok () d') :
    ∃ fields elements, Build.rows setting "pcdf" = .ok fields ∧
      Build.rows setting "cdf" = .ok elements ∧
      Carries (Asked setting fields elements) d' := by
  obtain ⟨_, d₁, h₁, hrun⟩ := bind_eq_ok.mp hrun
  obtain ⟨_, d₂, h₂, hrun⟩ := bind_eq_ok.mp hrun
  obtain ⟨_, d₃, h₃, hrun⟩ := bind_eq_ok.mp hrun
  obtain ⟨_, d₄, h₄, hrun⟩ := bind_eq_ok.mp hrun
  obtain ⟨_, d₅, h₅, hrun⟩ := bind_eq_ok.mp hrun
  obtain ⟨_, d₆, h₆, h₇⟩ := bind_eq_ok.mp hrun
  obtain ⟨fields, hfields⟩ : ∃ fields, Build.rows setting "pcdf" = .ok fields := by
    obtain ⟨_, _, _, h₁⟩ := bind_eq_ok.mp h₁
    obtain ⟨_, _, _, h₁⟩ := bind_eq_ok.mp h₁
    obtain ⟨_, _, hscan, -⟩ := bind_eq_ok.mp h₁
    exact exists_rows_of_scan hscan
  obtain ⟨elements, helements⟩ : ∃ elements, Build.rows setting "cdf" = .ok elements := by
    obtain ⟨_, _, hscan, -⟩ := bind_eq_ok.mp h₄
    exact exists_rows_of_scan hscan
  refine ⟨fields, elements, hfields, helements, ?_⟩
  -- before the headers are read there is no command
  have hstart : Carries (Asked setting fields elements) d := by
    intro r c hc
    have hlt := Catalog.lt_size_of_get? hc
    rw [hcommands] at hlt
    exact absurd hlt (Nat.not_lt_zero _)
  have hheaders := (loadHeaders_carries hfields hstart).of_ok h₁
  have hcalibrated := hheaders.annotates (annotates_calibrations.of_ok h₂)
  -- headers and calibrations leave what is gathered for commands as it was
  have hgathered : gathered d₂.stage = gathered {} :=
    (heading_loadCalibrations.of_ok h₂).stage.trans
      ((heading_loadHeaders.of_ok h₁).stage.trans hstage)
  simp only [gathered, Prod.mk.injEq] at hgathered
  obtain ⟨hparameters, hunread, hshared, hidentifiers⟩ := hgathered
  have hdefined : Carries (Asked setting fields elements) d₅ :=
    loadCommands_carries helements (by rw [hparameters]) (by rw [hunread]) (by rw [hshared])
      (by rw [hidentifiers]) hcalibrated
      (bind_eq_ok.mpr ⟨_, d₃, h₃, bind_eq_ok.mpr ⟨_, d₄, h₄, h₅⟩⟩)
  exact hdefined.annotates
    ((annotates_loadConstraints.of_ok h₆).trans (annotates_loadVerifiers.of_ok h₇))

end Commanding

open Commanding Run Text

/-- **A fixed pattern is within the bits of its field exactly if the digits of its record are.**
Spare bits and areas without digits always are. -/
theorem compile_fixedPatterns {config : Config} {files : Files}
    {compiler : Option FormulaCompiler} {out : Compiled}
    (h : compile config files compiler = .ok out) :
    ∃ setting fields elements, Setting.of config files = .ok setting ∧
      Build.rows setting "pcdf" = .ok fields ∧ Build.rows setting "cdf" = .ok elements ∧
      ∀ r c, out.database.commands.get? r = some c →
        ∀ entry ∈ c.entries, ∀ name octets size, entry.item = .fixedValue name octets size →
          ∃ digits, Asks setting fields elements digits size ∧
            patternOctets size digits = some octets ∧
            (WithinBits octets size ↔ ∀ text ∈ digits, Fits text size) := by
  obtain ⟨course⟩ := exists_course h
  -- no operation of the telemetry stage is about commands
  have hcommands : course.telemetry.database.commands.size = 0 := by
    have hoperations : Telemetry.Operations course.versioned.database course.telemetry.database :=
      (Telemetry.operates_buildTelemetry compiler).of_ok course.telemetry_eq
    rw [hoperations.commanding.1, course.blank]
    rfl
  obtain ⟨fields, elements, hfields, helements, hcarries⟩ :=
    buildCommands_carries hcommands rfl course.commanding_eq
  refine ⟨course.setting, fields, elements, course.setting_eq, hfields, helements, ?_⟩
  intro r c hc entry hentry name octets size hitem
  rw [course.database_eq] at hc
  have hasked := hcarries r c hc entry hentry
  rw [hitem] at hasked
  cases hasked with
  | fixedValue asks reads => exact ⟨_, asks, reads, patternOctets_withinBits_iff reads⟩

/-- A header with a constant field of four bits whose digits are those of eight. -/
def overlongFiles : Files :=
  .ofTables "m" [("vdf", "TEST\n"), ("tcp", "HDR\n"), ("pcdf", "HDR\t\tF\t4\t0\t\tFF\n")]

/-- The field is accepted, and its pattern is no number of four bits. -/
theorem overlong_digits_kept :
    ∃ (out : Compiled) (c : Command) (entry : CommandEntry) (digits : Option String),
      compile { path := "m" } overlongFiles none = .ok out ∧ out.errors = [] ∧
      out.database.commands.get? ⟨0⟩ = some c ∧ entry ∈ c.entries ∧
      entry.item = .fixedValue none [255] 4 ∧ patternOctets 4 digits = some [255] ∧
      ¬ WithinBits [255] 4 ∧ ¬ ∀ text ∈ digits, Fits text 4 := by
  have hok : ((compile { path := "m" } overlongFiles none).toOption.any fun out =>
      out.errors.isEmpty && (out.database.commands.get? ⟨0⟩).any fun c =>
        c.entries.any fun entry => decide (entry.item = .fixedValue none [255] 4)) = true := by
    decide +kernel
  obtain ⟨out, hout, hfacts⟩ := (Option.any_eq_true _ _).mp hok
  obtain ⟨herrors, hfacts⟩ := (Bool.and_eq_true _ _).mp hfacts
  obtain ⟨c, hc, hfacts⟩ := (Option.any_eq_true _ _).mp hfacts
  obtain ⟨entry, hentry, hfacts⟩ := List.any_eq_true.mp hfacts
  have hitem := of_decide_eq_true hfacts
  have hrun := eq_ok_of_toOption hout
  obtain ⟨_, _, _, -, -, -, hpatterns⟩ := compile_fixedPatterns hrun
  obtain ⟨digits, -, hreads, hiff⟩ := hpatterns ⟨0⟩ c hc entry hentry none [255] 4 hitem
  have hnot : ¬ WithinBits [255] 4 := fun hwithin => absurd hwithin.2 (by decide)
  exact ⟨out, c, entry, digits, hrun, List.isEmpty_iff.mp herrors, hc, hentry, hitem, hreads, hnot,
    fun hfits => hnot (hiff.mpr hfits)⟩

end MissionBase
