import MissionBase.Proofs.Commanding.Blocks
import MissionBase.Proofs.Groups

/-!
# Groups of command elements

The elements of a command are taken up while the table is read, and arguments of unknown parameters
are rejected then. The commands are defined afterwards, from the elements that are left, in the
order of their bits. So every array in a command is a group as `GroupAmong` says it, with respect to
all records of the command.
-/

namespace MissionBase.Commanding

open Run

variable {setting : Setting} {start d d' : Draft CommandingState} {rows rest : List Row}

/-! ## What arrays cover -/

/-- What the arrays among blocks cover of the elements, where the first element has a place. -/
def spans (first : Nat) : List Block → List Span
  | [] => []
  | .array _ members _ :: rest => ⟨first, members.length⟩ :: spans (first + members.length) rest
  | .area _ _ :: rest | .argument _ _ :: rest | .once _ _ :: rest => spans (first + 1) rest

/-- **Every array covers what some counter claims.** -/
theorem Layout.claimed {elements : List CommandElement} {blocks : List Block}
    (h : Layout elements blocks) : ∀ (before : List CommandElement),
    ∀ s ∈ spans before.length blocks, Claimed CommandElement.groupSize (before ++ elements) s := by
  induction h with
  | nil =>
      intro before s hs
      rw [spans] at hs
      cases hs
  | @area e octets rest blocks _ _ ih =>
      intro before s hs
      rw [spans] at hs
      have hrest := ih (before ++ [e]) s (by simpa using hs)
      simpa using hrest
  | @argument e name rest blocks _ _ _ ih =>
      intro before s hs
      rw [spans] at hs
      have hrest := ih (before ++ [e]) s (by simpa using hs)
      simpa using hrest
  | @once e name rest blocks _ _ _ _ ih =>
      intro before s hs
      rw [spans] at hs
      have hrest := ih (before ++ [e]) s (by simpa using hs)
      simpa using hrest
  | @group e name arrayName members rest blocks _ hsize _ _ _ ih =>
      intro before s hs
      rw [spans, spans] at hs
      rcases List.mem_cons.mp hs with rfl | hs
      · exact ⟨before, e, members ++ rest, rfl, by rw [hsize], by simp [hsize]⟩
      · have hplace : (before ++ e :: members).length = before.length + 1 + members.length := by
          rw [List.length_append, List.length_cons]
          omega
        have hrest := ih (before ++ e :: members) s (by rw [hplace]; exact hs)
        simpa using hrest

/-- What a counter claims is an array, if nothing of it counts again. -/
theorem Layout.mem_spans {e : CommandElement} {rest : List CommandElement} {blocks : List Block}
    (h : Layout (e :: rest) blocks) (hkind : e.isArgument = true) (hcounts : e.groupSize ≠ 0)
    (hplain : ∀ m ∈ rest.take e.groupSize, m.groupSize = 0) :
    ⟨1, e.groupSize⟩ ∈ spans 0 blocks := by
  cases h with
  | area kind _ =>
      rw [kind] at hkind
      cases hkind
  | argument _ size _ => exact absurd size hcounts
  | once _ _ nested _ =>
      obtain ⟨m, hm, hpos⟩ := nested
      exact absurd (hplain m hm) (Nat.pos_iff_ne_zero.mp hpos)
  | group _ size _ _ _ =>
      rw [spans, spans, size]
      exact List.mem_cons_self

/-! ## Taking up elements -/

/-- Whether an element of a command is taken up: commands of binary data have none, and the
parameters of arguments are known. -/
def takesUp (state : CommandingState) (command : String) (e : CommandElement) : Bool :=
  !isBinaryCommand command && (!e.isArgument || e.parameter.all state.parameters.has)

/-- The elements of a command in the order of their records, as far as these can be read. -/
def recordsOf (setting : Setting) (rows : List Row) (command : String) : List CommandElement :=
  rows.filterMap fun row =>
    if (row.text 0).toOption = some command then
      (CommandElement.ofRow row setting.config.command.sizeTagBytes).toOption
    else none

/-- The elements of a command in the order of their bits, rejected ones among them. -/
def commandRows (setting : Setting) (rows : List Row) (command : String) : List CommandElement :=
  Index.sortByKey (·.bit) (recordsOf setting rows command)

/-- The elements of a command that are taken up, in the order of their records. -/
def takenOf (setting : Setting) (state : CommandingState) (rows : List Row) (command : String) :
    List CommandElement :=
  (recordsOf setting rows command).filter (takesUp state command)

/-- The records have been read up to the ones that are still to come. -/
structure Taking (setting : Setting) (start : Draft CommandingState) (rows rest : List Row)
    (d : Draft CommandingState) : Prop where
  parameters : d.stage.parameters = start.stage.parameters
  elements : ∀ name, (d.stage.elements.find? name).getD [] ++
    takenOf setting start.stage rest name = takenOf setting start.stage rows name

theorem takenOf_cons {row : Row} {command : String} {e : CommandElement}
    (hname : row.text 0 = .ok command)
    (hrow : CommandElement.ofRow row setting.config.command.sizeTagBytes = .ok e)
    (state : CommandingState) (rest : List Row) (name : String) :
    takenOf setting state (row :: rest) name =
      (if command = name ∧ takesUp state name e = true then [e] else []) ++
        takenOf setting state rest name := by
  unfold takenOf recordsOf
  rw [List.filterMap_cons, hname, hrow]
  by_cases heq : command = name <;> by_cases htakes : takesUp state name e = true <;>
    simp [Except.toOption, heq, htakes]

/-- A record of which nothing is taken up. -/
theorem Taking.skip {row : Row} (h : Taking setting start rows (row :: rest) d)
    (hskip : ∀ name, takenOf setting start.stage (row :: rest) name =
      takenOf setting start.stage rest name) : Taking setting start rows rest d where
  parameters := h.parameters
  elements := fun name => by rw [← hskip name, h.elements name]

/-- A record whose element is taken up. -/
theorem Taking.take {row : Row} {command : String} {e : CommandElement}
    (h : Taking setting start rows (row :: rest) d) (hname : row.text 0 = .ok command)
    (hrow : CommandElement.ofRow row setting.config.command.sizeTagBytes = .ok e)
    (htakes : takesUp start.stage command e = true) :
    Taking setting start rows rest { d with stage := { d.stage with
      elements := d.stage.elements.append command e } } where
  parameters := h.parameters
  elements := by
    intro name
    have helements := h.elements name
    rw [takenOf_cons hname hrow] at helements
    show ((d.stage.elements.append command e).find? name).getD [] ++ _ = _
    rw [Index.getD_find?_append, List.append_assoc, ← helements]
    by_cases heq : command = name
    · subst heq
      simp [htakes]
    · simp [heq]

/-- **An element is taken up unless its command is binary or its parameter unknown.** -/
theorem declareElement_taking {row : Row} (h : Taking setting start rows (row :: rest) d) :
    Ends (declareElement setting row) d (fun _ => Taking setting start rows rest)
      (Taking setting start rows rest) := by
  unfold declareElement
  refine Ends.bind ?_
  cases hname : row.text 0 with
  | error e =>
      refine h.skip fun name => ?_
      simp [takenOf, recordsOf, hname, Except.toOption]
  | ok command =>
      show Ends (if _ then _ else _) d _ _
      cases hrow : CommandElement.ofRow row setting.config.command.sizeTagBytes with
      | error e =>
          have hskip := h.skip fun name => by simp [takenOf, recordsOf, hrow, Except.toOption]
          split
          · exact Ends.bind hskip
          · exact hskip
      | ok e =>
          -- a record is passed over exactly if its element is none to take up
          have hskip (hnot : takesUp start.stage command e = false) :=
            h.skip fun name => by
              rw [takenOf_cons hname hrow, if_neg, List.nil_append]
              rintro ⟨rfl, htakes⟩
              rw [hnot] at htakes
              cases htakes
          split
          · rename_i hbinary
            refine Ends.bind ?_
            refine Ends.bind (ends_stage ?_)
            have htake (hknown : (!e.isArgument || e.parameter.all start.stage.parameters.has) =
                true) := h.take hname hrow (by rw [takesUp, hbinary, hknown, Bool.and_self])
            rw [h.parameters]
            cases hparameter : e.parameter with
            | none => exact htake (by simp [hparameter])
            | some name =>
                dsimp only
                split
                · rename_i hunknown
                  refine Ends.bind (hskip ?_)
                  simpa [takesUp, hparameter] using fun _ => hunknown
                · rename_i hknown
                  refine htake ?_
                  simpa [hparameter, Classical.or_iff_not_imp_left] using hknown
          · rename_i hbinary
            exact hskip (by rw [takesUp, Bool.eq_false_iff.mpr hbinary, Bool.false_and])

/-! ## The tables -/

/-- A scan of the elements leaves those that are taken up, in the order of their bits. -/
theorem loadElements_taken (hrows : Build.rows setting "cdf" = .ok rows)
    (hnone : d.stage.elements.entries = []) :
    Ends (loadElements setting) d (fun _ d' => d'.stage.parameters = d.stage.parameters ∧
      ∀ name, (d'.stage.elements.find? name).getD [] =
        (commandRows setting rows name).filter (takesUp d.stage name)) fun _ => True := by
  have hstart : Taking setting d rows rows d := by
    refine ⟨rfl, fun name => ?_⟩
    rw [Index.find?_of_entries_eq_nil hnone]
    rfl
  refine Ends.bind ((ends_scanRows (I := Taking setting d rows) hrows
    (fun _ _ _ h => ⟨h.parameters, h.elements⟩) (fun _ _ _ => trivial)
    (fun _ _ _ h => declareElement_taking h) hstart).mono (fun _ d₁ _ h₁ => ?_) fun _ h => h)
  refine ⟨h₁.parameters, fun name => ?_⟩
  have helements := h₁.elements name
  have hdone : takenOf setting d.stage [] name = [] := rfl
  rw [hdone, List.append_nil] at helements
  show ((d₁.stage.elements.sortLists (·.bit)).find? name).getD [] = _
  rw [commandRows, Index.filter_sortByKey, ← takenOf, ← helements, Index.sortLists,
    Index.find?_mapValues]
  cases d₁.stage.elements.find? name with
  | none => simp [Index.sortByKey]
  | some es => rfl

theorem loadParameters_elements :
    Ends (loadParameters setting) d (fun _ d' => d'.stage.elements = d.stage.elements)
      (fun _ => True) := by
  let Same (d' : Draft CommandingState) : Prop := d'.stage.elements = d.stage.elements
  refine Ends.bind ((ends_scan (Q := Same) (fun _ _ h => h) rfl fun row d₁ h₁ => ?_).mono
    (fun _ _ _ h => h) fun _ _ => trivial)
  refine Ends.bind (ends_lift (fun p _ => ?_) h₁)
  refine Ends.bind (ends_stage ?_)
  dsimp only
  split
  · exact ends_throw h₁
  · exact h₁

/-- Commands are defined from what was taken up, and nothing of it changes. -/
theorem loadCommands_keeps (h : Sound setting d) :
    Ends (loadCommands setting) d (fun _ => Keeps d) fun _ => True := by
  refine Ends.bind ((ends_scan (Q := fun d' => Keeps d d' ∧ Sound setting d')
    (fun d₁ e h₁ => ?_) ⟨Std.Refl.refl d, h⟩ fun row d₁ h₁ => ?_).mono
    (fun _ _ _ h => h.1) fun _ _ => trivial)
  · have haside : Aside setting d₁ { d₁ with errors := d₁.errors ++ [e] } := h₁.2.same rfl rfl
    exact ⟨h₁.1.trans haside.keeps, haside.sound⟩
  · refine (defineCommand_ends h₁.2 row).mono (fun _ d₂ _ h₂ => ?_) fun d₂ h₂ => ?_
    · rcases h₂ with haside | ⟨hkeeps, hsound, _⟩
      · exact ⟨h₁.1.trans haside.keeps, haside.sound⟩
      · exact ⟨h₁.1.trans hkeeps, hsound⟩
    · exact ⟨h₁.1.trans h₂.keeps, h₂.sound⟩

/-- **Every command that the tables add is in step with the elements of its records that are taken
up.** -/
theorem loadCommands_inRows (hrows : Build.rows setting "cdf" = .ok rows)
    (hparameters : d.stage.parameters.entries = [])
    (hshared : d.stage.argumentTypes.entries = [])
    (hidentifiers : d.stage.identifierTypes.entries = [])
    (helements : d.stage.elements.entries = [])
    (hrun : (do
      loadParameters setting
      loadElements setting
      loadCommands setting : CommandingBuild Unit) d = .ok () d')
    {r : CommandRef} {c : Command} (hget : d'.database.commands.get? r = some c) :
    d.database.commands.get? r = some c ∨
      InStep setting d' c ∧ (d'.stage.elements.find? c.name).getD [] =
        (commandRows setting rows c.name).filter (takesUp d'.stage c.name) := by
  obtain ⟨_, d₁, h₁, hrun⟩ := bind_eq_ok.mp hrun
  obtain ⟨_, d₂, h₂, h₃⟩ := bind_eq_ok.mp hrun
  have hstart : Unused d d := by
    refine ⟨fun name p hp => ?_, hshared, hidentifiers, rfl⟩
    rw [Index.find?_of_entries_eq_nil hparameters] at hp
    cases hp
  have hunused₁ := (loadParameters_ends hstart).of_ok h₁
  obtain ⟨hunused₂, hsorted⟩ := (loadElements_ends hunused₁).of_ok h₂
  have hbegin : Defined setting d d₂ := by
    refine ⟨hunused₂.sound, hsorted, fun r c hr => .inl ?_⟩
    rw [← hunused₂.database]
    exact hr
  have hdefined := (loadCommands_ends hbegin).of_ok h₃
  have hkeeps := (loadCommands_keeps hunused₂.sound).of_ok h₃
  obtain ⟨hparameters₂, htaken⟩ := (loadElements_taken hrows
    (loadParameters_elements.of_ok h₁ ▸ helements)).of_ok h₂
  -- what an element needs to be taken up has not changed since
  have htakes : takesUp d₁.stage c.name = takesUp d'.stage c.name := by
    funext e
    rw [takesUp, takesUp, hkeeps.parameters, hparameters₂]
  rcases hdefined.inStep r c hget with hold | hstep
  · exact .inl hold
  · refine .inr ⟨hstep, ?_⟩
    rw [hkeeps.elements, htaken, htakes]

/-- The arrays of a command are groups of its records. -/
def ArraysGrouped (setting : Setting) (state : CommandingState) (rows : List Row) (c : Command) :
    Prop :=
  ∃ blocks, Layout ((commandRows setting rows c.name).filter (takesUp state c.name)) blocks ∧
    c.entries = blocks.map Block.entry ∧
    ∀ s ∈ spans 0 blocks, GroupAmong CommandElement.groupSize (takesUp state c.name)
      (commandRows setting rows c.name) s

/-- **Every command that the tables add has the groups of its records.** -/
theorem loadCommands_grouped (hrows : Build.rows setting "cdf" = .ok rows)
    (hparameters : d.stage.parameters.entries = [])
    (hshared : d.stage.argumentTypes.entries = [])
    (hidentifiers : d.stage.identifierTypes.entries = [])
    (helements : d.stage.elements.entries = [])
    (hrun : (do
      loadParameters setting
      loadElements setting
      loadCommands setting : CommandingBuild Unit) d = .ok () d')
    {r : CommandRef} {c : Command} (hnew : d.database.commands.get? r = none)
    (hget : d'.database.commands.get? r = some c) :
    ArraysGrouped setting d'.stage rows c := by
  rcases loadCommands_inRows hrows hparameters hshared hidentifiers helements hrun hget with
    hold | ⟨⟨blocks, hlayout, hentries, _⟩, htaken⟩
  · rw [hnew] at hold
    cases hold
  · rw [htaken] at hlayout
    exact ⟨blocks, hlayout, hentries, fun s hs => (hlayout.claimed [] s hs).groupAmong⟩

end MissionBase.Commanding
