import MissionBase.Proofs.Commanding.HeaderBindings

/-!
# The names of arguments

The names that a command knows come from three sources: header arguments that it promotes, header
arguments that it binds, and the arguments that it places itself. A name for a new argument is free
among those that the command declares, so what it places is told apart from what it promotes. It is
not free among the arguments of the header that the command leaves there, so two sources may clash,
and the names are unambiguous exactly where none of them do.

Placing goes block by block, and every block keeps what is known of the three sources (`Speaks`).
-/

namespace MissionBase

namespace Command

/-- The names of the arguments that a command declares, in its own list and then in its fixed
set. -/
def argumentNames (c : Command) : List String := c.allArguments.map (·.name)

/-- The names of the arguments of the fixed set. -/
def fixedNames (c : Command) : List String := c.fixedDeclarations.map (·.name)

/-- The names that a command assigns values to, outside of its fixed set and then in it. -/
def assignedNames (c : Command) : List String := c.allAssignments.map (·.argument)

/-- An entry of a command is for the argument of a name. -/
def Enters (c : Command) (n : String) : Prop := ∃ e ∈ c.entries, e.item = .argument n

/-- The names of arguments are unambiguous, for a command that extends a header with some arguments
and promotes some of them. -/
structure Unambiguous (header promoted : List String) (c : Command) : Prop where
  /-- The command declares no name twice. -/
  distinct : c.argumentNames.Nodup
  /-- It declares none of its header's but for those that it promotes. -/
  apart : ∀ n ∈ c.argumentNames, n ∈ header → n ∈ promoted
  /-- What it enters, it declares. -/
  entered : ∀ n, c.Enters n → n ∈ c.argumentNames
  /-- An assignment names one argument, its own or its header's. -/
  resolved : ∀ n ∈ c.assignedNames, (c.argumentNames ++ header).count n = 1
  /-- No argument is assigned twice. -/
  once : c.assignedNames.Nodup

theorem argumentNames_eq (c : Command) :
    c.argumentNames = c.arguments.map (·.name) ++ c.fixedNames := List.map_append

theorem assignedNames_eq (c : Command) :
    c.assignedNames = c.assignments.map (·.argument) ++ c.fixedAssignments.map (·.argument) :=
  List.map_append

theorem hasArgument_eq_false_iff_notMem {c : Command} {n : String} :
    c.hasArgument n = false ↔ n ∉ c.argumentNames := by
  simp [hasArgument, argument?, argumentNames]

end Command

namespace Commanding

open Run Command

variable {setting : Setting} {d d' : Draft CommandingState} {c c' : Command}
  {promoted bound placed counted header : List String}

/-! ## The sources of names -/

/-- What a command knows of its names: it declares the promoted ones and those that it places, it
assigns to the bound ones and to some counters that it places, and it enters just what it places.
The names that it places are different, and none of them is promoted. -/
structure Speaks (promoted bound placed counted : List String) (c : Command) : Prop where
  arguments : c.arguments.map (·.name) = promoted ++ placed
  assignments : c.assignments.map (·.argument) = bound ++ counted
  /-- The fixed set assigns to just what it declares. -/
  fixedAssignments : c.fixedAssignments.map (·.argument) = c.fixedNames
  entries : ∀ n, c.Enters n ↔ n ∈ placed ++ c.fixedNames
  distinct : (placed ++ c.fixedNames).Nodup
  apart : promoted.Disjoint (placed ++ c.fixedNames)
  /-- A counter that is assigned to outside of the fixed set is none of the bound ones. -/
  counters : counted ⊆ placed ∧ counted.Nodup ∧ bound.Disjoint counted

/-- What a command declares. -/
theorem Speaks.argumentNames_eq (h : Speaks promoted bound placed counted c) :
    c.argumentNames = promoted ++ (placed ++ c.fixedNames) := by
  rw [Command.argumentNames_eq, h.arguments, List.append_assoc]

/-- What a command assigns to. -/
theorem Speaks.assignedNames_eq (h : Speaks promoted bound placed counted c) :
    c.assignedNames = bound ++ (counted ++ c.fixedNames) := by
  rw [Command.assignedNames_eq, h.assignments, h.fixedAssignments, List.append_assoc]

/-- A command declares no name twice unless it promotes one twice. -/
theorem Speaks.nodup_argumentNames_iff (h : Speaks promoted bound placed counted c) :
    c.argumentNames.Nodup ↔ promoted.Nodup := by
  rw [h.argumentNames_eq, List.nodup_append']
  exact ⟨fun hnd => hnd.1, fun hnd => ⟨hnd, h.distinct, h.apart⟩⟩

/-- Counters are placed, and so are the arguments of the fixed set. -/
theorem Speaks.counters_subset (h : Speaks promoted bound placed counted c) :
    counted ++ c.fixedNames ⊆ placed ++ c.fixedNames :=
  List.append_subset.mpr ⟨fun _ hn => List.mem_append_left _ (h.counters.1 hn),
    List.subset_append_right _ _⟩

/-- Where the names are unambiguous, no source clashes with another. -/
theorem Speaks.apart_of_unambiguous (h : Speaks promoted bound placed counted c)
    (hheader : header.Nodup) (hbound : bound ⊆ header) (hc : c.Unambiguous header promoted) :
    (promoted ++ bound).Nodup ∧ ∀ n, c.Enters n → n ∉ header := by
  rw [List.nodup_append']
  refine ⟨⟨h.nodup_argumentNames_iff.mp hc.distinct, ?_, fun n hn hb => ?_⟩, fun n hn hin => ?_⟩
  · have honce := hc.once
    rw [h.assignedNames_eq] at honce
    exact (List.nodup_append'.mp honce).1
  · -- the argument of the header and the promoted one would be two
    have hone := hc.resolved n (by rw [h.assignedNames_eq]; exact List.mem_append_left _ hb)
    have htwo : 0 < c.argumentNames.count n := by
      rw [h.argumentNames_eq, List.count_pos_iff]
      exact List.mem_append_left _ hn
    rw [List.count_append, List.count_eq_one_of_mem hheader (hbound hb)] at hone
    omega
  · have hmem := (h.entries n).mp hn
    refine h.apart (hc.apart n ?_ hin) hmem
    rw [h.argumentNames_eq]
    exact List.mem_append_right _ hmem

/-- Where no source clashes with another, an assignment names one argument. -/
theorem Speaks.count_eq_one (h : Speaks promoted bound placed counted c) (hheader : header.Nodup)
    (hbound : bound ⊆ header) (hnodup : promoted.Nodup) (hdisjoint : promoted.Disjoint bound)
    (houtside : ∀ n ∈ placed ++ c.fixedNames, n ∉ header) {n : String}
    (hn : n ∈ c.assignedNames) : (c.argumentNames ++ header).count n = 1 := by
  rw [h.assignedNames_eq] at hn
  rw [List.count_append]
  rcases List.mem_append.mp hn with hn | hn
  · have hnone : n ∉ c.argumentNames := by
      rw [h.argumentNames_eq, List.mem_append, not_or]
      exact ⟨fun hp => hdisjoint hp hn, fun hp => houtside n hp (hbound hn)⟩
    rw [List.count_eq_one_of_mem hheader (hbound hn), List.count_eq_zero_of_not_mem hnone]
  · have hmem := h.counters_subset hn
    have hin : n ∈ c.argumentNames := by
      rw [h.argumentNames_eq]
      exact List.mem_append_right _ hmem
    rw [List.count_eq_one_of_mem (h.nodup_argumentNames_iff.mpr hnodup) hin,
      List.count_eq_zero_of_not_mem (houtside n hmem)]

/-- **The names are unambiguous exactly where no source clashes with another**: no header argument
is promoted or bound twice, none is both, and none has the name of what the command places. -/
theorem Speaks.unambiguous_iff (h : Speaks promoted bound placed counted c)
    (hheader : header.Nodup) (hbound : bound ⊆ header) :
    c.Unambiguous header promoted ↔
      (promoted ++ bound).Nodup ∧ ∀ n, c.Enters n → n ∉ header := by
  refine ⟨h.apart_of_unambiguous hheader hbound, ?_⟩
  rintro ⟨hnodup, hfree⟩
  obtain ⟨hpromoted, hbinds, hdisjoint⟩ := List.nodup_append'.mp hnodup
  have houtside (n : String) (hn : n ∈ placed ++ c.fixedNames) : n ∉ header :=
    hfree n ((h.entries n).mpr hn)
  refine ⟨h.nodup_argumentNames_iff.mpr hpromoted, fun n hn hin => ?_, fun n hn => ?_,
    fun n hn => h.count_eq_one hheader hbound hpromoted hdisjoint houtside hn, ?_⟩
  · rw [h.argumentNames_eq] at hn
    rcases List.mem_append.mp hn with hn | hn
    · exact hn
    · exact absurd hin (houtside n hn)
  · rw [h.argumentNames_eq]
    exact List.mem_append_right _ ((h.entries n).mp hn)
  · rw [h.assignedNames_eq, List.nodup_append', List.nodup_append']
    refine ⟨hbinds, ⟨h.counters.2.1, ?_, fun n hn hf => ?_⟩, fun n hn hc => ?_⟩
    · exact (List.nodup_append'.mp h.distinct).2.1
    · exact (List.nodup_append'.mp h.distinct).2.2 (h.counters.1 hn) hf
    · exact houtside n (h.counters_subset hc) (hbound hn)

/-! ## Placing -/

theorem enters_withItem {item : CommandItem} {n : String} :
    (withItem c item).Enters n ↔ c.Enters n ∨ item = .argument n := by
  unfold Command.Enters withItem
  simp only [List.mem_append, List.mem_singleton, or_and_right, exists_or, exists_eq_left]

theorem enters_withArgument {a : Argument} {n : String} :
    (withArgument c a).Enters n ↔ c.Enters n ∨ n = a.name := by
  show (withItem _ _).Enters n ↔ _
  rw [enters_withItem]
  simp only [CommandItem.argument.injEq, eq_comm]
  rfl

theorem enters_withFixed {a : Argument} {value n : String} :
    (withFixed c a value).Enters n ↔ c.Enters n ∨ n = a.name := by
  unfold withFixed
  rw [enters_withItem]
  simp only [CommandItem.argument.injEq, eq_comm]
  rfl

theorem fixedNames_withFixed (a : Argument) (value : String) :
    (withFixed c a value).fixedNames = c.fixedNames ++ [a.name] := by
  unfold Command.fixedNames
  rw [fixedDeclarations_withFixed, List.map_append]
  rfl

/-- A change of a value changes no name. -/
theorem map_argument_rebound? {name value : String} :
    ∀ {as as' : List Assignment}, rebound? name value as = some as' →
      as'.map (·.argument) = as.map (·.argument)
  | [], _, h => by cases h
  | a :: rest, as', h => by
      unfold rebound? at h
      by_cases ha : a.argument = name
      · rw [if_pos ha] at h
        cases h
        exact congrArg (· :: rest.map _) ha.symm
      · rw [if_neg ha] at h
        obtain ⟨rest', hrest, rfl⟩ := Option.map_eq_some_iff.mp h
        exact congrArg (a.argument :: ·) (map_argument_rebound? hrest)

/-- A name that is bound to one is assigned to afterwards, and was before or comes last. -/
theorem map_argument_boundOnce (as : List Assignment) (name : String) :
    (boundOnce as name).map (·.argument) =
      if name ∈ as.map (·.argument) then as.map (·.argument)
      else as.map (·.argument) ++ [name] := by
  unfold boundOnce
  have hmem : name ∈ as.map (·.argument) ↔ as.filter (·.argument == name) ≠ [] := by
    simp [List.filter_eq_nil_iff]
  cases hrebound : rebound? name "1" as with
  | some as' =>
      rw [if_pos]
      · exact map_argument_rebound? hrebound
      · rw [hmem]
        intro hnil
        rw [rebound?_eq_none_iff.mpr hnil] at hrebound
        cases hrebound
  | none =>
      rw [if_neg]
      · exact List.map_append
      · rw [hmem, not_not]
        exact rebound?_eq_none_iff.mp hrebound

theorem Speaks.free_iff (h : Speaks promoted bound placed counted c) {n : String} :
    c.hasArgument n = false ↔ n ∉ promoted ∧ n ∉ placed ++ c.fixedNames := by
  rw [hasArgument_eq_false_iff_notMem, h.argumentNames_eq, List.mem_append, not_or]

theorem Speaks.area (h : Speaks promoted bound placed counted c) {name : Option String}
    {octets : List UInt8} {size : Nat} :
    Speaks promoted bound placed counted (withItem c (.fixedValue name octets size)) :=
  { h with entries := fun n => (enters_withItem.trans (by simp)).trans (h.entries n) }

theorem Speaks.withArgument (h : Speaks promoted bound placed counted c) {a : Argument}
    (ha : c.hasArgument a.name = false) :
    Speaks promoted bound (placed ++ [a.name]) counted (withArgument c a) := by
  obtain ⟨hpromoted, hplaced⟩ := h.free_iff.mp ha
  have hperm : (placed ++ [a.name] ++ c.fixedNames).Perm (a.name :: (placed ++ c.fixedNames)) := by
    rw [List.append_assoc]
    exact List.perm_middle
  refine ⟨?_, h.assignments, h.fixedAssignments, fun n => ?_, ?_, fun n hn hin => ?_,
    fun n hn => List.mem_append_left _ (h.counters.1 hn), h.counters.2⟩
  · show (c.arguments ++ [a]).map _ = _
    rw [List.map_append, h.arguments, List.append_assoc]
    rfl
  · rw [enters_withArgument, h.entries n]
    show _ ↔ n ∈ placed ++ [a.name] ++ c.fixedNames
    rw [hperm.mem_iff, List.mem_cons, or_comm]
  · show (placed ++ [a.name] ++ c.fixedNames).Nodup
    rw [hperm.nodup_iff]
    exact List.nodup_cons.mpr ⟨hplaced, h.distinct⟩
  · have hin : n ∈ placed ++ [a.name] ++ c.fixedNames := hin
    rcases List.mem_cons.mp (hperm.mem_iff.mp hin) with rfl | hin
    · exact hpromoted hn
    · exact h.apart hn hin

theorem Speaks.withFixed (h : Speaks promoted bound placed counted c) {a : Argument}
    (ha : c.hasArgument a.name = false) (value : String) :
    Speaks promoted bound placed counted (withFixed c a value) := by
  obtain ⟨hpromoted, hplaced⟩ := h.free_iff.mp ha
  have hnames : placed ++ (Commanding.withFixed c a value).fixedNames =
      placed ++ c.fixedNames ++ [a.name] := by
    rw [fixedNames_withFixed, List.append_assoc]
  refine ⟨h.arguments, h.assignments, ?_, fun n => ?_, ?_, fun n hn hin => ?_, h.counters⟩
  · rw [fixedAssignments_withFixed, List.map_append, h.fixedAssignments, fixedNames_withFixed]
    rfl
  · rw [enters_withFixed, h.entries n, hnames, List.mem_append (t := [a.name]),
      List.mem_singleton]
  · rw [hnames, List.nodup_append']
    exact ⟨h.distinct, List.nodup_singleton _, by simpa using hplaced⟩
  · rw [hnames] at hin
    rcases List.mem_append.mp hin with hin | hin
    · exact h.apart hn hin
    · rw [List.mem_singleton.mp hin] at hn
      exact hpromoted hn

/-- A counter that was free is not assigned to in the fixed set. -/
theorem Speaks.boundFixed_eq_nil (h : Speaks promoted bound placed counted c) {n : String}
    (hn : c.hasArgument n = false) : c.boundFixed n = [] := by
  have hnone : n ∉ c.fixedNames := fun hin =>
    (h.free_iff.mp hn).2 (List.mem_append_right _ hin)
  rw [← h.fixedAssignments] at hnone
  unfold boundFixed
  rw [List.filter_eq_nil_iff]
  exact fun x hx heq => hnone (List.mem_map.mpr ⟨x, hx, beq_iff_eq.mp heq⟩)

/-- An editable counter is assigned to from now on, unless the header binds its name. -/
theorem Speaks.once (h : Speaks promoted bound placed counted c) {a : Argument}
    (ha : c.hasArgument a.name = false) :
    ∃ counted', Speaks promoted bound (placed ++ [a.name]) counted'
      (fixCount (Commanding.withArgument c a) a.name) := by
  have hplaced := h.withArgument ha
  have hnew : a.name ∉ counted := fun hin =>
    (h.free_iff.mp ha).2 (List.mem_append_left _ (h.counters.1 hin))
  have hunbound : (Commanding.withArgument c a).boundFixed a.name = [] := h.boundFixed_eq_nil ha
  rw [fixCount_of_unbound hunbound]
  by_cases hbound : a.name ∈ bound
  · refine ⟨counted, { hplaced with assignments := ?_ }⟩
    rw [map_argument_boundOnce, hplaced.assignments, if_pos (List.mem_append_left _ hbound)]
  · refine ⟨counted ++ [a.name], { hplaced with assignments := ?_, counters := ⟨?_, ?_, ?_⟩ }⟩
    · have hnone : a.name ∉ bound ++ counted := by
        rw [List.mem_append, not_or]
        exact ⟨hbound, hnew⟩
      rw [map_argument_boundOnce, hplaced.assignments, if_neg hnone, List.append_assoc]
    · exact List.append_subset.mpr ⟨hplaced.counters.1, List.subset_append_right _ _⟩
    · rw [List.nodup_append']
      exact ⟨h.counters.2.1, List.nodup_singleton _, by simpa using hnew⟩
    · intro n hn hin
      rcases List.mem_append.mp hin with hin | hin
      · exact h.counters.2.2 hn hin
      · rw [List.mem_singleton.mp hin] at hn
        exact hbound hn

/-- A fixed counter keeps its assignment, with another value. -/
theorem Speaks.onceFixed (h : Speaks promoted bound placed counted c) {a : Argument}
    (ha : c.hasArgument a.name = false) (value : String) :
    Speaks promoted bound placed counted
      (fixCount (Commanding.withFixed c a value) a.name) := by
  have hplaced := h.withFixed ha value
  rcases fixCount_cases (Commanding.withFixed c a value) a.name with
    ⟨set, as, hset, has, heq⟩ | ⟨hnil, -⟩
  · have hdeclared : Command.fixedNames { Commanding.withFixed c a value with
        fixedArguments := some { set with assignments := as } } =
        (Commanding.withFixed c a value).fixedNames := by
      unfold Command.fixedNames Command.fixedDeclarations
      rw [hset]
      rfl
    have hassigned : (Commanding.withFixed c a value).fixedAssignments = set.assignments := by
      unfold Command.fixedAssignments
      rw [hset]
      rfl
    rw [heq]
    refine ⟨hplaced.arguments, hplaced.assignments, ?_, ?_, ?_, ?_, hplaced.counters⟩
    · rw [hdeclared, ← hplaced.fixedAssignments, hassigned]
      exact map_argument_rebound? has
    · rw [hdeclared]
      exact hplaced.entries
    · rw [hdeclared]
      exact hplaced.distinct
    · rw [hdeclared]
      exact hplaced.apart
  · -- a fixed argument has a value
    have hbound := boundFixed_withFixed c a value a.name
    rw [hnil, beq_self_eq_true, if_pos rfl] at hbound
    simp at hbound

theorem Speaks.declares (h : Speaks promoted bound placed counted c) {e : CommandElement}
    {a : Argument} (hstep : Declares c e a c') :
    ∃ placed', Speaks promoted bound placed' counted c' := by
  cases hstep with
  | editable _ free => exact ⟨_, h.withArgument free⟩
  | fixed _ free value => exact ⟨_, h.withFixed free value⟩

theorem Speaks.fixCount (h : Speaks promoted bound placed counted c) {e : CommandElement}
    {a : Argument} (hstep : Declares c e a c') :
    ∃ placed' counted', Speaks promoted bound placed' counted' (fixCount c' a.name) := by
  cases hstep with
  | editable _ free => exact ⟨_, h.once free⟩
  | fixed _ free value => exact ⟨_, _, h.onceFixed free value⟩

/-- **Placing elements keeps what is known of the sources.** -/
theorem Placement.speaks {elements : List CommandElement} {blocks : List Block}
    (hplaced : Placement c elements blocks c') (h : Speaks promoted bound placed counted c) :
    ∃ placed' counted', Speaks promoted bound placed' counted' c' := by
  induction hplaced generalizing placed counted with
  | nil => exact ⟨placed, counted, h⟩
  | area _ _ _ ih => exact ih h.area
  | argument _ _ declared _ ih =>
      obtain ⟨_, hargument⟩ := h.declares declared
      exact ih hargument
  | once _ _ _ declared _ ih =>
      obtain ⟨_, _, honce⟩ := h.fixCount declared
      exact ih honce
  | group _ _ _ _ declared free _ ih =>
      obtain ⟨_, hcounter⟩ := h.declares declared
      exact ih (hcounter.withArgument free)

/-- The header that a command extends stays what it is. -/
theorem Placement.same {elements : List CommandElement} {blocks : List Block}
    (hplaced : Placement c elements blocks c') : c'.name = c.name ∧ c'.base = c.base := by
  have hfix (k : Command) (n : String) : (Commanding.fixCount k n).name = k.name ∧
      (Commanding.fixCount k n).base = k.base := by
    rcases fixCount_cases k n with ⟨_, _, _, _, heq⟩ | ⟨_, _, heq, _⟩ <;> rw [heq] <;>
      exact ⟨rfl, rfl⟩
  have hdeclares {c c' : Command} {e : CommandElement} {a : Argument} (h : Declares c e a c') :
      c'.name = c.name ∧ c'.base = c.base := by
    cases h <;> exact ⟨rfl, rfl⟩
  induction hplaced with
  | nil => exact ⟨rfl, rfl⟩
  | area _ _ _ ih => exact ih
  | argument _ _ declared _ ih =>
      exact ⟨ih.1.trans (hdeclares declared).1, ih.2.trans (hdeclares declared).2⟩
  | once _ _ _ declared _ ih =>
      have hcounter := hdeclares declared
      exact ⟨ih.1.trans ((hfix _ _).1.trans hcounter.1), ih.2.trans ((hfix _ _).2.trans hcounter.2)⟩
  | group _ _ _ _ declared _ _ ih =>
      exact ⟨ih.1.trans (hdeclares declared).1, ih.2.trans (hdeclares declared).2⟩

/-! ## The header -/

/-- The header arguments that a command of a record binds. -/
def boundNames (setting : Setting) (row : Row) (header : HeaderTemplate) : List String :=
  (headerBindings setting row header).map (·.argument)

/-- A command that declares and binds nothing but header arguments so far. -/
theorem speaks_of_header (harguments : c.arguments.map (·.name) = promoted)
    (hassignments : c.assignments.map (·.argument) = bound) (hfixed : c.fixedArguments = none)
    (hentries : c.entries = []) : Speaks promoted bound [] [] c := by
  have hnames : c.fixedNames = [] := by
    unfold Command.fixedNames Command.fixedDeclarations
    rw [hfixed]
    rfl
  refine ⟨by rw [harguments, List.append_nil], by rw [hassignments, List.append_nil], ?_,
    fun n => ?_, ?_, ?_, by simp⟩
  · unfold Command.fixedAssignments
    rw [hnames, hfixed]
    rfl
  · unfold Command.Enters
    simp [hentries, hnames]
  · simp [hnames]
  · simp [hnames]

/-- **A command begins with what its header brings.** -/
theorem withHeader_speaks {db : Database} {state : CommandingState} {row : Row}
    (hbase : c.base = none) (harguments : c.arguments = []) (hassignments : c.assignments = [])
    (hfixed : c.fixedArguments = none) (hentries : c.entries = [])
    (h : withHeader setting db state row c = .ok c') :
    c'.base = none ∧ Speaks [] [] [] [] c' ∨
      ∃ name header, row.text 5 = .ok name ∧ state.headers.find? name = some header ∧
        c'.base = some header.command ∧
        Speaks (promotions setting row header) (boundNames setting row header) [] [] c' := by
  rcases withHeader_eq_ok h with ⟨-, rfl⟩ | ⟨name, header, added, hname, -, hfind, rfl, hnames, -⟩
  · exact .inl ⟨hbase, speaks_of_header (by rw [harguments]; rfl) (by rw [hassignments]; rfl) hfixed
      hentries⟩
  · refine .inr ⟨name, header, hname, hfind, rfl, speaks_of_header ?_ ?_ hfixed hentries⟩
    · show (c.arguments ++ added).map _ = _
      rw [harguments, List.nil_append, hnames]
    · show (c.assignments ++ _).map _ = _
      rw [hassignments, List.nil_append]
      rfl

end Commanding

end MissionBase
