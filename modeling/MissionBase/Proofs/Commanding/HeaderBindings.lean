import MissionBase.Proofs.Commanding.Placement

/-!
# What a command binds of its header

The bindings of a header come first among the assignments of a command, one for each discriminator
with a value. Placing the elements adds no assignment outside of the fixed set and takes none away,
save for a counter that cannot repeat: an editable one is bound to one, among the same assignments
and by its name alone. The name of a counter is free among the arguments that the command declares
itself, and a header argument that the command only binds is none of them. So the bindings of the
header are what they were unless such a counter has the name of one.
-/

namespace MissionBase.Commanding

open Run Command

variable {setting : Setting} {d d' : Draft CommandingState} {c c' c'' : Command}

/-! ## Binding names to one -/

/-- The first value of a name. -/
def firstOf (name : String) (as : List Assignment) : Option Assignment :=
  as.find? fun a => a.argument == name

/-- The assignments with the first value of a name changed to one, if it has a value. -/
def firstOne (as : List Assignment) (name : String) : List Assignment :=
  (rebound? name "1" as).getD as

/-- The assignments with a name bound to one: its first value is changed, or one comes last. -/
def boundOnce (as : List Assignment) (name : String) : List Assignment :=
  (rebound? name "1" as).getD (as ++ [⟨name, "1"⟩])

theorem rebound?_append {name value : String} (as more : List Assignment) :
    rebound? name value (as ++ more) = match rebound? name value as with
      | some as' => some (as' ++ more)
      | none => (rebound? name value more).map (as ++ ·) := by
  induction as with
  | nil => simp [rebound?]
  | cons a rest ih =>
      rw [List.cons_append, rebound?, rebound?, ih]
      split
      · rfl
      · cases rebound? name value rest with
        | some as' => rfl
        | none => cases rebound? name value more <;> rfl

/-- Among assignments that come first, only a first value changes. -/
theorem boundOnce_append (as more : List Assignment) (name : String) :
    ∃ more', boundOnce (as ++ more) name = firstOne as name ++ more' := by
  unfold boundOnce firstOne
  rw [rebound?_append]
  cases rebound? name "1" as with
  | some as' => exact ⟨more, rfl⟩
  | none =>
      cases rebound? name "1" more with
      | some more' => exact ⟨more', rfl⟩
      | none => exact ⟨more ++ [⟨name, "1"⟩], List.append_assoc as more _⟩

theorem foldl_boundOnce_append : ∀ (names : List String) (as more : List Assignment),
    ∃ more', names.foldl boundOnce (as ++ more) = names.foldl firstOne as ++ more'
  | [], as, more => ⟨more, rfl⟩
  | name :: names, as, more => by
      obtain ⟨more₁, h⟩ := boundOnce_append as more name
      rw [List.foldl_cons, List.foldl_cons, h]
      exact foldl_boundOnce_append names _ more₁

theorem firstOne_cons (a : Assignment) (rest : List Assignment) (name : String) :
    firstOne (a :: rest) name =
      if a.argument = name then ⟨name, "1"⟩ :: rest else a :: firstOne rest name := by
  unfold firstOne
  rw [rebound?]
  split
  · rfl
  · cases rebound? name "1" rest <;> rfl

theorem length_firstOne (as : List Assignment) (name : String) :
    (firstOne as name).length = as.length := by
  induction as with
  | nil => rfl
  | cons a rest ih =>
      rw [firstOne_cons]
      split
      · rfl
      · exact congrArg Nat.succ ih

theorem firstOf_cons (name : String) (a : Assignment) (rest : List Assignment) :
    firstOf name (a :: rest) = if a.argument = name then some a else firstOf name rest := by
  by_cases h : a.argument = name
  · simp [firstOf, h]
  · simp [firstOf, h]

theorem firstOf_firstOne (as : List Assignment) (name n : String) :
    firstOf n (firstOne as name) =
      if n = name then (firstOf n as).map fun _ => ⟨n, "1"⟩ else firstOf n as := by
  induction as with
  | nil => simp [firstOne, rebound?, firstOf]
  | cons a rest ih =>
      rw [firstOne_cons, firstOf_cons]
      by_cases ha : a.argument = name
      · rw [if_pos ha, firstOf_cons]
        by_cases hn : n = name
        · simp [hn, ha]
        · simp [hn, ha, Ne.symm hn]
      · rw [if_neg ha, firstOf_cons, ih]
        by_cases hn : n = name
        · simp [hn, ha]
        · simp [hn]

/-- The first value of each of the names is one afterwards, and of other names what it was. -/
theorem firstOf_foldl_firstOne (n : String) : ∀ (names : List String) (as : List Assignment),
    firstOf n (names.foldl firstOne as) =
      if n ∈ names then (firstOf n as).map fun _ => ⟨n, "1"⟩ else firstOf n as
  | [], as => by simp
  | name :: names, as => by
      rw [List.foldl_cons, firstOf_foldl_firstOne n names, firstOf_firstOne]
      by_cases hn : n = name
      · cases firstOf n as <;> simp [hn]
      · simp [hn]

/-- Where the first value of a name is one, binding the name to one changes nothing. -/
theorem firstOne_eq_self {as : List Assignment} {name : String}
    (h : ∀ a, firstOf name as = some a → a.value = "1") : firstOne as name = as := by
  induction as with
  | nil => rfl
  | cons a rest ih =>
      rw [firstOne_cons]
      by_cases ha : a.argument = name
      · have hvalue : a.value = "1" := h a (by rw [firstOf_cons, if_pos ha])
        rw [if_pos ha, ← ha, ← hvalue]
      · rw [if_neg ha, ih fun b hb => h b (by rw [firstOf_cons, if_neg ha, hb])]

theorem foldl_firstOne_eq_self : ∀ {names : List String} {as : List Assignment},
    (∀ n ∈ names, ∀ a, firstOf n as = some a → a.value = "1") → names.foldl firstOne as = as
  | [], _, _ => rfl
  | name :: names, as, h => by
      rw [List.foldl_cons, firstOne_eq_self (h name List.mem_cons_self)]
      exact foldl_firstOne_eq_self fun n hn => h n (List.mem_cons_of_mem _ hn)

theorem length_foldl_firstOne : ∀ (names : List String) (as : List Assignment),
    (names.foldl firstOne as).length = as.length
  | [], _ => rfl
  | name :: names, as => by
      rw [List.foldl_cons, length_foldl_firstOne names, length_firstOne]

/-- **Assignments survive the binding of names to one** exactly where each of these names has the
value one already, or none. -/
theorem prefix_foldl_boundOnce_iff (names : List String) (as : List Assignment) :
    as <+: names.foldl boundOnce as ↔
      ∀ n ∈ names, ∀ a, firstOf n as = some a → a.value = "1" := by
  obtain ⟨more, hmore⟩ := foldl_boundOnce_append names as []
  rw [List.append_nil] at hmore
  rw [hmore]
  constructor
  · intro hprefix n hn a ha
    -- the assignments are as many as before, so they are the same
    have hsame : as = names.foldl firstOne as := by
      have htake := List.prefix_iff_eq_take.mp hprefix
      rwa [List.take_left' (length_foldl_firstOne names as)] at htake
    have hfirst := firstOf_foldl_firstOne n names as
    rw [if_pos hn, ← hsame, ha] at hfirst
    exact congrArg Assignment.value (Option.some.inj hfirst)
  · intro h
    rw [foldl_firstOne_eq_self h]
    exact List.prefix_append as more

/-! ## Placing the elements -/

theorem fixCount_of_unbound {name : String} (h : c.boundFixed name = []) :
    fixCount c name = { c with assignments := boundOnce c.assignments name } := by
  unfold fixCount boundOnce
  rw [reboundFixed_eq_none_iff.mpr h]
  cases rebound? name "1" c.assignments <;> rfl

theorem assignments_fixCount {name : String} (h : c.boundFixed name ≠ []) :
    (fixCount c name).assignments = c.assignments := by
  rcases fixCount_cases c name with ⟨_, _, _, _, heq⟩ | ⟨hnil, _⟩
  · rw [heq]
  · exact absurd hnil h

/-- The name that a block binds to one outside of the fixed set: that of an editable counter that
cannot repeat. -/
def Block.boundToOne? : Block → Option String
  | .once e name => if e.kind = .fixed then none else some name
  | _ => none

/-- What placing blocks does to the entries and the assignments of a command. -/
structure Lays (c c' : Command) (blocks : List Block) : Prop where
  bindsOwn : BindsOwn c'
  name : c'.name = c.name
  entries : c'.entries = c.entries ++ blocks.map Block.entry
  assignments : c'.assignments = (blocks.filterMap Block.boundToOne?).foldl boundOnce c.assignments

theorem Lays.append {blocks blocks' : List Block} (h : Lays c c' blocks)
    (h' : Lays c' c'' blocks') : Lays c c'' (blocks ++ blocks') where
  bindsOwn := h'.bindsOwn
  name := h'.name.trans h.name
  entries := by rw [h'.entries, h.entries, List.map_append, List.append_assoc]
  assignments := by
    rw [h'.assignments, h.assignments, List.filterMap_append, List.foldl_append]

theorem Lays.nil (h : BindsOwn c) : Lays c c [] := ⟨h, rfl, (List.append_nil _).symm, rfl⟩

/-- A block that binds nothing outside of the fixed set. -/
theorem Lays.one {b : Block} (hbinds : BindsOwn c') (hname : c'.name = c.name)
    (hentries : c'.entries = c.entries ++ [b.entry]) (hblock : b.boundToOne? = none)
    (hassignments : c'.assignments = c.assignments) : Lays c c' [b] := by
  refine ⟨hbinds, hname, hentries, ?_⟩
  rw [List.filterMap_cons_none hblock, hassignments]
  rfl

theorem Lays.argument {e : CommandElement} {a : Argument} (hc : BindsOwn c)
    (h : Declares c e a c') : Lays c c' [.argument e a.name] := by
  cases h with
  | editable _ free => exact .one (bindsOwn_withArgument hc free) rfl rfl rfl rfl
  | fixed _ free value => exact .one (bindsOwn_withFixed hc free value) rfl rfl rfl rfl

/-- **A counter that cannot repeat is bound to one**: in the fixed set where it is fixed, else among
the assignments of the command. -/
theorem Lays.once {e : CommandElement} {a : Argument} (hc : BindsOwn c) (h : Declares c e a c') :
    Lays c (fixCount c' a.name) [.once e a.name] := by
  have hlays := Lays.argument hc h
  have hbinds : BindsOwn (fixCount c' a.name) := bindsOwn_fixCount hlays.bindsOwn
  have hname := (fixCount_name c' a.name).trans hlays.name
  have hentries := (fixCount_entries c' a.name).trans hlays.entries
  cases h with
  | editable kind free =>
      have hbound := (declared_withArgument hc free).boundFixed
      have hone : Block.boundToOne? (.once e a.name) = some a.name := if_neg kind
      refine ⟨hbinds, hname, hentries, ?_⟩
      rw [fixCount_of_unbound hbound, List.filterMap_cons_some hone]
      rfl
  | fixed kind free value =>
      have hbound := (declared_withFixed hc free value).boundFixed
      refine .one hbinds hname hentries (if_pos kind) ?_
      rw [assignments_fixCount (by rw [hbound]; simp)]
      rfl

/-- What is placed binds block by block. -/
theorem Placement.lays {elements : List CommandElement} {blocks : List Block}
    (h : Placement c elements blocks c') (hc : BindsOwn c) : Lays c c' blocks := by
  induction h with
  | nil => exact .nil hc
  | @area c _ e _ _ _ octets _ ih =>
      have harea : Lays c (withItem c (.fixedValue e.description octets e.size))
          [.area e octets] := .one hc rfl rfl rfl rfl
      exact harea.append (ih harea.bindsOwn)
  | argument _ _ declared _ ih =>
      have hargument := Lays.argument hc declared
      exact hargument.append (ih hargument.bindsOwn)
  | once _ _ _ declared _ ih =>
      have honce := Lays.once hc declared
      exact honce.append (ih honce.bindsOwn)
  | @group _ c₁ _ e a b rest _ _ _ _ _ declared free _ ih =>
      have hcounter := Lays.argument hc declared
      have harray : Lays c₁ (withArgument c₁ b) [.array a.name (rest.take e.groupSize) b.name] :=
        .one (bindsOwn_withArgument hcounter.bindsOwn free) rfl rfl rfl rfl
      exact hcounter.append (harray.append (ih harray.bindsOwn))

/-- **What placing the elements does to the assignments.** -/
theorem placeElements_lays (elements : List CommandElement) {c c' : Command}
    {d d' : Draft CommandingState} (hc : BindsOwn c)
    (h : placeElements setting c elements d = .ok c' d') :
    ∃ blocks, Layout elements blocks ∧ Lays c c' blocks := by
  obtain ⟨blocks, hplaced⟩ := placeElements_eq_ok elements h
  exact ⟨blocks, hplaced.layout, hplaced.lays hc⟩

/-! ## The bindings of a header -/

theorem withHeader_assignments {db : Database} {state : CommandingState} {row : Row}
    {name : String} {header : HeaderTemplate} (hname : row.text 5 = .ok name)
    (hheader : name ≠ noHeader) (hfind : state.headers.find? name = some header)
    (h : withHeader setting db state row c = .ok c') :
    c'.assignments = c.assignments ++ headerBindings setting row header := by
  rcases withHeader_eq_ok h with ⟨hnone, -⟩ | ⟨_, _, _, hname', -, hfind', rfl, -⟩
  · rw [hname] at hnone
    cases hnone
    exact absurd rfl hheader
  · rw [hname] at hname'
    cases hname'
    rw [hfind] at hfind'
    cases hfind'
    rfl

theorem withService_assignments {db : Database} {row : Row}
    (h : withService setting db row c = .ok c') : c'.assignments = c.assignments := by
  obtain ⟨_, _, rfl, -⟩ := withService_eq_ok h
  rfl

/-- How a record makes a command: from its header, its elements and its service. -/
structure MakesCommand (setting : Setting) (row : Row) (d d₁ : Draft CommandingState)
    (c₀ c : Command) : Prop where
  named : row.text 0 = .ok c₀.name
  begins : SameBody (Command.named c₀.name) c₀
  unbound : c₀.assignments = []
  made : ∃ c₁ c₂, withHeader setting d.database d.stage row c₀ = .ok c₁ ∧
    placeElements setting c₁ ((d.stage.elements.find? c₀.name).getD []) d = .ok c₂ d₁ ∧
    withService setting d₁.database row c₂ = .ok c

/-- **A record that is accepted is passed over, or it makes a command and adds it.** -/
theorem defineCommand_cases {row : Row} (h : defineCommand setting row d = .ok () d') :
    d' = d ∨ ∃ c₀ c d₁, MakesCommand setting row d d₁ c₀ c ∧
      d' = { d₁ with database :=
        { d₁.database with commands := d₁.database.commands.push c } } := by
  have hends : Ends (defineCommand setting row) d
      (fun _ d' => d' = d ∨ ∃ c₀ c d₁, MakesCommand setting row d d₁ c₀ c ∧
        d' = withCommand d₁ c) fun _ => True := by
    refine ends_defineCommand trivial (.inl rfl) fun name c₁ hname hheader => ?_
    refine ends_iff.mpr ⟨fun c₂ d₁ hplace => ⟨trivial, fun c hservice => ?_⟩, fun _ _ _ => trivial⟩
    exact .inr ⟨_, c, d₁, ⟨hname, ⟨rfl, rfl, rfl⟩, rfl, c₁, c₂, hheader, hplace, hservice⟩, rfl⟩
  exact hends.of_ok h

/-- The command that a record adds is the last one, under a name that was free. -/
structure AddsCommand (d d' : Draft CommandingState) (c : Command) : Prop where
  free : d.database.commands.has c.name = false
  last : d'.database.commands.items.back? = some c

/-- A record that adds a command makes it. -/
theorem AddsCommand.makes {row : Row} (hadds : AddsCommand d d' c)
    (h : defineCommand setting row d = .ok () d') :
    ∃ c₀ d₁, MakesCommand setting row d d₁ c₀ c := by
  rcases defineCommand_cases h with rfl | ⟨c₀, k, d₁, hmakes, rfl⟩
  · -- the record is passed over, so the last command is an old one
    have htaken := Catalog.has_of_mem (Array.mem_of_back? hadds.last)
    have hfree := hadds.free
    rw [show d'.database.commands.has c.name = true from htaken] at hfree
    cases hfree
  · have hlast := hadds.last
    rw [show (d₁.database.commands.push k).items = d₁.database.commands.items.push k from rfl,
      Array.back?_push] at hlast
    cases hlast
    exact ⟨c₀, d₁, hmakes⟩

theorem mem_boundToOne {blocks : List Block} {n : String} :
    n ∈ blocks.filterMap Block.boundToOne? ↔
      ∃ e, e.kind ≠ .fixed ∧ Block.once e n ∈ blocks := by
  rw [List.mem_filterMap]
  constructor
  · rintro ⟨b, hb, hone⟩
    cases b with
    | once e name =>
        by_cases hkind : e.kind = .fixed
        · simp [Block.boundToOne?, hkind] at hone
        · have hname : name = n := by simpa [Block.boundToOne?, hkind] using hone
          exact ⟨e, hkind, hname ▸ hb⟩
    | area e octets => cases hone
    | argument e name => cases hone
    | array counter members name => cases hone
  · rintro ⟨e, hkind, hb⟩
    exact ⟨_, hb, if_neg hkind⟩

/-- **A command keeps the bindings of its header, unless a counter has the name of one.** Besides
what it binds of its header, a command of a record assigns one to its editable counters that cannot
repeat; so the bindings are kept exactly where every such counter has a name that the header does
not bind, or binds to one already. -/
theorem defineCommand_bindings_iff {row : Row} {name : String} {header : HeaderTemplate}
    (hrun : defineCommand setting row d = .ok () d') (hadds : AddsCommand d d' c)
    (hname : row.text 5 = .ok name) (hheader : name ≠ noHeader)
    (hfind : d.stage.headers.find? name = some header) :
    ∃ blocks, Layout ((d.stage.elements.find? c.name).getD []) blocks ∧
      c.entries = blocks.map Block.entry ∧
      c.assignments = (blocks.filterMap Block.boundToOne?).foldl boundOnce
        (headerBindings setting row header) ∧
      (headerBindings setting row header <+: c.assignments ↔
        ∀ e counter, Block.once e counter ∈ blocks → e.kind ≠ .fixed →
          ∀ a, firstOf counter (headerBindings setting row header) = some a → a.value = "1") := by
  obtain ⟨c₀, d₁, -, hbegin, hnone, c₁, c₂, hbind, hplace, hservice⟩ := hadds.makes hrun
  have hbody := hbegin.trans (withHeader_sameBody hbind)
  -- a command begins without a fixed set, and the header brings none
  have hbinds : BindsOwn c₁ := bindsOwn_of_none hbody.fixedArguments
  obtain ⟨blocks, hlayout, hlays⟩ := placeElements_lays _ hbinds hplace
  obtain ⟨hsame, hentries, _⟩ := withService_same hservice
  have hassignments : c.assignments = (blocks.filterMap Block.boundToOne?).foldl boundOnce
      (headerBindings setting row header) := by
    rw [withService_assignments hservice, hlays.assignments,
      withHeader_assignments hname hheader hfind hbind, hnone, List.nil_append]
  refine ⟨blocks, ?_, ?_, hassignments, ?_⟩
  · rw [hsame, hlays.name, hbody.name]
    exact hlayout
  · rw [hentries, hlays.entries, hbody.entries]
    rfl
  · rw [hassignments, prefix_foldl_boundOnce_iff]
    constructor
    · intro h e counter hb hkind
      exact h counter (mem_boundToOne.mpr ⟨e, hkind, hb⟩)
    · intro h n hn
      obtain ⟨e, hkind, hb⟩ := mem_boundToOne.mp hn
      exact h e n hb hkind

/-- A header with an argument that has the name of a command parameter, which counts a counter in
a command of that header. -/
def countedHeaderSetting : Setting :=
  .ofTables [
    ("tcp", "HDR\n"),
    ("pcpc", "N1\tapid\tU\n"),
    ("pcdf", "HDR\t\tA\t11\t5\tN1\n"),
    ("cpc", "N1\t\t3\t4\nN2\t\t3\t4\nV1\t\t3\t12\n"),
    ("cdf", "CMD\tE\t\t8\t0\t2\tN1\nCMD\tE\t\t8\t8\t1\tN2\nCMD\tE\t\t16\t16\t0\tV1\n")]

/-- The record of the command, with an application identifier. -/
def countedHeaderRow : Row :=
  ⟨["CMD", "a command", "", "", "N", "HDR", "", "", "100"], ⟨"ccf.dat", 1⟩⟩

/-- The counter takes the place of the application identifier. -/
theorem counter_overwrites_header :
    ∃ (d d' : Draft CommandingState) (header : HeaderTemplate) (c : Command),
      defineCommand countedHeaderSetting countedHeaderRow d = .ok () d' ∧ AddsCommand d d' c ∧
      countedHeaderRow.text 5 = .ok "HDR" ∧ "HDR" ≠ noHeader ∧
      d.stage.headers.find? "HDR" = some header ∧
      headerBindings countedHeaderSetting countedHeaderRow header = [⟨"N1", "100"⟩] ∧
      c.assignments = [⟨"N1", "1"⟩] ∧
      ∃ blocks e, Layout ((d.stage.elements.find? c.name).getD []) blocks ∧
        c.entries = blocks.map Block.entry ∧ Block.once e "N1" ∈ blocks ∧ e.kind ≠ .fixed := by
  have hok : (after? (do
      loadHeaders countedHeaderSetting
      loadParameters countedHeaderSetting
      let _ ← Build.scan countedHeaderSetting "cdf" (declareElement countedHeaderSetting))
      { database := { name := "MIB" }, stage := {} }).any (fun d =>
        (after? (defineCommand countedHeaderSetting countedHeaderRow) d).any fun d' =>
          (d.stage.headers.find? "HDR").any fun header =>
            d'.database.commands.items.back?.any fun c =>
              decide (d.database.commands.has c.name = false ∧
                headerBindings countedHeaderSetting countedHeaderRow header = [⟨"N1", "100"⟩] ∧
                c.assignments = [⟨"N1", "1"⟩])) = true := by
    decide +kernel
  obtain ⟨d, _, hok⟩ := (Option.any_eq_true _ _).mp hok
  obtain ⟨d', hafter, hok⟩ := (Option.any_eq_true _ _).mp hok
  obtain ⟨header, hheader, hok⟩ := (Option.any_eq_true _ _).mp hok
  obtain ⟨c, hlast, hok⟩ := (Option.any_eq_true _ _).mp hok
  obtain ⟨hfree, hbindings, hassignments⟩ := of_decide_eq_true hok
  obtain ⟨_, hrun⟩ := after?_eq_some.mp hafter
  have hadds : AddsCommand d d' c := ⟨hfree, hlast⟩
  have hrow : countedHeaderRow.text 5 = .ok "HDR" := rfl
  have hname : "HDR" ≠ noHeader := by decide
  obtain ⟨blocks, hlayout, hentries, -, hiff⟩ :=
    defineCommand_bindings_iff hrun hadds hrow hname hheader
  refine ⟨d, d', header, c, hrun, hadds, hrow, hname, hheader, hbindings, hassignments, blocks, ?_⟩
  -- the bindings are not kept, so some counter has the name of one
  have hlost : ¬ headerBindings countedHeaderSetting countedHeaderRow header <+: c.assignments := by
    rw [hbindings, hassignments]
    decide
  by_contra hnone
  refine hlost (hiff.mpr fun e counter hb hkind a ha => ?_)
  rw [hbindings, firstOf_cons] at ha
  by_cases hcounter : "N1" = counter
  · subst hcounter
    exact absurd ⟨e, hlayout, hentries, hb, hkind⟩ hnone
  · rw [if_neg hcounter] at ha
    cases ha

end MissionBase.Commanding
