import MissionBase.Proofs.Commanding.RecordMembers
import MissionBase.Proofs.Commanding.VerificationStages
import MissionBase.Proofs.Refusals.Basic
import MissionBase.Proofs.Telemetry.Faithfulness

/-!
# Refusals that the command stage never makes

The stage looks whether a name is free before it adds a command or an algorithm, whether the header
declares an argument that is promoted, whether the command parameter of an element is there, and
whether there is anything that a verification stage checks. It never finds that it is not so:
templates have the names of headers and declare what plays a role, elements have been taken up for
their command parameters, and expressions are only kept with their comparisons. So whatever is
refused, is refused for what the tables say.
-/

namespace MissionBase.Commanding

open Run Command

variable {setting : Setting} {d t u begun : Draft CommandingState} {row : Row} {c c' : Command}
  {x : Error}

/-! ## Names of headers -/

/-- Why a record of a header is refused: it cannot be read, or there is a header of its name. -/
inductive HeaderRefused (row : Row) (d : Draft CommandingState) (x : Error) : Prop where
  | unread : row.require [0] = .error x ∨ row.text 0 = .error x → HeaderRefused row d x
  | duplicate {name : String} : row.text 0 = .ok name → d.stage.headers.has name = true →
      x = row.data s!"duplicate packet header '{name}'" → HeaderRefused row d x

/-- Every command is the template of a header of its name. -/
def AllHeaders (d : Draft CommandingState) : Prop :=
  ∀ name, d.database.commands.has name = true → d.stage.headers.has name = true

theorem declareHeader_allHeaders (h : AllHeaders d) :
    Ends (declareHeader row) d (fun _ => AllHeaders) AllHeaders :=
  ends_declareHeader h fun _ _ other hother =>
    Index.has_set _ ((Catalog.eq_or_has_of_has_push hother).imp (h other) id)

/-- **A header is refused for nothing else**: no command has the name of one that is new. -/
theorem raises_declareHeader (h : AllHeaders d) :
    Raises (declareHeader row) d (HeaderRefused row d) := by
  unfold declareHeader
  refine Raises.lift (fun x hx => .unread (.inl hx)) fun _ _ => ?_
  refine Raises.lift (fun x hx => .unread (.inr hx)) fun name hname => ?_
  refine Raises.stage (Raises.ite (fun htaken => ?_) fun hnew => ?_)
  · exact raises_throw (.duplicate hname htaken rfl)
  · refine Raises.bind (raises_add fun dup hdup => ?_) fun _ _ _ => raises_modify
    obtain ⟨htaken, -⟩ := Catalog.map_add_eq_error.mp hdup
    exact absurd (h name htaken) hnew

/-! ## Header arguments -/

/-- Why a command of a name is refused for its header: the name of the header cannot be read or is
unknown, or the value of an argument cannot be read or is missing. -/
inductive BindingRefused (setting : Setting) (row : Row) (d : Draft CommandingState)
    (name : String) (x : Error) : Prop where
  | unread : row.text 5 = .error x → BindingRefused setting row d name x
  | unknown {header : String} : row.text 5 = .ok header → header ≠ noHeader →
      d.stage.headers.find? header = none →
      x = row.reference s!"CCF references unknown packet header '{header}'" →
      BindingRefused setting row d name x
  | value {header : String} {template : HeaderTemplate} {y : Discriminator} :
      row.text 5 = .ok header → d.stage.headers.find? header = some template →
      y ∈ discriminators setting.config.command template → row.int? y.column = .error x →
      BindingRefused setting row d name x
  | missing {header argument : String} {template : HeaderTemplate} {y : Discriminator} :
      row.text 5 = .ok header → d.stage.headers.find? header = some template →
      y ∈ discriminators setting.config.command template → y.required = true →
      y.argument = some argument → row.int? y.column = .ok none →
      x = row.data s!"command '{name}' gives no value for header argument '{argument}'" →
      BindingRefused setting row d name x

/-- What a discriminator binds plays a role of the header. -/
theorem mem_roles_of_discriminator {options : CommandOptions} {template : HeaderTemplate}
    {y : Discriminator} {n : String} (hy : y ∈ discriminators options template)
    (hn : y.argument = some n) : n ∈ template.roles := by
  simp only [HeaderTemplate.roles, List.reduceOption_mem_iff]
  simp only [discriminators, List.mem_cons, List.not_mem_nil, or_false] at hy
  rcases hy with rfl | rfl | rfl | rfl <;> simp_all

/-- The template of a header declares what a discriminator binds. -/
theorem Played.argument? {options : CommandOptions} {template : HeaderTemplate}
    {y : Discriminator} {n : String} (h : Played d template)
    (hy : y ∈ discriminators options template) (hn : y.argument = some n) :
    ∃ a, ((d.database.commands.get? template.command).bind fun k => k.argument? n) = some a := by
  obtain ⟨k, hk, -, hroles⟩ := h
  have hdeclared := hroles n (mem_roles_of_discriminator hy hn)
  cases ha : k.argument? n with
  | some a => exact ⟨a, by rw [hk]; exact ha⟩
  | none =>
      have hnone : k.hasArgument n = false := by
        unfold hasArgument
        rw [ha]
        rfl
      exact absurd hdeclared (hasArgument_eq_false_iff_notMem.mp hnone)

/-- A discriminator is refused for its value, where the header declares its argument. -/
theorem bindDiscriminator_eq_error {db : Database} {r : CommandRef} {y : Discriminator}
    (hdeclared : ∀ n, y.argument = some n →
      ∃ a, ((db.commands.get? r).bind fun k => k.argument? n) = some a)
    (h : bindDiscriminator db row r c y = .error x) :
    row.int? y.column = .error x ∨ ∃ argument, y.required = true ∧ y.argument = some argument ∧
      row.int? y.column = .ok none ∧
      x = row.data s!"command '{c.name}' gives no value for header argument '{argument}'" := by
  unfold bindDiscriminator at h
  cases hargument : y.argument with
  | none =>
      rw [hargument] at h
      cases h
  | some argument =>
      rw [hargument] at h
      rcases except_bind_eq_error.mp h with hvalue | ⟨value?, hvalue, h⟩
      · exact .inl hvalue
      cases value? with
      | none =>
          dsimp only at h
          split at h
          · rename_i hrequired
            cases h
            exact .inr ⟨argument, hrequired, rfl, hvalue, rfl⟩
          · cases h
      | some value =>
          obtain ⟨a, ha⟩ := hdeclared argument hargument
          dsimp only at h
          unfold bindValue at h
          rw [ha] at h
          split at h <;> cases h

/-- The first discriminator that is refused meets a command of the same name. -/
theorem foldlM_bindDiscriminator_eq_error {db : Database} {r : CommandRef} :
    ∀ {ys : List Discriminator} {c : Command},
      ys.foldlM (bindDiscriminator db row r) c = .error x →
      ∃ y ∈ ys, ∃ c' : Command, c'.name = c.name ∧ bindDiscriminator db row r c' y = .error x
  | [], _, h => nomatch h
  | y :: ys, c, h => by
      rw [List.foldlM_cons] at h
      rcases except_bind_eq_error.mp h with hfirst | ⟨c₁, hfirst, hrest⟩
      · exact ⟨y, List.mem_cons_self, c, rfl, hfirst⟩
      · obtain ⟨y', hmem, c', hname, hy'⟩ := foldlM_bindDiscriminator_eq_error hrest
        obtain ⟨_, rfl, -, -⟩ := bindDiscriminator_eq_ok hfirst
        exact ⟨y', List.mem_cons_of_mem y hmem, c', hname, hy'⟩

/-- **A header is refused to a command for nothing else**: its template declares what plays a
role. -/
theorem withHeader_eq_error
    (hplayed : ∀ name template, d.stage.headers.find? name = some template → Played d template)
    (h : withHeader setting d.database d.stage row c = .error x) :
    BindingRefused setting row d c.name x := by
  unfold withHeader at h
  rcases except_bind_eq_error.mp h with hname | ⟨header, hname, h⟩
  · exact .unread hname
  split at h
  · cases h
  · rename_i hsome
    split at h
    · rename_i hfind
      cases h
      exact .unknown hname hsome hfind rfl
    · rename_i template hfind
      obtain ⟨y, hy, c', hsame, hrefused⟩ := foldlM_bindDiscriminator_eq_error h
      have hsame : c'.name = c.name := hsame
      rcases bindDiscriminator_eq_error
        (fun n hn => (hplayed header template hfind).argument? hy hn) hrefused with
        hvalue | ⟨argument, hrequired, hargument, hnone, heq⟩
      · exact .value hname hfind hy hvalue
      · rw [hsame] at heq
        exact .missing hname hfind hy hrequired hargument hnone heq

/-! ## Elements -/

/-- Why an element of a command is refused while it is placed: the pattern of a constant area cannot
be read, the type, the default or the value of an argument cannot be found, or its group is not one
of arguments that are editable and follow it. -/
inductive ElementRefused (setting : Setting) (d : Draft CommandingState) (e : CommandElement)
    (x : Error) : Prop where
  | area : e.isArgument = false → areaOctets e = .error x → ElementRefused setting d e x
  | type {p : CommandParameter} {u v : Draft CommandingState} : parameterOf d.stage e = .ok p →
      Placing d u → argumentTypeFor setting p e.sizeTagBytes u = .error x v →
      ElementRefused setting d e x
  | default {p : CommandParameter} {a : Argument} {u : Draft CommandingState} :
      parameterOf d.stage e = .ok p → Placing d u → withDefault u.database e p a = .error x →
      ElementRefused setting d e x
  | value {u : Draft CommandingState} : Placing d u → fixedValue u.stage e = .error x →
      ElementRefused setting d e x
  | overrun {counter name : String} : 0 < e.groupSize →
      x = e.dataError
        s!"group '{counter}' of {e.groupSize} elements overruns command '{name}'" →
      ElementRefused setting d e x
  | areaInGroup {counter : String} : e.isArgument = false →
      x = e.dataError s!"fixed area inside group '{counter}'" → ElementRefused setting d e x
  | fixedInGroup {counter : String} : e.kind = .fixed →
      x = e.dataError s!"fixed argument inside group '{counter}'" → ElementRefused setting d e x

/-- The command parameter of an argument is there. -/
def ParameterKnown (d : Draft CommandingState) (e : CommandElement) : Prop :=
  e.isArgument = true → ∃ p, parameterOf d.stage e = .ok p

/-- The argument of an element is refused for its type or its default. -/
theorem raises_argumentOf {e : CommandElement} {p : CommandParameter}
    (hp : parameterOf begun.stage e = .ok p) (hd : Placing begun d) :
    Raises (argumentOf setting e) d (ElementRefused setting begun e) := by
  unfold argumentOf
  refine Raises.stage ?_
  refine Raises.lift (fun x hx => ?_) fun q hq => ?_
  · rw [hd.keeps.parameterOf, hp] at hx
    cases hx
  obtain rfl : p = q := Except.ok.inj (hp.symm.trans ((hd.keeps.parameterOf e).symm.trans hq))
  refine Raises.bind (fun x v hx => .type hp hd hx) fun type t htype => ?_
  have ht := IsTrans.trans _ _ _ hd ((placing_argumentTypeFor p e.sizeTagBytes).of_ok htype)
  exact Raises.database (raises_lift fun x hx => .default hp ht hx)

theorem raises_placeArgument {e : CommandElement} {p : CommandParameter}
    (hp : parameterOf begun.stage e = .ok p) (hd : Placing begun d) (c : Command) :
    Raises (placeArgument setting c e) d (ElementRefused setting begun e) := by
  unfold placeArgument
  refine Raises.bind (raises_argumentOf hp hd) fun a t ha => ?_
  have ht := IsTrans.trans _ _ _ hd ((steps_argumentOf placing_argumentTypeFor e).of_ok ha)
  refine Raises.ite (fun _ => ?_) fun _ => raises_pure
  refine Raises.stage ?_
  exact Raises.lift (fun x hx => .value ht hx) fun _ _ => raises_pure

theorem checkMembers_eq_error {counter : String} {members : List CommandElement}
    (h : checkMembers counter members = .error x) :
    ∃ e ∈ members, ElementRefused setting d e x := by
  unfold checkMembers at h
  split at h
  · rename_i e hfind
    cases h
    refine ⟨e, List.mem_of_find?_eq_some hfind, .areaInGroup ?_ rfl⟩
    simpa using List.find?_some hfind
  · split at h
    · rename_i e hfind
      cases h
      refine ⟨e, List.mem_of_find?_eq_some hfind, .fixedInGroup ?_ rfl⟩
      simpa using List.find?_some hfind
    · cases h

/-- The members of a group are refused one by one. -/
theorem raises_members : ∀ {members : List CommandElement} {d : Draft CommandingState},
    Placing begun d → (∀ e ∈ members, ∃ p, parameterOf begun.stage e = .ok p) →
    Raises (members.mapM (memberFor setting)) d fun x =>
      ∃ e ∈ members, ElementRefused setting begun e x
  | [], _, _, _ => by
      rw [List.mapM_nil]
      exact raises_pure
  | e :: rest, d, hd, hknown => by
      rw [List.mapM_cons]
      obtain ⟨p, hp⟩ := hknown e List.mem_cons_self
      refine Raises.bind (fun x t hx => ⟨e, List.mem_cons_self, ?_⟩) fun _ t hfirst => ?_
      · exact ((raises_argumentOf hp hd).bind fun _ _ _ => raises_pure) x t hx
      · have ht : Placing begun t := by
          refine IsTrans.trans _ _ _ hd (Steps.of_ok ?_ hfirst)
          exact (steps_argumentOf placing_argumentTypeFor e).bind fun _ => steps_pure _
        refine Raises.bind (fun x u hx => ?_) fun _ _ _ => raises_pure
        obtain ⟨e', hmem, hrefused⟩ := raises_members ht
          (fun e' he' => hknown e' (List.mem_cons_of_mem e he')) x u hx
        exact ⟨e', List.mem_cons_of_mem e hmem, hrefused⟩

/-- An array is never refused. -/
theorem raises_placeArray {P : Error → Prop} (counter : String) (fields : List RecordMember) :
    Raises (placeArray c counter fields) d P := by
  have hadd (type : ArgumentType) (d : Draft CommandingState) : Raises (addArgumentType type) d P :=
    Ends.raises (Q := fun _ _ => True) trivial
  unfold placeArray
  refine Raises.bind ?_ fun _ _ _ => (hadd _ _).bind fun _ _ _ => raises_pure
  unfold groupElement
  split
  · exact raises_pure
  · exact (hadd _ _).bind fun _ _ _ => raises_pure

/-- A group is refused for one of its members. -/
theorem raises_placeGroup {counter : String} {members : List CommandElement}
    (hd : Placing begun d) (hknown : ∀ e ∈ members, ParameterKnown begun e) (c : Command) :
    Raises (placeGroup setting c counter members) d fun x =>
      ∃ e ∈ members, ElementRefused setting begun e x := by
  rw [placeGroup_eq]
  refine Raises.lift (fun x hx => checkMembers_eq_error hx) fun _ hcheck => ?_
  refine Raises.bind (raises_members hd fun e he => hknown e he ?_) fun fields _ _ =>
    raises_placeArray counter fields
  rw [CommandElement.isArgument, checkMembers_eq_ok hcheck e he]
  rfl

/-- Placing the first of some elements fails as it is refused, or one of those after it. -/
theorem raises_placeFirst {rest : List CommandElement} (hd : Placing begun d)
    (hknown : ∀ e' ∈ e :: rest, ParameterKnown begun e') (c : Command) :
    Raises (placeFirst setting c e rest) d fun x =>
      ∃ e' ∈ e :: rest, ElementRefused setting begun e' x := by
  unfold placeFirst
  refine Raises.ite (fun harea => ?_) fun hargument => ?_
  · refine Raises.lift (fun x hx => ?_) fun _ _ => raises_pure
    exact ⟨e, List.mem_cons_self, .area (by simpa using harea) hx⟩
  have hkind : e.isArgument = true := by simpa using hargument
  obtain ⟨p, hp⟩ := hknown e List.mem_cons_self hkind
  refine Raises.bind (fun x t hx => ⟨e, List.mem_cons_self, ?_⟩) fun placed t hplace => ?_
  · exact raises_placeArgument hp hd c x t hx
  have ht : Placing begun t :=
    IsTrans.trans _ _ _ hd ((steps_placeArgument placing_argumentTypeFor c e).of_ok hplace)
  refine Raises.ite (fun _ => raises_pure) fun hsize => ?_
  refine Raises.ite (fun _ => raises_throw ?_) fun _ => Raises.ite (fun _ => ?_) fun _ => ?_
  · exact ⟨e, List.mem_cons_self, .overrun (Nat.pos_of_ne_zero hsize) rfl⟩
  · exact raises_modify.bind fun _ _ _ => raises_pure
  · have htake : rest.take e.groupSize ⊆ e :: rest :=
      fun e' he' => List.mem_cons_of_mem e (List.mem_of_mem_take he')
    refine Raises.bind (fun x u hx => ?_) fun _ _ _ => raises_pure
    obtain ⟨e', hmem, hrefused⟩ :=
      raises_placeGroup ht (fun e' he' => hknown e' (htake he')) _ x u hx
    exact ⟨e', htake hmem, hrefused⟩

/-- **Elements are refused one by one**, and none of them for want of its command parameter. -/
theorem raises_placeElements (elements : List CommandElement) {c : Command}
    {d : Draft CommandingState} (hd : Placing begun d)
    (hknown : ∀ e ∈ elements, ParameterKnown begun e) :
    Raises (placeElements setting c elements) d fun x =>
      ∃ e ∈ elements, ElementRefused setting begun e x := by
  induction elements using elements_induction generalizing c d with
  | nil =>
      rw [placeElements_nil]
      exact raises_pure
  | cons e rest ih =>
      rw [placeElements_cons]
      refine (raises_placeFirst hd hknown c).bind fun x t hfirst y u hy => ?_
      have hdrop : rest.drop x.2 ⊆ e :: rest :=
        fun e' he' => List.mem_cons_of_mem e (List.mem_of_mem_drop he')
      have ht : Placing begun t :=
        IsTrans.trans _ _ _ hd ((placing_placeFirst c e rest).of_ok hfirst)
      obtain ⟨e', hmem, hrefused⟩ := ih x.2 ht (fun e' he' => hknown e' (hdrop he')) y u hy
      exact ⟨e', hdrop hmem, hrefused⟩

/-! ## Commands -/

/-- Why a command is refused: its record cannot be read, its name is taken, its header is refused to
it, or one of its elements is refused. -/
inductive CommandRefused (setting : Setting) (row : Row) (d : Draft CommandingState) (x : Error) :
    Prop where
  | unread : row.require [0, 1, 5] = .error x ∨ row.text 0 = .error x ∨ row.int? 6 = .error x ∨
      row.int? 7 = .error x → CommandRefused setting row d x
  | duplicate {name : String} : row.text 0 = .ok name → d.database.commands.has name = true →
      x = row.data s!"duplicate command '{name}'" → CommandRefused setting row d x
  | header {name : String} : row.text 0 = .ok name → BindingRefused setting row d name x →
      CommandRefused setting row d x
  | element {name : String} {e : CommandElement} : row.text 0 = .ok name →
      e ∈ (d.stage.elements.find? name).getD [] → ElementRefused setting d e x →
      CommandRefused setting row d x

/-- What holds between two commands: what plays a role of a header is declared in its template, and
the command parameters of all elements are there. -/
structure Commandable (d : Draft CommandingState) : Prop where
  headers : ∀ name template, d.stage.headers.find? name = some template → Played d template
  elements : ∀ name, ∀ e ∈ (d.stage.elements.find? name).getD [], ParameterKnown d e

theorem withService_eq_error {db : Database} (h : withService setting db row c = .error x) :
    row.int? 6 = .error x ∨ row.int? 7 = .error x := by
  unfold withService at h
  rcases except_bind_eq_error.mp h with hservice | ⟨_, -, h⟩
  · exact .inl hservice
  rcases except_bind_eq_error.mp h with hsubservice | ⟨_, -, h⟩
  · exact .inr hsubservice
  split at h <;> cases h

/-- **A command is refused for nothing else**: no command has come while its elements were placed,
so none has its name. -/
theorem raises_defineCommand (h : Commandable d) :
    Raises (defineCommand setting row) d (CommandRefused setting row d) := by
  unfold defineCommand
  refine Raises.lift (fun x hx => .unread (.inl hx)) fun _ _ => ?_
  refine Raises.lift (fun x hx => .unread (.inr (.inl hx))) fun name hname => ?_
  refine Raises.ite (fun _ => Raises.stage (Raises.database ?_)) fun _ => raises_pure
  refine Raises.ite (fun htaken => raises_throw (.duplicate hname htaken rfl)) fun hnew => ?_
  refine Raises.lift (fun x hx => ?_) fun c₀ hheader => ?_
  · exact .header hname (withHeader_eq_error h.headers hx)
  refine Raises.bind (fun x t hx => ?_) fun c₁ t hplace => ?_
  · obtain ⟨e, hmem, hrefused⟩ :=
      raises_placeElements _ (Std.Refl.refl d) (h.elements name) x t hx
    exact .element hname hmem hrefused
  refine Raises.database (Raises.lift (fun x hx => ?_) fun c₂ hservice => ?_)
  · exact .unread ((withService_eq_error hx).elim (fun h => .inr (.inr (.inl h)))
      fun h => .inr (.inr (.inr h)))
  refine Raises.bind (raises_add fun dup hdup => ?_) fun _ _ _ => raises_pure
  obtain ⟨htaken, -⟩ := Catalog.map_add_eq_error.mp hdup
  obtain ⟨_, hplaced⟩ := placeElements_eq_ok _ hplace
  -- neither the header nor the elements nor the service change the name
  have hsame : c₂.name = name := by
    rw [(withService_same hservice).1, hplaced.same.1, (withHeader_sameBody hheader).name]
    rfl
  have hcommands : t.database.commands = d.database.commands := by
    rw [((leavesTypes_placeElements _ _).of_ok hplace).others]
  rw [hcommands, show Named.name c₂ = name from hsame] at htaken
  exact absurd htaken hnew

theorem Placing.commandable (h : Placing d t) (hd : Commandable d) : Commandable t := by
  obtain ⟨shared, identifiers, hstage⟩ := h.stage
  refine ⟨fun name template hfind => ?_, fun name e he hargument => ?_⟩
  · rw [hstage] at hfind
    obtain ⟨k, hk, hplayed⟩ := hd.headers name template hfind
    exact ⟨k, by rw [h.leaves.others]; exact hk, hplayed⟩
  · rw [hstage] at he
    obtain ⟨p, hp⟩ := hd.elements name e he hargument
    exact ⟨p, (h.keeps.parameterOf e).trans hp⟩

/-- A command that is defined leaves headers and elements as they are. -/
theorem defineCommand_commandable (h : Commandable d) :
    Ends (defineCommand setting row) d (fun _ => Commandable) Commandable := by
  refine ends_defineCommand h h fun name c₀ _ _ => ?_
  refine (placing_placeElements _ c₀ d).mono (fun c₁ t _ ht => ?_) fun t ht => ht.commandable h
  have hplaced := ht.commandable h
  refine ⟨hplaced, fun c₂ _ => ⟨fun name template hfind => ?_, hplaced.elements⟩⟩
  obtain ⟨k, hk, hplayed⟩ := hplaced.headers name template hfind
  exact ⟨k, Catalog.get?_push_of_some hk c₂, hplayed⟩

/-- **Where the commands begin, headers and elements are what commands need.** -/
theorem beforeCommands_commandable (hnone : ∀ r, d.database.commands.get? r = none)
    (hstage : d.stage = {}) (hbefore : beforeCommands setting d = .ok () t) : Commandable t := by
  obtain ⟨_, d₁, h₁, h⟩ := bind_eq_ok.mp hbefore
  obtain ⟨_, d₂, h₂, h⟩ := bind_eq_ok.mp h
  obtain ⟨_, d₃, h₃, h₄⟩ := bind_eq_ok.mp h
  have hstart : Templates d := by
    refine ⟨fun r k hk => ?_, fun name template hfind => ?_⟩
    · rw [hnone] at hk
      cases hk
    · rw [hstage] at hfind
      cases hfind
  have hheaders := ((loadHeaders_ends hstart).of_ok h₁).annotates
    ((annotates_calibrations.of_ok h₂).trans
      ((annotates_loadParameters.of_ok h₃).trans (annotates_loadElements.of_ok h₄)))
  refine ⟨hheaders.headers, fun name e he hargument => ?_⟩
  obtain ⟨rows, -, htaken⟩ := beforeCommands_elements hstage hbefore
  rw [htaken] at he
  obtain ⟨hmem, htakes⟩ := List.mem_filter.mp he
  obtain ⟨_, -, hrow⟩ := exists_row_of_mem_commandRows hmem
  obtain ⟨parameter, hparameter⟩ := parameter_of_ofRow hrow hargument
  -- an argument has been taken up because its command parameter is there
  have hhas : t.stage.parameters.has parameter = true := by
    unfold takesUp at htakes
    rw [hargument, hparameter] at htakes
    simpa using (Bool.and_eq_true _ _ ▸ htakes).2
  obtain ⟨p, hp⟩ := Option.isSome_iff_exists.mp hhas
  refine ⟨p, ?_⟩
  unfold parameterOf
  rw [hparameter]
  dsimp only [Option.getD_some]
  rw [hp]

/-! ## Verification -/

/-- **An algorithm of acknowledgements is never refused**: it is there, or its name is free. -/
theorem exists_acknowledgementFor (d : Draft CommandingState) (stage : String) (code : Nat) :
    ∃ a t, acknowledgementFor stage code d = .ok a t := by
  have hraises : Raises (acknowledgementFor stage code) d fun _ => False := by
    unfold acknowledgementFor
    refine Raises.database ?_
    cases hfind : d.database.algorithms.find? ("PUS_Verifier-" ++ stage) with
    | some a => exact raises_pure
    | none =>
        have hechoed : Raises (echoedRequest : CommandingBuild (ParameterRef × ParameterRef)) d
            fun _ => False := by
          unfold echoedRequest
          refine (Telemetry.raises_unsignedOrNew _ _).bind fun _ _ _ => ?_
          exact (Telemetry.raises_unsignedOrNew _ _).bind fun _ _ _ => raises_pure
        refine hechoed.bind fun request t hrun => raises_add fun dup hdup => ?_
        obtain ⟨htaken, -⟩ := Catalog.map_add_eq_error.mp hdup
        -- the request that reports echo brings no algorithm
        rw [(echoedRequest_silent.of_ok hrun).1.algorithms] at htaken
        change d.database.algorithms.has ("PUS_Verifier-" ++ stage) = true at htaken
        unfold Catalog.has at htaken
        rw [hfind] at htaken
        cases htaken
  cases hrun : acknowledgementFor stage code d with
  | ok a t => exact ⟨a, t, rfl⟩
  | error x t => exact (hraises x t hrun).elim

/-- Why a verification stage is refused: its record cannot be read, there is a stage of its
identifier, it waits for nothing that there is, or no expression has its identifier. -/
inductive StageRefused (setting : Setting) (row : Row) (d : Draft CommandingState) (x : Error) :
    Prop where
  | unread : row.require [0, 1, 2, 3, 4] = .error x ∨ row.text 0 = .error x ∨
      checkWindow row setting.config.command.uncertaintyPeriod = .error x →
      StageRefused setting row d x
  | duplicate {id : String} : row.text 0 = .ok id → d.stage.stages.has id = true →
      x = row.data s!"duplicate verification stage '{id}'" → StageRefused setting row d x
  | source {source : Char} : row.flagD 2 ' ' = source → source ≠ 'R' → source ≠ 'V' →
      x = row.data s!"invalid CVS_SOURCE '{source}'" → StageRefused setting row d x
  | unexpressed {id : String} : row.text 0 = .ok id → row.flagD 2 ' ' = 'V' →
      d.stage.expressions.find? id = none → d.stage.unsupportedExpressions.contains id = false →
      x = row.reference s!"no CVE expression for verification stage '{id}'" →
      StageRefused setting row d x

/-- Expressions are kept with what they compare. -/
def Comparing (d : Draft CommandingState) : Prop :=
  ∀ id comparisons, d.stage.expressions.find? id = some comparisons → comparisons ≠ []

theorem stageCriteria_eq_error {id : String} (h : Comparing d)
    (hx : stageCriteria? d.stage row id = .error x) :
    d.stage.expressions.find? id = none ∧ d.stage.unsupportedExpressions.contains id = false ∧
      x = row.reference s!"no CVE expression for verification stage '{id}'" := by
  unfold stageCriteria? at hx
  split at hx
  · rename_i comparisons hfind
    split at hx
    · cases hx
    · rename_i hnone
      exact absurd (Criteria.eq_nil_of_ofList? hnone) (h id comparisons hfind)
  · rename_i hfind
    split at hx
    · cases hx
    · rename_i hnone
      cases hx
      exact ⟨hfind, Bool.eq_false_iff.mpr hnone, rfl⟩

/-- **A verification stage is refused for nothing else**: what it waits for is never empty. -/
theorem raises_declareStage (h : Comparing d) :
    Raises (declareStage setting row) d (StageRefused setting row d) := by
  unfold declareStage
  refine Raises.lift (fun x hx => .unread (.inl hx)) fun _ _ => ?_
  refine Raises.lift (fun x hx => .unread (.inr (.inl hx))) fun id hid => ?_
  refine Raises.stage (Raises.ite (fun htaken => ?_) fun _ => ?_)
  · exact raises_throw (.duplicate hid htaken rfl)
  refine Raises.lift (fun x hx => .unread (.inr (.inr hx))) fun window _ => ?_
  refine Raises.bind ?_ fun check t _ => ?_
  · unfold stageCheck?
    refine Raises.ite (fun _ => ?_) fun hreport => Raises.ite (fun hsource => ?_) fun hsource => ?_
    · refine Raises.bind (fun x t hx => ?_) fun _ _ _ => raises_pure
      obtain ⟨a, u, hok⟩ := exists_acknowledgementFor d (stageOf (row.flagD 1 ' ')).1
        (stageOf (row.flagD 1 ' ')).2
      cases hok.symm.trans hx
    · refine Raises.stage (Raises.lift (fun x hx => ?_) fun _ _ => raises_pure)
      obtain ⟨hfind, hnone, heq⟩ := stageCriteria_eq_error h hx
      exact .unexpressed hid hsource hfind hnone heq
    · exact raises_throw (.source rfl hreport hsource rfl)
  · cases check with
    | some check => exact raises_modify
    | none => exact raises_modify

/-- What the stage does before it comes to the records of verification stages. -/
def beforeStages (setting : Setting) : CommandingBuild Unit := do
  beforeVerifiers setting
  let _ ← Build.scan setting "cve" declareExpression

/-- **Where the verification stages begin, expressions are kept with what they compare.** -/
theorem beforeStages_comparing (hstage : d.stage = {}) (h : beforeStages setting d = .ok () t) :
    Comparing t := by
  obtain ⟨_, u, hbefore, h⟩ := bind_eq_ok.mp h
  obtain ⟨n, _, hscan, hpure⟩ := bind_eq_ok.mp h
  rw [(pure_eq_ok.mp hpure).2] at hscan
  obtain ⟨rows, -, hrun, -⟩ := scan_eq_ok.mp hscan
  have hverification : verification u.stage = verification d.stage :=
    ((tracks_beforeVerifiers unverifying_tracks fun _ _ => ⟨rfl, rfl⟩).of_ok hbefore).stage
  rw [hstage] at hverification
  have hexpressed := inTurn_expressed (expressed_nil (congrArg (·.1) hverification)
    (congrArg (·.2.1) hverification)) hrun
  intro id comparisons hfind
  rw [hexpressed.comparisons] at hfind
  split at hfind
  · cases hfind
  · rename_i hsome
    cases hfind
    exact hsome

/-! ## The stage -/

/-- Whatever the stage refuses, from a draft on, is refused for a reason that is found in the
tables. -/
structure FoundedRefusals (setting : Setting) (d : Draft CommandingState) : Prop where
  header : ∀ row t, ScanReaches setting "tcp" declareHeader d row t →
    Raises (declareHeader row) t (HeaderRefused row t)
  number : ∀ (p : CommandParameter) tag encoding, p.encoding tag = .ok encoding →
    2 ≤ p.ptc ∧ p.ptc ≤ 5 → ∃ value, p.naturalValue setting.epoch encoding = .ok value
  command : ∀ begun, beforeCommands setting d = .ok () begun →
    ∀ row t, ScanReaches setting "ccf" (defineCommand setting) begun row t →
      Raises (defineCommand setting row) t (CommandRefused setting row t)
  stage : ∀ begun, beforeStages setting d = .ok () begun →
    ∀ row t, ScanReaches setting "cvs" (declareStage setting) begun row t →
      Raises (declareStage setting row) t (StageRefused setting row t)

/--
**All refusals of the stage are founded.**

Wherever a record has its turn, it is refused only for what it says itself and for what is missing.
The name of a new command or algorithm is never taken, a header declares every argument that is
bound, an element never lacks its command parameter, a number never lacks a natural type, and a
verification stage always has something to check.
-/
theorem foundedRefusals (hnone : ∀ r, d.database.commands.get? r = none) (hstage : d.stage = {}) :
    FoundedRefusals setting d where
  header row t hturn := by
    refine raises_declareHeader (hturn.keeps (fun _ _ h => h)
      (fun _ _ h => declareHeader_allHeaders h) fun name hname => ?_)
    obtain ⟨r, k, hk, -⟩ := Catalog.exists_of_has hname
    cases (hnone r).symm.trans hk
  number p _ _ h hptc := p.exists_naturalValue setting.epoch h hptc
  command begun hbegun row t hturn := by
    refine raises_defineCommand (hturn.keeps (fun _ _ h => ⟨h.headers, h.elements⟩)
      (fun _ _ h => defineCommand_commandable h) (beforeCommands_commandable hnone hstage hbegun))
  stage begun hbegun row t hturn := by
    have hsame : Staging begun t := hturn.keeps (P := Staging begun)
      (fun _ _ h => IsTrans.trans _ _ _ h ⟨rfl, rfl, rfl, rfl⟩)
      (fun row u hu => (staging_stages.declareStage row u).after hu) (Std.Refl.refl begun)
    refine raises_declareStage fun id comparisons hfind => ?_
    rw [hsame.expressions] at hfind
    exact beforeStages_comparing hstage hbegun id comparisons hfind

end MissionBase.Commanding
