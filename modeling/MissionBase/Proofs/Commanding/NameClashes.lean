import MissionBase.Proofs.Commanding.ArgumentNames
import MissionBase.Proofs.Commanding.RecordSteps

/-!
# Clashes of argument names

The tables of headers come first and leave templates whose arguments have different names, in each
of which every role is played by an argument that it declares. A command is defined from a template
that is done, and later tables only add constraints and verifiers to it. So what is known of the
sources of its names when it is defined is known of it in the end, and its names are unambiguous
exactly where the sources do not clash.
-/

namespace MissionBase

/-- A command without what later tables say of its sending. -/
def Command.plain (c : Command) : Command := { c with constraints := [], verifiers := [] }

/-- The header arguments that play a role. -/
def HeaderTemplate.roles (t : HeaderTemplate) : List String :=
  [t.apid, t.type, t.subtype, t.acknowledgement].reduceOption

namespace Commanding

open Run Command

variable {setting : Setting} {d d' d'' : Draft CommandingState} {c c' : Command}

/-! ## Steps that leave names alone -/

/-- The commands are the same but for their constraints and verifiers, and so are the headers. -/
structure Annotates (d d' : Draft CommandingState) : Prop where
  headers : d'.stage.headers = d.stage.headers
  commands : ∀ r, (d'.database.commands.get? r).map Command.plain =
    (d.database.commands.get? r).map Command.plain

instance : Std.Refl Annotates := ⟨fun _ => ⟨rfl, fun _ => rfl⟩⟩

instance : IsTrans (Draft CommandingState) Annotates :=
  ⟨fun _ _ _ h h' => ⟨h'.headers.trans h.headers, fun r => (h'.commands r).trans (h.commands r)⟩⟩

theorem Annotates.trans (h : Annotates d d') (h' : Annotates d' d'') : Annotates d d'' :=
  IsTrans.trans _ _ _ h h'

theorem Annotates.symm (h : Annotates d d') : Annotates d' d :=
  ⟨h.headers.symm, fun r => (h.commands r).symm⟩

/-- A command stays what it was, but for its constraints and verifiers. -/
theorem Annotates.get? (h : Annotates d d') {r : CommandRef}
    (hc : d.database.commands.get? r = some c) :
    ∃ c', d'.database.commands.get? r = some c' ∧ c'.plain = c.plain := by
  have heq := h.commands r
  rw [hc, Option.map_some] at heq
  obtain ⟨c', hc', hplain⟩ := Option.map_eq_some_iff.mp heq
  exact ⟨c', hc', hplain⟩

theorem Annotates.of_same (hheaders : d'.stage.headers = d.stage.headers)
    (hcommands : d'.database.commands = d.database.commands) : Annotates d d' :=
  ⟨hheaders, fun r => by rw [hcommands]⟩

theorem annotates_changeStage {f : CommandingState → CommandingState}
    (h : ∀ s, (f s).headers = s.headers) :
    Steps Annotates (Build.changeStage f) :=
  steps_modify fun d => .of_same (h d.stage) rfl

theorem annotates_limitation (m : String) :
    Steps Annotates (Build.limitation m : CommandingBuild Unit) :=
  steps_modify fun _ => ⟨rfl, fun _ => rfl⟩

theorem annotates_record (d : Draft CommandingState) (e : Error) :
    Annotates d { d with errors := d.errors ++ [e] } := ⟨rfl, fun _ => rfl⟩

/-- A change of a command that shows in its constraints and verifiers only. -/
theorem annotates_changeCommand (r : CommandRef) {change : Command → Command}
    (h : ∀ c, (change c).plain = c.plain) :
    Steps Annotates (Build.changeDatabase fun db => db.changeCommand r change :
      CommandingBuild Unit) := by
  refine steps_modify fun d => ⟨rfl, fun q => ?_⟩
  show ((d.database.commands.modify r change).get? q).map Command.plain = _
  by_cases hq : r.index = q.index
  · have hrq : r = q := by cases r; cases q; exact congrArg Ref.mk hq
    rw [← hrq, Catalog.get?_modify_self, Option.map_map]
    exact congrArg (Option.map · _) (funext h)
  · rw [Catalog.get?_modify_of_ne _ hq]

theorem annotates_addArgumentType (t : ArgumentType) : Steps Annotates (addArgumentType t) := by
  intro d
  have hadded : Annotates d { d with database := (d.database.addArgumentType t).2 } :=
    .of_same rfl rfl
  exact hadded

/-! ### Elements -/

theorem annotates_argumentTypeFor (p : CommandParameter) (tag : Int) :
    Steps Annotates (argumentTypeFor setting p tag) :=
  steps_argumentTypeFor (fun t _ => annotates_addArgumentType t)
    (fun _ _ => annotates_changeStage fun _ => rfl)
    (fun _ _ => annotates_changeStage fun _ => rfl) p tag

/-- Placing the elements of a command changes no command that is there. -/
theorem annotates_placeElements (elements : List CommandElement) (command : Command) :
    Steps Annotates (placeElements setting command elements) :=
  steps_placeElements annotates_argumentTypeFor (fun _ _ _ _ => annotates_addArgumentType _)
    annotates_limitation elements command

/-! ### Tables that define no command -/

theorem annotates_calibrations : Steps Annotates (Build.within (fun _ => ({} : Registry))
    (fun s r => { s with calibrations := r }) (Registry.loadCommanding setting) :
      CommandingBuild Unit) :=
  steps_calibrations fun _ _ _ _ => .of_same rfl rfl

theorem annotates_gathering : GatheringSteps Annotates where
  parameters := fun _ => annotates_changeStage fun _ => rfl
  elements := fun _ => annotates_changeStage fun _ => rfl
  conditions := fun _ => annotates_changeStage fun _ => rfl
  constraint := fun r _ => annotates_changeCommand r fun _ => rfl

theorem annotates_loadParameters : Steps Annotates (loadParameters setting) :=
  annotates_gathering.loadParameters annotates_record

theorem annotates_loadElements : Steps Annotates (loadElements setting) :=
  annotates_gathering.loadElements annotates_record

theorem annotates_loadConstraints : Steps Annotates (loadConstraints setting) :=
  annotates_gathering.loadConstraints annotates_record

theorem annotates_verification : VerifierSteps Annotates where
  limitation := annotates_limitation
  expressions := fun _ => annotates_changeStage fun _ => rfl
  passedOver := fun _ => annotates_changeStage fun _ => rfl
  unsigned := steps_addUnsigned (fun _ => steps_addParameterType fun _ _ => .of_same rfl rfl)
    fun _ _ => steps_addParameter fun _ _ => .of_same rfl rfl
  algorithm := fun _ => steps_addAlgorithm fun _ _ => .of_same rfl rfl
  stages := fun _ => annotates_changeStage fun _ => rfl
  dropped := fun _ => annotates_changeStage fun _ => rfl
  verifier := fun r _ => annotates_changeCommand r fun _ => rfl

theorem annotates_loadVerifiers : Steps Annotates (loadVerifiers setting) :=
  annotates_verification.loadVerifiers annotates_record

/-! ## Headers -/

/-- What every header template is like: it extends and binds nothing, its arguments have different
names, and what it enters, it declares. -/
structure Template (c : Command) : Prop where
  base : c.base = none
  fixed : c.fixedArguments = none
  assignments : c.assignments = []
  distinct : c.argumentNames.Nodup
  entered : ∀ n, c.Enters n → n ∈ c.argumentNames

theorem template_plain : Template c.plain ↔ Template c :=
  ⟨fun h => ⟨h.base, h.fixed, h.assignments, h.distinct, h.entered⟩,
    fun h => ⟨h.base, h.fixed, h.assignments, h.distinct, h.entered⟩⟩

/-- Every role of a header is played by an argument that its template declares. -/
def Played (d : Draft CommandingState) (t : HeaderTemplate) : Prop :=
  ∃ k, d.database.commands.get? t.command = some k ∧ Template k ∧
    ∀ n ∈ t.roles, n ∈ k.argumentNames

/-- What holds while the headers are read: all commands are templates. -/
structure Templates (d : Draft CommandingState) : Prop where
  commands : ∀ r k, d.database.commands.get? r = some k → Template k
  headers : ∀ name t, d.stage.headers.find? name = some t → Played d t

theorem Played.annotates {t : HeaderTemplate} (h : Played d t) (hd : Annotates d d') :
    Played d' t := by
  obtain ⟨k, hk, htemplate, hroles⟩ := h
  obtain ⟨k', hk', hplain⟩ := hd.get? hk
  refine ⟨k', hk', ?_, ?_⟩
  · rw [← template_plain, hplain, template_plain]
    exact htemplate
  · show ∀ n ∈ t.roles, n ∈ k'.plain.argumentNames
    rw [hplain]
    exact hroles

theorem Templates.annotates (h : Templates d) (hd : Annotates d d') : Templates d' := by
  refine ⟨fun r k hk => ?_, fun name t ht => ?_⟩
  · obtain ⟨k', hk', hplain⟩ := hd.symm.get? hk
    rw [← template_plain, ← hplain, template_plain]
    exact h.commands r k' hk'
  · rw [hd.headers] at ht
    exact (h.headers name t ht).annotates hd

/-- A change of a template that loses none of its arguments. -/
theorem Templates.changeCommand (h : Templates d) {r : CommandRef} {change : Command → Command}
    (hchange : ∀ k, d.database.commands.get? r = some k →
      Template (change k) ∧ k.argumentNames ⊆ (change k).argumentNames) :
    Templates { d with database := d.database.changeCommand r change } := by
  -- a command is the one that was there, changed at the one place
  have hcommands (q : CommandRef) (k' : Command)
      (hk' : (d.database.commands.modify r change).get? q = some k') :
      ∃ k, d.database.commands.get? q = some k ∧ Template k' ∧
        k.argumentNames ⊆ k'.argumentNames := by
    obtain ⟨k, hk, ⟨rfl, rfl⟩ | ⟨-, rfl⟩⟩ := Catalog.get?_modify_eq_some hk'
    · exact ⟨k, hk, hchange k hk⟩
    · exact ⟨k, hk, h.commands q k hk, fun _ hn => hn⟩
  refine ⟨fun q k' hk' => ?_, fun name t ht => ?_⟩
  · obtain ⟨_, _, htemplate, _⟩ := hcommands q k' hk'
    exact htemplate
  · obtain ⟨k, hk, -, hroles⟩ := h.headers name t ht
    obtain ⟨k', hk', -⟩ := Catalog.exists_get?_modify hk r change
    obtain ⟨k₀, hk₀, htemplate, hnames⟩ := hcommands _ k' hk'
    rw [hk] at hk₀
    cases hk₀
    exact ⟨k', hk', htemplate, fun n hn => hnames (hroles n hn)⟩

theorem Templates.setHeader (h : Templates d) {name : String} {t : HeaderTemplate}
    (ht : Played d t) {headers : Index String HeaderTemplate}
    (hself : headers.find? name = some t)
    (hother : ∀ n, n ≠ name → headers.find? n = d.stage.headers.find? n) :
    Templates { d with stage := { d.stage with headers := headers } } := by
  refine ⟨h.commands, fun n u hu => ?_⟩
  by_cases hn : n = name
  · rw [hn] at hu
    have heq : headers.find? name = some u := hu
    rw [hself] at heq
    cases heq
    exact ht
  · exact h.headers n u ((hother n hn).symm.trans hu)

theorem Templates.pushCommand (h : Templates d) {k : Command} (hk : Template k) :
    Templates { d with
      database := { d.database with commands := d.database.commands.push k } } := by
  refine ⟨fun q k' hk' => ?_, fun n t ht => ?_⟩
  · rcases Catalog.get?_push_eq_some hk' with hold | ⟨-, rfl⟩
    · exact h.commands q k' hold
    · exact hk
  · obtain ⟨k', hk', hplayed⟩ := h.headers n t ht
    exact ⟨k', Catalog.get?_push_of_some hk' k, hplayed⟩

theorem Templates.withTemplate (h : Templates d) (name : String) :
    Templates (withTemplate d name) := by
  have hnew : Template { Command.named name with isAbstract := true } :=
    ⟨rfl, rfl, rfl, List.nodup_nil, fun n hn => by obtain ⟨e, he, -⟩ := hn; cases he⟩
  have htemplates := h.pushCommand hnew
  exact htemplates.setHeader ⟨_, Catalog.get?_push_next _ _, hnew, fun n hn => by cases hn⟩
    (Index.find?_set_self _ _ _) fun n hn => Index.find?_set_of_ne _ hn _

theorem HeaderTyped.annotates {name : String} {argument : HeaderArgument} {size : Nat}
    {type : ArgumentTypeRef} (h : HeaderTyped d name argument size type d') : Annotates d d' := by
  cases h with
  | kept => exact Std.Refl.refl d
  | made => exact ⟨rfl, fun _ => rfl⟩

/-- A template with an argument that is declared on first use. -/
theorem Template.declare (h : Template c) (a : Argument) :
    Template (declaring a c) ∧ c.argumentNames ⊆ (declaring a c).argumentNames ∧
      a.name ∈ (declaring a c).argumentNames := by
  unfold declaring
  split
  · rename_i hhas
    refine ⟨h, fun _ hn => hn, ?_⟩
    by_contra hnone
    rw [hasArgument_eq_false_iff_notMem.mpr hnone] at hhas
    cases hhas
  · rename_i hfree
    have hnone := hasArgument_eq_false_iff_notMem.mp (Bool.eq_false_iff.mpr hfree)
    have hnames : Command.argumentNames { c with arguments := c.arguments ++ [a] } =
        c.argumentNames ++ [a.name] := by
      simp [Command.argumentNames, Command.allArguments, h.fixed]
    rw [hnames]
    refine ⟨⟨h.base, h.fixed, h.assignments, ?_, fun n hn => ?_⟩, List.subset_append_left _ _,
      List.mem_append_right _ (List.mem_singleton_self _)⟩
    · rw [hnames, List.nodup_append']
      exact ⟨h.distinct, List.nodup_singleton _, by simpa using hnone⟩
    · rw [hnames]
      exact List.mem_append_left _ (h.entered n hn)

theorem mem_roles_withRole {t : HeaderTemplate} {name n : String} {role : HeaderRole}
    (h : n ∈ (t.withRole name role).roles) : n = name ∨ n ∈ t.roles := by
  simp only [HeaderTemplate.roles, List.reduceOption_mem_iff] at h ⊢
  cases role <;> simp only [HeaderTemplate.withRole, List.mem_cons, Option.some.injEq] at h ⊢ <;>
    tauto

/-- A template declares an argument on first use, and gives it a role. -/
theorem Templates.withRole (h : Templates d) {header : String} {t : HeaderTemplate}
    (ht : d.stage.headers.find? header = some t) (a : Argument) (role : HeaderRole) :
    Templates (withRole d header t.command role a) ∧
      ∀ k, (withRole d header t.command role a).database.commands.get? t.command = some k →
        a.name ∈ k.argumentNames := by
  have hdeclare (k : Command) (hk : d.database.commands.get? t.command = some k) :
      Template (declaring a k) ∧ k.argumentNames ⊆ (declaring a k).argumentNames ∧
        a.name ∈ (declaring a k).argumentNames := (h.commands _ k hk).declare a
  have hchanged : Templates { d with
      database := d.database.changeCommand t.command (declaring a) } :=
    h.changeCommand fun k hk => ⟨(hdeclare k hk).1, (hdeclare k hk).2.1⟩
  obtain ⟨k, hk, -, hroles⟩ := h.headers header t ht
  obtain ⟨htemplate, hkeeps, hname⟩ := hdeclare k hk
  have hget : (d.database.commands.modify t.command (declaring a)).get? t.command =
      some (declaring a k) := by
    rw [Catalog.get?_modify_self, hk, Option.map_some]
  -- the roles from before are played by arguments that are still there
  have hplayed : Played { d with database := d.database.changeCommand t.command (declaring a) }
      (t.withRole a.name role) := by
    refine ⟨declaring a k, ?_, htemplate, fun n hn => ?_⟩
    · cases role <;> exact hget
    · rcases mem_roles_withRole hn with rfl | hn
      · exact hname
      · exact hkeeps (hroles n hn)
  have hheader : (Commanding.withRole d header t.command role a).stage.headers.find? header =
      some (t.withRole a.name role) := by
    show (d.stage.headers.change header _).find? header = _
    rw [Index.find?_change_self, ht, Option.getD_some]
  refine ⟨hchanged.setHeader hplayed hheader fun n hn => Index.find?_change_of_ne _ hn _, ?_⟩
  intro k' hk'
  have hk' : (d.database.commands.modify t.command (declaring a)).get? t.command = some k' := hk'
  rw [hget] at hk'
  cases hk'
  exact hname

/-- What a field holds is declared in the template of its header. -/
theorem Templates.fieldItem (h : Templates d) {row : Row} {header : String} {t : HeaderTemplate}
    (ht : d.stage.headers.find? header = some t) {size : Nat} {item : CommandItem}
    (hitem : FieldItem d row header t.command size item d') :
    Templates d' ∧ ∀ n, item = .argument n → ∀ k,
      d'.database.commands.get? t.command = some k → n ∈ k.argumentNames := by
  cases hitem with
  | constant => exact ⟨h, nofun⟩
  | spare => exact ⟨h, nofun⟩
  | argument _ _ htyped =>
      rw [← htyped.headers] at ht
      obtain ⟨htemplates, hdeclared⟩ := (h.annotates htyped.annotates).withRole ht _ _
      refine ⟨htemplates, ?_⟩
      rintro n ⟨⟩
      exact hdeclared

theorem placeHeaderField_ends (h : Templates d) (row : Row) :
    Ends (placeHeaderField row) d (fun _ => Templates) Templates := by
  refine ends_placeHeaderField h fun header t size bit item d' _ ht _ hitem => ?_
  obtain ⟨htemplates, hdeclared⟩ := h.fieldItem ht hitem
  refine htemplates.changeCommand fun k hk => ⟨?_, fun _ hn => hn⟩
  have hk' := htemplates.commands _ k hk
  refine ⟨hk'.base, hk'.fixed, hk'.assignments, hk'.distinct, fun n hn => ?_⟩
  obtain ⟨e, he, hn⟩ := hn
  rcases List.mem_append.mp he with hold | hnew
  · exact hk'.entered n ⟨e, hold, hn⟩
  · rw [List.mem_singleton.mp hnew] at hn
    exact hdeclared n hn k hk

/-- **The tables of headers leave templates.** -/
theorem loadHeaders_ends (h : Templates d) :
    Ends (loadHeaders setting) d (fun _ => Templates) fun _ => True := by
  have hscan {table : String} {handle : Row → CommandingBuild Unit} {d : Draft CommandingState}
      (hd : Templates d) (hrow : ∀ row d, Templates d →
        Ends (handle row) d (fun _ => Templates) Templates) :
      Ends (Build.scan setting table handle) d (fun _ => Templates) fun _ => True :=
    (ends_scan (Q := Templates) (fun d e hd => hd.annotates (annotates_record d e)) hd hrow).mono
      (fun _ _ _ h => h) fun _ _ => trivial
  unfold loadHeaders
  refine Ends.bind ((hscan h fun row d hd => ends_declareHeader hd fun name _ =>
    hd.withTemplate name).mono (fun _ d₁ _ h₁ => ?_) fun _ h => h)
  refine Ends.bind ((hscan h₁ fun row d hd => ends_declareHeaderArgument hd fun _ _ _ _ =>
    hd.annotates ⟨rfl, fun _ => rfl⟩).mono (fun _ d₂ _ h₂ => ?_) fun _ h => h)
  exact Ends.bind ((hscan h₂ fun row d hd => placeHeaderField_ends hd row).mono
    (fun _ _ _ h => h) fun _ h => h)

/-! ## Commands -/

theorem Speaks.congr {promoted bound placed counted : List String}
    (h : Speaks promoted bound placed counted c) (harguments : c'.arguments = c.arguments)
    (hassignments : c'.assignments = c.assignments)
    (hfixed : c'.fixedArguments = c.fixedArguments) (hentries : c'.entries = c.entries) :
    Speaks promoted bound placed counted c' := by
  have hnames : c'.fixedNames = c.fixedNames := by
    unfold Command.fixedNames Command.fixedDeclarations
    rw [hfixed]
  refine ⟨by rw [harguments, h.arguments], by rw [hassignments, h.assignments], ?_, fun n => ?_,
    by rw [hnames]; exact h.distinct, by rw [hnames]; exact h.apart, h.counters⟩
  · rw [hnames, ← h.fixedAssignments]
    unfold Command.fixedAssignments
    rw [hfixed]
  · rw [hnames, ← h.entries n]
    unfold Command.Enters
    rw [hentries]

/-- A command is that of a record with a header. -/
structure HeadedBy (d : Draft CommandingState) (rows : List Row) (row : Row)
    (header : HeaderTemplate) (c : Command) : Prop where
  mem : row ∈ rows
  command : row.text 0 = .ok c.name
  find : ∃ name, row.text 5 = .ok name ∧ d.stage.headers.find? name = some header
  base : c.base = some header.command

/-- What is known of a command: it is a template, it has no header, or it says what its record asks
for under its header. -/
inductive Known (setting : Setting) (rows : List Row) (d : Draft CommandingState) (c : Command) :
    Prop
  | template (h : Template c)
  | alone (base : c.base = none) {placed counted : List String}
      (speaks : Speaks [] [] placed counted c)
  | under {row : Row} {header : HeaderTemplate} {placed counted : List String}
      (headed : HeadedBy d rows row header c)
      (speaks : Speaks (promotions setting row header) (boundNames setting row header) placed
        counted c)

theorem Known.annotates {rows : List Row} (h : Known setting rows d c) (hd : Annotates d d')
    (hplain : c'.plain = c.plain) : Known setting rows d' c' := by
  have harguments : c'.arguments = c.arguments := (congrArg Command.arguments hplain :)
  have hassignments : c'.assignments = c.assignments := (congrArg Command.assignments hplain :)
  have hfixed : c'.fixedArguments = c.fixedArguments :=
    (congrArg Command.fixedArguments hplain :)
  have hentries : c'.entries = c.entries := (congrArg Command.entries hplain :)
  have hbase : c'.base = c.base := (congrArg Command.base hplain :)
  have hname : c'.name = c.name := (congrArg Command.name hplain :)
  cases h with
  | template h =>
      rw [← template_plain, ← hplain, template_plain] at h
      exact .template h
  | alone base speaks =>
      exact .alone (hbase.trans base) (speaks.congr harguments hassignments hfixed hentries)
  | under headed speaks =>
      refine .under ⟨headed.mem, ?_, ?_, hbase.trans headed.base⟩
        (speaks.congr harguments hassignments hfixed hentries)
      · rw [hname]
        exact headed.command
      · rw [hd.headers]
        exact headed.find

/-- What holds once the headers are read. -/
structure Named (setting : Setting) (rows : List Row) (d : Draft CommandingState) : Prop where
  headers : ∀ name t, d.stage.headers.find? name = some t → Played d t
  commands : ∀ r c, d.database.commands.get? r = some c → Known setting rows d c

theorem Named.annotates {rows : List Row} (h : Named setting rows d) (hd : Annotates d d') :
    Named setting rows d' := by
  refine ⟨fun name t ht => ?_, fun r c hc => ?_⟩
  · rw [hd.headers] at ht
    exact (h.headers name t ht).annotates hd
  · obtain ⟨c₀, hc₀, hplain⟩ := hd.symm.get? hc
    exact (h.commands r c₀ hc₀).annotates hd hplain.symm

theorem Named.withCommand {rows : List Row} (h : Named setting rows d)
    (hc : Known setting rows d c) : Named setting rows (withCommand d c) := by
  refine ⟨fun name t ht => ?_, fun q k hk => ?_⟩
  · obtain ⟨k, hk, hplayed⟩ := h.headers name t ht
    exact ⟨k, Catalog.get?_push_of_some hk c, hplayed⟩
  · have hknown : Known setting rows d k := by
      rcases Catalog.get?_push_eq_some hk with hold | ⟨-, rfl⟩
      · exact h.commands q k hold
      · exact hc
    cases hknown with
    | template h => exact .template h
    | alone base speaks => exact .alone base speaks
    | under headed speaks => exact .under { headed with } speaks

/-- **A command that is defined is known.** -/
theorem defineCommand_named {rows : List Row} (h : Named setting rows d) {row : Row}
    (hrow : row ∈ rows) :
    Ends (defineCommand setting row) d (fun _ => Named setting rows) (Named setting rows) := by
  refine ends_defineCommand h h fun name c₀ hname hheader => ?_
  refine (annotates_placeElements _ c₀ d).mono (fun c₁ d₁ hplace h₁ => ?_)
    fun _ h₁ => h.annotates h₁
  refine ⟨h.annotates h₁, fun c₂ hservice => (h.annotates h₁).withCommand ?_⟩
  -- the header comes first, then the elements one by one, and last the service
  obtain ⟨_, hplaced⟩ := placeElements_eq_ok _ hplace
  obtain ⟨hsame, hbase⟩ := hplaced.same
  obtain ⟨_, _, rfl, -⟩ := withService_eq_ok hservice
  rcases withHeader_speaks rfl rfl rfl rfl rfl hheader with
    ⟨hnone, hspeaks⟩ | ⟨header, t, hreference, hfind, hheaderBase, hspeaks⟩
  · obtain ⟨_, _, hspeaks⟩ := hplaced.speaks hspeaks
    exact .alone (hbase.trans hnone) (hspeaks.congr rfl rfl rfl rfl)
  · obtain ⟨_, _, hspeaks⟩ := hplaced.speaks hspeaks
    refine .under ⟨hrow, ?_, ⟨header, hreference, ?_⟩, hbase.trans hheaderBase⟩
      (hspeaks.congr rfl rfl rfl rfl)
    · rw [hname]
      exact congrArg Except.ok (hsame.trans (withHeader_sameBody hheader).name).symm
    · rw [h₁.headers]
      exact hfind

theorem loadCommands_named {rows : List Row} (hrows : Build.rows setting "ccf" = .ok rows)
    (h : Named setting rows d) :
    Ends (loadCommands setting) d (fun _ => Named setting rows) fun _ => True := by
  refine Ends.bind ((ends_scanRows (I := fun rest d => rest ⊆ rows ∧ Named setting rows d) hrows
    (fun _ d e h => ⟨h.1, h.2.annotates (annotates_record d e)⟩) (fun _ _ _ => trivial)
    (fun row rest d hd => ?_) ⟨List.Subset.refl _, h⟩).mono (fun _ _ _ h => h.2) fun _ h => h)
  have hrest := (List.cons_subset.mp hd.1).2
  exact (defineCommand_named hd.2 (hd.1 List.mem_cons_self)).mono (fun _ _ _ h => ⟨hrest, h⟩)
    fun _ h => ⟨hrest, h⟩

/-! ## The command stage -/

/-- **What is known of the commands when all tables are read.** -/
theorem buildCommands_named (hcommands : d.database.commands.size = 0)
    (hheaders : d.stage.headers.entries = []) (hrun : buildCommands setting d = .ok () d') :
    ∃ rows, Build.rows setting "ccf" = .ok rows ∧ Named setting rows d' := by
  obtain ⟨_, d₁, h₁, hrun⟩ := bind_eq_ok.mp hrun
  obtain ⟨_, d₂, h₂, hrun⟩ := bind_eq_ok.mp hrun
  obtain ⟨_, d₃, h₃, hrun⟩ := bind_eq_ok.mp hrun
  obtain ⟨_, d₄, h₄, hrun⟩ := bind_eq_ok.mp hrun
  obtain ⟨_, d₅, h₅, hrun⟩ := bind_eq_ok.mp hrun
  obtain ⟨_, d₆, h₆, h₇⟩ := bind_eq_ok.mp hrun
  have hstart : Templates d := by
    refine ⟨fun r k hk => ?_, fun name t ht => ?_⟩
    · have hlt := Catalog.lt_size_of_get? hk
      rw [hcommands] at hlt
      exact absurd hlt (Nat.not_lt_zero _)
    · rw [Index.find?_of_entries_eq_nil hheaders] at ht
      cases ht
  obtain ⟨n, u, hscan, -⟩ := bind_eq_ok.mp h₅
  obtain ⟨rows, hrows⟩ := exists_rows_of_scan hscan
  have htemplates := (loadHeaders_ends hstart).of_ok h₁
  have hnamed : Named setting rows d₁ :=
    ⟨htemplates.headers, fun r k hk => .template (htemplates.commands r k hk)⟩
  have hbefore : Annotates d₁ d₄ := (annotates_calibrations.of_ok h₂).trans
    ((annotates_loadParameters.of_ok h₃).trans (annotates_loadElements.of_ok h₄))
  have hafter : Annotates d₅ d' :=
    (annotates_loadConstraints.of_ok h₆).trans (annotates_loadVerifiers.of_ok h₇)
  exact ⟨rows, hrows, ((loadCommands_named hrows (hnamed.annotates hbefore)).of_ok h₅).annotates
    hafter⟩

/-- A header argument that is bound plays a role. -/
theorem boundNames_subset_roles (setting : Setting) (row : Row) (header : HeaderTemplate) :
    boundNames setting row header ⊆ header.roles := by
  intro n hn
  obtain ⟨a, ha, rfl⟩ := List.mem_map.mp hn
  obtain ⟨x, hx, hbinding⟩ := List.mem_filterMap.mp ha
  have hargument : x.argument = some a.argument := by
    unfold binding? at hbinding
    split at hbinding
    · cases hbinding
    · split at hbinding
      · rename_i argument value hargument hvalue
        cases hbinding
        exact hargument
      · cases hbinding
  rw [HeaderTemplate.roles, List.reduceOption_mem_iff, ← hargument]
  simp only [discriminators, List.mem_cons, List.not_mem_nil, or_false] at hx
  rcases hx with rfl | rfl | rfl | rfl <;> simp

theorem Template.unambiguous (h : Template c) : c.Unambiguous [] [] := by
  have hnone : c.assignedNames = [] := by
    rw [assignedNames_eq, h.assignments]
    unfold Command.fixedAssignments
    rw [h.fixed]
    rfl
  refine ⟨h.distinct, fun n _ hin => hin, h.entered, fun n hn => ?_, ?_⟩
  · rw [hnone] at hn
    cases hn
  · rw [hnone]
    exact List.nodup_nil

end Commanding

open Commanding Run

/-- **The names of a command's arguments are unambiguous exactly where it places no argument under
the name of a header argument**, and its header's roles that it uses are played by different
arguments. Without a header they always are. -/
theorem buildCommands_unambiguous_iff {setting : Setting} {d d' : Draft CommandingState}
    (hcommands : d.database.commands.size = 0) (hheaders : d.stage.headers.entries = [])
    (hrun : buildCommands setting d = .ok () d') {r : CommandRef} {c : Command}
    (hget : d'.database.commands.get? r = some c) :
    c.base = none ∧ c.Unambiguous [] [] ∨
    ∃ rows row header k, Build.rows setting "ccf" = .ok rows ∧ HeadedBy d' rows row header c ∧
      d'.database.commands.get? header.command = some k ∧
      (c.Unambiguous k.argumentNames (promotions setting row header) ↔
        (promotions setting row header ++ boundNames setting row header).Nodup ∧
          ∀ n, c.Enters n → n ∉ k.argumentNames) := by
  obtain ⟨rows, hrows, hnamed⟩ := buildCommands_named hcommands hheaders hrun
  cases hnamed.commands r c hget with
  | template h => exact .inl ⟨h.base, h.unambiguous⟩
  | alone base speaks =>
      refine .inl ⟨base, (speaks.unambiguous_iff List.nodup_nil (List.Subset.refl _)).mpr ?_⟩
      exact ⟨List.nodup_nil, fun n _ hin => nomatch hin⟩
  | @under row header _ _ headed speaks =>
      obtain ⟨name, -, hfind⟩ := headed.find
      obtain ⟨k, hk, htemplate, hroles⟩ := hnamed.headers name header hfind
      refine .inr ⟨rows, row, header, k, hrows, headed, hk,
        speaks.unambiguous_iff htemplate.distinct fun n hn => hroles n ?_⟩
      exact boundNames_subset_roles setting row header hn

/-- A header argument and an argument of a command of that header, both under one name. -/
def takenNameSetting : Setting :=
  .ofTables [
    ("tcp", "HDR\n"),
    ("pcpc", "N1\tapid\tU\n"),
    ("pcdf", "HDR\t\tA\t11\t5\tN1\n"),
    ("cca", ""), ("ccs", ""), ("paf", ""), ("pas", ""), ("prf", ""), ("prv", ""),
    ("cpc", "N1\t\t3\t4\n"),
    ("cdf", "CMD\tE\t\t8\t0\t0\tN1\n"),
    ("ccf", "CMD\ta command\t\t\tN\tHDR\t\t\t100\n"),
    ("ptv", ""), ("cve", ""), ("cvs", ""), ("cvp", "")]

/-- The command has an argument of the name that it binds in its header. -/
theorem taken_name_ambiguous :
    ∃ (d d' : Draft CommandingState) (c k : Command) (promoted : List String),
      d.database.commands.size = 0 ∧ d.stage.headers.entries = [] ∧
      buildCommands takenNameSetting d = .ok () d' ∧
      d'.database.commands.get? ⟨1⟩ = some c ∧ c.base = some ⟨0⟩ ∧
      d'.database.commands.get? ⟨0⟩ = some k ∧ ¬ c.Unambiguous k.argumentNames promoted := by
  have hok : (after? (buildCommands takenNameSetting)
      { database := { name := "MIB" }, stage := {} }).any (fun d' =>
        (d'.database.commands.get? ⟨1⟩).any fun c =>
          (d'.database.commands.get? ⟨0⟩).any fun k =>
            decide (c.base = some ⟨0⟩ ∧ (∃ e ∈ c.entries, e.item = .argument "N1") ∧
              "N1" ∈ k.argumentNames)) = true := by
    decide +kernel
  obtain ⟨d', hafter, hok⟩ := (Option.any_eq_true _ _).mp hok
  obtain ⟨c, hc, hok⟩ := (Option.any_eq_true _ _).mp hok
  obtain ⟨k, hk, hfacts⟩ := (Option.any_eq_true _ _).mp hok
  obtain ⟨hbase, henters, hdeclared⟩ := of_decide_eq_true hfacts
  obtain ⟨_, hrun⟩ := after?_eq_some.mp hafter
  rcases buildCommands_unambiguous_iff rfl rfl hrun hc with
    ⟨hnone, -⟩ | ⟨_, row, header, k', -, hheaded, hk', hiff⟩
  · rw [hbase] at hnone
    cases hnone
  · have hheader := hheaded.base
    rw [hbase] at hheader
    rw [← Option.some.inj hheader, hk] at hk'
    cases hk'
    exact ⟨_, d', c, k, _, rfl, rfl, hrun, hc, hbase, hk,
      fun h => (hiff.mp h).2 "N1" henters hdeclared⟩

end MissionBase
