import MissionBase.Commanding.Stage
import MissionBase.Proofs.Commanding.FirstElement
import MissionBase.Proofs.Commanding.HeaderRecords
import MissionBase.Proofs.Commanding.Headers
import MissionBase.Proofs.Telemetry.Soundness

/-!
# The command stage keeps the database wired

The stage remembers header templates, types of arguments, and the parameters that conditions and
verification stages compare. A command is built up before it enters the database, so its handlers
say that the command under construction refers to what is there already.
-/

namespace MissionBase

open Run Refers

/-! ## What the stage remembers -/

instance : Refers HeaderTemplate := ⟨fun t => targets t.command⟩

instance : Refers HeaderArgument := ⟨fun a => targets (a.layout.map (·.1))⟩

instance : Refers StageCheck where
  targets
    | .acknowledgement a => targets a
    | .parameters criteria => targets criteria

instance : Refers VerificationStage := ⟨fun s => targets s.check⟩

namespace Commanding

/-- What the stage remembers of the database is there. -/
structure Remembers (db : Database) (s : CommandingState) : Prop where
  headers : db.Resolves s.headers
  headerArguments : db.Resolves s.headerArguments
  argumentTypes : db.Resolves s.argumentTypes
  identifierTypes : db.Resolves s.identifierTypes
  conditions : db.Resolves s.conditions
  expressions : db.Resolves s.expressions
  stages : db.Resolves s.stages

def upkeep : Upkeep CommandingState where
  Holds := Remembers
  kept := fun hkept h => ⟨h.headers.kept hkept, h.headerArguments.kept hkept,
    h.argumentTypes.kept hkept, h.identifierTypes.kept hkept, h.conditions.kept hkept,
    h.expressions.kept hkept, h.stages.kept hkept⟩

open Upkeep

variable {setting : Setting} {d d' : Draft CommandingState}

/-! ## Headers -/

theorem safe_declareHeader (row : Row) : upkeep.Safe d (declareHeader row) fun _ _ => True := by
  unfold declareHeader
  refine Safe.read fun _ _ => Safe.read fun name _ => Safe.stage fun _ => Safe.unless fun _ => ?_
  refine Safe.bind (Q := fun ref db => db.Resolves ref) ?_ fun ref t _ _ href => ?_
  · refine safe_add fun hd ref db hadd => hd.wired.addCommand ?_ hadd
    exact Database.resolves_of_eq_nil rfl
  · exact safe_changeStage (fun ht => { ht.stage with
      headers := ht.stage.headers.set (x := { command := ref }) href }) trivial

theorem safe_declareHeaderArgument (row : Row) :
    upkeep.Safe d (declareHeaderArgument row) fun _ _ => True := by
  unfold declareHeaderArgument
  refine Safe.read fun _ _ => Safe.read fun name _ => Safe.stage fun _ => Safe.unless fun _ => ?_
  dsimp only
  refine Safe.unless fun _ => Safe.read fun description _ => ?_
  refine safe_changeStage (fun hd => { hd.stage with
    headerArguments := hd.stage.headerArguments.set ?_ }) trivial
  exact Database.resolves_of_eq_nil rfl

/-- A type of arguments that refers to what is there. -/
theorem safe_pushArgumentType {type : ArgumentType} (htype : d.database.Resolves type) :
    upkeep.Safe d (Build.changeDatabase fun _ => (d.database.addArgumentType type).2)
      fun _ db => db.Resolves (d.database.addArgumentType type).1 := by
  intro hd
  obtain ⟨hfollows, href⟩ := hd.wired.addArgumentType htype
  exact safe_changeDatabase (Q := fun _ db => db.Resolves _) (fun _ => hfollows) href hd

/-- The type that a header argument gets is there. -/
theorem sound_typed (h : upkeep.Sound d) {name : String} {argument : HeaderArgument} {size : Nat}
    {type : ArgumentTypeRef} (hargument : d.database.Resolves argument)
    (htyped : HeaderTyped d name argument size type d') :
    upkeep.Sound d' ∧ d.database.Kept d'.database ∧ d'.database.Resolves type := by
  cases htyped with
  | kept hlayout =>
      have htype : d.database.Resolves (argument.layout.map (·.1)) := hargument
      rw [hlayout] at htype
      exact ⟨h, .refl _, Database.resolves_some.mp htype⟩
  | made =>
      obtain ⟨hfollows, href⟩ := h.wired.addArgumentType (t := argument.type name size)
        (Database.resolves_of_eq_nil rfl)
      have hstage := upkeep.kept hfollows.kept h.stage
      refine ⟨⟨hfollows.wired, { hstage with headerArguments := ?_ }⟩, hfollows.kept, href⟩
      refine hstage.headerArguments.set ?_
      exact Database.resolves_some.mpr href

/-- A change of a command that leaves its base alone, and refers to what is there. -/
theorem safe_changeCommand {r : CommandRef} {change : Command → Command}
    (hchange : ∀ c, d.database.Resolves c → d.database.Resolves (change c))
    (hbase : ∀ c, (change c).base = c.base) :
    upkeep.Safe d (Build.changeDatabase fun db => db.changeCommand r change) fun _ _ => True :=
  safe_changeDatabase (fun hd => hd.wired.changeCommand hchange hbase) trivial

/-- A command with one more argument. -/
theorem resolves_withArgument {db : Database} {c : Command} (hc : db.Resolves c) {a : Argument}
    (ha : db.Resolves a) : db.Resolves { c with arguments := c.arguments ++ [a] } := by
  obtain ⟨h1, h2, h3, h4⟩ := Database.resolves_command.mp hc
  refine Database.resolves_command.mpr ⟨h1, h2, Database.resolves_append.mpr ⟨h3, ?_⟩, h4⟩
  exact Database.resolves_cons.mpr ⟨ha, Database.resolves_nil⟩

theorem resolves_declaring {db : Database} {c : Command} (hc : db.Resolves c) {a : Argument}
    (ha : db.Resolves a) : db.Resolves (declaring a c) := by
  unfold declaring
  split
  · exact hc
  · exact resolves_withArgument hc ha

/-- What a field holds refers to what is there. -/
theorem sound_fieldItem (h : upkeep.Sound d) {row : Row} {header : String} {command : CommandRef}
    {size : Nat} {item : CommandItem} (hcommand : d.database.Resolves command)
    (hitem : FieldItem d row header command size item d') :
    upkeep.Sound d' ∧ d.database.Kept d'.database := by
  cases hitem with
  | constant => exact ⟨h, .refl _⟩
  | spare => exact ⟨h, .refl _⟩
  | @argument role name argument type d₁ _ hfind htyped =>
      obtain ⟨hsound, hkept, htype⟩ := sound_typed h (h.stage.headerArguments.find? hfind) htyped
      let a : Argument := { name := name, description := some argument.description, type := type }
      have ha : d₁.database.Resolves a :=
        Database.resolves_argument.mpr ⟨htype, Database.resolves_none⟩
      have hfollows : d₁.database.Follows (d₁.database.changeCommand command (declaring a)) :=
        hsound.wired.changeCommand (fun _ hc => resolves_declaring hc ha) (base_declaring a)
      have hstage := upkeep.kept hfollows.kept hsound.stage
      refine ⟨⟨hfollows.wired, { hstage with headers := ?_ }⟩, hkept.trans hfollows.kept⟩
      refine hstage.headers.change fun old hold => ?_
      show Database.Resolves _ ((old.getD { command := command }).withRole name role).command
      rw [HeaderTemplate.command_withRole]
      cases old with
      | none => exact (hcommand.kept hkept).kept hfollows.kept
      | some t => exact Database.resolves_some.mp hold

theorem safe_placeHeaderField (row : Row) :
    upkeep.Safe d (placeHeaderField row) fun _ _ => True := by
  intro hd
  refine ends_placeHeaderField ⟨hd, .refl _⟩ fun header t size bit item d' _ ht _ hitem => ?_
  obtain ⟨hsound, hkept⟩ := sound_fieldItem hd (hd.stage.headers.find? ht) hitem
  have hfollows : d'.database.Follows (d'.database.changeCommand t.command fun c =>
      { c with entries := c.entries ++ [⟨.start bit, item⟩] }) :=
    hsound.wired.changeCommand (fun _ hc => hc) fun _ => rfl
  exact ⟨⟨hfollows.wired, upkeep.kept hfollows.kept hsound.stage⟩, hkept.trans hfollows.kept,
    trivial⟩

/-! ## Types of arguments -/

end Commanding

namespace CommandParameter

/-- **The type that a declaration asks for refers to nothing.** -/
theorem bare_buildType {p : CommandParameter} {calibrations : Registry} {epoch : Epoch} {tag : Int}
    {t : ArgumentType} (h : p.buildType epoch calibrations tag = .ok t) : targets t = [] := by
  obtain ⟨own, _, _, _, hmade, rfl⟩ := buildType_eq_ok h
  have hown : targets own.value = [] := by
    cases hmade with
    | calibrated => exact CurveDefinition.targets_valueType _
    | labelled => rfl
    | natural _ hvalue => exact ValueType.targets_natural? hvalue
    | plain hvalue => exact ValueType.targets_of_isPlain hvalue
  exact hown

end CommandParameter

namespace Commanding

open Upkeep

variable {setting : Setting} {d : Draft CommandingState}

theorem safe_addArgumentType {type : ArgumentType} (htype : d.database.Resolves type) :
    upkeep.Safe d (addArgumentType type) fun r db => db.Resolves r := by
  unfold addArgumentType
  refine Safe.database fun _ => ?_
  dsimp only
  exact (safe_pushArgumentType htype).bind fun _ _ _ _ href => safe_pure href

theorem safe_identifierType (p : CommandParameter) (sizeTagBytes : Int) :
    upkeep.Safe d (identifierType p sizeTagBytes) fun r db => db.Resolves r := by
  unfold identifierType
  refine Safe.unless fun _ => Safe.stage fun hd => ?_
  split
  · rename_i type hfind
    exact safe_pure (hd.stage.identifierTypes.find? hfind)
  · refine Safe.read fun encoding _ => Safe.database fun _ => ?_
    dsimp only
    refine (safe_addArgumentType (Database.resolves_of_eq_nil rfl)).bind fun type t _ _ htype => ?_
    exact Safe.bind (Q := fun _ db => db.Resolves type) (safe_changeStage (fun ht =>
      { ht.stage with identifierTypes := ht.stage.identifierTypes.set htype }) htype)
      fun _ _ _ _ h => safe_pure h

theorem safe_argumentTypeFor (p : CommandParameter) (sizeTagBytes : Int) :
    upkeep.Safe d (argumentTypeFor setting p sizeTagBytes) fun r db => db.Resolves r := by
  unfold argumentTypeFor
  refine Safe.ite (fun _ => safe_identifierType p sizeTagBytes) fun _ => Safe.stage fun hd => ?_
  dsimp only
  split
  · rename_i type hfind
    exact safe_pure (hd.stage.argumentTypes.find? hfind)
  · refine Safe.read fun built hbuilt => ?_
    have hbare := CommandParameter.bare_buildType hbuilt
    refine (safe_addArgumentType (Database.resolves_of_eq_nil hbare)).bind
      fun type t _ _ htype => ?_
    exact Safe.bind (Q := fun _ db => db.Resolves type) (safe_changeStage (fun ht =>
      { ht.stage with argumentTypes := ht.stage.argumentTypes.set htype }) htype)
      fun _ _ _ _ h => safe_pure h

/-! ## Elements -/

theorem withDefault_resolves {db : Database} {element : CommandElement} {p : CommandParameter}
    {argument a : Argument} (hargument : db.Resolves argument)
    (h : withDefault db element p argument = .ok a) : db.Resolves a := by
  unfold withDefault at h
  split at h
  · split at h
    · cases h
      exact hargument
    · unfold dynamicDefault at h
      split at h
      · cases h
      · split at h
        · rename_i parameter hfind
          cases h
          refine Database.resolves_argument.mpr
            ⟨(Database.resolves_argument.mp hargument).1, Database.resolves_some.mpr ?_⟩
          exact Database.resolves_ref.mpr (Catalog.lt_size_of_find? hfind)
        · cases h
    · cases h
      exact hargument
    · cases h
      exact hargument
  · cases h
    exact hargument

theorem safe_argumentOf (element : CommandElement) :
    upkeep.Safe d (argumentOf setting element) fun a db => db.Resolves a := by
  unfold argumentOf
  refine Safe.stage fun _ => Safe.read fun p _ => ?_
  refine (safe_argumentTypeFor p element.sizeTagBytes).bind fun type t _ _ htype => ?_
  refine Safe.database fun _ => safe_lift fun a ha => withDefault_resolves ?_ ha
  exact Database.resolves_argument.mpr ⟨htype, Database.resolves_none⟩

/-- A command with one more argument in its fixed set. -/
theorem resolves_withFixed {db : Database} {c : Command} (hc : db.Resolves c) {a : Argument}
    (ha : db.Resolves a) (value : String) : db.Resolves (withFixed c a value) := by
  obtain ⟨h1, h2, h3⟩ := Database.resolves_command.mp hc
  refine Database.resolves_command.mpr ⟨h1, Database.resolves_some.mpr ?_, h3⟩
  refine Database.resolves_append.mpr
    ⟨?_, Database.resolves_cons.mpr ⟨ha, Database.resolves_nil⟩⟩
  cases hset : c.fixedArguments with
  | none => exact Database.resolves_nil
  | some set =>
      rw [hset] at h2
      exact Database.resolves_some.mp h2

theorem safe_placeArgument {command : Command} (hcommand : d.database.Resolves command)
    (element : CommandElement) :
    upkeep.Safe d (placeArgument setting command element) fun x db => db.Resolves x.1 := by
  unfold placeArgument
  refine (safe_argumentOf element).bind fun argument t _ ht hargument => ?_
  dsimp only
  have hnamed : t.database.Resolves { argument with name := freeName command argument.name } :=
    hargument
  refine Safe.ite (fun _ => Safe.stage fun _ => Safe.read fun value _ => safe_pure ?_)
    fun _ => safe_pure ?_
  · exact resolves_withFixed (hcommand.kept ht) hnamed value
  · exact resolves_withArgument (hcommand.kept ht) hnamed

theorem resolves_fixCount {db : Database} {c : Command} (hc : db.Resolves c) (counter : String) :
    db.Resolves (fixCount c counter) := by
  obtain ⟨h1, h2, h3⟩ := Database.resolves_command.mp hc
  unfold fixCount
  split
  · rename_i set hset
    obtain ⟨old, hold, hrebound⟩ := Option.bind_eq_some_iff.mp hset
    obtain ⟨assignments, -, rfl⟩ := Option.map_eq_some_iff.mp hrebound
    rw [hold] at h2
    exact Database.resolves_command.mpr ⟨h1, h2, h3⟩
  · split <;> exact hc

theorem safe_groupElement (counter : String) {members : List RecordMember}
    (hmembers : d.database.Resolves members) :
    upkeep.Safe d (groupElement counter members) fun x db => db.Resolves x.2 := by
  unfold groupElement
  split
  · exact safe_pure (Database.resolves_cons.mp hmembers).1
  · refine (safe_addArgumentType ?_).bind fun _ _ _ _ htype => safe_pure htype
    exact hmembers

theorem safe_placeGroup {command : Command} (hcommand : d.database.Resolves command)
    (counter : String) (members : List CommandElement) :
    upkeep.Safe d (placeGroup setting command counter members) fun c db => db.Resolves c := by
  unfold placeGroup
  refine Safe.read fun _ _ => ?_
  refine Safe.bind (safe_mapM (R := fun (m : RecordMember) db => db.Resolves m)
    (fun hkept h => h.kept hkept) fun m _ t _ => ?_) fun fields t _ ht hfields => ?_
  · refine (safe_argumentOf m).bind fun a _ _ _ ha => safe_pure ?_
    exact (Database.resolves_argument.mp ha).1
  · have hfields := Database.resolves_list.mpr hfields
    refine (safe_groupElement counter hfields).bind fun x u _ hu hx => ?_
    dsimp only
    refine (safe_addArgumentType ?_).bind fun array v _ hv harray => safe_pure ?_
    · exact hx
    · refine resolves_withArgument (((hcommand.kept ht).kept hu).kept hv) ?_
      exact Database.resolves_argument.mpr ⟨harray, Database.resolves_none⟩

theorem safe_placeFirst {command : Command} (hcommand : d.database.Resolves command)
    (element : CommandElement) (rest : List CommandElement) :
    upkeep.Safe d (placeFirst setting command element rest) fun x db => db.Resolves x.1 := by
  unfold placeFirst
  refine Safe.ite (fun _ => Safe.read fun octets _ => safe_pure ?_) fun _ => ?_
  · exact hcommand
  · refine (safe_placeArgument hcommand element).bind fun placed t _ _ hplaced => ?_
    refine Safe.ite (fun _ => safe_pure hplaced) fun _ => ?_
    refine Safe.ite (fun _ => safe_throw) fun _ => Safe.ite (fun _ => ?_) fun _ => ?_
    · refine (safe_limitation (Q := fun _ db => db.Resolves placed.1) hplaced).bind
        fun _ _ _ _ hplaced => safe_pure ?_
      exact resolves_fixCount hplaced placed.2
    · exact (safe_placeGroup hplaced placed.2 _).bind fun c _ _ _ hc => safe_pure hc

/-- **The command under construction refers to what is there**, element by element. -/
theorem safe_placeElements (elements : List CommandElement) {d : Draft CommandingState}
    {command : Command} (hcommand : d.database.Resolves command) :
    upkeep.Safe d (placeElements setting command elements) fun c db => db.Resolves c := by
  induction elements using elements_induction generalizing d command with
  | nil =>
      rw [placeElements_nil]
      exact safe_pure hcommand
  | cons element rest ih =>
      rw [placeElements_cons]
      exact (safe_placeFirst hcommand element rest).bind fun x _ _ _ hx => ih x.2 hx

theorem safe_declareElement (row : Row) :
    upkeep.Safe d (declareElement setting row) fun _ _ => True := by
  unfold declareElement
  refine Safe.read fun command _ => Safe.ite (fun _ => ?_) fun _ => safe_pure trivial
  refine Safe.read fun element _ => Safe.stage fun _ => ?_
  have hnote : upkeep.Safe d (Build.changeStage fun s =>
      { s with elements := s.elements.append command element }) fun _ _ => True :=
    safe_changeStage (fun hd => { hd.stage with }) trivial
  dsimp only
  split
  · exact Safe.unless fun _ => hnote
  · exact hnote

/-! ## Commands -/

/-- A promoted argument refers to what the argument of the header refers to. -/
theorem PromotedFrom.resolves {db : Database} (hdb : db.Resolves db) {r : CommandRef} {a : Argument}
    (h : PromotedFrom db r a) : db.Resolves a := by
  obtain ⟨k, b, value, hk, hb, rfl⟩ := h
  obtain ⟨-, -, -, -, hcommands, -⟩ := Database.resolves_database.mp hdb
  obtain ⟨-, hset, harguments, -⟩ :=
    Database.resolves_command.mp (Database.resolves_catalog.mp hcommands _ _ hk)
  have hall : db.Resolves k.allArguments := by
    refine Database.resolves_append.mpr ⟨harguments, ?_⟩
    cases hfixed : k.fixedArguments with
    | none => exact Database.resolves_nil
    | some set =>
        rw [hfixed] at hset
        exact Database.resolves_some.mp hset
  have hresolves : db.Resolves b := Database.resolves_list.mp hall b hb
  exact hresolves

theorem withHeader_resolves {db : Database} (hdb : db.Resolves db) {state : CommandingState}
    (hstate : Remembers db state) {row : Row} {command c : Command}
    (hcommand : db.Resolves command) (h : withHeader setting db state row command = .ok c) :
    db.Resolves c := by
  rcases withHeader_eq_ok h with ⟨-, rfl⟩ | ⟨_, header, added, -, -, hfind, rfl, -, hfrom⟩
  · exact hcommand
  · obtain ⟨-, hset, harguments, hrest⟩ := Database.resolves_command.mp hcommand
    have hheader : db.Resolves header.command := hstate.headers.find? hfind
    have hadded : db.Resolves added :=
      Database.resolves_list.mpr fun a ha => (hfrom a ha).resolves hdb
    exact Database.resolves_command.mpr ⟨Database.resolves_some.mpr hheader, hset,
      Database.resolves_append.mpr ⟨harguments, hadded⟩, hrest⟩

theorem reportContainer?_resolves {db : Database} {service subservice : Int} {r : ContainerRef}
    (h : reportContainer? db service subservice = some r) : db.Resolves r := by
  unfold reportContainer? at h
  obtain ⟨type, -, h⟩ := Option.bind_eq_some_iff.mp h
  obtain ⟨subtype, -, h⟩ := Option.bind_eq_some_iff.mp h
  obtain ⟨index, hindex, h⟩ := Option.bind_eq_some_iff.mp h
  cases h
  obtain ⟨hlt, -⟩ := List.findIdx?_eq_some_iff_getElem.mp hindex
  rw [Database.resolves_ref]
  show index < db.containers.items.size
  rwa [Catalog.toList, Array.length_toList] at hlt

theorem withService_resolves {db : Database} {row : Row} {command c : Command}
    (hcommand : db.Resolves command) (h : withService setting db row command = .ok c) :
    db.Resolves c := by
  obtain ⟨aliases, verifiers, rfl, hverifiers⟩ := withService_eq_ok h
  obtain ⟨h1, h2, h3, h4, h5⟩ := Database.resolves_command.mp hcommand
  refine Database.resolves_command.mpr ⟨h1, h2, h3, h4, Database.resolves_append.mpr ⟨h5, ?_⟩⟩
  refine Database.resolves_list.mpr fun v hv => ?_
  obtain ⟨container, hreport, rfl⟩ := Option.map_eq_some_iff.mp (hverifiers v hv)
  exact reportContainer?_resolves hreport

theorem safe_defineCommand (row : Row) :
    upkeep.Safe d (defineCommand setting row) fun _ _ => True := by
  unfold defineCommand
  refine Safe.read fun _ _ => Safe.read fun name _ => ?_
  refine Safe.ite (fun _ => ?_) fun _ => safe_pure trivial
  refine Safe.stage fun hd => Safe.database fun _ => Safe.unless fun _ => ?_
  dsimp only
  refine Safe.read fun command hcommand => ?_
  have hcommand := withHeader_resolves hd.wired.closed hd.stage
    (Database.resolves_of_eq_nil rfl) hcommand
  refine (safe_placeElements _ hcommand).bind fun placed t _ _ hplaced => ?_
  refine Safe.database fun _ => Safe.read fun served hserved => ?_
  have hserved := withService_resolves hplaced hserved
  refine Safe.bind (Q := fun _ _ => True) ?_ fun _ _ _ _ _ => safe_pure trivial
  exact safe_add fun ht ref db hadd => ⟨(ht.wired.addCommand hserved hadd).1, trivial⟩

/-! ## Constraints -/

theorem safe_declareCondition (row : Row) :
    upkeep.Safe d (declareCondition row) fun _ _ => True := by
  unfold declareCondition
  refine Safe.read fun _ _ => Safe.database fun _ => Safe.read fun name _ => ?_
  dsimp only
  split
  · exact safe_throw
  · rename_i command _
    refine Safe.read fun parameterName _ => ?_
    split
    · exact safe_throw
    · rename_i parameter hfind
      refine Safe.read fun value _ => Safe.read fun calibrated _ => ?_
      refine safe_changeStage (fun hd => { hd.stage with
        conditions := hd.stage.conditions.change fun old hold => ?_ }) trivial
      refine Database.resolves_append.mpr ⟨?_, Database.resolves_cons.mpr ⟨?_, ?_⟩⟩
      · cases old with
        | none => exact Database.resolves_nil
        | some cs => exact Database.resolves_some.mp hold
      · exact Database.resolves_ref.mpr (Catalog.lt_size_of_find? hfind)
      · exact Database.resolves_nil

theorem safe_addConstraint (command : CommandRef) {comparisons : List Comparison}
    (hcomparisons : d.database.Resolves comparisons) :
    upkeep.Safe d (addConstraint command comparisons) fun _ _ => True := by
  unfold addConstraint
  split
  · exact safe_pure trivial
  · rename_i criteria hcriteria
    have hnew : d.database.Resolves (⟨criteria, 0⟩ : Constraint) :=
      Database.resolves_comparisons hcriteria hcomparisons
    refine safe_changeCommand (fun c hc => ?_) fun _ => rfl
    obtain ⟨h1, h2, h3, h4, h5⟩ := Database.resolves_command.mp hc
    refine Database.resolves_command.mpr ⟨h1, h2, h3, Database.resolves_append.mpr ⟨h4, ?_⟩, h5⟩
    exact Database.resolves_cons.mpr ⟨hnew, Database.resolves_nil⟩

/-! ## Verifiers -/

theorem expressionComparisons_resolves {db : Database} {row : Row} {name : String}
    {parameter : ParameterRef} (hparameter : db.Resolves parameter) {cs : List Comparison}
    (h : expressionComparisons db row name parameter = .ok cs) : db.Resolves cs := by
  unfold expressionComparisons at h
  obtain ⟨_, -, h⟩ := except_bind_eq_ok.mp h
  obtain ⟨calibrated, -, h⟩ := except_bind_eq_ok.mp h
  obtain ⟨value, -, h⟩ := except_bind_eq_ok.mp h
  obtain ⟨tolerance?, -, h⟩ := except_bind_eq_ok.mp h
  have hcomparison (relation : Relation) (text : String) :
      db.Resolves (⟨parameter, relation, text, calibrated⟩ : Comparison) := hparameter
  have hequal : db.Resolves [(⟨parameter, .equality, value, calibrated⟩ : Comparison)] :=
    Database.resolves_cons.mpr ⟨hcomparison _ _, Database.resolves_nil⟩
  split at h
  · cases h
    exact hequal
  · dsimp only at h
    split at h
    · cases h
      exact hequal
    · split at h
      · obtain ⟨_, hthrow, -⟩ := except_bind_eq_ok.mp h
        cases hthrow
      · obtain ⟨expected, -, h⟩ := except_bind_eq_ok.mp h
        cases h
        refine Database.resolves_cons.mpr ⟨hcomparison _ _, ?_⟩
        exact Database.resolves_cons.mpr ⟨hcomparison _ _, Database.resolves_nil⟩

theorem safe_passOver (row : Row) (id what : String) :
    upkeep.Safe d (passOver row id what) fun _ _ => True := by
  unfold passOver
  refine (safe_limitation (Q := fun _ _ => True) trivial).bind fun _ _ _ _ _ => ?_
  exact safe_changeStage (fun ht => { ht.stage with }) trivial

theorem safe_declareExpression (row : Row) :
    upkeep.Safe d (declareExpression row) fun _ _ => True := by
  unfold declareExpression
  refine Safe.read fun _ _ => Safe.read fun id _ => Safe.read fun name _ => ?_
  refine Safe.database fun _ => ?_
  split
  · exact safe_throw
  · rename_i parameter hfind
    refine Safe.ite (fun _ => safe_passOver row id _) fun _ => ?_
    refine Safe.ite (fun _ => safe_passOver row id _) fun _ => Safe.read fun cs hcs => ?_
    have hparameter := Database.resolves_ref.mpr (Catalog.lt_size_of_find? hfind)
    refine safe_changeStage (fun hd => { hd.stage with
      expressions := hd.stage.expressions.change fun old hold => ?_ }) trivial
    refine Database.resolves_append.mpr ⟨?_, expressionComparisons_resolves hparameter hcs⟩
    cases old with
    | none => exact Database.resolves_nil
    | some cs => exact Database.resolves_some.mp hold

theorem safe_acknowledgementFor (stage : String) (code : Nat) :
    upkeep.Safe d (acknowledgementFor stage code) fun r db => db.Resolves r := by
  unfold acknowledgementFor
  dsimp only
  refine Safe.database fun _ => ?_
  split
  · rename_i algorithm hfind
    exact safe_pure (Database.resolves_ref.mpr (Catalog.lt_size_of_find? hfind))
  · refine safe_echoedRequest.bind fun request t _ _ hrequest => ?_
    obtain ⟨hapid, hcount⟩ := Database.resolves_pair.mp hrequest
    refine safe_add fun ht ref db hadd => ht.wired.addAlgorithm ?_ hadd
    refine Database.resolves_algorithm.mpr ⟨?_, ?_, Database.resolves_nil⟩
    · exact Database.resolves_cons.mpr
        ⟨hapid, Database.resolves_cons.mpr ⟨hcount, Database.resolves_nil⟩⟩
    · exact Database.resolves_cons.mpr ⟨hcount, Database.resolves_nil⟩

theorem stageCriteria?_resolves {db : Database} {state : CommandingState}
    (hstate : Remembers db state) {row : Row} {id : String} {criteria : Option Criteria}
    (h : stageCriteria? state row id = .ok criteria) : db.Resolves criteria := by
  unfold stageCriteria? at h
  split at h
  · rename_i cs hfind
    split at h
    · rename_i criteria hcriteria
      cases h
      exact Database.resolves_some.mpr
        (Database.resolves_comparisons hcriteria (hstate.expressions.find? hfind))
    · cases h
  · split at h
    · cases h
      exact Database.resolves_none
    · cases h

theorem safe_stageCheck? (row : Row) (id stage : String) (code : Nat) :
    upkeep.Safe d (stageCheck? row id stage code) fun check db => db.Resolves check := by
  unfold stageCheck?
  dsimp only
  refine Safe.ite (fun _ => ?_) fun _ => Safe.ite (fun _ => ?_) fun _ => safe_throw
  · refine (safe_acknowledgementFor stage code).bind fun algorithm _ _ _ h => safe_pure ?_
    exact Database.resolves_some.mpr h
  · refine Safe.stage fun hd => Safe.read fun criteria hcriteria => safe_pure ?_
    have hresolves := stageCriteria?_resolves hd.stage hcriteria
    cases criteria with
    | none => exact Database.resolves_none
    | some criteria => exact Database.resolves_some.mpr (Database.resolves_some.mp hresolves)

theorem safe_declareStage (row : Row) :
    upkeep.Safe d (declareStage setting row) fun _ _ => True := by
  unfold declareStage
  refine Safe.read fun _ _ => Safe.read fun id _ => Safe.stage fun _ => Safe.unless fun _ => ?_
  dsimp only
  refine Safe.read fun window _ => ?_
  refine (safe_stageCheck? row id _ _).bind fun check t _ _ hcheck => ?_
  split
  · rename_i check
    refine safe_changeStage (fun ht => { ht.stage with
      stages := ht.stage.stages.set ?_ }) trivial
    exact Database.resolves_some.mp hcheck
  · exact safe_changeStage (fun ht => { ht.stage with }) trivial

theorem safe_attachStage (row : Row) : upkeep.Safe d (attachStage row) fun _ _ => True := by
  unfold attachStage
  refine Safe.read fun _ _ => Safe.read fun task _ => ?_
  refine Safe.ite (fun _ => ?_) fun _ => safe_pure trivial
  refine Safe.database fun _ => ?_
  dsimp only
  split
  · exact safe_throw
  · rename_i command _
    refine Safe.read fun id _ => Safe.stage fun hd => ?_
    split
    · rename_i stage hfind
      have hstage : d.database.Resolves stage.check := hd.stage.stages.find? hfind
      have hverifier : d.database.Resolves (verifierOf d.database command stage) := by
        show d.database.Resolves (verifierOf d.database command stage).check
        unfold verifierOf
        dsimp only
        split <;> (rename_i heq; rw [heq] at hstage; exact hstage)
      refine safe_changeCommand (fun c hc => ?_) fun _ => rfl
      obtain ⟨h1, h2, h3, h4, h5⟩ := Database.resolves_command.mp hc
      refine Database.resolves_command.mpr
        ⟨h1, h2, h3, h4, Database.resolves_append.mpr ⟨h5, ?_⟩⟩
      exact Database.resolves_cons.mpr ⟨hverifier, Database.resolves_nil⟩
    · exact Safe.ite (fun _ => safe_throw) fun _ => safe_pure trivial

end Commanding
end MissionBase
