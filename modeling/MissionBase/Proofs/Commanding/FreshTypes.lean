import MissionBase.Proofs.Commanding.HeaderWidths
import MissionBase.Proofs.Commanding.NameClashes
import MissionBase.Proofs.Commanding.RejectedCommands
import MissionBase.Proofs.Commanding.Supplements

/-!
# Kept types and fresh ones

The types of arguments are kept by the command parameter and the size tag, those of parameter
identifiers by the format code alone. A type that is taken from what is kept is, up to its name, the
one that the element would get if its type were made at that moment: what a type is made from are
the command parameters, the calibrations and the parameters of telemetry, and while commands are
defined none of them changes. A moment of a definition is one after which only types have come, and
what is kept of them (`Placing`).

The types of header arguments are kept too, by name, and there a field that asks for another width
is refused.
-/

namespace MissionBase.Commanding

open Run Command

variable {setting : Setting} {d d' t u : Draft CommandingState} {c c' : Command}
  {e : CommandElement} {r : ArgumentTypeRef} {row : Row}

/-! ## Fresh types -/

/-- The type that an argument of a command parameter gets where none is kept for it. -/
def freshType (setting : Setting) (d : Draft CommandingState) (p : CommandParameter) (tag : Int) :
    Except Error ArgumentType :=
  if p.category = 'P' ∧ p.ptc ≠ 3 then
    .error (p.dataError s!"parameter id argument '{p.name}' must have PTC 3, not {p.ptc}")
  else typeAsked setting d.database d.stage p tag

/-- **Where no type is kept, the fresh one is made**, and there is an error where it has one. -/
theorem argumentTypeFor_of_none {p : CommandParameter} {tag : Int}
    (hshared : d.stage.argumentTypes.find? (p.name, tag) = none)
    (hidentifiers : d.stage.identifierTypes.find? p.pfc = none) :
    Ends (argumentTypeFor setting p tag) d
        (fun r t => ∃ made name, freshType setting d p tag = .ok made ∧
          t.database.argumentTypes.get? r = some { made with name := name })
        (fun t => t = d) ∧
      Raises (argumentTypeFor setting p tag) d fun e => freshType setting d p tag = .error e := by
  constructor
  · refine ends_argumentTypeFor (fun hcategory => ends_identifierType rfl (fun _ r hr => ?_)
      fun hptc _ encoding hencoding => ?_) rfl (fun _ r hr => ?_) fun hcategory _ made hmade => ?_
    · cases hidentifiers.symm.trans hr
    · obtain ⟨name, hget⟩ := get?_withType d
        (identifierEnumeration d.database p.pfc encoding) (keepIdentifiers p.pfc)
      refine ⟨_, name, ?_, hget⟩
      unfold freshType typeAsked
      rw [if_neg fun h => h.2 hptc, if_pos hcategory, hencoding]
      rfl
    · cases hshared.symm.trans hr
    · obtain ⟨name, hget⟩ := get?_withType d made (keepShared (p.name, tag))
      refine ⟨made, name, ?_, hget⟩
      unfold freshType typeAsked
      rw [if_neg fun h => hcategory h.1, if_neg hcategory]
      exact hmade
  · unfold argumentTypeFor freshType typeAsked
    by_cases hcategory : p.category = 'P'
    · rw [if_pos hcategory, if_pos hcategory]
      unfold identifierType
      by_cases hptc : p.ptc = 3
      · rw [if_neg (not_not.mpr hptc), if_neg fun h => h.2 hptc]
        refine Raises.stage ?_
        rw [hidentifiers]
        refine (raises_lift fun e he => ?_).bind fun encoding u _ => ?_
        · rw [he]
          rfl
        · exact Ends.raises (Q := fun _ _ => True) trivial
      · rw [if_pos hptc, if_pos ⟨hcategory, hptc⟩]
        exact raises_throw rfl
    · rw [if_neg hcategory, if_neg hcategory, if_neg fun h => hcategory h.1]
      refine Raises.stage ?_
      dsimp only
      rw [hshared]
      refine (raises_lift fun e he => he).bind fun made u _ => ?_
      exact Ends.raises (Q := fun _ _ => True) trivial

/-- The type that an element asks for, made afresh. -/
def typeAfresh (setting : Setting) (d : Draft CommandingState) (e : CommandElement) :
    Except Error ArgumentType := do
  let p ← parameterOf d.stage e
  freshType setting d p e.sizeTagBytes

/-! ## Moments of a definition -/

/-- A moment while the elements of a command are placed: since its turn began, only types of
arguments have come, and what is kept of them. -/
structure Placing (d u : Draft CommandingState) : Prop where
  leaves : LeavesTypes d u
  stage : ∃ shared identifiers, u.stage =
    { d.stage with argumentTypes := shared, identifierTypes := identifiers }

instance : Std.Refl Placing := ⟨fun d => ⟨Std.Refl.refl d, _, _, rfl⟩⟩

instance : IsTrans (Draft CommandingState) Placing := by
  refine ⟨fun _ _ _ h h' => ⟨IsTrans.trans _ _ _ h.leaves h'.leaves, ?_⟩⟩
  obtain ⟨_, _, hstage⟩ := h.stage
  obtain ⟨_, _, hstage'⟩ := h'.stage
  exact ⟨_, _, by rw [hstage', hstage]⟩

theorem placing_addArgumentType (type : ArgumentType) : Steps Placing (addArgumentType type) := by
  intro d
  have hadded : Placing d { d with database := (d.database.addArgumentType type).2 } :=
    ⟨(leavesTypes_addArgumentType type).of_ok rfl, _, _, rfl⟩
  exact hadded

theorem placing_argumentTypeFor (p : CommandParameter) (tag : Int) :
    Steps Placing (argumentTypeFor setting p tag) :=
  steps_argumentTypeFor (fun t _ => placing_addArgumentType t)
    (fun _ _ => steps_modify fun _ => ⟨leavesTypes_of_same rfl, _, _, rfl⟩)
    (fun _ _ => steps_modify fun _ => ⟨leavesTypes_of_same rfl, _, _, rfl⟩) p tag

theorem placing_limitation (m : String) :
    Steps Placing (Build.limitation m : CommandingBuild Unit) :=
  steps_modify fun _ => ⟨leavesTypes_of_same rfl, _, _, rfl⟩

theorem placing_placeFirst (c : Command) (e : CommandElement) (rest : List CommandElement) :
    Steps Placing (placeFirst setting c e rest) :=
  steps_placeFirst placing_argumentTypeFor (fun _ _ _ _ => placing_addArgumentType _)
    placing_limitation c e rest

/-- **Placing elements goes from moment to moment.** -/
theorem placing_placeElements (elements : List CommandElement) (c : Command) :
    Steps Placing (placeElements setting c elements) :=
  steps_placeElements placing_argumentTypeFor (fun _ _ _ _ => placing_addArgumentType _)
    placing_limitation elements c

/-- What types are made from stays what it was. -/
theorem Placing.keeps (h : Placing d u) : Keeps d u := by
  obtain ⟨shared, identifiers, hstage⟩ := h.stage
  refine ⟨fun _ _ => h.leaves.get?, ?_, ?_, ?_, ?_⟩
  · rw [h.leaves.others]
  all_goals rw [hstage]

theorem Keeps.typeAfresh (h : Keeps d d') (e : CommandElement) :
    typeAfresh setting d' e = typeAfresh setting d e := by
  unfold Commanding.typeAfresh freshType
  rw [h.parameterOf]
  simp only [h.typeAsked]

/-! ## Parameter identifiers -/

/-- The command parameter of an element is there, and one of parameter identifiers has the type code
of natural numbers. -/
def Admitted (d : Draft CommandingState) (e : CommandElement) : Prop :=
  ∃ p, parameterOf d.stage e = .ok p ∧ (p.category = 'P' → p.ptc = 3)

theorem Keeps.admitted (h : Keeps d d') (he : Admitted d' e) : Admitted d e := by
  obtain ⟨p, hp, hptc⟩ := he
  exact ⟨p, (h.parameterOf e).symm.trans hp, hptc⟩

theorem ptc_of_argumentTypeFor {p : CommandParameter} {tag : Int}
    (h : argumentTypeFor setting p tag d = .ok r t) (hcategory : p.category = 'P') : p.ptc = 3 := by
  have hends : Ends (argumentTypeFor setting p tag) d (fun _ _ => p.ptc = 3) fun _ => True :=
    ends_argumentTypeFor
      (fun _ => ends_identifierType trivial (fun hptc _ _ => hptc) fun hptc _ _ _ => hptc)
      trivial (fun hother => (hother hcategory).elim) fun hother => (hother hcategory).elim
  exact hends.of_ok h

theorem admitted_of_argumentOf {a : Argument} (h : argumentOf setting e d = .ok a t) :
    Admitted d e := by
  unfold argumentOf at h
  obtain ⟨_, _, hstage, h⟩ := bind_eq_ok.mp h
  obtain ⟨rfl, rfl⟩ := stage_eq_ok.mp hstage
  obtain ⟨p, _, hlift, h⟩ := bind_eq_ok.mp h
  obtain ⟨hp, rfl⟩ := lift_eq_ok.mp hlift
  obtain ⟨r, u, htype, -⟩ := bind_eq_ok.mp h
  exact ⟨p, hp, ptc_of_argumentTypeFor htype⟩

/-- The members of a group are admitted one after the other, all by the same parameters. -/
theorem admitted_of_members : ∀ {members : List CommandElement} {fields : List RecordMember}
    {d t : Draft CommandingState}, members.mapM (memberFor setting) d = .ok fields t →
    ∀ m ∈ members, Admitted d m
  | [], _, _, _, _, m, hm => nomatch hm
  | first :: rest, _, d, t, h, m, hm => by
      rw [List.mapM_cons] at h
      obtain ⟨_, u, hfirst, h⟩ := bind_eq_ok.mp h
      obtain ⟨_, _, hrest, -⟩ := bind_eq_ok.mp h
      obtain ⟨a, u', hargument, hfirst⟩ := bind_eq_ok.mp hfirst
      obtain ⟨-, rfl⟩ := pure_eq_ok.mp hfirst
      rcases List.mem_cons.mp hm with rfl | hm
      · exact admitted_of_argumentOf hargument
      · have hplacing := (steps_argumentOf placing_argumentTypeFor first).of_ok hargument
        exact hplacing.keeps.admitted (admitted_of_members hrest m hm)

theorem admitted_of_placeGroup {counter : String} {members : List CommandElement}
    (h : placeGroup setting c counter members d = .ok c' t) : ∀ m ∈ members, Admitted d m := by
  rw [placeGroup_eq] at h
  obtain ⟨_, _, hcheck, h⟩ := bind_eq_ok.mp h
  obtain ⟨-, rfl⟩ := lift_eq_ok.mp hcheck
  obtain ⟨_, _, hfields, -⟩ := bind_eq_ok.mp h
  exact admitted_of_members hfields

/-- The element that is placed first is admitted, and so are those of its group. -/
theorem admitted_of_placeFirst {rest : List CommandElement} {x : Command × Nat}
    (h : placeFirst setting c e rest d = .ok x t) :
    ∀ m ∈ e :: rest.take x.2, m.isArgument = true → Admitted d m := by
  have hargument : Ends (placeArgument setting c e) d
      (fun _ t => Admitted d e ∧ Placing d t) fun _ => True := by
    refine ends_eq_ok.mono (fun x t _ hplace => ?_) fun _ h => h
    refine ⟨?_, (steps_placeArgument placing_argumentTypeFor c e).of_ok hplace⟩
    unfold placeArgument at hplace
    obtain ⟨a, u, hof, -⟩ := bind_eq_ok.mp hplace
    exact admitted_of_argumentOf hof
  have hfirst (hadmitted : Admitted d e) :
      ∀ m ∈ e :: rest.take 0, m.isArgument = true → Admitted d m := by
    simpa using fun _ => hadmitted
  have hways : Ends (placeFirst setting c e rest) d
      (fun x _ => ∀ m ∈ e :: rest.take x.2, m.isArgument = true → Admitted d m)
      fun _ => True := by
    apply ends_placeFirst (A := fun _ t => Admitted d e ∧ Placing d t)
    case hfails => trivial
    case harea =>
      intro harea _ _
      simp [harea]
    case hargument => exact fun _ => hargument
    case hplain => exact fun _ _ _ _ _ ht => hfirst ht.1
    case hoverrun => exact fun _ _ _ => trivial
    case honce => exact fun _ _ _ _ _ _ ht _ => ends_limitation fun _ _ _ => hfirst ht.1
    case hgroup =>
      intro _ _ _ _ c₁ counter t ⟨hadmitted, hplacing⟩
      refine ends_eq_ok.mono (fun _ _ _ hgroup m hm _ => ?_) fun _ h => h
      rcases List.mem_cons.mp hm with rfl | hm
      · exact hadmitted
      · exact hplacing.keeps.admitted (admitted_of_placeGroup hgroup m hm)
  exact hways.of_ok h

/-- **Every element that is placed is admitted.** -/
theorem admitted_of_placeElements (elements : List CommandElement) {c c' : Command}
    {d t : Draft CommandingState} (h : placeElements setting c elements d = .ok c' t) :
    ∀ m ∈ elements, m.isArgument = true → Admitted d m := by
  induction elements using elements_induction generalizing c d with
  | nil => exact fun m hm => nomatch hm
  | cons e rest ih =>
      rw [placeElements_cons] at h
      obtain ⟨x, u, hfirst, hrun⟩ := bind_eq_ok.mp h
      have hplacing := (placing_placeFirst c e rest).of_ok hfirst
      intro m hm hargument
      rw [← List.take_append_drop x.2 rest, ← List.cons_append, List.mem_append] at hm
      rcases hm with hm | hm
      · exact admitted_of_placeFirst hfirst m hm hargument
      · exact hplacing.keeps.admitted (ih x.2 hrun m hm hargument)

/-! ## Definitions -/

/-- At a place stands, under some name, the type that an element gets if it is made afresh at any
moment of a definition. -/
def MadeAfresh (setting : Setting) (begun d : Draft CommandingState) (e : CommandElement)
    (r : ArgumentTypeRef) : Prop :=
  ∃ made name, (∀ u, Placing begun u → typeAfresh setting u e = .ok made) ∧
    d.database.argumentTypes.get? r = some { made with name := name }

/-- The types of the arguments that stand for a block: those of its elements, alone or as members of
what is repeated. -/
def FreshlyTyped (setting : Setting) (begun d : Draft CommandingState) (c : Command) :
    Block → Prop
  | .area _ _ => True
  | .argument e name | .once e name =>
    ∃ a, c.argument? name = some a ∧ MadeAfresh setting begun d e a.type
  | .array counter members name =>
    ∃ a type element fields, c.argument? name = some a ∧
      d.database.argumentTypes.get? a.type = some type ∧ type.value = .array element counter ∧
      Repeats d fields element ∧
      List.Forall₂ (fun e (field : RecordMember) => MadeAfresh setting begun d e field.type)
        members fields

/-- A command comes from the record of its name: its entries and its elements are in step, and its
arguments have the types that are made afresh while it is defined. -/
structure DefinedAfresh (setting : Setting) (row : Row) (begun d : Draft CommandingState)
    (c : Command) : Prop where
  named : row.text 0 = .ok c.name
  typed : ∃ blocks, Layout ((begun.stage.elements.find? c.name).getD []) blocks ∧
    c.entries = blocks.map Block.entry ∧ ∀ b ∈ blocks, FreshlyTyped setting begun d c b

/-- Types of arguments that stay at their places. -/
def TypesStay (d d' : Draft CommandingState) : Prop :=
  ∀ r type, d.database.argumentTypes.get? r = some type →
    d'.database.argumentTypes.get? r = some type

theorem TypeOf.madeAfresh {begun : Draft CommandingState} (h : TypeOf setting t e r)
    (hkeeps : Keeps begun t) (hadmitted : Admitted begun e) (hstay : TypesStay t d) :
    MadeAfresh setting begun d e r := by
  obtain ⟨p, hp, made, name, hasked, hget⟩ := h
  obtain ⟨q, hq, hptc⟩ := hadmitted
  rw [hkeeps.parameterOf, hq] at hp
  cases hp
  refine ⟨made, name, fun u hu => ?_, hstay r _ hget⟩
  rw [hu.keeps.typeAfresh]
  unfold typeAfresh
  rw [hq]
  show freshType setting begun p e.sizeTagBytes = _
  unfold freshType
  rw [if_neg fun h => h.2 (hptc h.1), ← hkeeps.typeAsked]
  exact hasked

theorem Repeats.stay {fields : List RecordMember} (h : Repeats t fields r)
    (hstay : TypesStay t d) : Repeats d fields r := by
  match fields, h with
  | [], ⟨type, htype, hvalue⟩ => exact ⟨type, hstay _ _ htype, hvalue⟩
  | [_], heq => exact heq
  | _ :: _ :: _, ⟨type, htype, hvalue⟩ => exact ⟨type, hstay _ _ htype, hvalue⟩

/-- The elements of a block are arguments, unless it is a constant area. -/
theorem Layout.isArgument {elements : List CommandElement} {blocks : List Block}
    (h : Layout elements blocks) {b : Block} (hb : b ∈ blocks)
    (harea : ∀ e octets, b ≠ .area e octets) : ∀ e ∈ b.elements, e.isArgument = true := by
  induction h with
  | nil => cases hb
  | area _ _ ih =>
      rcases List.mem_cons.mp hb with rfl | hb
      · exact absurd rfl (harea _ _)
      · exact ih hb
  | argument kind _ _ ih | once kind _ _ _ ih =>
      rcases List.mem_cons.mp hb with rfl | hb
      · rintro e he
        rw [List.mem_singleton.mp he]
        exact kind
      · exact ih hb
  | group kind _ _ plain _ ih =>
      rcases List.mem_cons.mp hb with rfl | hb
      · rintro e he
        rw [List.mem_singleton.mp he]
        exact kind
      rcases List.mem_cons.mp hb with rfl | hb
      · intro e he
        unfold CommandElement.isArgument
        rw [(plain e he).1]
        rfl
      · exact ih hb

/-- **What stands for a block is typed as if it were typed afresh.** -/
theorem Placed.freshlyTyped {begun : Draft CommandingState} {b : Block}
    (h : Placed setting t c b) (hkeeps : Keeps begun t) (hstay : TypesStay t d)
    (hadmitted : (∀ e octets, b ≠ .area e octets) → ∀ e ∈ b.elements, Admitted begun e) :
    FreshlyTyped setting begun d c b := by
  cases b with
  | area e octets => trivial
  | argument e name =>
      obtain ⟨a, rfl, htype, hdeclared⟩ := h
      have he := hadmitted (fun _ _ => nofun) e List.mem_cons_self
      refine ⟨a, ?_, htype.madeAfresh hkeeps he hstay⟩
      split at hdeclared
      · obtain ⟨value, -, hdeclared⟩ := hdeclared
        exact hdeclared.argument?
      · exact hdeclared.argument?
  | once e name =>
      obtain ⟨a, rfl, htype, hdeclared⟩ := h
      have he := hadmitted (fun _ _ => nofun) e List.mem_cons_self
      refine ⟨a, ?_, htype.madeAfresh hkeeps he hstay⟩
      split at hdeclared
      · exact hdeclared.argument?
      · exact hdeclared.1.argument?
  | array counter members name =>
      obtain ⟨a, type, element, fields, rfl, hdeclared, htype, hvalue, hrepeats, hmembers⟩ := h
      have hall := hadmitted fun _ _ => nofun
      refine ⟨a, type, element, fields, hdeclared.argument?, hstay _ _ htype, hvalue,
        hrepeats.stay hstay, ?_⟩
      refine ((List.forall₂_and_left _ _).mpr ⟨hall, hmembers⟩).imp fun e field h => ?_
      obtain ⟨he, p, hp, -, htype⟩ := h
      exact TypeOf.madeAfresh ⟨p, hp, htype⟩ hkeeps he hstay

/-- What lasts while commands are defined. -/
def Lasting (setting : Setting) (d t : Draft CommandingState) : Prop :=
  Sound setting d → Sound setting t ∧ Keeps d t ∧
    ∀ r c, d.database.commands.get? r = some c → t.database.commands.get? r = some c

instance : Std.Refl (Lasting setting) := ⟨fun d h => ⟨h, Std.Refl.refl d, fun _ _ hc => hc⟩⟩

instance : IsTrans (Draft CommandingState) (Lasting setting) := by
  refine ⟨fun _ _ _ h h' hd => ?_⟩
  obtain ⟨hsound, hkeeps, hcommands⟩ := h hd
  obtain ⟨hsound', hkeeps', hcommands'⟩ := h' hsound
  exact ⟨hsound', hkeeps.trans hkeeps', fun r c hc => hcommands' r c (hcommands r c hc)⟩

theorem Aside.lasting (h : Sound setting d → Aside setting d t) : Lasting setting d t := by
  intro hd
  obtain ⟨hkeeps, hcommands, hsound⟩ := h hd
  exact ⟨hsound, hkeeps, fun r c hc => by rw [hcommands]; exact hc⟩

theorem lasting_defineCommand (row : Row) :
    Steps (Lasting setting) (defineCommand setting row) := by
  intro d
  by_cases hd : Sound setting d
  · refine (defineCommand_ends hd row).mono (fun _ t _ ht => ?_)
      fun _ ht => Aside.lasting fun _ => ht
    rcases ht with haside | ⟨hkeeps, hsound, c, hcommands, -⟩
    · exact Aside.lasting fun _ => haside
    · refine fun _ => ⟨hsound, hkeeps, fun r c' hc => ?_⟩
      rw [hcommands]
      exact Catalog.get?_push_of_some hc c
  · exact ends_iff.mpr ⟨fun _ _ _ h => absurd h hd, fun _ _ _ h => absurd h hd⟩

theorem lasting_record (d : Draft CommandingState) (x : Error) :
    Lasting setting d { d with errors := d.errors ++ [x] } :=
  Aside.lasting fun hd => hd.same rfl rfl

/-- **A command that is new after a record** is the one that the record makes. -/
theorem defineCommand_new (hsound : Sound setting d)
    (hrun : defineCommand setting row d = .ok () t) {r : CommandRef}
    (hbefore : d.database.commands.get? r = none) (hafter : t.database.commands.get? r = some c) :
    row.text 0 = .ok c.name ∧ InStep setting t c ∧
      ∀ e ∈ (d.stage.elements.find? c.name).getD [], e.isArgument = true → Admitted d e := by
  have hpushed {k : Command} (h : (d.database.commands.push k).get? r = some c) : k = c := by
    rcases Catalog.get?_push_eq_some h with hold | ⟨-, hnew⟩
    · rw [hbefore] at hold
      cases hold
    · exact hnew.symm
  have hstep : InStep setting t c := by
    rcases (defineCommand_ends hsound row).of_ok hrun with haside | ⟨-, -, k, hcommands, hstep⟩
    · rw [haside.commands, hbefore] at hafter
      cases hafter
    · rw [hcommands] at hafter
      exact hpushed hafter ▸ hstep
  rcases defineCommand_cases hrun with rfl | ⟨c₀, k, d₁, hmakes, rfl⟩
  · rw [hbefore] at hafter
    cases hafter
  · obtain ⟨hname, -, -, c₁, c₂, hheader, hplace, hservice⟩ := hmakes
    have hcommands : d₁.database.commands = d.database.commands := by
      rw [((leavesTypes_placeElements _ _).of_ok hplace).others]
    have hk : k = c := hpushed (hcommands ▸ hafter)
    -- neither the header nor the elements nor the service change the name
    obtain ⟨_, hplaced⟩ := placeElements_eq_ok _ hplace
    have hsame : c.name = c₀.name := by
      rw [← hk, (withService_same hservice).1, hplaced.same.1, (withHeader_sameBody hheader).name]
    rw [hsame]
    exact ⟨hname, hstep, admitted_of_placeElements _ hplace⟩

/-- **A command that has come in the end was defined at a turn**, where it is in step with its
elements and all of them are admitted. -/
theorem exists_definition {rows : List Row} (hsound : Sound setting d)
    (hrun : inTurn setting (defineCommand setting) rows d = .ok () d') {r : CommandRef}
    (hnew : d.database.commands.get? r = none) (hget : d'.database.commands.get? r = some c) :
    ∃ row begun t, (row, begun) ∈ turns setting (defineCommand setting) rows d ∧
      defineCommand setting row begun = .ok () t ∧ row.text 0 = .ok c.name ∧
      Keeps begun t ∧ Keeps t d' ∧ InStep setting t c ∧
      ∀ e ∈ (begun.stage.elements.find? c.name).getD [], e.isArgument = true →
        Admitted begun e := by
  obtain ⟨⟨row, begun⟩, hturn, hbefore, t, hdefine, hafter⟩ := exists_turn
    (P := fun u => (u.database.commands.get? r).isSome) (fun _ _ h => h)
    (fun row d x u hx hu => by
      have hleaves := ((ends_iff.mp (defineCommand_rejects setting row d)).2 x u hx).leaves
      rw [hleaves.others] at hu
      exact hu) hrun (by rw [hnew]; simp) (by rw [hget]; rfl)
  obtain ⟨hreach, hrest⟩ := turn_related lasting_record lasting_defineCommand hrun _ hturn
  obtain ⟨hbegun, -, -⟩ := hreach hsound
  obtain ⟨hdefined, hkeeps, -⟩ := (lasting_defineCommand row).of_ok hdefine hbegun
  obtain ⟨-, hlater, hcommands⟩ := hrest t hdefine hdefined
  -- the command that was added is the one that is there in the end
  obtain ⟨k, hk⟩ := Option.isSome_iff_exists.mp hafter
  have hsame := hcommands r k hk
  rw [hget] at hsame
  cases hsame
  have hnone : begun.database.commands.get? r = none := by simpa using hbefore
  obtain ⟨hname, hstep, hadmitted⟩ := defineCommand_new hbegun hdefine hnone hk
  exact ⟨row, begun, t, hturn, hdefine, hname, hkeeps, hlater, hstep, hadmitted⟩

/-! ## The command stage -/

/-- Reads the tables of commands up to the commands. -/
def beforeCommands (setting : Setting) : CommandingBuild Unit := do
  loadHeaders setting
  Build.within (fun _ => ({} : Registry)) (fun s r => { s with calibrations := r })
    (Registry.loadCommanding setting)
  loadParameters setting
  loadElements setting

theorem freshlyTyped_plain {begun : Draft CommandingState} {b : Block} :
    FreshlyTyped setting begun d c.plain b ↔ FreshlyTyped setting begun d c b := by
  cases b <;> exact Iff.rfl

theorem DefinedAfresh.of_plain {begun : Draft CommandingState}
    (h : DefinedAfresh setting row begun d c) (hplain : c'.plain = c.plain) :
    DefinedAfresh setting row begun d c' := by
  obtain ⟨hnamed, blocks, hlayout, hentries, htyped⟩ := h
  have hname : c'.name = c.name := (congrArg Command.name hplain :)
  have hsame : c'.entries = c.entries := (congrArg Command.entries hplain :)
  rw [← hname] at hnamed hlayout
  refine ⟨hnamed, blocks, hlayout, hsame.trans hentries, fun b hb => ?_⟩
  rw [← freshlyTyped_plain, hplain, freshlyTyped_plain]
  exact htyped b hb

/-- Nothing is kept before the first command. -/
theorem beforeCommands_sound (hstage : d.stage = {}) (hrun : beforeCommands setting d = .ok () t) :
    Sound setting t := by
  obtain ⟨_, d₁, h₁, hrun⟩ := bind_eq_ok.mp hrun
  obtain ⟨_, d₂, h₂, hrun⟩ := bind_eq_ok.mp hrun
  obtain ⟨_, d₃, h₃, h₄⟩ := bind_eq_ok.mp hrun
  have hgathered : gathered d₂.stage = gathered {} := by
    rw [(heading_loadCalibrations.of_ok h₂).stage, (heading_loadHeaders.of_ok h₁).stage, hstage]
  have hparameters : d₂.stage.parameters = {} := congrArg (·.1) hgathered
  have hunused : Unused d₂ d₂ := by
    refine ⟨fun name p hp => ?_, ?_, ?_, rfl⟩
    · rw [hparameters] at hp
      cases hp
    · exact congrArg (fun g => g.2.2.1.entries) hgathered
    · exact congrArg (fun g => g.2.2.2.entries) hgathered
  exact ((loadElements_ends ((loadParameters_ends hunused).of_ok h₃)).of_ok h₄).1.sound

/-- A field that is accepted: the argument that it places is declared in the header that the record
names, and there under one type, whose width is the one that the record gives. -/
def FieldTyped (begun d : Draft CommandingState) (row : Row) (name : String)
    (r : ArgumentTypeRef) : Prop :=
  ∃ header template c type, ∃ size : Nat, row.text 0 = .ok header ∧
    begun.stage.headers.find? header = some template ∧
    d.database.commands.get? template.command = some c ∧ c.hasArgument name = true ∧
    (∀ a ∈ c.allArguments, a.name = name → a.type = r) ∧
    d.database.argumentTypes.get? r = some type ∧ row.int 3 = .ok (size : Int) ∧
    type.encoding.bind Encoding.sizeInBits? = some size

/-- What is settled of a field is what it is typed with, as long as types and commands stay. -/
theorem FieldSettled.typed {begun : Draft CommandingState} {name : String} {size : Nat}
    (h : FieldSettled begun t row name) (hsettled : Settled t)
    (hlayout : headerLayout? t name = some (r, size)) (hstay : TypesStay t d)
    (hcommands : ∀ q k, t.database.commands.get? q = some k →
      ∃ k', d.database.commands.get? q = some k' ∧ k'.plain = k.plain) :
    FieldTyped begun d row name r := by
  obtain ⟨header, template, size', hheader, hfind, hsize, ⟨_, hlayout'⟩, c, hc, hdeclared,
    htypes⟩ := h
  rw [hlayout] at hlayout'
  cases hlayout'
  obtain ⟨type, htype, hwidth⟩ := hsettled.widths name r size hlayout
  obtain ⟨c', hc', hplain⟩ := hcommands _ c hc
  refine ⟨header, template, c', type, size, hheader, hfind, hc', ?_, fun a ha hname => ?_,
    hstay r type htype, hsize, hwidth⟩
  · show c'.plain.hasArgument name = true
    rw [hplain]
    exact hdeclared
  · have ha : a ∈ c'.plain.allArguments := ha
    rw [hplain] at ha
    obtain ⟨bits, hbits⟩ := htypes a ha
    rw [hname, hlayout] at hbits
    cases hbits
    rfl

/-- The drafts around the headers and the commands in a run of the command stage. Between them and
after them types are added, and more is said of how the commands are sent. -/
structure StageCourse (setting : Setting) (d d₁ d₄ d₅ d' : Draft CommandingState) : Prop where
  headers : loadHeaders setting d = .ok () d₁
  before : beforeCommands setting d = .ok () d₄
  annotates : Annotates d₁ d₄
  furnishes : Furnishing d₁ d₄
  commands : loadCommands setting d₄ = .ok () d₅
  annotated : Annotates d₅ d'
  furnished : Furnishing d₅ d'

theorem exists_stageCourse (hrun : buildCommands setting d = .ok () d') :
    ∃ d₁ d₄ d₅, StageCourse setting d d₁ d₄ d₅ d' := by
  obtain ⟨_, d₁, h₁, hrun⟩ := bind_eq_ok.mp hrun
  obtain ⟨_, d₂, h₂, hrun⟩ := bind_eq_ok.mp hrun
  obtain ⟨_, d₃, h₃, hrun⟩ := bind_eq_ok.mp hrun
  obtain ⟨_, d₄, h₄, hrun⟩ := bind_eq_ok.mp hrun
  obtain ⟨_, d₅, h₅, hrun⟩ := bind_eq_ok.mp hrun
  obtain ⟨_, d₆, h₆, h₇⟩ := bind_eq_ok.mp hrun
  refine ⟨d₁, d₄, d₅, h₁, ?_, ?_, ?_, h₅, ?_, ?_⟩
  · exact bind_eq_ok.mpr ⟨(), d₁, h₁, bind_eq_ok.mpr ⟨(), d₂, h₂, bind_eq_ok.mpr ⟨(), d₃, h₃, h₄⟩⟩⟩
  · exact (annotates_calibrations.of_ok h₂).trans
      ((annotates_loadParameters.of_ok h₃).trans (annotates_loadElements.of_ok h₄))
  · exact ((furnishes (supplies_of_heading heading_loadCalibrations)).of_ok h₂).trans
      (((furnishes supplies_loadParameters).of_ok h₃).trans
        ((furnishes supplies_loadElements).of_ok h₄))
  · exact (annotates_loadConstraints.of_ok h₆).trans (annotates_loadVerifiers.of_ok h₇)
  · exact ((furnishes supplies_loadConstraints).of_ok h₆).trans
      ((furnishes supplies_loadVerifiers).of_ok h₇)

variable {d₁ d₄ d₅ : Draft CommandingState}

/-- **The commands that are there in the end and were not there before their records** have been
defined at a turn, with the types that are made afresh then. -/
theorem StageCourse.definedAfresh (h : StageCourse setting d d₁ d₄ d₅ d')
    (hsound : Sound setting d₄) :
    ∃ rows, Build.rows setting "ccf" = .ok rows ∧
      ∀ (r : CommandRef) c, d₄.database.commands.get? r = none →
        d'.database.commands.get? r = some c →
        ∃ row begun t, (row, begun) ∈ turns setting (defineCommand setting) rows d₄ ∧
          defineCommand setting row begun = .ok () t ∧ DefinedAfresh setting row begun d' c := by
  obtain ⟨n, _, hscan, hpure⟩ := bind_eq_ok.mp h.commands
  rw [(pure_eq_ok.mp hpure).2] at hscan
  obtain ⟨rows, hrows, hturns, -⟩ := scan_eq_ok.mp hscan
  refine ⟨rows, hrows, fun r c hnew hget => ?_⟩
  obtain ⟨k, hk, hplain⟩ := h.annotated.symm.get? hget
  obtain ⟨row, begun, t, hturn, hdefine, hname, hkeeps, hrest, hstep, hadmitted⟩ :=
    exists_definition hsound hturns hnew hk
  obtain ⟨blocks, hlayout, hentries, hplaced⟩ := hstep
  rw [hkeeps.elements] at hlayout
  have hstay : TypesStay t d' := fun q type htype =>
    h.furnished.argumentType (hrest.types q type htype)
  have hdefined : DefinedAfresh setting row begun d' k := by
    refine ⟨hname, blocks, hlayout, hentries, fun b hb => ?_⟩
    refine (hplaced b hb).freshlyTyped hkeeps hstay fun harea e he => ?_
    -- an element of a block is one of the command
    have hmem : e ∈ (begun.stage.elements.find? k.name).getD [] := by
      rw [← hlayout.flatMap_elements]
      exact List.mem_flatMap.mpr ⟨b, hb, he⟩
    exact hadmitted e hmem (hlayout.isArgument hb harea e he)
  exact ⟨row, begun, t, hturn, hdefine, hdefined.of_plain hplain.symm⟩

/-- What stands after the headers stays: the types, and of the commands what they declare. -/
theorem StageCourse.stays (h : StageCourse setting d d₁ d₄ d₅ d') (hsound : Sound setting d₄) :
    TypesStay d₁ d' ∧ ∀ q k, d₁.database.commands.get? q = some k →
      ∃ k', d'.database.commands.get? q = some k' ∧ k'.plain = k.plain := by
  constructor
  · have hfurnishing : Furnishing d₁ d' :=
      (h.furnishes.trans (furnishes_loadCommands.of_ok h.commands)).trans h.furnished
    exact fun r type => hfurnishing.argumentType
  · intro q k hk
    obtain ⟨k₄, hk₄, hplain₄⟩ := h.annotates.get? hk
    obtain ⟨n, _, hscan, hpure⟩ := bind_eq_ok.mp h.commands
    rw [(pure_eq_ok.mp hpure).2] at hscan
    have hlasts := (steps_scan lasting_record lasting_defineCommand).of_ok hscan hsound
    obtain ⟨k', hk', hplain⟩ := h.annotated.get? (hlasts.2.2 q k₄ hk₄)
    exact ⟨k', hk', hplain.trans hplain₄⟩

/-- **A header argument has one type, and every field that places it gives its width.** -/
theorem StageCourse.fieldTyped (h : StageCourse setting d d₁ d₄ d₅ d') (hsound : Sound setting d₄)
    (hempty : Settled d) :
    ∃ d₀ rows, declareHeaders setting d = .ok () d₀ ∧ Build.rows setting "pcdf" = .ok rows ∧
      ∀ name, ∃ r, ∀ row begun t, (row, begun) ∈ turns setting placeHeaderField rows d₀ →
        placeHeaderField row begun = .ok () t → PlacesArgument row name →
        FieldTyped begun d' row name r := by
  obtain ⟨hsettled, d₀, rows, hdeclare, hrows, hall⟩ := loadHeaders_settled hempty h.headers
  obtain ⟨hstay, hcommands⟩ := h.stays hsound
  refine ⟨d₀, rows, hdeclare, hrows, fun name => ?_⟩
  cases hlayout : headerLayout? d₁ name with
  | some layout =>
      refine ⟨layout.1, fun row begun t hturn hrow hplaces => ?_⟩
      exact (hall row begun t hturn hrow name hplaces).typed hsettled hlayout hstay hcommands
  | none =>
      -- no field that is accepted places an argument without a type
      refine ⟨⟨0⟩, fun row begun t hturn hrow hplaces => ?_⟩
      obtain ⟨_, _, _, -, -, -, ⟨r, hr⟩, -⟩ := hall row begun t hturn hrow name hplaces
      rw [hlayout] at hr
      cases hr

/-- Nothing is settled in the beginning. -/
theorem settled_of_begin (hstage : d.stage = {}) : Settled d := by
  refine ⟨fun name r size hr => ?_, fun header template hfind => ?_⟩
  · unfold headerLayout? at hr
    rw [hstage] at hr
    cases hr
  · rw [hstage] at hfind
    cases hfind

/-- **What is kept is what would be made.** Every command that the records of commands add has been
defined at a turn of its own, and each argument of it that stands for an element, alone or as a
member of what is repeated, has up to its name the type that the element gets if its type is made
afresh at any moment of that turn. And every header argument has one type, wherever fields place it,
and the fields that are accepted all give its width. -/
theorem buildCommands_afresh (hstage : d.stage = {})
    (hrun : buildCommands setting d = .ok () d') :
    (∃ d₁ rows, beforeCommands setting d = .ok () d₁ ∧ Build.rows setting "ccf" = .ok rows ∧
      ∀ (r : CommandRef) c, d₁.database.commands.get? r = none →
        d'.database.commands.get? r = some c →
        ∃ row begun t, (row, begun) ∈ turns setting (defineCommand setting) rows d₁ ∧
          defineCommand setting row begun = .ok () t ∧ DefinedAfresh setting row begun d' c) ∧
    ∃ d₁ rows, declareHeaders setting d = .ok () d₁ ∧ Build.rows setting "pcdf" = .ok rows ∧
      ∀ name, ∃ r, ∀ row begun t, (row, begun) ∈ turns setting placeHeaderField rows d₁ →
        placeHeaderField row begun = .ok () t → PlacesArgument row name →
        FieldTyped begun d' row name r := by
  obtain ⟨d₁, d₄, d₅, hcourse⟩ := exists_stageCourse hrun
  have hsound := beforeCommands_sound hstage hcourse.before
  constructor
  · obtain ⟨rows, hrows, hcommands⟩ := hcourse.definedAfresh hsound
    exact ⟨d₄, rows, hcourse.before, hrows, hcommands⟩
  · exact hcourse.fieldTyped hsound (settled_of_begin hstage)

/-- Two headers with one argument, two commands with one command parameter, and two commands with
parameter identifiers of one format. -/
def keptSetting : Setting :=
  .ofTables [
    ("tcp", "HDR1\nHDR2\n"),
    ("pcpc", "APID\tapid\tU\n"),
    ("pcdf", "HDR1\t\tA\t11\t5\tAPID\nHDR2\t\tA\t11\t5\tAPID\n"),
    ("cca", ""), ("ccs", ""), ("paf", ""), ("pas", ""), ("prf", ""), ("prv", ""),
    ("cpc", "V1\t\t3\t4\nP1\t\t3\t4\t\t\t\tP\nP2\t\t3\t4\t\t\t\tP\n"),
    ("cdf", "A\tE\t\t8\t0\t0\tV1\nB\tE\t\t8\t0\t0\tV1\nC\tE\t\t8\t0\t0\tP1\n" ++
      "D\tE\t\t8\t0\t0\tP2\n"),
    ("ccf", "A\ta\t\t\tN\tNOHEADER\nB\tb\t\t\tN\tNOHEADER\nC\tc\t\t\tN\tNOHEADER\n" ++
      "D\td\t\t\tN\tNOHEADER\n"),
    ("ptv", ""), ("cve", ""), ("cvs", ""), ("cvp", "")]

/-- The last command takes the enumeration that the one before it has made, and the second header
the type that the first one has settled. -/
theorem kept_types_afresh :
    ∃ (d d' : Draft CommandingState) (a b : Command),
      d.stage = {} ∧ buildCommands keptSetting d = .ok () d' ∧
      d'.database.commands.get? ⟨4⟩ = some a ∧ d'.database.commands.get? ⟨5⟩ = some b ∧
      a.arguments.map (·.type) = b.arguments.map (·.type) ∧
      (∃ row begun, DefinedAfresh keptSetting row begun d' b) ∧
      ∃ row begun r, row.text 0 = .ok "HDR2" ∧ FieldTyped begun d' row "APID" r := by
  let d : Draft CommandingState := { database := { name := "MIB" }, stage := {} }
  have hok : (after? (buildCommands keptSetting) d).any (fun d' =>
      (d'.database.commands.get? ⟨4⟩).any fun a => (d'.database.commands.get? ⟨5⟩).any fun b =>
        decide (a.arguments.map (·.type) = b.arguments.map (·.type))) = true := by
    decide +kernel
  have hnone : (after? (beforeCommands keptSetting) d).any (fun d₁ =>
      (d₁.database.commands.get? ⟨5⟩).isNone) = true := by
    decide +kernel
  have hfield : (after? (declareHeaders keptSetting) d).any (fun d₁ =>
      (Build.rows keptSetting "pcdf").toOption.any fun rows =>
        (turns keptSetting placeHeaderField rows d₁).any fun turn =>
          (after? (placeHeaderField turn.1) turn.2).any fun _ =>
            decide ((turn.1.text 0).toOption = some "HDR2" ∧
              (turn.1.text 5).toOption = some "APID" ∧
              (HeaderRole.ofFlag? (turn.1.flagD 2 ' ')).isSome)) = true := by
    decide +kernel
  obtain ⟨d', hafter, hok⟩ := (Option.any_eq_true _ _).mp hok
  obtain ⟨a, ha, hok⟩ := (Option.any_eq_true _ _).mp hok
  obtain ⟨b, hb, hshared⟩ := (Option.any_eq_true _ _).mp hok
  obtain ⟨_, hrun⟩ := after?_eq_some.mp hafter
  obtain ⟨⟨d₁, _, hbefore, _, hcommands⟩, d₂, fields, hdeclare, hfields, hheaders⟩ :=
    buildCommands_afresh rfl hrun
  -- the command is not there before the commands are read
  rw [after?_eq_some.mpr ⟨(), hbefore⟩] at hnone
  have hnew : d₁.database.commands.get? ⟨5⟩ = none := Option.isNone_iff_eq_none.mp hnone
  obtain ⟨row, begun, _, _, _, hdefined⟩ := hcommands ⟨5⟩ b hnew hb
  rw [after?_eq_some.mpr ⟨(), hdeclare⟩, hfields] at hfield
  obtain ⟨⟨field, started⟩, hturn, hfield⟩ := List.any_eq_true.mp hfield
  obtain ⟨t, hplaced, hfacts⟩ := (Option.any_eq_true _ _).mp hfield
  obtain ⟨hheader, hname, hrole⟩ := of_decide_eq_true hfacts
  obtain ⟨_, hplaced⟩ := after?_eq_some.mp hplaced
  obtain ⟨r, htyped⟩ := hheaders "APID"
  exact ⟨d, d', a, b, rfl, hrun, ha, hb, of_decide_eq_true hshared, ⟨row, begun, hdefined⟩,
    field, started, r, eq_ok_of_toOption hheader,
    htyped field started t hturn hplaced ⟨hrole, eq_ok_of_toOption hname⟩⟩

end MissionBase.Commanding
