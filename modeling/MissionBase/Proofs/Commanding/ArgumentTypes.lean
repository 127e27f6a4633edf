import MissionBase.Proofs.DeclaredTypes

/-!
# The types that arguments share

The type of an argument is made when its command parameter is used first, and kept by the name of
the parameter and the size tag, or by the format code of a parameter identifier. Later uses take
what is kept. That is right as long as what is kept is what the parameter asks for: `Sound`.

It starts out true because nothing is kept, and it stays true whichever way a unit of work ends: a
type is kept right after it is made, with nothing between that fails, and a type never changes
once it is made. A type may get another name than it asked for, so names are left out of it.
-/

namespace MissionBase.Commanding

open Run

variable {setting : Setting} {d d' d'' : Draft CommandingState}

/-- The type that a command parameter asks for, with a size tag. -/
def typeAsked (setting : Setting) (db : Database) (state : CommandingState)
    (p : CommandParameter) (tag : Int) : Except Error ArgumentType :=
  if p.category = 'P' then
    (p.encoding tag).map fun encoding =>
      { name := identifierTypeName p.pfc
        value := .enumerated db.identifierLabels
        encoding := some encoding }
  else p.buildType setting.epoch state.calibrations tag

/-- At a place stands the type that a command parameter asks for, whatever its name. -/
def TypeAt (setting : Setting) (d : Draft CommandingState) (p : CommandParameter) (tag : Int)
    (r : ArgumentTypeRef) : Prop :=
  ∃ asked name, typeAsked setting d.database d.stage p tag = .ok asked ∧
    d.database.argumentTypes.get? r = some { asked with name := name }

/-! ## What stays while commands are added -/

/-- A step that leaves in place what the types of arguments depend on, and every type. -/
structure Keeps (d d' : Draft CommandingState) : Prop where
  /-- Types stay at their places. -/
  types : ∀ r t, d.database.argumentTypes.get? r = some t →
    d'.database.argumentTypes.get? r = some t
  /-- The labels of parameter identifiers come from the parameters of telemetry. -/
  telemetry : d'.database.parameters = d.database.parameters
  parameters : d'.stage.parameters = d.stage.parameters
  calibrations : d'.stage.calibrations = d.stage.calibrations
  elements : d'.stage.elements = d.stage.elements

instance : Std.Refl Keeps := ⟨fun _ => ⟨fun _ _ h => h, rfl, rfl, rfl, rfl⟩⟩

instance : IsTrans (Draft CommandingState) Keeps :=
  ⟨fun _ _ _ h h' => ⟨fun r t ht => h'.types r t (h.types r t ht),
    h'.telemetry.trans h.telemetry, h'.parameters.trans h.parameters,
    h'.calibrations.trans h.calibrations, h'.elements.trans h.elements⟩⟩

theorem Keeps.trans (h : Keeps d d') (h' : Keeps d' d'') : Keeps d d'' :=
  IsTrans.trans _ _ _ h h'

theorem Keeps.typeAsked (h : Keeps d d') (p : CommandParameter) (tag : Int) :
    typeAsked setting d'.database d'.stage p tag = typeAsked setting d.database d.stage p tag := by
  unfold Commanding.typeAsked Database.identifierLabels Database.onBoardIds
  rw [h.telemetry, h.calibrations]

theorem Keeps.typeAt (h : Keeps d d') {p : CommandParameter} {tag : Int} {r : ArgumentTypeRef}
    (hr : TypeAt setting d p tag r) : TypeAt setting d' p tag r := by
  obtain ⟨asked, name, hasked, hget⟩ := hr
  exact ⟨asked, name, (h.typeAsked p tag).trans hasked, h.types r _ hget⟩

/-- What is kept is what the parameters ask for, and parameters are kept by their names. -/
structure Sound (setting : Setting) (d : Draft CommandingState) : Prop where
  /-- A parameter is kept by its name. -/
  named : ∀ name p, d.stage.parameters.find? name = some p → p.name = name
  /-- What is kept for a name is the type of the parameter of that name. -/
  shared : ∀ p tag r, d.stage.parameters.find? p.name = some p → p.category ≠ 'P' →
    d.stage.argumentTypes.find? (p.name, tag) = some r → TypeAt setting d p tag r
  /-- What is kept for a format code is right for every identifier of that format, since the
  encoding of an integer does not depend on the size tag. -/
  identifiers : ∀ p tag r, p.category = 'P' → p.ptc = 3 →
    d.stage.identifierTypes.find? p.pfc = some r → TypeAt setting d p tag r

/-- Soundness is lost only by keeping something new. -/
theorem Sound.keeps (h : Sound setting d) (hk : Keeps d d')
    (hshared : d'.stage.argumentTypes = d.stage.argumentTypes)
    (hidentifiers : d'.stage.identifierTypes = d.stage.identifierTypes) : Sound setting d' where
  named := by rw [hk.parameters]; exact h.named
  shared := by
    rw [hk.parameters, hshared]
    exact fun p tag r hp hc hr => hk.typeAt (h.shared p tag r hp hc hr)
  identifiers := by
    rw [hidentifiers]
    exact fun p tag r hc hptc hr => hk.typeAt (h.identifiers p tag r hc hptc hr)

/-- A step aside: no command is added or changed, and soundness is kept. -/
structure Aside (setting : Setting) (d d' : Draft CommandingState) : Prop where
  keeps : Keeps d d'
  commands : d'.database.commands = d.database.commands
  sound : Sound setting d'

theorem Sound.aside (h : Sound setting d) : Aside setting d d := ⟨Std.Refl.refl d, rfl, h⟩

theorem Aside.trans (h : Aside setting d d') (h' : Aside setting d' d'') :
    Aside setting d d'' :=
  ⟨h.keeps.trans h'.keeps, h'.commands.trans h.commands, h'.sound⟩

/-- What the build only notes is a step aside. -/
theorem Sound.same (h : Sound setting d) (hdb : d'.database = d.database)
    (hstage : d'.stage = d.stage) : Aside setting d d' := by
  have hkeeps : Keeps d d' := by
    refine ⟨fun r t ht => ?_, ?_, ?_, ?_, ?_⟩
    · rw [hdb]
      exact ht
    · rw [hdb]
    · rw [hstage]
    · rw [hstage]
    · rw [hstage]
  exact ⟨hkeeps, by rw [hdb], h.keeps hkeeps (by rw [hstage]) (by rw [hstage])⟩

/-! ## New types -/

/-- **A new type never fails**, and stands at its place under some name. -/
theorem addArgumentType_ends (h : Sound setting d) (t : ArgumentType) :
    Ends (addArgumentType t) d
      (fun r d' => Aside setting d d' ∧ d'.stage = d.stage ∧
        ∃ name, d'.database.argumentTypes.get? r = some { t with name := name })
      fun _ => False := by
  unfold addArgumentType
  refine Ends.bind (ends_database ?_)
  have hkeeps : Keeps d { d with database := (d.database.addArgumentType t).2 } := by
    refine ⟨fun r u hu => ?_, rfl, rfl, rfl, rfl⟩
    exact (Catalog.get?_push_of_lt _ _ (Catalog.lt_size_of_get? hu)).trans hu
  exact ⟨⟨hkeeps, rfl, h.keeps hkeeps rfl rfl⟩, rfl, _, Catalog.get?_push_next _ _⟩

/-- A type that is made changes nothing that types depend on, if the stage only keeps types. -/
theorem keeps_withType (d : Draft CommandingState) (t : ArgumentType)
    (keep : ArgumentTypeRef → CommandingState → CommandingState)
    (hparameters : (keep d.database.argumentTypes.next d.stage).parameters = d.stage.parameters)
    (hcalibrations :
      (keep d.database.argumentTypes.next d.stage).calibrations = d.stage.calibrations)
    (helements : (keep d.database.argumentTypes.next d.stage).elements = d.stage.elements) :
    Keeps d (withType d t keep) :=
  ⟨fun _ _ hu => (Catalog.get?_push_of_lt _ _ (Catalog.lt_size_of_get? hu)).trans hu, rfl,
    hparameters, hcalibrations, helements⟩

/-- The encoding of an integer does not depend on a size tag. -/
theorem encoding_of_integer {p q : CommandParameter} (hp : p.ptc = 3) (hq : q.ptc = 3)
    (hpfc : q.pfc = p.pfc) {tag : Int} {e : Encoding} (h : p.encoding tag = .ok e) (tag' : Int) :
    q.encoding tag' = .ok e := by
  unfold CommandParameter.encoding at h ⊢
  rw [hq, hpfc]
  rw [hp] at h
  have hresolve : Encoding.resolve 3 p.pfc tag' = Encoding.resolve 3 p.pfc tag := rfl
  rw [hresolve]
  cases hr : Encoding.resolve 3 p.pfc tag with
  | ok e' => rw [hr] at h; exact h
  | error e' => rw [hr] at h; cases h

/-- A type that is made stands at its place under some name. -/
theorem get?_withType (d : Draft CommandingState) (t : ArgumentType)
    (keep : ArgumentTypeRef → CommandingState → CommandingState) :
    ∃ name, (withType d t keep).database.argumentTypes.get? d.database.argumentTypes.next =
      some { t with name := name } := ⟨_, Catalog.get?_push_next _ _⟩

/-- **The type of a parameter identifier is the enumeration that its format asks for.** -/
theorem identifierType_ends (h : Sound setting d) {p : CommandParameter} (hc : p.category = 'P')
    (tag : Int) :
    Ends (identifierType p tag) d
      (fun r d' => Aside setting d d' ∧ TypeAt setting d' p tag r) (Aside setting d) := by
  refine ends_identifierType h.aside
    (fun hptc r hfind => ⟨h.aside, h.identifiers p tag r hc hptc hfind⟩) fun hptc _ e he => ?_
  let made := identifierEnumeration d.database p.pfc e
  obtain ⟨name, hget⟩ := get?_withType d made (keepIdentifiers p.pfc)
  have hkeeps := keeps_withType d made (keepIdentifiers p.pfc) rfl rfl rfl
  -- what is made for one identifier serves all of its format
  have htype (q : CommandParameter) (tag' : Int) (hqc : q.category = 'P') (hqptc : q.ptc = 3)
      (hqpfc : q.pfc = p.pfc) : TypeAt setting (withType d made (keepIdentifiers p.pfc)) q tag'
        d.database.argumentTypes.next := by
    refine ⟨_, name, ?_, hget⟩
    rw [hkeeps.typeAsked]
    unfold typeAsked
    rw [if_pos hqc, encoding_of_integer hptc hqptc hqpfc he tag', hqpfc]
    rfl
  refine ⟨⟨hkeeps, rfl, ?_⟩, htype p tag hc hptc rfl⟩
  refine ⟨h.named, fun q tag' r hq hqc hr => hkeeps.typeAt (h.shared q tag' r hq hqc hr),
    fun q tag' r hqc hqptc hr => ?_⟩
  have hr : (d.stage.identifierTypes.set p.pfc d.database.argumentTypes.next).find? q.pfc =
    some r := hr
  by_cases hq : q.pfc = p.pfc
  · rw [hq, Index.find?_set_self] at hr
    cases hr
    exact htype q tag' hqc hqptc hq
  · rw [Index.find?_set_of_ne _ hq] at hr
    exact hkeeps.typeAt (h.identifiers q tag' r hqc hqptc hr)

/-- **The type of an argument is the one that its command parameter asks for**, kept or new. -/
theorem argumentTypeFor_ends (h : Sound setting d) {p : CommandParameter}
    (hp : d.stage.parameters.find? p.name = some p) (tag : Int) :
    Ends (argumentTypeFor setting p tag) d
      (fun r d' => Aside setting d d' ∧ TypeAt setting d' p tag r) (Aside setting d) := by
  refine ends_argumentTypeFor (fun hc => identifierType_ends h hc tag) h.aside
    (fun hc r hfind => ⟨h.aside, h.shared p tag r hp hc hfind⟩) fun hc _ t ht => ?_
  obtain ⟨name, hget⟩ := get?_withType d t (keepShared (p.name, tag))
  have hkeeps := keeps_withType d t (keepShared (p.name, tag)) rfl rfl rfl
  have htype : TypeAt setting (withType d t (keepShared (p.name, tag))) p tag
      d.database.argumentTypes.next := by
    refine ⟨t, name, ?_, hget⟩
    rw [hkeeps.typeAsked]
    unfold typeAsked
    rw [if_neg hc]
    exact ht
  refine ⟨⟨hkeeps, rfl, ?_⟩, htype⟩
  refine ⟨h.named, fun q tag' r hq hqc hr => ?_,
    fun q tag' r hqc hqptc hr => hkeeps.typeAt (h.identifiers q tag' r hqc hqptc hr)⟩
  have hr : (d.stage.argumentTypes.set (p.name, tag) d.database.argumentTypes.next).find?
    (q.name, tag') = some r := hr
  by_cases hkey : (q.name, tag') = (p.name, tag)
  · -- the key names the parameter, so it is the one that the type was made for
    rw [hkey, Index.find?_set_self] at hr
    cases hr
    have hname : q.name = p.name := congrArg Prod.fst hkey
    have hq : d.stage.parameters.find? q.name = some q := hq
    rw [hname, hp] at hq
    cases hq
    cases hkey
    exact htype
  · rw [Index.find?_set_of_ne _ hkey] at hr
    exact hkeeps.typeAt (h.shared q tag' r hq hqc hr)

end MissionBase.Commanding
