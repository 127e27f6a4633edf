import MissionBase.Commanding.Commands
import MissionBase.Proofs.Commanding.ArgumentTypes
import MissionBase.Proofs.Commanding.Declarations
import MissionBase.Proofs.Commanding.FirstElement
import MissionBase.Proofs.Commanding.Headers
import MissionBase.Proofs.Index
import MissionBase.Proofs.Run

/-!
# The blocks of a command

The entries of a command and its elements are in step: the elements fall into consecutive blocks,
and every block has one entry, in the same order. A constant area is a block, an argument is a
block, and the elements that a counter repeats are a block, which stands right after the block of
its counter. The blocks of a counter that cannot repeat because one of its elements counts again
follow it one by one, and it is bound to one.

`Layout` says how elements fall into blocks, and `Placed` what stands in a command for one block.
What stands for a block is declared under a name that was free when it was placed, and what is said
of such a name stays said, so it is enough to look at a block at the time when it is placed.
-/

namespace MissionBase.Commanding

open Run Command

variable {setting : Setting} {d d' d'' : Draft CommandingState} {c c' c'' : Command}

/-! ## Blocks -/

/-- What one entry of a command stands for. -/
inductive Block where
  | area (e : CommandElement) (octets : List UInt8)
  | argument (e : CommandElement) (name : String)
  /-- A counter that is bound to one. -/
  | once (e : CommandElement) (name : String)
  /-- What a counter repeats. -/
  | array (counter : String) (members : List CommandElement) (name : String)

namespace Block

/-- The elements of a block. -/
def elements : Block → List CommandElement
  | area e _ | argument e _ | once e _ => [e]
  | array _ members _ => members

/-- The entry of a block. -/
def entry : Block → CommandEntry
  | area e octets => ⟨.previous 0, .fixedValue e.description octets e.size⟩
  | argument _ name | once _ name | array _ _ name => ⟨.previous 0, .argument name⟩

end Block

/-- How elements fall into blocks. -/
inductive Layout : List CommandElement → List Block → Prop
  | nil : Layout [] []
  | area {e : CommandElement} {octets : List UInt8} {rest : List CommandElement}
      {blocks : List Block} (kind : e.isArgument = false) (following : Layout rest blocks) :
      Layout (e :: rest) (.area e octets :: blocks)
  | argument {e : CommandElement} {name : String} {rest : List CommandElement}
      {blocks : List Block} (kind : e.isArgument = true) (size : e.groupSize = 0)
      (following : Layout rest blocks) : Layout (e :: rest) (.argument e name :: blocks)
  | once {e : CommandElement} {name : String} {rest : List CommandElement} {blocks : List Block}
      (kind : e.isArgument = true) (size : e.groupSize ≤ rest.length)
      (nested : ∃ m ∈ rest.take e.groupSize, 0 < m.groupSize) (following : Layout rest blocks) :
      Layout (e :: rest) (.once e name :: blocks)
  | group {e : CommandElement} {name arrayName : String} {members rest : List CommandElement}
      {blocks : List Block} (kind : e.isArgument = true) (size : e.groupSize = members.length)
      (some : members ≠ []) (plain : ∀ m ∈ members, m.kind = .editable ∧ m.groupSize = 0)
      (following : Layout rest blocks) :
      Layout (e :: (members ++ rest))
        (.argument e name :: .array name members arrayName :: blocks)

/-- A group is made of the elements right after its counter. -/
theorem Layout.group_take {e : CommandElement} {name arrayName : String}
    {rest : List CommandElement} {blocks : List Block} (kind : e.isArgument = true)
    (size : e.groupSize ≠ 0) (fits : e.groupSize ≤ rest.length)
    (plain : ∀ m ∈ rest.take e.groupSize, m.kind = .editable ∧ m.groupSize = 0)
    (following : Layout (rest.drop e.groupSize) blocks) :
    Layout (e :: rest)
      (.argument e name :: .array name (rest.take e.groupSize) arrayName :: blocks) := by
  have hlength : (rest.take e.groupSize).length = e.groupSize := by
    rw [List.length_take]
    omega
  have hsome : rest.take e.groupSize ≠ [] := by
    intro hnil
    rw [hnil] at hlength
    exact size hlength.symm
  have hgrouped := @Layout.group e name arrayName _ _ blocks kind hlength.symm hsome plain following
  rw [List.take_append_drop] at hgrouped
  exact hgrouped

/-- **No element is lost, doubled or moved.** -/
theorem Layout.flatMap_elements {elements : List CommandElement} {blocks : List Block}
    (h : Layout elements blocks) : blocks.flatMap Block.elements = elements := by
  induction h with
  | nil => rfl
  | area _ _ ih | argument _ _ _ ih | once _ _ _ _ ih =>
      rw [List.flatMap_cons, ih]
      rfl
  | group _ _ _ _ _ ih =>
      rw [List.flatMap_cons, List.flatMap_cons, ih]
      rfl

/-- The type of an element is the one that its command parameter asks for. -/
def TypeOf (setting : Setting) (d : Draft CommandingState) (e : CommandElement)
    (type : ArgumentTypeRef) : Prop :=
  ∃ p, parameterOf d.stage e = .ok p ∧ TypeAt setting d p e.sizeTagBytes type

/-- A member of a record has the name of the command parameter of its element, and its type. -/
def MemberOf (setting : Setting) (d : Draft CommandingState) (e : CommandElement)
    (m : RecordMember) : Prop :=
  ∃ p, parameterOf d.stage e = .ok p ∧ m.name = p.name ∧ TypeAt setting d p e.sizeTagBytes m.type

/-- What an array repeats: the type of its only member, or a record of its members in order. -/
def Repeats (d : Draft CommandingState) : List RecordMember → ArgumentTypeRef → Prop
  | [m], element => element = m.type
  | ms, element => ∃ t, d.database.argumentTypes.get? element = some t ∧ t.value = .record ms

/-- What stands in a command for a block. -/
def Placed (setting : Setting) (d : Draft CommandingState) (c : Command) : Block → Prop
  | .area e octets => areaOctets e = .ok octets
  | .argument e name => ∃ a, a.name = name ∧ TypeOf setting d e a.type ∧
      if e.kind = .fixed then ∃ value, fixedValue d.stage e = .ok value ∧ DeclaredFixed c a value
      else DeclaredEditable c a
  | .once e name => ∃ a, a.name = name ∧ TypeOf setting d e a.type ∧
      if e.kind = .fixed then DeclaredFixed c a "1"
      else DeclaredEditable c a ∧ (c.bound name).head? = some ⟨name, "1"⟩
  | .array counter members name => ∃ a t element ms, a.name = name ∧ DeclaredEditable c a ∧
      d.database.argumentTypes.get? a.type = some t ∧ t.value = .array element counter ∧
      Repeats d ms element ∧ List.Forall₂ (MemberOf setting d) members ms

/-! ## What stays true of a block -/

theorem Keeps.parameterOf (h : Keeps d d') (e : CommandElement) :
    parameterOf d'.stage e = parameterOf d.stage e := by
  unfold Commanding.parameterOf
  rw [h.parameters]

theorem Keeps.typeOf (h : Keeps d d') {e : CommandElement} {type : ArgumentTypeRef}
    (ht : TypeOf setting d e type) : TypeOf setting d' e type := by
  obtain ⟨p, hp, htype⟩ := ht
  exact ⟨p, (h.parameterOf e).trans hp, h.typeAt htype⟩

theorem Keeps.memberOf (h : Keeps d d') {e : CommandElement} {m : RecordMember}
    (hm : MemberOf setting d e m) : MemberOf setting d' e m := by
  obtain ⟨p, hp, hname, htype⟩ := hm
  exact ⟨p, (h.parameterOf e).trans hp, hname, h.typeAt htype⟩

theorem Keeps.repeats (h : Keeps d d') {ms : List RecordMember} {element : ArgumentTypeRef}
    (hr : Repeats d ms element) : Repeats d' ms element := by
  match ms, hr with
  | [], ⟨t, ht, hvalue⟩ => exact ⟨t, h.types _ t ht, hvalue⟩
  | [_], heq => exact heq
  | _ :: _ :: _, ⟨t, ht, hvalue⟩ => exact ⟨t, h.types _ t ht, hvalue⟩

theorem Keeps.fixedValue (h : Keeps d d') (e : CommandElement) :
    fixedValue d'.stage e = fixedValue d.stage e := by
  unfold Commanding.fixedValue
  rw [h.parameters]

/-- **A block that is placed stays placed.** -/
theorem Placed.mono {b : Block} (h : Placed setting d c b) (hd : Keeps d d')
    (hc : Extends c c') : Placed setting d' c' b := by
  cases b with
  | area e octets => exact h
  | argument e name =>
      obtain ⟨a, hname, htype, hdecl⟩ := h
      refine ⟨a, hname, hd.typeOf htype, ?_⟩
      split
      · rename_i hkind
        rw [if_pos hkind] at hdecl
        obtain ⟨value, hvalue, hdecl⟩ := hdecl
        exact ⟨value, (hd.fixedValue e).trans hvalue, hdecl.extends hc⟩
      · rename_i hkind
        rw [if_neg hkind] at hdecl
        exact hdecl.extends hc
  | once e name =>
      obtain ⟨a, rfl, htype, hdecl⟩ := h
      refine ⟨a, rfl, hd.typeOf htype, ?_⟩
      split
      · rename_i hkind
        rw [if_pos hkind] at hdecl
        exact hdecl.extends hc
      · rename_i hkind
        rw [if_neg hkind] at hdecl
        obtain ⟨hdecl, hbound⟩ := hdecl
        refine ⟨hdecl.extends hc, ?_⟩
        rw [(hc a.name hdecl.hasArgument).bound]
        exact hbound
  | array counter members name =>
      obtain ⟨a, t, element, ms, hname, hdecl, ht, hvalue, hrepeats, hmembers⟩ := h
      exact ⟨a, t, element, ms, hname, hdecl.extends hc, hd.types _ t ht, hvalue,
        hd.repeats hrepeats, hmembers.imp fun _ _ => hd.memberOf⟩

/-! ## Placing -/

/-- Only the table of parameters tells the parameter of an element, by its own name. -/
theorem Sound.parameterOf (h : Sound setting d) {e : CommandElement} {p : CommandParameter}
    (hp : parameterOf d.stage e = .ok p) : d.stage.parameters.find? p.name = some p := by
  unfold Commanding.parameterOf at hp
  cases hfind : d.stage.parameters.find? (e.parameter.getD "") with
  | none => simp [hfind] at hp
  | some q =>
      simp only [hfind] at hp
      cases hp
      rw [h.named _ p hfind]
      exact hfind

theorem withDefault_same {db : Database} {e : CommandElement} {p : CommandParameter}
    {a a' : Argument} (h : withDefault db e p a = .ok a') :
    a'.name = a.name ∧ a'.type = a.type := by
  unfold withDefault at h
  split at h
  · cases ho : e.origin with
    | parameterDefault => rw [ho] at h; cases h; exact ⟨rfl, rfl⟩
    | raw => rw [ho] at h; cases h; exact ⟨rfl, rfl⟩
    | engineering => rw [ho] at h; cases h; exact ⟨rfl, rfl⟩
    | telemetry =>
        rw [ho] at h
        cases hd : dynamicDefault db e with
        | error err => simp [hd, Except.map] at h
        | ok t =>
            simp only [hd, Except.map] at h
            cases h
            exact ⟨rfl, rfl⟩
  · cases h
    exact ⟨rfl, rfl⟩

/-- The argument of an element has the name of its command parameter, and its type. -/
theorem argumentOf_ends (h : Sound setting d) (e : CommandElement) :
    Ends (argumentOf setting e) d
      (fun a d' => Aside setting d d' ∧ MemberOf setting d' e ⟨a.name, a.type⟩)
      (Aside setting d) := by
  unfold argumentOf
  refine Ends.bind (ends_stage (Ends.bind (ends_lift (fun p hp => ?_) h.aside)))
  refine Ends.bind ((argumentTypeFor_ends h (h.parameterOf hp) e.sizeTagBytes).mono
    (fun r d₁ _ h₁ => ?_) fun _ h => h)
  obtain ⟨haside, htype⟩ := h₁
  refine Ends.bind (ends_database (ends_lift (fun a ha => ?_) haside))
  obtain ⟨hname, hsame⟩ := withDefault_same ha
  refine ⟨haside, p, (haside.keeps.parameterOf e).trans hp, hname, ?_⟩
  show TypeAt setting d₁ p e.sizeTagBytes a.type
  rw [hsame]
  exact htype

/-- What one step of the placement adds to a command: some blocks. -/
structure Adds (setting : Setting) (d d' : Draft CommandingState) (c c' : Command)
    (blocks : List Block) : Prop where
  /-- Only types are added besides. -/
  aside : Aside setting d d'
  /-- What was said of a name that was declared is still said. -/
  grows : Extends c c'
  bindsOwn : BindsOwn c'
  name : c'.name = c.name
  /-- The new entries come last, one for each block. -/
  entries : c'.entries = c.entries ++ blocks.map Block.entry
  /-- What the blocks stand for is in the command. -/
  placed : ∀ b ∈ blocks, Placed setting d' c' b

theorem Adds.nil (h : Aside setting d d') (hc : BindsOwn c) : Adds setting d d' c c [] where
  aside := h
  grows := fun _ _ => ⟨rfl, rfl, rfl, rfl⟩
  bindsOwn := hc
  name := rfl
  entries := (List.append_nil _).symm
  placed := by simp

/-- A block is placed by one entry. -/
theorem Adds.one {b : Block} (haside : Aside setting d d') (hgrows : Extends c c')
    (hbinds : BindsOwn c') (hname : c'.name = c.name)
    (hentries : c'.entries = c.entries ++ [b.entry]) (hplaced : Placed setting d' c' b) :
    Adds setting d d' c c' [b] where
  aside := haside
  grows := hgrows
  bindsOwn := hbinds
  name := hname
  entries := hentries
  placed := by
    intro b' hb
    cases List.mem_singleton.mp hb
    exact hplaced

theorem Adds.append {blocks blocks' : List Block} (h : Adds setting d d' c c' blocks)
    (h' : Adds setting d' d'' c' c'' blocks') :
    Adds setting d d'' c c'' (blocks ++ blocks') where
  aside := h.aside.trans h'.aside
  grows := h.grows.trans h'.grows
  bindsOwn := h'.bindsOwn
  name := h'.name.trans h.name
  entries := by rw [h'.entries, h.entries, List.map_append, List.append_assoc]
  placed := by
    intro b hb
    rcases List.mem_append.mp hb with hb | hb
    · exact (h.placed b hb).mono h'.aside.keeps h'.grows
    · exact h'.placed b hb

/-- **An argument is placed under a free name.** -/
theorem placeArgument_ends (h : Sound setting d) (hc : BindsOwn c) (e : CommandElement) :
    Ends (placeArgument setting c e) d
      (fun x d' => Adds setting d d' c x.1 [.argument e x.2] ∧ c.hasArgument x.2 = false)
      (Aside setting d) := by
  unfold placeArgument
  refine Ends.bind ((argumentOf_ends h e).mono (fun a d₁ _ h₁ => ?_) fun _ h => h)
  obtain ⟨haside, p, hp, _, htype⟩ := h₁
  have hfree := freeName_free c a.name
  dsimp only
  split
  · rename_i hkind
    refine Ends.bind (ends_stage (Ends.bind (ends_lift (fun value hvalue => ?_) haside)))
    refine ends_pure ⟨.one haside (extends_withFixed hfree value)
      (bindsOwn_withFixed hc hfree value) rfl rfl ?_, hfree⟩
    refine ⟨{ a with name := freeName c a.name }, rfl, ⟨p, hp, htype⟩, ?_⟩
    rw [if_pos hkind]
    exact ⟨value, hvalue, declared_withFixed hc hfree value⟩
  · rename_i hkind
    refine ends_pure ⟨.one haside (extends_withArgument hfree)
      (bindsOwn_withArgument hc hfree) rfl rfl ?_, hfree⟩
    refine ⟨{ a with name := freeName c a.name }, rfl, ⟨p, hp, htype⟩, ?_⟩
    rw [if_neg hkind]
    exact declared_withArgument hc hfree

/-- A counter that cannot repeat is bound to one right after it is placed. -/
theorem Adds.fixCount {e : CommandElement} {name : String}
    (h : Adds setting d d' c c' [.argument e name]) (hfree : c.hasArgument name = false) :
    Adds setting d d' c (fixCount c' name) [.once e name] := by
  have hgrows : Extends c (Commanding.fixCount c' name) := by
    intro n hn
    refine (h.grows n hn).trans (fixCount_sameAt fun heq => ?_)
    rw [heq, hfree] at hn
    cases hn
  refine .one h.aside hgrows (bindsOwn_fixCount h.bindsOwn) ((fixCount_name c' name).trans h.name)
    ((fixCount_entries c' name).trans h.entries) ?_
  obtain ⟨a, rfl, htype, hdecl⟩ := h.placed _ List.mem_cons_self
  refine ⟨a, rfl, htype, ?_⟩
  split
  · rename_i hkind
    rw [if_pos hkind] at hdecl
    obtain ⟨value, _, hdecl⟩ := hdecl
    exact hdecl.fixCount
  · rename_i hkind
    rw [if_neg hkind] at hdecl
    exact hdecl.fixCount

/-! ### Groups -/

/-- Only editable arguments are repeated. -/
theorem checkMembers_eq_ok {counter : String} {members : List CommandElement}
    (h : checkMembers counter members = .ok ()) : ∀ m ∈ members, m.kind = .editable := by
  intro m hm
  unfold checkMembers at h
  cases harea : members.find? fun m => !m.isArgument with
  | some area => simp [harea] at h
  | none =>
      cases hfixed : members.find? fun m => decide (m.kind = .fixed) with
      | some fixed => simp [harea, hfixed] at h
      | none =>
          have hargument := List.find?_eq_none.mp harea m hm
          have hfree := List.find?_eq_none.mp hfixed m hm
          cases hkind : m.kind with
          | editable => rfl
          | fixed => exact absurd (decide_eq_true hkind) hfree
          | fixedArea => exact absurd (by simp [CommandElement.isArgument, hkind]) hargument

theorem groupElement_ends (h : Sound setting d) (counter : String) (ms : List RecordMember) :
    Ends (groupElement counter ms) d
      (fun x d' => Aside setting d d' ∧ Repeats d' ms x.2) (Aside setting d) := by
  have hrecord : Ends (addArgumentType
      { name := s!"{counter}_group_record", value := .record ms }) d
      (fun r d' => Aside setting d d' ∧
        ∃ t, d'.database.argumentTypes.get? r = some t ∧ t.value = .record ms)
      (Aside setting d) := by
    refine (addArgumentType_ends h _).mono (fun r d₁ _ h₁ => ?_) fun _ h => h.elim
    obtain ⟨haside, _, name, hget⟩ := h₁
    exact ⟨haside, _, hget, rfl⟩
  match ms, hrecord with
  | [m], _ => exact ends_pure ⟨h.aside, rfl⟩
  | [], hrecord => exact Ends.bind hrecord
  | _ :: _ :: _, hrecord => exact Ends.bind hrecord

/-- **A group is placed as one array** of what its counter repeats. -/
theorem placeGroup_ends (h : Sound setting d) (hc : BindsOwn c) (counter : String)
    (members : List CommandElement) :
    Ends (placeGroup setting c counter members) d
      (fun c' d' => (∀ m ∈ members, m.kind = .editable) ∧
        ∃ name, Adds setting d d' c c' [.array counter members name])
      (Aside setting d) := by
  unfold placeGroup
  refine Ends.bind (ends_lift (fun _ hcheck => ?_) h.aside)
  have hmembers := checkMembers_eq_ok hcheck
  refine Ends.bind ((ends_mapM (I := Aside setting d) (R := fun m f t => MemberOf setting t m f)
    (E := Aside setting d) (fun m s hs => ?_) h.aside).mono (fun ms d₁ _ h₁ => ?_) fun _ h => h)
  · refine Ends.bind ((argumentOf_ends hs.sound m).mono (fun a t _ ht => ?_)
      fun _ ht => hs.trans ht)
    exact ends_pure ⟨hs.trans ht.1, ht.2, fun _ _ hm => ht.1.keeps.memberOf hm⟩
  obtain ⟨haside₁, hms, _⟩ := h₁
  refine Ends.bind ((groupElement_ends haside₁.sound counter ms).mono (fun x d₂ _ h₂ => ?_)
    fun _ h₂ => haside₁.trans h₂)
  obtain ⟨haside₂, hrepeats⟩ := h₂
  refine Ends.bind ((addArgumentType_ends haside₂.sound _).mono (fun r d₃ _ h₃ => ?_)
    fun _ h => h.elim)
  obtain ⟨haside₃, _, name, hget⟩ := h₃
  have hfree := freeName_free c x.1
  refine ends_pure ⟨hmembers, freeName c x.1, .one ((haside₁.trans haside₂).trans haside₃)
    (extends_withArgument hfree) (bindsOwn_withArgument hc hfree) rfl rfl ?_⟩
  have hkeeps := haside₂.keeps.trans haside₃.keeps
  exact ⟨_, _, x.2, ms, rfl, declared_withArgument hc hfree, hget, rfl,
    haside₃.keeps.repeats hrepeats, hms.imp fun _ _ => hkeeps.memberOf⟩

/-! ### All elements -/

/-- The first of some elements is placed as the first block of them, or as the first two. -/
theorem placeFirst_ends (h : Sound setting d) (hc : BindsOwn c) (e : CommandElement)
    (rest : List CommandElement) :
    Ends (placeFirst setting c e rest) d
      (fun x d' => ∃ first, (∀ more, Layout (rest.drop x.2) more →
        Layout (e :: rest) (first ++ more)) ∧ Adds setting d d' c x.1 first)
      (Aside setting d) := by
  apply ends_placeFirst (A := fun x d₁ =>
    Adds setting d d₁ c x.1 [.argument e x.2] ∧ c.hasArgument x.2 = false)
  case hfails => exact h.aside
  case harea =>
    intro hkind octets hoctets
    have hadds : Adds setting d d c
        (withItem c (.fixedValue e.description octets e.size)) [.area e octets] :=
      .one h.aside (extends_withItem c _) hc rfl rfl hoctets
    exact ⟨[.area e octets], fun _ hmore => .area hkind hmore, hadds⟩
  case hargument => exact fun _ => placeArgument_ends h hc e
  case hplain =>
    intro hkind hsize c₁ counter d₁ ⟨hadds, _⟩
    exact ⟨[.argument e counter], fun _ hmore => .argument hkind hsize hmore, hadds⟩
  case hoverrun => exact fun _ _ h₁ => h₁.1.aside
  case honce =>
    -- a counter of elements that count again: only the counter itself is placed
    intro hkind hfits hnested c₁ counter d₁ ⟨hadds, hfree⟩ _
    refine ends_limitation fun d₂ hdb hstage => ?_
    have hfix := hadds.fixCount hfree
    have hwarned : Adds setting d₁ d₂ (fixCount c₁ counter) (fixCount c₁ counter) [] :=
      .nil (hadds.aside.sound.same hdb hstage) hfix.bindsOwn
    exact ⟨[.once e counter], fun _ hmore => .once hkind hfits hnested hmore,
      hfix.append hwarned⟩
  case hgroup =>
    -- a counter and what it repeats, which are placed together
    intro hkind hsize hfits hflat c₁ counter d₁ ⟨hadds, _⟩
    refine (placeGroup_ends hadds.aside.sound hadds.bindsOwn counter
      (rest.take e.groupSize)).mono (fun c₂ d₂ _ h₂ => ?_) fun _ h₂ => hadds.aside.trans h₂
    obtain ⟨hmembers, name, hgroup⟩ := h₂
    refine ⟨[.argument e counter, .array counter (rest.take e.groupSize) name],
      fun _ hmore => ?_, hadds.append hgroup⟩
    exact .group_take hkind hsize hfits (fun m hm => ⟨hmembers m hm, hflat m hm⟩) hmore

/-- **The elements of a command are placed block by block**: what has been placed begins a layout
of them, which any layout of those that are left completes. -/
theorem placeElements_ends (setting : Setting) (elements : List CommandElement) {c : Command}
    {d : Draft CommandingState} (h : Sound setting d) (hc : BindsOwn c) :
    Ends (placeElements setting c elements) d
      (fun c' d' => ∃ blocks, Layout elements blocks ∧ Adds setting d d' c c' blocks)
      (Aside setting d) := by
  refine (ends_placeElements (I := fun left c₁ d₁ => ∃ placed,
    (∀ more, Layout left more → Layout elements (placed ++ more)) ∧ Adds setting d d₁ c c₁ placed)
    (fun e rest c₁ d₁ h₁ => ?_) ⟨[], fun _ hmore => hmore, .nil h.aside hc⟩).mono
    (fun c' d' _ h' => ?_) fun _ h' => h'
  · obtain ⟨placed, hplaced, hadds⟩ := h₁
    refine (placeFirst_ends hadds.aside.sound hadds.bindsOwn e rest).mono (fun x d₂ _ h₂ => ?_)
      fun _ h₂ => hadds.aside.trans h₂
    obtain ⟨first, hfirst, hmore⟩ := h₂
    refine ⟨placed ++ first, fun more hlayout => ?_, hadds.append hmore⟩
    rw [List.append_assoc]
    exact hplaced _ (hfirst more hlayout)
  · obtain ⟨blocks, hblocks, hadds⟩ := h'
    exact ⟨blocks, List.append_nil blocks ▸ hblocks [] .nil, hadds⟩

/-! ## Commands -/

/-- Two commands that differ in what comes with a header at most. -/
structure SameBody (c c' : Command) : Prop where
  name : c'.name = c.name
  entries : c'.entries = c.entries
  fixedArguments : c'.fixedArguments = c.fixedArguments

theorem SameBody.trans (h : SameBody c c') (h' : SameBody c' c'') : SameBody c c'' :=
  ⟨h'.name.trans h.name, h'.entries.trans h.entries, h'.fixedArguments.trans h.fixedArguments⟩

/-- A header brings no entry and no fixed argument. -/
theorem withHeader_sameBody {db : Database} {state : CommandingState} {row : Row}
    (h : withHeader setting db state row c = .ok c') : SameBody c c' := by
  rcases withHeader_eq_ok h with ⟨-, rfl⟩ | ⟨_, _, _, -, -, -, rfl, -⟩
  · exact ⟨rfl, rfl, rfl⟩
  · exact ⟨rfl, rfl, rfl⟩

/-- A service brings aliases and verifiers. -/
theorem withService_same {db : Database} {row : Row}
    (h : withService setting db row c = .ok c') :
    c'.name = c.name ∧ c'.entries = c.entries ∧ Extends c c' := by
  obtain ⟨_, _, rfl, -⟩ := withService_eq_ok h
  exact ⟨rfl, rfl, fun _ _ => ⟨rfl, rfl, rfl, rfl⟩⟩

/-- The entries of a command and its elements are in step. -/
def InStep (setting : Setting) (d : Draft CommandingState) (c : Command) : Prop :=
  ∃ blocks, Layout ((d.stage.elements.find? c.name).getD []) blocks ∧
    c.entries = blocks.map Block.entry ∧ ∀ b ∈ blocks, Placed setting d c b

theorem InStep.keeps (h : InStep setting d c) (hd : Keeps d d') : InStep setting d' c := by
  obtain ⟨blocks, hlayout, hentries, hplaced⟩ := h
  refine ⟨blocks, ?_, hentries, fun b hb => (hplaced b hb).mono hd fun _ _ => ⟨rfl, rfl, rfl, rfl⟩⟩
  rw [hd.elements]
  exact hlayout

/-- **A command that is defined is in step**, and nothing else happens to the commands. -/
theorem defineCommand_ends (h : Sound setting d) (row : Row) :
    Ends (defineCommand setting row) d
      (fun _ d' => Aside setting d d' ∨ Keeps d d' ∧ Sound setting d' ∧ ∃ c,
        d'.database.commands = d.database.commands.push c ∧ InStep setting d' c)
      (Aside setting d) := by
  refine ends_defineCommand h.aside (.inl h.aside) fun name c₀ _ hheader => ?_
  have hbody := withHeader_sameBody hheader
  -- a command begins without a fixed set, and the header brings none
  have hbinds : BindsOwn c₀ := bindsOwn_of_none hbody.fixedArguments
  refine (placeElements_ends setting _ h hbinds).mono (fun c₁ d₁ _ h₁ => ?_) fun _ h => h
  obtain ⟨blocks, hlayout, hadds⟩ := h₁
  refine ⟨hadds.aside, fun c₂ hservice => ?_⟩
  obtain ⟨hname, hentries, hgrows⟩ := withService_same hservice
  have hkeeps : Keeps d₁ (withCommand d₁ c₂) := ⟨fun _ _ ht => ht, rfl, rfl, rfl, rfl⟩
  refine .inr ⟨hadds.aside.keeps.trans hkeeps, hadds.aside.sound.keeps hkeeps rfl rfl, c₂, ?_, ?_⟩
  · rw [← hadds.aside.commands]
    rfl
  · refine InStep.keeps ?_ hkeeps
    refine ⟨blocks, ?_, ?_, fun b hb => (hadds.placed b hb).mono (Std.Refl.refl d₁) hgrows⟩
    · rw [hname, hadds.name, hbody.name, hadds.aside.keeps.elements]
      exact hlayout
    · rw [hentries, hadds.entries, hbody.entries]
      rfl

/-! ## The tables -/

/-- Before the commands are read: parameters are kept by their names, and no type is. -/
structure Unused (d d' : Draft CommandingState) : Prop where
  named : ∀ name p, d'.stage.parameters.find? name = some p → p.name = name
  shared : d'.stage.argumentTypes.entries = []
  identifiers : d'.stage.identifierTypes.entries = []
  database : d'.database = d.database

theorem Unused.sound (h : Unused d d') : Sound setting d' where
  named := h.named
  shared := by
    intro p tag r _ _ hr
    rw [Index.find?_of_entries_eq_nil h.shared] at hr
    cases hr
  identifiers := by
    intro p tag r _ _ hr
    rw [Index.find?_of_entries_eq_nil h.identifiers] at hr
    cases hr

theorem loadParameters_ends (h : Unused d d) :
    Ends (loadParameters setting) d (fun _ => Unused d) (Unused d) := by
  refine Ends.bind ((ends_scan (fun _ _ h => ⟨h.named, h.shared, h.identifiers, h.database⟩) h
    fun row d₁ h₁ => ?_).mono (fun _ _ _ h => h) fun _ h => h)
  refine Ends.bind (ends_lift (fun p _ => ?_) h₁)
  refine Ends.bind (ends_stage ?_)
  dsimp only
  split
  · exact ends_throw h₁
  · -- the new parameter is kept by its own name, and the others are not touched
    refine ⟨fun name q hq => ?_, h₁.shared, h₁.identifiers, h₁.database⟩
    have hq : (d₁.stage.parameters.set p.name p).find? name = some q := hq
    by_cases hname : name = p.name
    · rw [hname, Index.find?_set_self] at hq
      cases hq
      exact hname.symm
    · rw [Index.find?_set_of_ne _ hname] at hq
      exact h₁.named name q hq

/-- The elements of every command are in the order of their bits. -/
def Sorted (d : Draft CommandingState) : Prop :=
  ∀ e ∈ d.stage.elements.entries, e.2.Pairwise fun a b => a.bit ≤ b.bit

theorem Sorted.find? (h : Sorted d) (name : String) :
    ((d.stage.elements.find? name).getD []).Pairwise fun a b => a.bit ≤ b.bit := by
  cases hfind : d.stage.elements.find? name with
  | none => exact List.Pairwise.nil
  | some es => exact h _ (Index.mem_of_find? hfind)

theorem Sorted.keeps (h : Sorted d) (hd : Keeps d d') : Sorted d' := by
  unfold Sorted
  rw [hd.elements]
  exact h

theorem loadElements_ends (h : Unused d d') :
    Ends (loadElements setting) d' (fun _ d'' => Unused d d'' ∧ Sorted d'') (Unused d) := by
  refine Ends.bind ((ends_scan (fun _ _ h => ⟨h.named, h.shared, h.identifiers, h.database⟩) h
    fun row d₁ h₁ => ?_).mono (fun _ _ _ h => ?_) fun _ h => h)
  · unfold declareElement
    refine Ends.bind (ends_lift (fun name _ => ?_) h₁)
    split
    · refine Ends.bind (ends_lift (fun e _ => ?_) h₁)
      refine Ends.bind (ends_stage ?_)
      have hdone : Unused d { d₁ with stage := { d₁.stage with
          elements := d₁.stage.elements.append name e } } :=
        ⟨h₁.named, h₁.shared, h₁.identifiers, h₁.database⟩
      cases e.parameter with
      | none => exact hdone
      | some name =>
          dsimp only
          split
          · exact ends_throw h₁
          · exact hdone
    · exact h₁
  · exact ⟨⟨h.named, h.shared, h.identifiers, h.database⟩, Index.pairwise_sortLists _ _⟩

/-- All commands that have come since are in step. -/
structure Defined (setting : Setting) (d d' : Draft CommandingState) : Prop where
  /-- The types that are kept are right. -/
  sound : Sound setting d'
  sorted : Sorted d'
  /-- A command is an old one, or its entries and its elements are in step. -/
  inStep : ∀ r c, d'.database.commands.get? r = some c →
    d.database.commands.get? r = some c ∨ InStep setting d' c

theorem Defined.aside (h : Defined setting d d') (h' : Aside setting d' d'') :
    Defined setting d d'' := by
  refine ⟨h'.sound, h.sorted.keeps h'.keeps, fun r c hr => ?_⟩
  rw [h'.commands] at hr
  rcases h.inStep r c hr with hold | hstep
  · exact .inl hold
  · exact .inr (hstep.keeps h'.keeps)

theorem loadCommands_ends (h : Defined setting d d') :
    Ends (loadCommands setting) d' (fun _ => Defined setting d) (Defined setting d) := by
  refine Ends.bind ((ends_scan (fun d₁ e h₁ => ?_) h fun row d₁ h₁ => ?_).mono
    (fun _ _ _ h => h) fun _ h => h)
  · exact h₁.aside (h₁.sound.same rfl rfl)
  · refine (defineCommand_ends h₁.sound row).mono (fun _ d₂ _ h₂ => ?_) fun _ h₂ => h₁.aside h₂
    rcases h₂ with haside | ⟨hkeeps, hsound, c, hcommands, hstep⟩
    · exact h₁.aside haside
    · refine ⟨hsound, h₁.sorted.keeps hkeeps, fun r c' hr => ?_⟩
      rw [hcommands] at hr
      rcases Catalog.get?_push_eq_some hr with hr | ⟨_, rfl⟩
      · rcases h₁.inStep r c' hr with hold | hstep'
        · exact .inl hold
        · exact .inr (hstep'.keeps hkeeps)
      · exact .inr hstep

/-- **No element of a command is lost, doubled or moved.** The elements of every command that the
tables add are in the order of their bits; the command has one entry for each block of them, in
their order, and what stands for a block is what the block asks for. -/
theorem loadCommands_inStep {d d' : Draft CommandingState}
    (hparameters : d.stage.parameters.entries = [])
    (hshared : d.stage.argumentTypes.entries = [])
    (hidentifiers : d.stage.identifierTypes.entries = [])
    (hrun : (do
      loadParameters setting
      loadElements setting
      loadCommands setting : CommandingBuild Unit) d = .ok () d')
    {r : CommandRef} {c : Command} (hnew : d.database.commands.get? r = none)
    (hget : d'.database.commands.get? r = some c) :
    ((d'.stage.elements.find? c.name).getD []).Pairwise (fun a b => a.bit ≤ b.bit) ∧
    ∃ blocks, Layout ((d'.stage.elements.find? c.name).getD []) blocks ∧
      blocks.flatMap Block.elements = (d'.stage.elements.find? c.name).getD [] ∧
      c.entries = blocks.map Block.entry ∧ ∀ b ∈ blocks, Placed setting d' c b := by
  have hstart : Unused d d := by
    refine ⟨fun name p hp => ?_, hshared, hidentifiers, rfl⟩
    rw [Index.find?_of_entries_eq_nil hparameters] at hp
    cases hp
  have hall : Ends (do
      loadParameters setting
      loadElements setting
      loadCommands setting : CommandingBuild Unit) d (fun _ => Defined setting d)
      fun _ => True := by
    refine Ends.bind ((loadParameters_ends hstart).mono (fun _ d₁ _ h₁ => ?_) fun _ _ => trivial)
    refine Ends.bind ((loadElements_ends h₁).mono (fun _ d₂ _ h₂ => ?_) fun _ _ => trivial)
    obtain ⟨hunused, hsorted⟩ := h₂
    have hbegin : Defined setting d d₂ := by
      refine ⟨hunused.sound, hsorted, fun r c hr => .inl ?_⟩
      rw [← hunused.database]
      exact hr
    exact (loadCommands_ends hbegin).mono (fun _ _ _ h => h) fun _ _ => trivial
  have hdefined := hall.of_ok hrun
  refine ⟨hdefined.sorted.find? c.name, ?_⟩
  rcases hdefined.inStep r c hget with hold | ⟨blocks, hlayout, hentries, hplaced⟩
  · rw [hnew] at hold
    cases hold
  · exact ⟨blocks, hlayout, hlayout.flatMap_elements, hentries, hplaced⟩

/-- A counter that counts a counter and what that one repeats. -/
def nestedSetting : Setting :=
  .ofTables [
    ("cpc", "N1\t\t3\t4\nN2\t\t3\t4\nV1\t\t3\t12\n"),
    ("cdf", "CMD\tE\t\t8\t0\t2\tN1\nCMD\tE\t\t8\t8\t1\tN2\nCMD\tE\t\t16\t16\t0\tV1\n"),
    ("ccf", "CMD\ta command\t\t\tN\tNOHEADER\n")]

/-- The outer counter is bound to one, and the inner one counts an array. -/
theorem nested_inStep :
    ∃ (d d' : Draft CommandingState) (c : Command) (blocks : List Block),
      d.stage.parameters.entries = [] ∧ d.stage.argumentTypes.entries = [] ∧
      d.stage.identifierTypes.entries = [] ∧
      (do
        loadParameters nestedSetting
        loadElements nestedSetting
        loadCommands nestedSetting : CommandingBuild Unit) d = .ok () d' ∧
      d.database.commands.get? ⟨0⟩ = none ∧ d'.database.commands.get? ⟨0⟩ = some c ∧
      c.name = "CMD" ∧ c.assignments = [⟨"N1", "1"⟩] ∧ c.entries.length = 3 ∧
      Layout ((d'.stage.elements.find? c.name).getD []) blocks ∧
      c.entries = blocks.map Block.entry ∧ ∀ b ∈ blocks, Placed nestedSetting d' c b := by
  have hok : (after? (loadParameters nestedSetting)
      { database := { name := "MIB" }, stage := {} }).any (fun d₁ =>
        (after? (Build.scan nestedSetting "cdf" (declareElement nestedSetting)) d₁).any fun d₂ =>
          decide (∀ e ∈ d₂.stage.elements.entries, e.2.Pairwise fun a b => a.bit ≤ b.bit) &&
          (after? (loadCommands nestedSetting) d₂).any fun d₃ =>
            (d₃.database.commands.get? ⟨0⟩).any fun c =>
              decide (c.name = "CMD" ∧ c.assignments = [⟨"N1", "1"⟩] ∧ c.entries.length = 3)) =
      true := by decide +kernel
  obtain ⟨d₁, h₁, hok⟩ := (Option.any_eq_true _ _).mp hok
  obtain ⟨d₂, h₂, hok⟩ := (Option.any_eq_true _ _).mp hok
  obtain ⟨hsorted, hok⟩ := (Bool.and_eq_true _ _).mp hok
  obtain ⟨d₃, h₃, hok⟩ := (Option.any_eq_true _ _).mp hok
  obtain ⟨c, hc, hok⟩ := (Option.any_eq_true _ _).mp hok
  obtain ⟨hname, hassignments, hlength⟩ := of_decide_eq_true hok
  obtain ⟨_, h₁⟩ := after?_eq_some.mp h₁
  obtain ⟨n, h₂⟩ := after?_eq_some.mp h₂
  obtain ⟨_, h₃⟩ := after?_eq_some.mp h₃
  -- the elements are declared in the order of their bits, so sorting leaves them as they are
  have helements : loadElements nestedSetting d₁ = .ok () d₂ := by
    refine bind_eq_ok.mpr ⟨n, d₂, h₂, changeStage_eq_ok.mpr ?_⟩
    rw [Index.sortLists_of_sorted (of_decide_eq_true hsorted)]
  have hrun : (do
      loadParameters nestedSetting
      loadElements nestedSetting
      loadCommands nestedSetting : CommandingBuild Unit)
        { database := { name := "MIB" }, stage := {} } = .ok () d₃ :=
    bind_eq_ok.mpr ⟨(), d₁, h₁, bind_eq_ok.mpr ⟨(), d₂, helements, h₃⟩⟩
  obtain ⟨_, blocks, hlayout, _, hentries, hplaced⟩ := loadCommands_inStep rfl rfl rfl hrun rfl hc
  exact ⟨_, d₃, c, blocks, rfl, rfl, rfl, hrun, rfl, hc, hname, hassignments, hlength, hlayout,
    hentries, hplaced⟩

end MissionBase.Commanding
