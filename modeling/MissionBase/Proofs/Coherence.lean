import MissionBase.Proofs.Database
import MissionBase.Proofs.Names

/-!
# The database is coherent

A database begins without elements and answers one request after the other: it takes up an element
and tells its place, it refuses one whose name is taken, or it registers an alias. Three things stay
true whatever is asked, and in whatever order.

**Names are places.** No two elements of a kind have the same name, and a name is found exactly at
the place of the element that has it (`Catalog.Coherent`). Types of arguments are renamed where
others are refused, so for them it rests on the search for a free name.

**Places last.** A place that was told is the place of the same element for ever after
(`Database.Denotes`, `Database.Keeps`); of a parameter only the aliases grow.

**Aliases are what was registered.** The aliases of a parameter are those registered for it, in that
order, and the owner of an alias is the parameter of its latest registration (`Database.Coherent`).
-/

namespace MissionBase

/-! ## Catalogs -/

namespace Catalog

variable {kind : Kind} {α : Type} [Named α] {c : Catalog kind α}

/-- The names of the elements, in the order of their arrival. -/
def names (c : Catalog kind α) : List String := c.toList.map Named.name

theorem getElem?_names (c : Catalog kind α) (r : Ref kind) :
    c.names[r.index]? = (c.get? r).map Named.name := by
  simp [names, toList, get?]

@[simp] theorem length_names (c : Catalog kind α) : c.names.length = c.size := by
  simp [names, toList, size]

@[simp] theorem names_push (c : Catalog kind α) (x : α) :
    (c.push x).names = c.names ++ [Named.name x] := by
  simp [names]

/-- A change that leaves names alone. -/
theorem names_modify (c : Catalog kind α) (r : Ref kind) {change : α → α}
    (hname : ∀ x, Named.name (change x) = Named.name x) : (c.modify r change).names = c.names :=
  map_toList_modify hname

/-- A name is taken where it is the name of an element. -/
theorem mem_names_iff {name : String} : name ∈ c.names ↔ c.has name = true := by
  constructor
  · intro h
    obtain ⟨x, hx, rfl⟩ := List.mem_map.mp h
    exact has_of_mem (Array.mem_toList_iff.mp hx)
  · intro h
    obtain ⟨r, x, hx, rfl⟩ := exists_of_has h
    exact List.mem_map_of_mem (Array.mem_toList_iff.mpr (Array.mem_of_getElem? hx))

/-- Every element has a name of its own, and a name is found at the place of the element that has
it. -/
structure Coherent (c : Catalog kind α) : Prop where
  distinct : c.names.Nodup
  found : ∀ name r, c.find? name = some r ↔ ∃ x, c.get? r = some x ∧ Named.name x = name

/-- **Different names are enough**: the first element of a name is then the only one. -/
theorem coherent_of_nodup (h : c.names.Nodup) : c.Coherent := by
  refine ⟨h, fun name r => ⟨exists_of_find?, ?_⟩⟩
  rintro ⟨x, hx, rfl⟩
  have hhas : c.has (Named.name x) = true := has_of_mem (Array.mem_of_getElem? hx)
  obtain ⟨q, hq⟩ := Option.isSome_iff_exists.mp hhas
  obtain ⟨y, hy, hname⟩ := exists_of_find? hq
  -- the element that is found has the name too, so it stands at the same place
  have hlt : q.index < c.names.length := by
    rw [length_names]
    exact lt_size_of_get? hy
  have hsame : c.names[q.index]? = c.names[r.index]? := by
    rw [getElem?_names, getElem?_names, hx, hy, Option.map_some, Option.map_some, hname]
  have hindex : q.index = r.index := (List.getElem?_inj hlt h).mp hsame
  cases q
  cases r
  cases hindex
  exact hq

theorem coherent_empty : ({} : Catalog kind α).Coherent := coherent_of_nodup List.nodup_nil

/-- An element whose name is free keeps the names apart. -/
theorem Coherent.push (h : c.Coherent) {x : α} (hfree : c.has (Named.name x) = false) :
    (c.push x).Coherent := by
  have hnew : Named.name x ∉ c.names := by
    intro hmem
    rw [mem_names_iff, hfree] at hmem
    cases hmem
  refine coherent_of_nodup ?_
  rw [names_push, List.nodup_append]
  refine ⟨h.distinct, List.nodup_singleton _, ?_⟩
  intro a ha b hb heq
  rw [List.mem_singleton.mp hb] at heq
  exact hnew (heq ▸ ha)

/-- A change that leaves names alone keeps them apart. -/
theorem Coherent.modify (h : c.Coherent) (r : Ref kind) {change : α → α}
    (hname : ∀ x, Named.name (change x) = Named.name x) : (c.modify r change).Coherent :=
  coherent_of_nodup (by rw [names_modify c r hname]; exact h.distinct)

end Catalog

/-! ## Requests -/

/-- What a database may be asked for: an element, or an alias of a parameter. -/
inductive Request where
  | parameterType (t : ParameterType)
  | parameter (p : Parameter)
  | aliasFor (r : ParameterRef) (a : Alias)
  | container (c : Container)
  | argumentType (t : ArgumentType)
  | command (c : Command)
  | algorithm (a : Algorithm)

/-- What a database answers: the place of the element, or why there is none. -/
inductive Reply where
  | parameterType (r : ParameterTypeRef)
  | parameter (r : ParameterRef)
  | registered
  | container (r : ContainerRef)
  | argumentType (r : ArgumentTypeRef)
  | command (r : CommandRef)
  | algorithm (r : AlgorithmRef)
  | refused (d : DuplicateName)
  deriving DecidableEq

namespace Database

variable {db db' : Database} {log : List (Alias × ParameterRef)}

/-- The reply to an addition, and the database after it. -/
def settle {α : Type} (db : Database) (reply : α → Reply) :
    Except DuplicateName (α × Database) → Reply × Database
  | .ok (x, db') => (reply x, db')
  | .error d => (.refused d, db)

/-- The reply to a request, and the database after it. -/
def serve (db : Database) : Request → Reply × Database
  | .parameterType t => db.settle .parameterType (db.addParameterType t)
  | .parameter p => db.settle .parameter (db.addParameter p)
  | .aliasFor r a => (.registered, db.addAlias r a)
  | .container c => db.settle .container (db.addContainer c)
  | .argumentType t => (.argumentType (db.addArgumentType t).1, (db.addArgumentType t).2)
  | .command c => db.settle .command (db.addCommand c)
  | .algorithm a => db.settle .algorithm (db.addAlgorithm a)

/-- The database after requests. -/
def after (db : Database) (requests : List Request) : Database :=
  requests.foldl (fun db q => (db.serve q).2) db

/-- The replies to requests, one by one. -/
def replies (db : Database) : List Request → List Reply
  | [] => []
  | q :: rest => (db.serve q).1 :: (db.serve q).2.replies rest

/-- The aliases that a request registers, in their order, with their owner. -/
def registered : Request → Reply → List (Alias × ParameterRef)
  | .parameter p, .parameter r => p.aliases.map fun a => (a, r)
  | .aliasFor r a, _ => [(a, r)]
  | _, _ => []

/-- The registrations of aliases that requests lead to, the latest one last. -/
def registrations (db : Database) : List Request → List (Alias × ParameterRef)
  | [] => []
  | q :: rest => registered q (db.serve q).1 ++ (db.serve q).2.registrations rest

/-- Requests name the parameters that they are about by places that were told before. -/
def Acquainted (db : Database) (requests : List Request) : Prop :=
  ∀ before r a rest, requests = before ++ .aliasFor r a :: rest →
    .parameter r ∈ db.replies before

theorem after_append (db : Database) (qs qs' : List Request) :
    db.after (qs ++ qs') = (db.after qs).after qs' := List.foldl_append

theorem after_singleton (db : Database) (q : Request) : db.after [q] = (db.serve q).2 := rfl

theorem replies_append (db : Database) (qs qs' : List Request) :
    db.replies (qs ++ qs') = db.replies qs ++ (db.after qs).replies qs' := by
  induction qs generalizing db with
  | nil => rfl
  | cons q qs ih => exact congrArg ((db.serve q).1 :: ·) (ih _)

theorem registrations_append (db : Database) (qs qs' : List Request) :
    db.registrations (qs ++ qs') = db.registrations qs ++ (db.after qs).registrations qs' := by
  induction qs generalizing db with
  | nil => rfl
  | cons q qs ih =>
      show _ ++ (db.serve q).2.registrations (qs ++ qs') = (_ ++ _) ++ _
      rw [ih, List.append_assoc]
      rfl

/-! ## One request -/

/-- Why an addition is refused: an element of its kind has its name. -/
def Taken (db : Database) (d : DuplicateName) : Request → Prop
  | .parameterType t => db.parameterTypes.has t.name = true ∧ d = ⟨.parameterType, t.name⟩
  | .parameter p => db.parameters.has p.name = true ∧ d = ⟨.parameter, p.name⟩
  | .container c => db.containers.has c.name = true ∧ d = ⟨.container, c.name⟩
  | .command c => db.commands.has c.name = true ∧ d = ⟨.command, c.name⟩
  | .algorithm a => db.algorithms.has a.name = true ∧ d = ⟨.algorithm, a.name⟩
  | .aliasFor _ _ | .argumentType _ => False

/-- A name, or one that stands in for it with a number after it. -/
def StandsFor (name base : String) : Prop := name = base ∨ ∃ n, name = numbered base n

/-- What a request that is not refused does: its element comes after all others of its kind, under a
name that was free, and its aliases are registered. -/
inductive Accepts (db : Database) : Request → Reply → Database → Prop
  | parameterType {t : ParameterType} (free : db.parameterTypes.has t.name = false) :
      Accepts db (.parameterType t) (.parameterType db.parameterTypes.next)
        { db with parameterTypes := db.parameterTypes.push t }
  | parameter {p : Parameter} (free : db.parameters.has p.name = false) :
      Accepts db (.parameter p) (.parameter db.parameters.next)
        { db with
          parameters := db.parameters.push p
          aliasOwners := registerAliases db.aliasOwners db.parameters.next p.aliases }
  | aliasFor {r : ParameterRef} {a : Alias} :
      Accepts db (.aliasFor r a) .registered (db.addAlias r a)
  | container {c : Container} (free : db.containers.has c.name = false) :
      Accepts db (.container c) (.container db.containers.next)
        { db with containers := db.containers.push c }
  | argumentType {t : ArgumentType} {name : String} (free : db.argumentTypes.has name = false)
      (standsFor : StandsFor name t.name) :
      Accepts db (.argumentType t) (.argumentType db.argumentTypes.next)
        { db with argumentTypes := db.argumentTypes.push { t with name := name } }
  | command {c : Command} (free : db.commands.has c.name = false) :
      Accepts db (.command c) (.command db.commands.next)
        { db with commands := db.commands.push c }
  | algorithm {a : Algorithm} (free : db.algorithms.has a.name = false) :
      Accepts db (.algorithm a) (.algorithm db.algorithms.next)
        { db with algorithms := db.algorithms.push a }

theorem firstFree_standsFor (taken : String → Bool) (base : String) (fuel n : Nat) :
    StandsFor (firstFree taken base fuel n) base := by
  induction fuel generalizing n with
  | zero => exact .inl rfl
  | succ fuel ih =>
      unfold firstFree
      split
      · exact ih (n + 1)
      · exact .inr ⟨n, rfl⟩

/-- An argument type gets a name that no other has. -/
theorem accepts_argumentType (db : Database) (t : ArgumentType) :
    db.Accepts (.argumentType t) (.argumentType (db.addArgumentType t).1)
      (db.addArgumentType t).2 := by
  unfold addArgumentType
  by_cases htaken : db.argumentTypes.has t.name = true
  · rw [if_pos htaken]
    refine .argumentType ?_ (firstFree_standsFor _ _ _ _)
    have hnames : ∀ name, db.argumentTypes.has name = true → name ∈ db.argumentTypes.names :=
      fun _ => Catalog.mem_names_iff.mpr
    refine firstFree_free hnames _ ?_
    rw [Catalog.length_names]
    exact Nat.lt_succ_self _
  · rw [if_neg htaken]
    have hfree : db.argumentTypes.has t.name = false := by simpa using htaken
    exact .argumentType hfree (.inl rfl)

/-- An addition to a catalog, as a reply: refused for a taken name, or the next place. -/
theorem settle_add {kind : Kind} {α : Type} [Named α] (db : Database) (c : Catalog kind α) (x : α)
    (put : Ref kind × Catalog kind α → Ref kind × Database) (reply : Ref kind → Reply) :
    (c.has (Named.name x) = true ∧
        db.settle reply ((c.add x).map put) = (.refused ⟨kind, Named.name x⟩, db)) ∨
      c.has (Named.name x) = false ∧
        db.settle reply ((c.add x).map put) =
          (reply (put (c.next, c.push x)).1, (put (c.next, c.push x)).2) := by
  unfold Catalog.add
  by_cases htaken : c.has (Named.name x) = true
  · rw [if_pos htaken]
    exact .inl ⟨htaken, rfl⟩
  · rw [if_neg htaken]
    have hfree : c.has (Named.name x) = false := by simpa using htaken
    exact .inr ⟨hfree, rfl⟩

/-- **A request is refused for a taken name, and then nothing changes, or it is accepted.** -/
theorem serve_cases (db : Database) (q : Request) :
    (∃ d, db.Taken d q ∧ db.serve q = (.refused d, db)) ∨
      db.Accepts q (db.serve q).1 (db.serve q).2 := by
  cases q with
  | parameterType t =>
      unfold serve addParameterType
      rcases settle_add db db.parameterTypes t _ .parameterType with ⟨htaken, heq⟩ | ⟨hfree, heq⟩
      · exact .inl ⟨_, ⟨htaken, rfl⟩, heq⟩
      · simp only [heq]
        exact .inr (.parameterType hfree)
  | parameter p =>
      unfold serve addParameter
      rcases settle_add db db.parameters p _ .parameter with ⟨htaken, heq⟩ | ⟨hfree, heq⟩
      · exact .inl ⟨_, ⟨htaken, rfl⟩, heq⟩
      · simp only [heq]
        exact .inr (.parameter hfree)
  | aliasFor r a => exact .inr .aliasFor
  | container c =>
      unfold serve addContainer
      rcases settle_add db db.containers c _ .container with ⟨htaken, heq⟩ | ⟨hfree, heq⟩
      · exact .inl ⟨_, ⟨htaken, rfl⟩, heq⟩
      · simp only [heq]
        exact .inr (.container hfree)
  | argumentType t => exact .inr (accepts_argumentType db t)
  | command c =>
      unfold serve addCommand
      rcases settle_add db db.commands c _ .command with ⟨htaken, heq⟩ | ⟨hfree, heq⟩
      · exact .inl ⟨_, ⟨htaken, rfl⟩, heq⟩
      · simp only [heq]
        exact .inr (.command hfree)
  | algorithm a =>
      unfold serve addAlgorithm
      rcases settle_add db db.algorithms a _ .algorithm with ⟨htaken, heq⟩ | ⟨hfree, heq⟩
      · exact .inl ⟨_, ⟨htaken, rfl⟩, heq⟩
      · simp only [heq]
        exact .inr (.algorithm hfree)

/-- **The coherence of a database** after registrations of aliases: every kind has its names apart,
and both sides of the registration, owners by alias and aliases by owner, are those of the log. -/
structure Coherent (db : Database) (log : List (Alias × ParameterRef)) : Prop where
  parameterTypes : db.parameterTypes.Coherent
  parameters : db.parameters.Coherent
  containers : db.containers.Coherent
  argumentTypes : db.argumentTypes.Coherent
  commands : db.commands.Coherent
  algorithms : db.algorithms.Coherent
  owners : db.aliasOwners = log.reverse
  aliases : ∀ r p, db.parameters.get? r = some p →
    p.aliases = (log.filter (·.2 = r)).map (·.1)
  known : ∀ o ∈ log, o.2.index < db.parameters.size

theorem coherent_named (name : String) : ({ name := name } : Database).Coherent [] where
  parameterTypes := Catalog.coherent_empty
  parameters := Catalog.coherent_empty
  containers := Catalog.coherent_empty
  argumentTypes := Catalog.coherent_empty
  commands := Catalog.coherent_empty
  algorithms := Catalog.coherent_empty
  owners := rfl
  aliases := by
    intro r p hp
    exact absurd (Catalog.lt_size_of_get? hp) (Nat.not_lt_zero _)
  known := by simp

theorem registerAliases_eq (owners : List (Alias × ParameterRef)) (r : ParameterRef)
    (aliases : List Alias) :
    registerAliases owners r aliases = (aliases.map fun a => (a, r)).reverse ++ owners := by
  unfold registerAliases
  induction aliases generalizing owners with
  | nil => rfl
  | cons a aliases ih => simp [ih]

/-- A parameter that is new brings its aliases; those of the others were registered before. -/
theorem Coherent.pushParameter (h : db.Coherent log) {p : Parameter}
    (hfree : db.parameters.has p.name = false) :
    ({ db with
      parameters := db.parameters.push p
      aliasOwners := registerAliases db.aliasOwners db.parameters.next p.aliases } :
        Database).Coherent (log ++ p.aliases.map fun a => (a, db.parameters.next)) := by
  refine { h with
    parameters := h.parameters.push hfree
    owners := ?_
    aliases := ?_
    known := ?_ }
  · rw [registerAliases_eq, h.owners, List.reverse_append]
  · intro r p' hp'
    rw [List.filter_append, List.map_append, List.filter_map, List.map_map]
    rcases Catalog.get?_push_eq_some hp' with hold | ⟨rfl, rfl⟩
    · have hlt := Catalog.lt_size_of_get? hold
      have hne : db.parameters.next ≠ r := by
        rintro rfl
        exact absurd hlt (Nat.lt_irrefl _)
      rw [h.aliases r p' hold]
      simp [Function.comp_def, hne]
    · have hnone : log.filter (·.2 = db.parameters.next) = [] := by
        rw [List.filter_eq_nil_iff]
        intro o ho heq
        have hlt := h.known o ho
        rw [of_decide_eq_true heq, Catalog.next_index] at hlt
        exact absurd hlt (Nat.lt_irrefl _)
      simp [hnone, Function.comp_def]
  · intro o ho
    rw [Catalog.size_push]
    rcases List.mem_append.mp ho with hold | hnew
    · exact Nat.lt_succ_of_lt (h.known o hold)
    · obtain ⟨a, -, rfl⟩ := List.mem_map.mp hnew
      exact Nat.lt_succ_self _

/-- An alias goes to both sides of the registration. -/
theorem Coherent.addAlias (h : db.Coherent log) {r : ParameterRef}
    (hr : r.index < db.parameters.size) (a : Alias) :
    (db.addAlias r a).Coherent (log ++ [(a, r)]) := by
  refine { h with
    parameters := h.parameters.modify r fun _ => rfl
    owners := ?_
    aliases := ?_
    known := ?_ }
  · show (a, r) :: db.aliasOwners = _
    rw [h.owners, List.reverse_append]
    rfl
  · intro q p' hp'
    rw [List.filter_append, List.map_append]
    obtain ⟨p, hp, ⟨rfl, rfl⟩ | ⟨hne, rfl⟩⟩ := Catalog.get?_modify_eq_some hp'
    · rw [← h.aliases r p hp]
      simp
    · rw [h.aliases q p hp]
      simp [hne]
  · intro o ho
    show o.2.index < (db.parameters.modify r _).size
    rw [Catalog.size_modify]
    rcases List.mem_append.mp ho with hold | hnew
    · exact h.known o hold
    · rw [List.mem_singleton.mp hnew]
      exact hr

/-- **A request keeps the database coherent**, and the log gets what it registers. -/
theorem Coherent.serve (h : db.Coherent log) {q : Request}
    (hq : ∀ r a, q = .aliasFor r a → r.index < db.parameters.size) :
    (db.serve q).2.Coherent (log ++ registered q (db.serve q).1) := by
  rcases serve_cases db q with ⟨d, htaken, heq⟩ | haccepts
  · have hnothing : registered q (.refused d) = [] := by cases q <;> first | rfl | cases htaken
    rw [heq, hnothing, List.append_nil]
    exact h
  · generalize hreply : (db.serve q).1 = reply at haccepts
    generalize hafter : (db.serve q).2 = db' at haccepts
    cases haccepts with
    | parameterType hfree =>
        simp only [registered, List.append_nil]
        exact { h with parameterTypes := h.parameterTypes.push hfree }
    | parameter hfree => exact h.pushParameter hfree
    | aliasFor => exact h.addAlias (hq _ _ rfl) _
    | container hfree =>
        simp only [registered, List.append_nil]
        exact { h with containers := h.containers.push hfree }
    | argumentType hfree _ =>
        simp only [registered, List.append_nil]
        exact { h with argumentTypes := h.argumentTypes.push hfree }
    | command hfree =>
        simp only [registered, List.append_nil]
        exact { h with commands := h.commands.push hfree }
    | algorithm hfree =>
        simp only [registered, List.append_nil]
        exact { h with algorithms := h.algorithms.push hfree }

/-! ## What lasts -/

/-- Every element stays at its place; only the aliases of parameters grow. -/
structure Keeps (db db' : Database) : Prop where
  parameterTypes : ∀ r t, db.parameterTypes.get? r = some t → db'.parameterTypes.get? r = some t
  parameters : ∀ r p, db.parameters.get? r = some p →
    ∃ more, db'.parameters.get? r = some { p with aliases := p.aliases ++ more }
  containers : ∀ r c, db.containers.get? r = some c → db'.containers.get? r = some c
  argumentTypes : ∀ r t, db.argumentTypes.get? r = some t → db'.argumentTypes.get? r = some t
  commands : ∀ r c, db.commands.get? r = some c → db'.commands.get? r = some c
  algorithms : ∀ r a, db.algorithms.get? r = some a → db'.algorithms.get? r = some a

theorem Keeps.refl (db : Database) : db.Keeps db where
  parameterTypes := fun _ _ h => h
  parameters := by
    intro r p h
    refine ⟨[], ?_⟩
    rw [List.append_nil]
    exact h
  containers := fun _ _ h => h
  argumentTypes := fun _ _ h => h
  commands := fun _ _ h => h
  algorithms := fun _ _ h => h

theorem Keeps.trans {db'' : Database} (h : db.Keeps db') (h' : db'.Keeps db'') : db.Keeps db'' where
  parameterTypes := fun r t ht => h'.parameterTypes r t (h.parameterTypes r t ht)
  parameters := by
    intro r p hp
    obtain ⟨more, hmore⟩ := h.parameters r p hp
    obtain ⟨more', hmore'⟩ := h'.parameters r _ hmore
    refine ⟨more ++ more', ?_⟩
    rw [hmore', List.append_assoc]
  containers := fun r c hc => h'.containers r c (h.containers r c hc)
  argumentTypes := fun r t ht => h'.argumentTypes r t (h.argumentTypes r t ht)
  commands := fun r c hc => h'.commands r c (h.commands r c hc)
  algorithms := fun r a ha => h'.algorithms r a (h.algorithms r a ha)

/-- A parameter that is added moves no other and changes none. -/
theorem keeps_pushParameter (db : Database) (p : Parameter)
    (owners : List (Alias × ParameterRef)) :
    db.Keeps { db with parameters := db.parameters.push p, aliasOwners := owners } := by
  refine { Keeps.refl db with parameters := ?_ }
  intro r q hq
  refine ⟨[], ?_⟩
  rw [List.append_nil]
  exact Catalog.get?_push_of_some hq p

/-- An alias changes one parameter, and there only its aliases. -/
theorem keeps_addAlias (db : Database) (r : ParameterRef) (a : Alias) :
    db.Keeps (db.addAlias r a) := by
  refine { Keeps.refl db with parameters := ?_ }
  intro q p hp
  obtain ⟨p', hp', rfl | rfl⟩ :=
    Catalog.exists_get?_modify hp r fun p => { p with aliases := p.aliases ++ [a] }
  · exact ⟨[a], hp'⟩
  · refine ⟨[], ?_⟩
    rw [List.append_nil]
    exact hp'

/-- **A request moves no element.** -/
theorem keeps_serve (db : Database) (q : Request) : db.Keeps (db.serve q).2 := by
  rcases serve_cases db q with ⟨d, -, heq⟩ | haccepts
  · rw [heq]
    exact .refl db
  · generalize (db.serve q).1 = reply at haccepts
    generalize (db.serve q).2 = db' at haccepts
    cases haccepts with
    | parameterType _ =>
        exact { Keeps.refl db with parameterTypes := fun _ _ h => Catalog.get?_push_of_some h _ }
    | parameter _ => exact keeps_pushParameter db _ _
    | aliasFor => exact keeps_addAlias db _ _
    | container _ =>
        exact { Keeps.refl db with containers := fun _ _ h => Catalog.get?_push_of_some h _ }
    | argumentType _ _ =>
        exact { Keeps.refl db with argumentTypes := fun _ _ h => Catalog.get?_push_of_some h _ }
    | command _ =>
        exact { Keeps.refl db with commands := fun _ _ h => Catalog.get?_push_of_some h _ }
    | algorithm _ =>
        exact { Keeps.refl db with algorithms := fun _ _ h => Catalog.get?_push_of_some h _ }

/-- What a reply to a request means: at the place stands the element that was asked for, a parameter
with later aliases, a type of arguments perhaps with a number after its name; and what is refused
has a taken name. -/
def Denotes (db : Database) : Request → Reply → Prop
  | .parameterType t, .parameterType r => db.parameterTypes.get? r = some t
  | .parameter p, .parameter r =>
    ∃ more, db.parameters.get? r = some { p with aliases := p.aliases ++ more }
  | .aliasFor r a, .registered => ∃ p, db.parameters.get? r = some p ∧ a ∈ p.aliases
  | .container c, .container r => db.containers.get? r = some c
  | .argumentType t, .argumentType r =>
    ∃ name, StandsFor name t.name ∧ db.argumentTypes.get? r = some { t with name := name }
  | .command c, .command r => db.commands.get? r = some c
  | .algorithm a, .algorithm r => db.algorithms.get? r = some a
  | q, .refused d => db.Taken d q
  | _, _ => False

/-- A name that an element has is taken as long as the element keeps its place and its name. -/
theorem has_of_kept {kind : Kind} {α : Type} [Named α] {c c' : Catalog kind α} {name : String}
    (h : c.has name = true)
    (hkept : ∀ r x, c.get? r = some x → ∃ y, c'.get? r = some y ∧ Named.name y = Named.name x) :
    c'.has name = true := by
  obtain ⟨r, x, hx, rfl⟩ := Catalog.exists_of_has h
  obtain ⟨y, hy, hname⟩ := hkept r x hx
  rw [← hname]
  exact Catalog.has_of_mem (Array.mem_of_getElem? hy)

theorem Keeps.taken (h : db.Keeps db') {d : DuplicateName} {q : Request} (ht : db.Taken d q) :
    db'.Taken d q := by
  cases q with
  | parameterType t =>
      exact ⟨has_of_kept ht.1 fun r x hx => ⟨x, h.parameterTypes r x hx, rfl⟩, ht.2⟩
  | parameter p =>
      refine ⟨has_of_kept ht.1 fun r x hx => ?_, ht.2⟩
      obtain ⟨more, hmore⟩ := h.parameters r x hx
      exact ⟨_, hmore, rfl⟩
  | aliasFor r a => exact ht
  | container c => exact ⟨has_of_kept ht.1 fun r x hx => ⟨x, h.containers r x hx, rfl⟩, ht.2⟩
  | argumentType t => exact ht
  | command c => exact ⟨has_of_kept ht.1 fun r x hx => ⟨x, h.commands r x hx, rfl⟩, ht.2⟩
  | algorithm a => exact ⟨has_of_kept ht.1 fun r x hx => ⟨x, h.algorithms r x hx, rfl⟩, ht.2⟩

/-- **A reply keeps its meaning** where every element keeps its place. -/
theorem Keeps.denotes (h : db.Keeps db') {q : Request} {reply : Reply} (hd : db.Denotes q reply) :
    db'.Denotes q reply := by
  unfold Denotes at hd ⊢
  split at hd
  · exact h.parameterTypes _ _ hd
  · obtain ⟨more, hmore⟩ := hd
    obtain ⟨more', hmore'⟩ := h.parameters _ _ hmore
    refine ⟨more ++ more', ?_⟩
    rw [hmore', List.append_assoc]
  · obtain ⟨p, hp, ha⟩ := hd
    obtain ⟨more, hmore⟩ := h.parameters _ p hp
    exact ⟨_, hmore, List.mem_append_left _ ha⟩
  · exact h.containers _ _ hd
  · obtain ⟨name, hname, ht⟩ := hd
    exact ⟨name, hname, h.argumentTypes _ _ ht⟩
  · exact h.commands _ _ hd
  · exact h.algorithms _ _ hd
  · exact h.taken hd
  · exact hd.elim

/-- **A reply is right when it is given**, to a request about a parameter that there is. -/
theorem denotes_serve {q : Request}
    (hq : ∀ r a, q = .aliasFor r a → r.index < db.parameters.size) :
    (db.serve q).2.Denotes q (db.serve q).1 := by
  rcases serve_cases db q with ⟨d, htaken, heq⟩ | haccepts
  · rw [heq]
    unfold Denotes
    cases q <;> exact htaken
  · generalize (db.serve q).1 = reply at haccepts
    generalize (db.serve q).2 = db' at haccepts
    cases haccepts with
    | parameterType _ => exact Catalog.get?_push_next _ _
    | parameter _ =>
        refine ⟨[], ?_⟩
        rw [List.append_nil]
        exact Catalog.get?_push_next _ _
    | @aliasFor r a =>
        obtain ⟨p, hp⟩ := Option.isSome_iff_exists.mp <|
          (Catalog.get?_isSome_iff _ _).mpr (hq r a rfl)
        refine ⟨{ p with aliases := p.aliases ++ [a] }, ?_, List.mem_append_right _ (by simp)⟩
        show (db.parameters.modify r _).get? r = _
        rw [Catalog.get?_modify_self, hp]
        rfl
    | container _ => exact Catalog.get?_push_next _ _
    | argumentType _ hname => exact ⟨_, hname, Catalog.get?_push_next _ _⟩
    | command _ => exact Catalog.get?_push_next _ _
    | algorithm _ => exact Catalog.get?_push_next _ _

/-! ## Any requests -/

theorem Acquainted.of_append {qs qs' : List Request} (h : db.Acquainted (qs ++ qs')) :
    db.Acquainted qs := by
  rintro before r a rest rfl
  refine h before r a (rest ++ qs') ?_
  rw [List.append_assoc]
  rfl

/-- A place that was told is one of the database. -/
theorem lt_size_of_told {requests : List Request} {replies : List Reply} {r : ParameterRef}
    (hd : List.Forall₂ db.Denotes requests replies) (h : .parameter r ∈ replies) :
    r.index < db.parameters.size := by
  induction hd with
  | nil => cases h
  | @cons q _ _ _ hq _ ih =>
      rcases List.mem_cons.mp h with rfl | hrest
      · cases q with
        | parameter p =>
            obtain ⟨_, hp⟩ := hq
            exact Catalog.lt_size_of_get? hp
        | parameterType _ | aliasFor _ _ | container _ | argumentType _ | command _
        | algorithm _ => exact hq.elim
      · exact ih hrest

/-- **Requests keep a database coherent and their replies right**, by induction on the requests: the
last of them is about a parameter whose place was told, and changes what it changes as one request
does. -/
theorem Acquainted.coherent {name : String} {requests : List Request}
    (h : ({ name := name } : Database).Acquainted requests) :
    (({ name := name } : Database).after requests).Coherent
        (({ name := name } : Database).registrations requests) ∧
      List.Forall₂ (({ name := name } : Database).after requests).Denotes requests
        (({ name := name } : Database).replies requests) := by
  generalize hdb : ({ name := name } : Database) = db at h ⊢
  induction requests using List.reverseRecOn with
  | nil =>
      rw [← hdb]
      exact ⟨coherent_named name, .nil⟩
  | append_singleton qs q ih =>
      obtain ⟨hcoherent, hdenotes⟩ := ih h.of_append
      have hq : ∀ r a, q = .aliasFor r a → r.index < (db.after qs).parameters.size := by
        rintro r a rfl
        exact lt_size_of_told hdenotes (h qs r a [] rfl)
      rw [after_append, registrations_append, replies_append, after_singleton]
      refine ⟨?_, List.rel_append ?_ (.cons (denotes_serve hq) .nil)⟩
      · simp only [registrations, List.append_nil]
        exact hcoherent.serve hq
      · exact hdenotes.imp fun _ _ hd => (keeps_serve _ q).denotes hd

end Database

end MissionBase
