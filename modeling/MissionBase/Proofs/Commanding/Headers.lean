import MissionBase.Commanding.Commands
import MissionBase.Proofs.Database
import MissionBase.Proofs.Steps

/-!
# What a command takes from its header and its service

A command goes through the discriminators of its header one by one. Each of them brings at most one
thing: an argument that stays editable is promoted, so that the command declares it itself with a
value of its own, and any other argument is bound. All that a command takes from its header is the
two lists of what is promoted and what is bound (`withHeader_eq_ok`). Its service then brings an
alias and a verifier (`withService_eq_ok`).
-/

namespace MissionBase.Commanding

open Run

variable {setting : Setting} {db : Database} {row : Row} {r : CommandRef} {c c' : Command}

/-- The binding that a discriminator brings: the value of its column, unless the argument stays
editable. -/
def binding? (row : Row) (x : Discriminator) : Option Assignment :=
  if x.editable then none
  else match x.argument, row.int? x.column with
    | some argument, .ok (some value) => some ⟨argument, toString value⟩
    | _, _ => none

/-- What a command of a record binds of its header: the application identifier, the type, the
subtype and the acknowledgement flags, each to the value of its column. -/
def headerBindings (setting : Setting) (row : Row) (header : HeaderTemplate) : List Assignment :=
  (discriminators setting.config.command header).filterMap (binding? row)

/-- The header argument that a discriminator promotes: one that stays editable and has a value. -/
def promotion? (row : Row) (x : Discriminator) : Option String :=
  if x.editable then
    match x.argument, row.int? x.column with
    | some argument, .ok (some _) => some argument
    | _, _ => none
  else none

/-- The header arguments that a command of a record promotes. -/
def promotions (setting : Setting) (row : Row) (header : HeaderTemplate) : List String :=
  (discriminators setting.config.command header).filterMap (promotion? row)

/-- An argument is that of a command of the database, with a value of its own. -/
def PromotedFrom (db : Database) (r : CommandRef) (a : Argument) : Prop :=
  ∃ k b value, db.commands.get? r = some k ∧ b ∈ k.allArguments ∧
    a = { b with initialValue := some value }

/-- A discriminator adds its promotion and its binding, and changes nothing else. -/
theorem bindDiscriminator_eq_ok {x : Discriminator}
    (h : bindDiscriminator db row r c x = .ok c') :
    ∃ added, c' = { c with
        arguments := c.arguments ++ added
        assignments := c.assignments ++ (binding? row x).toList } ∧
      added.map (·.name) = (promotion? row x).toList ∧ ∀ a ∈ added, PromotedFrom db r a := by
  unfold bindDiscriminator at h
  unfold binding? promotion?
  cases hargument : x.argument with
  | none =>
      rw [hargument] at h
      cases h
      exact ⟨[], by simp, by simp, by simp⟩
  | some argument =>
      rw [hargument] at h
      obtain ⟨value?, hvalue, h⟩ := except_bind_eq_ok.mp h
      rw [hvalue]
      cases value? with
      | none =>
          dsimp only at h
          split at h
          · cases h
          · cases h
            exact ⟨[], by simp, by simp, by simp⟩
      | some value =>
          dsimp only at h
          unfold bindValue at h
          split at h
          · rename_i heditable
            cases hfind : (db.commands.get? r).bind fun c => c.argument? argument with
            | none =>
                rw [hfind] at h
                cases h
            | some b =>
                rw [hfind] at h
                cases h
                obtain ⟨k, hk, hb⟩ := Option.bind_eq_some_iff.mp hfind
                have hname : b.name = argument := by simpa using List.find?_some hb
                refine ⟨[{ b with initialValue := some (toString value) }], by simp [heditable],
                  by simp [heditable, hname], fun a ha => ?_⟩
                exact ⟨k, b, toString value, hk, List.mem_of_find?_eq_some hb,
                  List.mem_singleton.mp ha⟩
          · rename_i heditable
            cases h
            exact ⟨[], by simp [heditable], by simp [heditable], by simp⟩

theorem foldlM_bindDiscriminator_eq_ok :
    ∀ {xs : List Discriminator} {c c' : Command},
      xs.foldlM (bindDiscriminator db row r) c = .ok c' →
      ∃ added, c' = { c with
          arguments := c.arguments ++ added
          assignments := c.assignments ++ xs.filterMap (binding? row) } ∧
        added.map (·.name) = xs.filterMap (promotion? row) ∧ ∀ a ∈ added, PromotedFrom db r a
  | [], _, _, h => by
      cases h
      exact ⟨[], by simp, rfl, by simp⟩
  | x :: xs, c, c', h => by
      rw [List.foldlM_cons] at h
      obtain ⟨c₁, h₁, h⟩ := except_bind_eq_ok.mp h
      obtain ⟨added₁, rfl, hnames₁, hfrom₁⟩ := bindDiscriminator_eq_ok h₁
      obtain ⟨added, rfl, hnames, hfrom⟩ := foldlM_bindDiscriminator_eq_ok h
      refine ⟨added₁ ++ added, ?_, ?_, fun a ha => ?_⟩
      · simp only [List.append_assoc]
        cases hx : binding? row x <;> simp [hx]
      · rw [List.map_append, hnames₁, hnames]
        cases hx : promotion? row x <;> simp [hx]
      · exact (List.mem_append.mp ha).elim (hfrom₁ a) (hfrom a)

/-- **A command takes what it promotes and what it binds**, and nothing else. -/
theorem withHeader_eq_ok {state : CommandingState}
    (h : withHeader setting db state row c = .ok c') :
    row.text 5 = .ok noHeader ∧ c' = c ∨
      ∃ name header added, row.text 5 = .ok name ∧ name ≠ noHeader ∧
        state.headers.find? name = some header ∧
        c' = { c with
          base := some header.command
          arguments := c.arguments ++ added
          assignments := c.assignments ++ headerBindings setting row header } ∧
        added.map (·.name) = promotions setting row header ∧
        ∀ a ∈ added, PromotedFrom db header.command a := by
  unfold withHeader at h
  obtain ⟨name, hname, h⟩ := except_bind_eq_ok.mp h
  split at h
  · rename_i hnone
    cases h
    exact .inl ⟨by rw [hname, hnone], rfl⟩
  · rename_i hsome
    cases hfind : state.headers.find? name with
    | none => simp [hfind] at h
    | some header =>
        simp only [hfind] at h
        obtain ⟨added, rfl, hnames, hfrom⟩ := foldlM_bindDiscriminator_eq_ok h
        exact .inr ⟨name, header, added, hname, hsome, hfind, rfl, hnames, hfrom⟩

/-- A service brings aliases, and the verifier of a connection test. -/
theorem withService_eq_ok (h : withService setting db row c = .ok c') :
    ∃ aliases verifiers, c' = { c with
        aliases := c.aliases ++ aliases
        verifiers := c.verifiers ++ verifiers } ∧
      ∀ v ∈ verifiers, connectionVerifier? db = some v := by
  unfold withService at h
  obtain ⟨service, _, h⟩ := except_bind_eq_ok.mp h
  obtain ⟨subservice, _, h⟩ := except_bind_eq_ok.mp h
  split at h
  · cases h
    refine ⟨_, _, rfl, fun v hv => ?_⟩
    split at hv
    · exact Option.mem_toList.mp hv
    · cases hv
  · cases h
    exact ⟨[], [], by simp, by simp⟩

/-! ## The definition of a command -/

/-- The command that a record begins with. -/
def begun (row : Row) (name : String) : Command :=
  { Command.named name with
    description := row.text? 1
    longDescription := row.text? 2
    critical := row.flagD 4 'N' == 'Y' || row.flagD 4 'N' == 'y' }

/-- The draft where a command has come last. -/
def withCommand (d : Draft CommandingState) (c : Command) : Draft CommandingState :=
  { d with database := { d.database with commands := d.database.commands.push c } }

/-- **How a command is defined**: its header takes up what the record begins with, then come its
elements, and last its service. Where one of them refuses it, no command comes. -/
theorem ends_defineCommand {d : Draft CommandingState}
    {Q : PUnit → Draft CommandingState → Prop} {E : Draft CommandingState → Prop} (hfails : E d)
    (hpassed : Q ⟨⟩ d)
    (hplaces : ∀ name c₀, row.text 0 = .ok name →
      withHeader setting d.database d.stage row (begun row name) = .ok c₀ →
      Ends (placeElements setting c₀ ((d.stage.elements.find? name).getD [])) d
        (fun c₁ t => E t ∧ ∀ c₂, withService setting t.database row c₁ = .ok c₂ →
          Q ⟨⟩ (withCommand t c₂)) E) :
    Ends (defineCommand setting row) d Q E := by
  unfold defineCommand
  refine Ends.bind (ends_lift (fun _ _ => ?_) hfails)
  refine Ends.bind (ends_lift (fun name hname => ?_) hfails)
  refine Ends.ite (fun _ => ?_) fun _ => hpassed
  refine Ends.bind (ends_stage (Ends.bind (ends_database ?_)))
  refine Ends.ite (fun _ => ends_throw hfails) fun _ => ?_
  refine Ends.bind (ends_lift (fun c₀ hheader => ?_) hfails)
  refine Ends.bind ((hplaces name c₀ hname hheader).mono (fun c₁ t _ ht => ?_) fun _ h => h)
  refine Ends.bind (ends_database (Ends.bind (ends_lift (fun c₂ hservice => ?_) ht.1)))
  refine Ends.bind (ends_add (fun r db hadd => ?_) ht.1)
  obtain ⟨-, heq⟩ := Database.addCommand_eq_ok.mp hadd
  cases heq
  exact ht.2 c₂ hservice

end MissionBase.Commanding
