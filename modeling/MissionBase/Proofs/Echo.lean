import MissionBase.Database.Echo
import MissionBase.Proofs.Coherence
import MissionBase.Proofs.Wiring

/-!
# What reports echo is the nearest match

The argument with the application identifier is looked for in a command, then in the header template
that it extends, and so on from base to base. The search (`EchoSearch`) has no bound of its own. It
ends because a command comes after its base, which every addition to a database keeps up; so the
place of a command bounds the commands that its search goes through (`BaseChain`).

What it comes to is the nearest match: the first command on the way with an entry that places the
identifier, and the first such entry there. An entry for an argument that its command does not
declare is no match, and does not end the search.
-/

namespace MissionBase

namespace Database

variable {db : Database} {r : CommandRef} {c : Command} {name : String}

/-! ## One command -/

/-- An entry places an argument where the application identifier belongs: at bit 5, with 11 bits.
The argument is the one that the command, or else its fixed set, declares under the name. -/
structure PlacesApid (db : Database) (c : Command) (e : CommandEntry) (name : String) : Prop where
  place : e.place = .start 5
  item : e.item = .argument name
  declared : ∃ a t encoding, c.argument? name = some a ∧ db.argumentTypes.get? a.type = some t ∧
    t.encoding = some encoding ∧ encoding.sizeInBits? = some 11

/-- The first entry of a command that places the application identifier places this argument. -/
def FirstApid (db : Database) (c : Command) (name : String) : Prop :=
  ∃ before e after, c.entries = before ++ e :: after ∧ db.PlacesApid c e name ∧
    ∀ b ∈ before, ∀ other, ¬ db.PlacesApid c b other

/-- No entry of a command places the application identifier. -/
def LacksApid (db : Database) (c : Command) : Prop :=
  ∀ e ∈ c.entries, ∀ name, ¬ db.PlacesApid c e name

/-- The argument with the application identifier in a command, whatever it extends. -/
def apidOfCommand? (db : Database) (c : Command) : Option String :=
  c.entries.findSome? (db.apidOfEntry? c)

theorem argumentHasSize_iff {size : Nat} :
    db.argumentHasSize c name size = true ↔
      ∃ a t encoding, c.argument? name = some a ∧ db.argumentTypes.get? a.type = some t ∧
        t.encoding = some encoding ∧ encoding.sizeInBits? = some size := by
  unfold argumentHasSize
  constructor
  · intro h
    split at h
    · rename_i t ht
      obtain ⟨a, ha, htype⟩ := Option.bind_eq_some_iff.mp ht
      obtain ⟨encoding, hencoding, hsize⟩ := Option.bind_eq_some_iff.mp (beq_iff_eq.mp h)
      exact ⟨a, t, encoding, ha, htype, hencoding, hsize⟩
    · cases h
  · rintro ⟨a, t, encoding, ha, htype, hencoding, hsize⟩
    rw [ha, Option.bind_some, htype]
    simp [hencoding, hsize]

/-- What is found at an entry is what the entry places. -/
theorem apidOfEntry?_eq_some_iff {e : CommandEntry} :
    db.apidOfEntry? c e = some name ↔ db.PlacesApid c e name := by
  unfold apidOfEntry?
  constructor
  · intro h
    split at h
    · rename_i bit argument hplace hitem
      split at h
      · rename_i hmatch
        obtain ⟨hbit, hsize⟩ := hmatch
        cases h
        exact ⟨hplace.trans (congrArg EntryPlace.start hbit), hitem, argumentHasSize_iff.mp hsize⟩
      · cases h
    · cases h
  · rintro ⟨hplace, hitem, hdeclared⟩
    rw [hplace, hitem]
    exact if_pos ⟨rfl, argumentHasSize_iff.mpr hdeclared⟩

theorem apidOfEntry?_eq_none_iff {e : CommandEntry} :
    db.apidOfEntry? c e = none ↔ ∀ name, ¬ db.PlacesApid c e name := by
  simp only [Option.eq_none_iff_forall_ne_some, ne_eq, apidOfEntry?_eq_some_iff]

theorem apidOfCommand?_eq_some_iff : db.apidOfCommand? c = some name ↔ db.FirstApid c name := by
  unfold apidOfCommand? FirstApid
  rw [List.findSome?_eq_some_iff]
  simp only [apidOfEntry?_eq_some_iff, apidOfEntry?_eq_none_iff]

theorem apidOfCommand?_eq_none_iff : db.apidOfCommand? c = none ↔ db.LacksApid c := by
  unfold apidOfCommand? LacksApid
  rw [List.findSome?_eq_none_iff]
  simp only [apidOfEntry?_eq_none_iff]

/-! ## From base to base -/

/-- The commands from a command on, each extending the one after it, to one that extends none. -/
inductive BaseChain (db : Database) : CommandRef → List Command → Prop
  | ends {r : CommandRef} {c : Command} (hc : db.commands.get? r = some c) (hbase : c.base = none) :
      BaseChain db r [c]
  | goesOn {r base : CommandRef} {c : Command} {cs : List Command}
      (hc : db.commands.get? r = some c) (hbase : c.base = some base)
      (rest : BaseChain db base cs) : BaseChain db r (c :: cs)

/-- The search without a bound: it looks at a command, and where that does not place the application
identifier it goes on with the base, if there is one. It ends after so many commands. -/
inductive EchoSearch (db : Database) : CommandRef → Nat → Option String → Prop
  | found {r : CommandRef} {c : Command} {name : String} (hc : db.commands.get? r = some c)
      (hname : db.apidOfCommand? c = some name) : EchoSearch db r 1 (some name)
  | ends {r : CommandRef} {c : Command} (hc : db.commands.get? r = some c)
      (hnone : db.apidOfCommand? c = none) (hbase : c.base = none) : EchoSearch db r 1 none
  | goesOn {r base : CommandRef} {c : Command} {turns : Nat} {answer : Option String}
      (hc : db.commands.get? r = some c) (hnone : db.apidOfCommand? c = none)
      (hbase : c.base = some base) (rest : EchoSearch db base turns answer) :
      EchoSearch db r (turns + 1) answer

theorem apidArgument?_succ (hc : db.commands.get? r = some c) (fuel : Nat) :
    db.apidArgument? (fuel + 1) r =
      (db.apidOfCommand? c).or (c.base.bind fun base => db.apidArgument? fuel base) := by
  unfold apidOfCommand?
  rw [apidArgument?, hc]
  dsimp only
  cases c.entries.findSome? (db.apidOfEntry? c) with
  | some name => rfl
  | none => cases c.base <;> rfl

/-- **A command has a chain, and its place bounds it**, where commands come after their bases: from
base to base the places go down. -/
theorem exists_baseChain (h : db.commands.Descends (·.base.toList)) (r : CommandRef)
    (hr : r.index < db.commands.size) : ∃ cs, db.BaseChain r cs ∧ cs.length ≤ r.index + 1 := by
  obtain ⟨c, hc⟩ := Option.isSome_iff_exists.mp ((Catalog.get?_isSome_iff _ r).mpr hr)
  cases hbase : c.base with
  | none => exact ⟨[c], .ends hc hbase, Nat.le_add_left 1 _⟩
  | some base =>
      have hlt : base.index < r.index := h r c hc base (by simp [hbase])
      obtain ⟨cs, hchain, hlength⟩ := exists_baseChain h base (Nat.lt_trans hlt hr)
      refine ⟨c :: cs, .goesOn hc hbase hchain, ?_⟩
      rw [List.length_cons]
      omega
termination_by r.index

/-- **The search ends** on a chain, with the first match of the commands there. -/
theorem BaseChain.echoSearch {cs : List Command} (h : db.BaseChain r cs) :
    ∃ turns ≤ cs.length, db.EchoSearch r turns (cs.findSome? db.apidOfCommand?) := by
  induction h with
  | @ends r c hc hbase =>
      refine ⟨1, Nat.le_refl 1, ?_⟩
      rw [List.findSome?_singleton]
      cases hname : db.apidOfCommand? c with
      | some name => exact .found hc hname
      | none => exact .ends hc hname hbase
  | @goesOn r base c cs hc hbase _ ih =>
      obtain ⟨turns, hturns, hsearch⟩ := ih
      rw [List.findSome?_cons]
      -- a match ends the search before the chain does
      cases hname : db.apidOfCommand? c with
      | some name => exact ⟨1, Nat.succ_le_succ (Nat.zero_le _), .found hc hname⟩
      | none => exact ⟨turns + 1, Nat.succ_le_succ hturns, .goesOn hc hname hbase hsearch⟩

/-- **A bound on the commands does not matter** unless the search needs more of them. -/
theorem EchoSearch.apidArgument?_eq {turns fuel : Nat} {answer : Option String}
    (h : db.EchoSearch r turns answer) (hfuel : turns ≤ fuel) :
    db.apidArgument? fuel r = answer := by
  obtain ⟨more, rfl⟩ := Nat.exists_eq_add_of_le' hfuel
  clear hfuel
  -- every turn of the search takes one from the bound
  induction h with
  | found hc hname => rw [apidArgument?_succ hc, hname, Option.some_or]
  | ends hc hnone hbase =>
      rw [apidArgument?_succ hc, hnone, hbase]
      rfl
  | goesOn hc hnone hbase _ ih =>
      rw [← Nat.add_assoc, apidArgument?_succ hc, hnone, hbase]
      exact ih

/-- **What is echoed is the first match on the chain**, and what the search without a bound ends
with. -/
theorem commandEcho_of_descends (h : db.commands.Descends (·.base.toList))
    (hr : r.index < db.commands.size) :
    ∃ cs, db.BaseChain r cs ∧
      (∃ turns ≤ cs.length, db.EchoSearch r turns (db.commandEcho r).apidArgument) ∧
      (db.commandEcho r).apidArgument = cs.findSome? db.apidOfCommand? := by
  obtain ⟨cs, hchain, hlength⟩ := exists_baseChain h r hr
  obtain ⟨turns, hturns, hsearch⟩ := hchain.echoSearch
  have hecho : (db.commandEcho r).apidArgument = cs.findSome? db.apidOfCommand? :=
    hsearch.apidArgument?_eq (Nat.le_trans hturns hlength)
  refine ⟨cs, hchain, ⟨turns, hturns, ?_⟩, hecho⟩
  rw [hecho]
  exact hsearch

/-! ## Any additions -/

/-- A command that is asked for extends none, or one that is there. -/
def BaseKnown (db : Database) : Request → Prop
  | .command c => ∀ base, c.base = some base → base.index < db.commands.size
  | _ => True

/-- Whenever a command is asked for, its base is an earlier one. -/
def BasesEarlier : Database → List Request → Prop
  | _, [] => True
  | db, q :: rest => db.BaseKnown q ∧ (db.serve q).2.BasesEarlier rest

/-- **An addition keeps commands after their bases.** -/
theorem descends_serve (h : db.commands.Descends (·.base.toList)) {q : Request}
    (hq : db.BaseKnown q) : (db.serve q).2.commands.Descends (·.base.toList) := by
  rcases serve_cases db q with ⟨d, -, heq⟩ | haccepts
  · rw [heq]
    exact h
  · generalize (db.serve q).1 = reply at haccepts
    generalize (db.serve q).2 = db' at haccepts
    cases haccepts with
    | parameterType _ | parameter _ | aliasFor | container _ | argumentType _ _ | algorithm _ =>
        exact h
    | command _ => exact h.push fun base hbase => hq base (Option.mem_toList.mp hbase)

/-- **Additions keep commands after their bases**, one after the other. -/
theorem descends_after {requests : List Request} (h : db.commands.Descends (·.base.toList))
    (hbases : db.BasesEarlier requests) :
    (db.after requests).commands.Descends (·.base.toList) := by
  induction requests generalizing db with
  | nil => exact h
  | cons q rest ih => exact ih (descends_serve h hbases.1) hbases.2

/-- **The echo of a command is the nearest match.** Whatever is added to a new database, in whatever
order, with every command after its base: from any command there is a chain of bases, the search
without a bound ends on it, and the argument that it comes to is that of the first entry, in the
first command of the chain with such an entry, that places the application identifier. It comes to
none exactly if no command of the chain has one. -/
theorem commandEcho_nearest {name : String} {requests : List Request}
    (hbases : ({ name := name } : Database).BasesEarlier requests) {r : CommandRef}
    (hr : r.index < (({ name := name } : Database).after requests).commands.size) :
    let db := ({ name := name } : Database).after requests
    ∃ cs, db.BaseChain r cs ∧
      (∃ turns ≤ cs.length, db.EchoSearch r turns (db.commandEcho r).apidArgument) ∧
      (∀ apid, (db.commandEcho r).apidArgument = some apid ↔
        ∃ before c after, cs = before ++ c :: after ∧ db.FirstApid c apid ∧
          ∀ b ∈ before, db.LacksApid b) ∧
      ((db.commandEcho r).apidArgument = none ↔ ∀ c ∈ cs, db.LacksApid c) := by
  intro db
  have hnew : ({ name := name } : Database).commands.Descends (·.base.toList) :=
    fun r c hc => absurd (Catalog.lt_size_of_get? hc) (Nat.not_lt_zero _)
  obtain ⟨cs, hchain, hsearch, hecho⟩ := commandEcho_of_descends (descends_after hnew hbases) hr
  refine ⟨cs, hchain, hsearch, fun apid => ?_, ?_⟩
  · rw [hecho, List.findSome?_eq_some_iff]
    simp only [apidOfCommand?_eq_some_iff, apidOfCommand?_eq_none_iff, db]
  · rw [hecho, List.findSome?_eq_none_iff]
    simp only [apidOfCommand?_eq_none_iff, db]

/-- A header with an entry at bit 5 for an argument that it does not declare, and then one for the
identifier, in its fixed set; and a command that extends it, with eight bits of its own at bit 5. -/
def headerAndCommand : List Request :=
  [.argumentType
      { name := "U11", value := .integer false 32, encoding := some (.unsignedInteger 11) },
    .argumentType
      { name := "U8", value := .integer false 32, encoding := some (.unsignedInteger 8) },
    .command
      { Command.named "HEADER" with
        fixedArguments := some { name := "SET", arguments := [{ name := "APID", type := ⟨0⟩ }] }
        entries := [⟨.start 5, .argument "MISSING"⟩, ⟨.start 5, .argument "APID"⟩] },
    .command
      { Command.named "COMMAND" with
        base := some ⟨0⟩
        arguments := [{ name := "MODE", type := ⟨1⟩ }]
        entries := [⟨.start 5, .argument "MODE"⟩] }]

/-- The command echoes the identifier of its header. -/
theorem headerAndCommand_echo :
    let new : Database := { name := "M" }
    let db := new.after headerAndCommand
    new.BasesEarlier headerAndCommand ∧ 1 < db.commands.size ∧
      (db.commandEcho ⟨1⟩).apidArgument = some "APID" ∧
      ∃ cs before c after, db.BaseChain ⟨1⟩ cs ∧ cs = before ++ c :: after ∧
        db.FirstApid c "APID" ∧ ∀ b ∈ before, db.LacksApid b := by
  intro new db
  have hbases : new.BasesEarlier headerAndCommand := by
    refine ⟨trivial, trivial, ?_, ?_, trivial⟩
    · intro base hbase
      cases hbase
    · intro base hbase
      cases hbase
      decide +kernel
  have hplace : 1 < db.commands.size := by decide +kernel
  have hecho : (db.commandEcho ⟨1⟩).apidArgument = some "APID" := by decide +kernel
  obtain ⟨cs, hchain, -, hsome, -⟩ := commandEcho_nearest hbases (r := ⟨1⟩) hplace
  obtain ⟨before, c, after, hcs, hfirst, hlacks⟩ := (hsome "APID").mp hecho
  exact ⟨hbases, hplace, hecho, cs, before, c, after, hchain, hcs, hfirst, hlacks⟩

end Database

end MissionBase
