import MissionBase.Proofs.Coherence
import MissionBase.Proofs.Commanding.ArgumentNames

/-!
# The names that are searched for

Three searches come to a fresh name. A type of parameters that cannot have the name of its kind gets
the first of the names with a number. A type of arguments, and an argument of a command, keeps its
name where that is free, and gets the first of the names with a number where it is not.

None of the searches has a bound of its own, and each ends (`FoundFrom`), after at most one
candidate more than there are taken names and with the least number that there is. So none falls
back on a name that is taken: what is taken up under the name that was found is found under it, and
every other name finds what it found before.
-/

namespace MissionBase

/-! ## What a search comes to -/

/-- A name is a base with the least number, from one on, with which it is none of the names. -/
def LeastNumbered (names : List String) (base name : String) : Prop :=
  ∃ n, IsLeast {n | 1 ≤ n ∧ numbered base n ∉ names} n ∧ name = numbered base n

/-- A name is a base, or the base with the least number where the base is one of the names. -/
def BaseOrLeastNumbered (names : List String) (base name : String) : Prop :=
  if base ∈ names then LeastNumbered names base name else name = base

/-- A search without a bound, among the candidates of a base from a number on, ends with a name that
is none of the names, after at most one candidate more than there are names. -/
structure FoundFrom (start : Nat) (names : List String) (base name : String) : Prop where
  ends : ∃ tries ≤ names.toFinset.card + 1,
    FreshSearch (fun n => decide (n ∈ names)) base start tries name
  free : name ∉ names

section

variable {taken : String → Bool} {names : List String} {base name : String} {start tries : Nat}

/-- A search ends with what the names leave free, whichever way they are looked up. -/
theorem FreshSearch.foundFrom (htaken : ∀ name, taken name = true ↔ name ∈ names)
    (h : FreshSearch taken base start tries name) (htries : tries ≤ names.toFinset.card + 1) :
    FoundFrom start names base name := by
  have hdecide : taken = fun name => decide (name ∈ names) := by
    funext name
    rw [Bool.eq_iff_iff, htaken, decide_eq_true_iff]
  refine ⟨⟨tries, htries, ?_⟩, ?_⟩
  · rwa [hdecide] at h
  · rw [← htaken, h.free_name]
    exact Bool.false_ne_true

/-- A search for a number ends with the least one. -/
theorem FreshSearch.leastNumbered (htaken : ∀ name, taken name = true ↔ name ∈ names)
    (h : FreshSearch taken base 1 tries name) : LeastNumbered names base name := by
  have hfree (n : String) : taken n = false ↔ n ∉ names := by
    rw [← Bool.not_eq_true, htaken]
  obtain ⟨m, -, ⟨⟨hm, hmfree⟩, hleast⟩, rfl⟩ := h.isLeast
  rw [candidate_of_pos base hm] at hmfree ⊢
  refine ⟨m, ⟨⟨hm, (hfree _).mp hmfree⟩, ?_⟩, rfl⟩
  rintro n ⟨hn, hnfree⟩
  refine hleast ⟨hn, ?_⟩
  rw [candidate_of_pos base hn]
  exact (hfree _).mpr hnfree

/-- **The first name with a number**: the search ends with it, and the bound on the candidates is
not reached. -/
theorem firstFree_found (htaken : ∀ name, taken name = true ↔ name ∈ names) (base : String)
    {fuel : Nat} (hfuel : names.length < fuel) :
    FoundFrom 1 names base (firstFree taken base fuel 1) ∧
      LeastNumbered names base (firstFree taken base fuel 1) := by
  obtain ⟨tries, htries, name, hsearch⟩ := exists_freshSearch (fun n => (htaken n).mp) base 1
  rw [hsearch.firstFree_eq Nat.one_pos (tries_le_fuel htries hfuel)]
  exact ⟨hsearch.foundFrom htaken htries, hsearch.leastNumbered htaken⟩

/-- **The base, or the first name with a number** where the base is taken. The base is the first of
the candidates, and counts as one. -/
theorem baseOrFirstFree_found (htaken : ∀ name, taken name = true ↔ name ∈ names) (base : String)
    {fuel : Nat} (hfuel : names.length < fuel)
    (hname : (if taken base then firstFree taken base fuel 1 else base) = name) :
    FoundFrom 0 names base name ∧ BaseOrLeastNumbered names base name := by
  obtain ⟨tries, htries, found, hsearch⟩ := exists_freshSearch (fun n => (htaken n).mp) base 0
  have hfound := hsearch.foundFrom htaken htries
  unfold BaseOrLeastNumbered
  cases hsearch with
  | ends hfree =>
      have hbase : taken base = false := hfree
      rw [if_neg (Bool.eq_false_iff.mp hbase)] at hname
      subst hname
      have hnew : base ∉ names := hfound.free
      rw [if_neg hnew]
      exact ⟨hfound, rfl⟩
  | @goesOn _ tries _ hfirst rest =>
      have hbase : taken base = true := hfirst
      -- the base was one of the candidates, so the search for a number is left one less
      have hle : tries ≤ fuel := Nat.le_of_succ_le (tries_le_fuel htries hfuel)
      rw [if_pos hbase, rest.firstFree_eq Nat.one_pos hle] at hname
      subst hname
      rw [if_pos ((htaken base).mp hbase)]
      exact ⟨hfound, rest.leastNumbered htaken⟩

end

/-! ## The three searches -/

namespace Database

/-- The name for a type of parameters. -/
theorem uniqueTypeName_found (db : Database) (base : String) :
    FoundFrom 1 db.parameterTypes.names base (db.uniqueTypeName base) ∧
      LeastNumbered db.parameterTypes.names base (db.uniqueTypeName base) := by
  refine firstFree_found (fun _ => Catalog.mem_names_iff.symm) base ?_
  rw [Catalog.length_names]
  exact Nat.lt_succ_self _

/-- A type of parameters under the name that was found is accepted. -/
theorem addParameterType_uniqueTypeName (db : Database) (base : String) (t : ParameterType) :
    let named := { t with name := db.uniqueTypeName base }
    db.addParameterType named =
      .ok (db.parameterTypes.next,
        { db with parameterTypes := db.parameterTypes.push named }) := by
  have hfree := (db.uniqueTypeName_found base).1.free
  rw [Catalog.mem_names_iff, Bool.not_eq_true] at hfree
  exact addParameterType_eq_ok.mpr ⟨hfree, rfl⟩

/-- A type of arguments is taken up under the name that was found. -/
theorem addArgumentType_found (db : Database) (t : ArgumentType) :
    ∃ name, db.addArgumentType t =
        (db.argumentTypes.next,
          { db with argumentTypes := db.argumentTypes.push { t with name := name } }) ∧
      FoundFrom 0 db.argumentTypes.names t.name name ∧
      BaseOrLeastNumbered db.argumentTypes.names t.name name := by
  refine ⟨_, rfl, baseOrFirstFree_found (fun _ => Catalog.mem_names_iff.symm) t.name ?_ rfl⟩
  rw [Catalog.length_names]
  exact Nat.lt_succ_self _

end Database

namespace Commanding

/-- The name for an argument of a command. -/
theorem freeName_found (c : Command) (base : String) :
    FoundFrom 0 c.argumentNames base (freeName c base) ∧
      BaseOrLeastNumbered c.argumentNames base (freeName c base) := by
  have htaken (name : String) : c.hasArgument name = true ↔ name ∈ c.argumentNames := by
    rw [← Bool.not_eq_false, Command.hasArgument_eq_false_iff_notMem, not_not]
  refine baseOrFirstFree_found htaken base ?_ rfl
  rw [Command.argumentNames, List.length_map]
  exact Nat.lt_succ_self _

/-- A command that declares one argument more than another finds it under its name, and every other
name as before. -/
theorem argument?_of_declared {c c' : Command} {a : Argument}
    (hself : c'.editable a.name ++ c'.fixed a.name = [a])
    (hother : ∀ n, n ≠ a.name → c'.editable n ++ c'.fixed n = c.editable n ++ c.fixed n)
    (n : String) : c'.argument? n = if n = a.name then some a else c.argument? n := by
  rw [Command.argument?_eq_head?, Command.argument?_eq_head?]
  by_cases hn : n = a.name
  · rw [if_pos hn, hn, hself]
    rfl
  · rw [if_neg hn, hother n hn]

/-- An argument whose name was free is found under it. -/
theorem argument?_withArgument {c : Command} {a : Argument} (hfree : c.hasArgument a.name = false)
    (n : String) :
    (withArgument c a).argument? n = if n = a.name then some a else c.argument? n := by
  obtain ⟨heditable, hfixed⟩ := Command.hasArgument_eq_false_iff.mp hfree
  have hsame (n : String) : (withArgument c a).fixed n = c.fixed n := rfl
  refine argument?_of_declared ?_ (fun n hn => ?_) n
  · rw [editable_withArgument, hsame, heditable, hfixed, beq_self_eq_true, if_pos rfl]
    rfl
  · have hne : ¬ (a.name == n) = true := fun h => hn (beq_iff_eq.mp h).symm
    rw [editable_withArgument, hsame, if_neg hne, List.append_nil]

/-- The same of an argument that is bound to a value. -/
theorem argument?_withFixed {c : Command} {a : Argument} (hfree : c.hasArgument a.name = false)
    (value n : String) :
    (withFixed c a value).argument? n = if n = a.name then some a else c.argument? n := by
  obtain ⟨heditable, hfixed⟩ := Command.hasArgument_eq_false_iff.mp hfree
  have hsame (n : String) : (withFixed c a value).editable n = c.editable n := rfl
  refine argument?_of_declared ?_ (fun n hn => ?_) n
  · rw [fixed_withFixed, hsame, heditable, hfixed, beq_self_eq_true, if_pos rfl]
    rfl
  · have hne : ¬ (a.name == n) = true := fun h => hn (beq_iff_eq.mp h).symm
    rw [fixed_withFixed, hsame, if_neg hne, List.append_nil]

end Commanding

/-- **A search for a fresh name ends with the least number that there is**, after at most one
candidate more than there are taken names, whatever the database and the command hold. Its name is
not taken, and it is the bare base only where that is free. So a type of parameters is accepted
under it, and a type of arguments or an argument is found under it, while every other name finds
what it found before. -/
theorem freshNames_least (db : Database) (t : ArgumentType) (c : Command) (base : String) :
    (FoundFrom 1 db.parameterTypes.names base (db.uniqueTypeName base) ∧
      LeastNumbered db.parameterTypes.names base (db.uniqueTypeName base) ∧
      db.uniqueTypeName base ≠ base ∧
      ∀ p : ParameterType, let named := { p with name := db.uniqueTypeName base }
        db.addParameterType named =
          .ok (db.parameterTypes.next,
            { db with parameterTypes := db.parameterTypes.push named })) ∧
    (∃ name, db.addArgumentType t =
        (db.argumentTypes.next,
          { db with argumentTypes := db.argumentTypes.push { t with name := name } }) ∧
      FoundFrom 0 db.argumentTypes.names t.name name ∧
      BaseOrLeastNumbered db.argumentTypes.names t.name name ∧
      ∀ n, (db.addArgumentType t).2.argumentTypes.find? n =
        if n = name then some db.argumentTypes.next else db.argumentTypes.find? n) ∧
    FoundFrom 0 c.argumentNames base (Commanding.freeName c base) ∧
      BaseOrLeastNumbered c.argumentNames base (Commanding.freeName c base) ∧
      ∀ (a : Argument) (value n : String),
        let added := { a with name := Commanding.freeName c base }
        (Commanding.withArgument c added).argument? n =
            (if n = added.name then some added else c.argument? n) ∧
          (Commanding.withFixed c added value).argument? n =
            if n = added.name then some added else c.argument? n := by
  refine ⟨?_, ?_, ?_⟩
  · obtain ⟨hfound, hleast⟩ := db.uniqueTypeName_found base
    refine ⟨hfound, hleast, ?_, db.addParameterType_uniqueTypeName base⟩
    obtain ⟨n, -, hname⟩ := hleast
    rw [hname]
    exact numbered_ne base n
  · obtain ⟨name, hadd, hfound, hleast⟩ := db.addArgumentType_found t
    refine ⟨name, hadd, hfound, hleast, fun n => ?_⟩
    have hfree := hfound.free
    rw [Catalog.mem_names_iff, Bool.not_eq_true] at hfree
    rw [hadd]
    exact Catalog.find?_push_of_free hfree n
  · obtain ⟨hfound, hleast⟩ := Commanding.freeName_found c base
    have hfree := Commanding.freeName_free c base
    exact ⟨hfound, hleast, fun a value n =>
      ⟨Commanding.argument?_withArgument hfree n, Commanding.argument?_withFixed hfree value n⟩⟩

end MissionBase
