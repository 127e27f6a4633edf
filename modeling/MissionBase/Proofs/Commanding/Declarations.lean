import MissionBase.Commanding.Elements
import MissionBase.Proofs.Names

/-!
# What a command says of a name

A command declares arguments, in its own list and in its fixed set, and binds values to names, in
the same two places. Everything it says of one name is in four short lists. Placing an element
changes these lists for one name only, a name that the command has not declared before; so what
has been said of a name that is declared stays said.

A counter that is bound to one is the only name whose lists change later, and it changes right
after it is declared.
-/

namespace MissionBase

namespace Command

/-- The arguments of the fixed set. -/
def fixedDeclarations (c : Command) : List Argument := (c.fixedArguments.map (·.arguments)).getD []

/-- The assignments of the fixed set. -/
def fixedAssignments (c : Command) : List Assignment :=
  (c.fixedArguments.map (·.assignments)).getD []

/-- The arguments of a name among the editable ones. -/
def editable (c : Command) (n : String) : List Argument := c.arguments.filter fun a => a.name == n

/-- The arguments of a name in the fixed set. -/
def fixed (c : Command) (n : String) : List Argument :=
  c.fixedDeclarations.filter fun a => a.name == n

/-- The values bound to a name, outside of the fixed set. -/
def bound (c : Command) (n : String) : List Assignment :=
  c.assignments.filter fun a => a.argument == n

/-- The values bound to a name in the fixed set. -/
def boundFixed (c : Command) (n : String) : List Assignment :=
  c.fixedAssignments.filter fun a => a.argument == n

/-- A name is declared if one of the two lists of arguments has it. -/
theorem hasArgument_iff {c : Command} {n : String} :
    c.hasArgument n = true ↔ c.editable n ≠ [] ∨ c.fixed n ≠ [] := by
  unfold hasArgument argument? editable fixed
  rw [List.find?_isSome]
  simp only [allArguments, fixedDeclarations, List.mem_append, ne_eq, List.filter_eq_nil_iff]
  constructor
  · rintro ⟨a, ha | ha, hn⟩
    · exact .inl fun h => h a ha hn
    · exact .inr fun h => h a ha hn
  · rintro (h | h)
    · obtain ⟨a, ha⟩ := Classical.not_forall.mp h
      obtain ⟨hmem, hn⟩ := Classical.not_imp.mp ha
      exact ⟨a, .inl hmem, Classical.not_not.mp hn⟩
    · obtain ⟨a, ha⟩ := Classical.not_forall.mp h
      obtain ⟨hmem, hn⟩ := Classical.not_imp.mp ha
      exact ⟨a, .inr hmem, Classical.not_not.mp hn⟩

theorem hasArgument_eq_false_iff {c : Command} {n : String} :
    c.hasArgument n = false ↔ c.editable n = [] ∧ c.fixed n = [] := by
  rw [← Bool.not_eq_true, hasArgument_iff, not_or, not_not, not_not]

/-- The argument of a name is the first one that is declared under it. -/
theorem argument?_eq_head? (c : Command) (n : String) :
    c.argument? n = (c.editable n ++ c.fixed n).head? := by
  unfold argument? editable fixed
  rw [← List.filter_append, List.head?_filter]
  rfl

/-- Two commands say the same of a name. -/
structure SameAt (n : String) (c c' : Command) : Prop where
  editable : c'.editable n = c.editable n
  fixed : c'.fixed n = c.fixed n
  bound : c'.bound n = c.bound n
  boundFixed : c'.boundFixed n = c.boundFixed n

/-- A command that says more, but the same of every name that was declared. -/
def Extends (c c' : Command) : Prop := ∀ n, c.hasArgument n = true → SameAt n c c'

theorem SameAt.trans {n : String} {c c' c'' : Command} (h : SameAt n c c')
    (h' : SameAt n c' c'') : SameAt n c c'' :=
  ⟨h'.editable.trans h.editable, h'.fixed.trans h.fixed, h'.bound.trans h.bound,
    h'.boundFixed.trans h.boundFixed⟩

theorem SameAt.hasArgument {n : String} {c c' : Command} (h : SameAt n c c')
    (hn : c.hasArgument n = true) : c'.hasArgument n = true := by
  rw [hasArgument_iff, h.editable, h.fixed]
  exact hasArgument_iff.mp hn

theorem Extends.trans {c c' c'' : Command} (h : Extends c c') (h' : Extends c' c'') :
    Extends c c'' :=
  fun n hn => (h n hn).trans (h' n ((h n hn).hasArgument hn))

/-- The fixed set binds only what the command declares. -/
def BindsOwn (c : Command) : Prop := ∀ n, c.boundFixed n ≠ [] → c.hasArgument n = true

/-- A command without a fixed set binds nothing there. -/
theorem bindsOwn_of_none {c : Command} (h : c.fixedArguments = none) : BindsOwn c := by
  intro n hn
  refine absurd ?_ hn
  unfold boundFixed fixedAssignments
  rw [h]
  rfl

theorem BindsOwn.boundFixed_eq_nil {c : Command} (h : BindsOwn c) {n : String}
    (hn : c.hasArgument n = false) : c.boundFixed n = [] := by
  by_contra hne
  rw [h n hne] at hn
  cases hn

end Command

namespace Commanding

open Command

variable {c : Command}

/-! ## Free names -/

/-- **A free name is not declared**, whatever the command declares. -/
theorem freeName_free (c : Command) (base : String) :
    c.hasArgument (freeName c base) = false := by
  unfold freeName
  split
  · refine @firstFree_free _ (c.allArguments.map (·.name)) (fun n hn => ?_) base _ ?_
    · obtain ⟨a, ha, hname⟩ := List.find?_isSome.mp hn
      exact List.mem_map.mpr ⟨a, ha, beq_iff_eq.mp hname⟩
    · rw [List.length_map]
      exact Nat.lt_succ_self _
  · rename_i h
    exact Bool.eq_false_iff.mpr h

/-! ## More arguments -/

/-- An argument in the list of editable ones, declared nowhere else, with no value in the fixed
set. -/
structure DeclaredEditable (c : Command) (a : Argument) : Prop where
  editable : c.editable a.name = [a]
  fixed : c.fixed a.name = []
  boundFixed : c.boundFixed a.name = []

/-- An argument in the fixed set, declared nowhere else, with one value bound to it there. -/
structure DeclaredFixed (c : Command) (a : Argument) (value : String) : Prop where
  editable : c.editable a.name = []
  fixed : c.fixed a.name = [a]
  boundFixed : c.boundFixed a.name = [⟨a.name, value⟩]

theorem DeclaredEditable.hasArgument {a : Argument} (h : DeclaredEditable c a) :
    c.hasArgument a.name = true := by
  rw [hasArgument_iff, h.editable]
  exact .inl (List.cons_ne_nil _ _)

theorem DeclaredFixed.hasArgument {a : Argument} {value : String}
    (h : DeclaredFixed c a value) : c.hasArgument a.name = true := by
  rw [hasArgument_iff, h.fixed]
  exact .inr (List.cons_ne_nil _ _)

theorem DeclaredEditable.argument? {a : Argument} (h : DeclaredEditable c a) :
    c.argument? a.name = some a := by
  rw [argument?_eq_head?, h.editable]
  rfl

theorem DeclaredFixed.argument? {a : Argument} {value : String} (h : DeclaredFixed c a value) :
    c.argument? a.name = some a := by
  rw [argument?_eq_head?, h.editable, h.fixed]
  rfl

theorem DeclaredEditable.extends {c' : Command} {a : Argument} (h : DeclaredEditable c a)
    (hc : Extends c c') : DeclaredEditable c' a := by
  have hsame := hc a.name h.hasArgument
  exact ⟨hsame.editable.trans h.editable, hsame.fixed.trans h.fixed,
    hsame.boundFixed.trans h.boundFixed⟩

theorem DeclaredFixed.extends {c' : Command} {a : Argument} {value : String}
    (h : DeclaredFixed c a value) (hc : Extends c c') : DeclaredFixed c' a value := by
  have hsame := hc a.name h.hasArgument
  exact ⟨hsame.editable.trans h.editable, hsame.fixed.trans h.fixed,
    hsame.boundFixed.trans h.boundFixed⟩

theorem extends_withItem (c : Command) (item : CommandItem) : Extends c (withItem c item) :=
  fun _ _ => ⟨rfl, rfl, rfl, rfl⟩

theorem editable_withArgument (c : Command) (a : Argument) (n : String) :
    (withArgument c a).editable n = c.editable n ++ if a.name == n then [a] else [] := by
  show (c.arguments ++ [a]).filter _ = _
  rw [List.filter_append, List.filter_singleton, Bool.cond_eq_ite]
  rfl

/-- A free name is not that of anything declared. -/
theorem ne_of_free {a : Argument} {n : String} (ha : c.hasArgument a.name = false)
    (hn : c.hasArgument n = true) : ¬ (a.name == n) = true := by
  intro h
  rw [beq_iff_eq.mp h, hn] at ha
  cases ha

theorem extends_withArgument {a : Argument} (ha : c.hasArgument a.name = false) :
    Extends c (withArgument c a) := by
  intro n hn
  refine ⟨?_, rfl, rfl, rfl⟩
  rw [editable_withArgument, if_neg (ne_of_free ha hn), List.append_nil]

/-- **A new argument is declared once.** -/
theorem declared_withArgument {a : Argument} (h : BindsOwn c)
    (ha : c.hasArgument a.name = false) : DeclaredEditable (withArgument c a) a := by
  obtain ⟨heditable, hfixed⟩ := hasArgument_eq_false_iff.mp ha
  refine ⟨?_, hfixed, h.boundFixed_eq_nil ha⟩
  rw [editable_withArgument, heditable, beq_self_eq_true, if_pos rfl]
  rfl

theorem bindsOwn_withArgument {a : Argument} (h : BindsOwn c)
    (ha : c.hasArgument a.name = false) : BindsOwn (withArgument c a) :=
  fun n hn => (extends_withArgument ha n (h n hn)).hasArgument (h n hn)

theorem fixedDeclarations_withFixed (c : Command) (a : Argument) (value : String) :
    (withFixed c a value).fixedDeclarations = c.fixedDeclarations ++ [a] := by
  unfold withFixed fixedDeclarations withItem
  cases c.fixedArguments <;> rfl

theorem fixedAssignments_withFixed (c : Command) (a : Argument) (value : String) :
    (withFixed c a value).fixedAssignments = c.fixedAssignments ++ [⟨a.name, value⟩] := by
  unfold withFixed fixedAssignments withItem
  cases c.fixedArguments <;> rfl

theorem fixed_withFixed (c : Command) (a : Argument) (value n : String) :
    (withFixed c a value).fixed n = c.fixed n ++ if a.name == n then [a] else [] := by
  unfold Command.fixed
  rw [fixedDeclarations_withFixed, List.filter_append, List.filter_singleton, Bool.cond_eq_ite]

theorem boundFixed_withFixed (c : Command) (a : Argument) (value n : String) :
    (withFixed c a value).boundFixed n =
      c.boundFixed n ++ if a.name == n then [⟨a.name, value⟩] else [] := by
  unfold boundFixed
  rw [fixedAssignments_withFixed, List.filter_append, List.filter_singleton, Bool.cond_eq_ite]

theorem extends_withFixed {a : Argument} (ha : c.hasArgument a.name = false) (value : String) :
    Extends c (withFixed c a value) := by
  intro n hn
  have hne := ne_of_free ha hn
  refine ⟨rfl, ?_, rfl, ?_⟩
  · rw [fixed_withFixed, if_neg hne, List.append_nil]
  · rw [boundFixed_withFixed, if_neg hne, List.append_nil]

/-- **A new fixed argument is declared once and bound once.** -/
theorem declared_withFixed {a : Argument} (h : BindsOwn c) (ha : c.hasArgument a.name = false)
    (value : String) : DeclaredFixed (withFixed c a value) a value := by
  obtain ⟨heditable, hfixed⟩ := hasArgument_eq_false_iff.mp ha
  refine ⟨heditable, ?_, ?_⟩
  · rw [fixed_withFixed, hfixed, beq_self_eq_true, if_pos rfl]
    rfl
  · rw [boundFixed_withFixed, h.boundFixed_eq_nil ha, beq_self_eq_true, if_pos rfl]
    rfl

theorem bindsOwn_withFixed {a : Argument} (h : BindsOwn c) (ha : c.hasArgument a.name = false)
    (value : String) : BindsOwn (withFixed c a value) := by
  intro n hn
  by_cases hname : a.name = n
  · rw [← hname]
    exact (declared_withFixed h ha value).hasArgument
  · have hne : ¬ (a.name == n) = true := fun h => hname (beq_iff_eq.mp h)
    rw [boundFixed_withFixed, if_neg hne, List.append_nil] at hn
    exact (extends_withFixed ha value n (h n hn)).hasArgument (h n hn)

/-! ## Counters bound to one -/

/-- A change of a value shows at its name and at no other. -/
theorem filter_rebound? {name value : String} :
    ∀ {as as' : List Assignment}, rebound? name value as = some as' →
      (∀ n, n ≠ name → as'.filter (·.argument == n) = as.filter (·.argument == n)) ∧
      as'.filter (·.argument == name) = ⟨name, value⟩ :: (as.filter (·.argument == name)).tail
  | [], _, h => by cases h
  | a :: rest, as', h => by
      unfold rebound? at h
      by_cases ha : a.argument = name
      · rw [if_pos ha] at h
        cases h
        refine ⟨fun n hn => ?_, ?_⟩
        · simp [ha, hn.symm]
        · simp [ha]
      · rw [if_neg ha] at h
        obtain ⟨rest', hrest, rfl⟩ := Option.map_eq_some_iff.mp h
        obtain ⟨hother, hself⟩ := filter_rebound? hrest
        refine ⟨fun n hn => ?_, ?_⟩
        · simp only [List.filter_cons, hother n hn]
        · simp only [List.filter_cons, beq_iff_eq, if_neg ha, hself]

theorem rebound?_eq_none_iff {name value : String} {as : List Assignment} :
    rebound? name value as = none ↔ as.filter (·.argument == name) = [] := by
  induction as with
  | nil => simp [rebound?]
  | cons a rest ih =>
      by_cases ha : a.argument = name
      · simp [rebound?, ha]
      · simp [rebound?, ha, ih]

/-- A fixed set in which the value of a name is changed has one. -/
theorem boundFixed_ne_nil {name value : String} {set : FixedArguments} {as : List Assignment}
    (hset : c.fixedArguments = some set) (has : rebound? name value set.assignments = some as) :
    c.boundFixed name ≠ [] := by
  unfold boundFixed fixedAssignments
  rw [hset]
  intro hnil
  have hnone := (@rebound?_eq_none_iff name value set.assignments).mpr hnil
  rw [hnone] at has
  cases has

/-- No value of a name can be changed in the fixed set exactly if it has none. -/
theorem reboundFixed_eq_none_iff {name value : String} :
    (c.fixedArguments.bind fun set =>
      (rebound? name value set.assignments).map fun as => { set with assignments := as }) = none ↔
      c.boundFixed name = [] := by
  unfold boundFixed fixedAssignments
  cases c.fixedArguments with
  | none => exact iff_of_true rfl rfl
  | some set =>
      rw [Option.bind_some, Option.map_eq_none_iff]
      exact rebound?_eq_none_iff

/-- **What binding a counter to one does**: it changes the value in the fixed set if there is one,
and otherwise the first value outside, or a new one. -/
theorem fixCount_cases (c : Command) (counter : String) :
    (∃ set as, c.fixedArguments = some set ∧ rebound? counter "1" set.assignments = some as ∧
      fixCount c counter = { c with fixedArguments := some { set with assignments := as } }) ∨
    (c.boundFixed counter = [] ∧ ∃ as, fixCount c counter = { c with assignments := as } ∧
      (∀ n, n ≠ counter → as.filter (·.argument == n) = c.bound n) ∧
      (as.filter (·.argument == counter)).head? = some ⟨counter, "1"⟩) := by
  cases hset : c.fixedArguments.bind fun set =>
      (rebound? counter "1" set.assignments).map fun as => { set with assignments := as } with
  | some set' =>
      obtain ⟨set, hfixed, hmap⟩ := Option.bind_eq_some_iff.mp hset
      obtain ⟨as, has, rfl⟩ := Option.map_eq_some_iff.mp hmap
      refine .inl ⟨set, as, hfixed, has, ?_⟩
      unfold fixCount
      rw [hset]
  | none =>
      refine .inr ⟨reboundFixed_eq_none_iff.mp hset, ?_⟩
      unfold fixCount
      rw [hset]
      cases has : rebound? counter "1" c.assignments with
      | some as =>
          obtain ⟨hother, hself⟩ := filter_rebound? has
          exact ⟨as, rfl, hother, by rw [hself]; rfl⟩
      | none =>
          have hnone := rebound?_eq_none_iff.mp has
          refine ⟨_, rfl, fun n hn => ?_, ?_⟩
          · rw [List.filter_append, List.filter_cons_of_neg (by simpa using hn.symm)]
            exact List.append_nil _
          · rw [List.filter_append, hnone, List.nil_append]
            simp

theorem fixCount_entries (c : Command) (counter : String) :
    (fixCount c counter).entries = c.entries := by
  rcases fixCount_cases c counter with ⟨set, as, _, _, heq⟩ | ⟨_, as, heq, _⟩ <;> rw [heq]

theorem fixCount_name (c : Command) (counter : String) :
    (fixCount c counter).name = c.name := by
  rcases fixCount_cases c counter with ⟨set, as, _, _, heq⟩ | ⟨_, as, heq, _⟩ <;> rw [heq]

/-- The declarations stay what they were. -/
theorem fixCount_declared (c : Command) (counter n : String) :
    (fixCount c counter).editable n = c.editable n ∧ (fixCount c counter).fixed n = c.fixed n := by
  rcases fixCount_cases c counter with ⟨set, as, hset, _, heq⟩ | ⟨_, as, heq, _⟩
  · rw [heq]
    refine ⟨rfl, ?_⟩
    unfold Command.fixed fixedDeclarations
    rw [hset]
    rfl
  · rw [heq]
    exact ⟨rfl, rfl⟩

theorem fixCount_sameAt {counter n : String} (hn : n ≠ counter) :
    SameAt n c (fixCount c counter) := by
  obtain ⟨heditable, hfixed⟩ := fixCount_declared c counter n
  refine ⟨heditable, hfixed, ?_, ?_⟩
  · rcases fixCount_cases c counter with ⟨set, as, _, _, heq⟩ | ⟨_, as, heq, hother, _⟩
    · rw [heq]; rfl
    · rw [heq]; exact hother n hn
  · rcases fixCount_cases c counter with ⟨set, as, hset, has, heq⟩ | ⟨_, as, heq, _⟩
    · rw [heq]
      unfold boundFixed fixedAssignments
      rw [hset]
      exact (filter_rebound? has).1 n hn
    · rw [heq]; rfl

/-- **A fixed counter has the value one, and no other.** -/
theorem DeclaredFixed.fixCount {a : Argument} {value : String} (h : DeclaredFixed c a value) :
    DeclaredFixed (fixCount c a.name) a "1" := by
  obtain ⟨heditable, hfixed⟩ := fixCount_declared c a.name a.name
  refine ⟨heditable.trans h.editable, hfixed.trans h.fixed, ?_⟩
  rcases fixCount_cases c a.name with ⟨set, as, hset, has, heq⟩ | ⟨hnil, _⟩
  · -- the one value in the fixed set is the one that changes
    have hbound := h.boundFixed
    unfold Command.boundFixed fixedAssignments at hbound ⊢
    rw [hset] at hbound
    rw [heq]
    show as.filter _ = _
    rw [(filter_rebound? has).2]
    show _ :: (set.assignments.filter _).tail = _
    have hset' : set.assignments.filter (·.argument == a.name) = [⟨a.name, value⟩] := hbound
    rw [hset']
    rfl
  · exact absurd (hnil.symm.trans h.boundFixed) (by simp)

/-- **An editable counter is bound to one**, and declared as before. -/
theorem DeclaredEditable.fixCount {a : Argument} (h : DeclaredEditable c a) :
    DeclaredEditable (fixCount c a.name) a ∧
      ((fixCount c a.name).bound a.name).head? = some ⟨a.name, "1"⟩ := by
  obtain ⟨heditable, hfixed⟩ := fixCount_declared c a.name a.name
  rcases fixCount_cases c a.name with ⟨set, as, hset, has, _⟩ | ⟨_, as, heq, _, hself⟩
  · -- the fixed set has no value of an editable argument
    exact absurd h.boundFixed (boundFixed_ne_nil hset has)
  · refine ⟨⟨heditable.trans h.editable, hfixed.trans h.fixed, ?_⟩, by rw [heq]; exact hself⟩
    rw [heq]
    exact h.boundFixed

theorem bindsOwn_fixCount {counter : String} (h : BindsOwn c) :
    BindsOwn (fixCount c counter) := by
  intro n hn
  obtain ⟨heditable, hfixed⟩ := fixCount_declared c counter n
  rw [hasArgument_iff, heditable, hfixed, ← hasArgument_iff]
  refine h n fun hnil => hn ?_
  by_cases hname : n = counter
  · subst hname
    rcases fixCount_cases c n with ⟨set, as, hset, has, heq⟩ | ⟨_, as, heq, _⟩
    · exact absurd hnil (boundFixed_ne_nil hset has)
    · rw [heq]
      exact hnil
  · rw [(fixCount_sameAt hname).boundFixed]
    exact hnil

end Commanding

end MissionBase
