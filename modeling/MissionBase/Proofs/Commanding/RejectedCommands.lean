import MissionBase.Commanding.Commands
import MissionBase.Proofs.Coherence
import MissionBase.Proofs.Commanding.Blocks
import MissionBase.Proofs.Commanding.ElementSteps
import MissionBase.Proofs.Telemetry.SharedTypes

/-!
# What a rejected command leaves behind

A command is added when all of its elements have been placed, and an element whose argument needs a
type adds it at once. So a command that is rejected leaves the types that were made before it
failed, and nothing else (`LeavesTypes`).

Whether there are any is decided before the command is begun. Its elements are a list of tasks, each
of which is quiet, fails, or makes a type. What a quiet task reads it leaves alone, so the first
task that is not quiet is judged by the state that the command began with (`Judged`), and nothing is
left exactly if it does not make a type.
-/

namespace MissionBase.Commanding

open Run
open Telemetry (Noted)

variable {α β : Type} {setting : Setting} {d t : Draft CommandingState} {row : Row}

/-! ## Tasks and their verdicts -/

/-- What a task of a placement does, as long as none before it has made a type. -/
inductive Verdict where
  /-- It succeeds with what is there. -/
  | quiet
  | fails
  | makes
  deriving DecidableEq

namespace Verdict

/-- The first verdict that is not quiet counts. -/
def andThen : Verdict → Verdict → Verdict
  | .quiet, w => w
  | v, _ => v

/-- The verdict on a result that may be an error. -/
def of : Except Error α → Verdict
  | .ok _ => .quiet
  | .error _ => .fails

@[simp] theorem andThen_quiet (v : Verdict) : v.andThen .quiet = v := by cases v <;> rfl

theorem andThen_assoc (u v w : Verdict) : (u.andThen v).andThen w = u.andThen (v.andThen w) := by
  cases u <;> rfl

end Verdict

/-- The verdict on finding the type of an argument. -/
def typeVerdict (setting : Setting) (s : CommandingState) (p : CommandParameter) (tag : Int) :
    Verdict :=
  if p.category = 'P' then
    if p.ptc ≠ 3 then .fails
    else if (s.identifierTypes.find? p.pfc).isSome then .quiet
    else (Verdict.of (p.encoding tag)).andThen .makes
  else if (s.argumentTypes.find? (p.name, tag)).isSome then .quiet
  else (Verdict.of (p.buildType setting.epoch s.calibrations tag)).andThen .makes

/-- The verdict on the default value of an element. -/
def defaultVerdict (db : Database) (e : CommandElement) : Verdict :=
  if e.kind = .editable ∧ e.origin = .telemetry then .of (dynamicDefault db e) else .quiet

/-- The verdict on the argument of an element. -/
def argumentVerdict (setting : Setting) (db : Database) (s : CommandingState)
    (e : CommandElement) : Verdict :=
  match parameterOf s e with
  | .ok p => (typeVerdict setting s p e.sizeTagBytes).andThen (defaultVerdict db e)
  | .error _ => .fails

/-- What the elements of a command ask for, one after the other. -/
inductive Task where
  | area (e : CommandElement)
  /-- An argument of its own. -/
  | argument (e : CommandElement)
  /-- An argument that is a part of a group. -/
  | member (e : CommandElement)
  /-- The array of a group whose members have their types. -/
  | array
  /-- A group that cannot be placed. -/
  | refusal

/-- The tasks of the elements of a command, in their order. -/
def tasks : List CommandElement → List Task
  | [] => []
  | e :: rest =>
    if !e.isArgument then .area e :: tasks rest
    else .argument e ::
      if e.groupSize = 0 then tasks rest
      else if rest.length < e.groupSize then [.refusal]
      else if (rest.take e.groupSize).any fun m => 0 < m.groupSize then tasks rest
      else if (rest.take e.groupSize).all fun m => decide (m.kind = .editable) then
        (rest.take e.groupSize).map .member ++ .array :: tasks (rest.drop e.groupSize)
      else [.refusal]
  termination_by elements => elements.length
  decreasing_by all_goals simp only [List.length_cons, List.length_drop]; omega

/-- The verdict on a task. -/
def judge (setting : Setting) (db : Database) (s : CommandingState) : Task → Verdict
  | .area e => .of (areaOctets e)
  | .argument e => (argumentVerdict setting db s e).andThen
      (if e.kind = .fixed then .of (fixedValue s e) else .quiet)
  | .member e => argumentVerdict setting db s e
  | .array => .makes
  | .refusal => .fails

/-- The verdict on tasks: that on the first one that is not quiet. -/
def verdict (setting : Setting) (db : Database) (s : CommandingState) : List Task → Verdict
  | [] => .quiet
  | task :: rest => (judge setting db s task).andThen (verdict setting db s rest)

theorem verdict_append {db : Database} {s : CommandingState} (ts us : List Task) :
    verdict setting db s (ts ++ us) =
      (verdict setting db s ts).andThen (verdict setting db s us) := by
  induction ts with
  | nil => rfl
  | cons t ts ih => rw [List.cons_append, verdict, ih, verdict, Verdict.andThen_assoc]

/-! ## Runs and their verdicts -/

/-- A step after which there are more types of arguments. -/
def Makes (d t : Draft CommandingState) : Prop :=
  d.database.argumentTypes.size < t.database.argumentTypes.size

/-- A run does what a verdict says. -/
def Judged (d : Draft CommandingState) (x : CommandingBuild α) : Verdict → Prop
  | .quiet => Ends x d (fun _ => Noted d) fun _ => False
  | .fails => Ends x d (fun _ _ => False) (Noted d)
  | .makes => Ends x d (fun _ => Makes d) (Makes d)

/-- After a type that was made there is one more, whatever comes then. -/
theorem Judged.made {x : CommandingBuild α} {f : α → CommandingBuild β} (h : Judged d x .makes)
    (hleaves : ∀ a, Steps LeavesTypes (f a)) : Judged d (x >>= f) .makes := by
  refine Ends.bind (Ends.mono h (fun a t _ ht => ?_) fun _ h => h)
  have hmakes (u : Draft CommandingState) (hu : LeavesTypes t u) : Makes d u :=
    Nat.lt_of_lt_of_le ht hu.size_le
  exact (hleaves a t).mono (fun _ u _ => hmakes u) hmakes

/-- **A sequence does what its first part does, or what its second part does if the first is
quiet.** -/
theorem Judged.bind {x : CommandingBuild α} {f : α → CommandingBuild β} {v w : Verdict}
    (h : Judged d x v) (hleaves : ∀ a, Steps LeavesTypes (f a))
    (hf : ∀ a t, Noted d t → Judged t (f a) w) : Judged d (x >>= f) (v.andThen w) := by
  cases v with
  | quiet =>
      cases w with
      | quiet =>
          refine Ends.bind (Ends.mono h (fun a t _ ht => ?_) fun _ h => h)
          exact (hf a t ht).mono (fun _ _ _ hu => IsTrans.trans _ _ _ ht hu) fun _ h => h
      | fails =>
          refine Ends.bind (Ends.mono h (fun a t _ ht => ?_) fun _ h => h.elim)
          exact (hf a t ht).mono (fun _ _ _ h => h) fun _ hu => IsTrans.trans _ _ _ ht hu
      | makes =>
          refine Ends.bind (Ends.mono h (fun a t _ ht => ?_) fun _ h => h.elim)
          have hmakes (u : Draft CommandingState) (hu : Makes t u) : Makes d u := by
            unfold Makes at hu ⊢
            rwa [ht.database] at hu
          exact (hf a t ht).mono (fun _ u _ => hmakes u) hmakes
  | fails => exact Ends.bind (Ends.mono h (fun _ _ _ h => h.elim) fun _ h => h)
  | makes => exact h.made hleaves

theorem judged_pure (a : α) : Judged d (pure a : CommandingBuild α) .quiet :=
  (Std.Refl.refl d : Noted d d)

theorem judged_throw (e : Error) : Judged d (throw e : CommandingBuild α) .fails :=
  (Std.Refl.refl d : Noted d d)

theorem judged_lift (x : Except Error α) :
    Judged d (liftM x : CommandingBuild α) (.of x) := by
  cases x with
  | ok a => exact judged_pure a
  | error e => exact judged_throw e

theorem Judged.stage {f : CommandingState → CommandingBuild α} {v : Verdict}
    (h : Judged d (f d.stage) v) : Judged d (Build.stage >>= f) v := by
  cases v <;> exact h

theorem Judged.database {f : Database → CommandingBuild α} {v : Verdict}
    (h : Judged d (f d.database) v) : Judged d (Build.database >>= f) v := by
  cases v <;> exact h

/-- What comes after a last part that leaves the draft alone does not matter. -/
theorem Judged.andPure {x : CommandingBuild α} {f : α → β} {v : Verdict} (h : Judged d x v) :
    Judged d (x >>= fun a => pure (f a)) v := by
  have hbind := h.bind (fun a => steps_pure (f a)) fun a t _ => judged_pure (d := t) (f a)
  rwa [Verdict.andThen_quiet] at hbind

theorem judged_addArgumentType (type : ArgumentType) : Judged d (addArgumentType type) .makes := by
  show d.database.argumentTypes.size < (d.database.argumentTypes.push _).size
  rw [Catalog.size_push]
  exact Nat.lt_succ_self _

theorem judged_limitation (m : String) :
    Judged d (Build.limitation m : CommandingBuild Unit) .quiet :=
  Telemetry.noted_limitation m d

/-! ## The tasks of a command -/

/-- Adds a type and keeps it. -/
def addKept (type : ArgumentType) (keep : ArgumentTypeRef → CommandingState → CommandingState) :
    CommandingBuild ArgumentTypeRef := do
  let r ← addArgumentType type
  Build.changeStage (keep r)
  return r

theorem leavesTypes_addKept (type : ArgumentType)
    (keep : ArgumentTypeRef → CommandingState → CommandingState) :
    Steps LeavesTypes (addKept type keep) :=
  (leavesTypes_addArgumentType type).bind fun r =>
    (leavesTypes_changeStage (keep r)).bind fun _ => steps_pure r

theorem judged_addKept (type : ArgumentType)
    (keep : ArgumentTypeRef → CommandingState → CommandingState) :
    Judged d (addKept type keep) .makes :=
  (judged_addArgumentType type).made fun r =>
    (leavesTypes_changeStage (keep r)).bind fun _ => steps_pure r

theorem judged_argumentTypeFor (p : CommandParameter) (tag : Int) :
    Judged d (argumentTypeFor setting p tag) (typeVerdict setting d.stage p tag) := by
  unfold argumentTypeFor typeVerdict
  split
  · unfold identifierType
    split
    · exact judged_throw _
    · refine Judged.stage ?_
      cases d.stage.identifierTypes.find? p.pfc with
      | some r => exact judged_pure r
      | none =>
          let keep (r : ArgumentTypeRef) (s : CommandingState) : CommandingState :=
            { s with identifierTypes := s.identifierTypes.set p.pfc r }
          refine (judged_lift _).bind (fun encoding => ?_) fun encoding t _ => ?_
          · exact steps_database.bind fun db => leavesTypes_addKept _ keep
          · exact Judged.database (judged_addKept _ keep)
  · refine Judged.stage ?_
    dsimp only
    cases d.stage.argumentTypes.find? (p.name, tag) with
    | some r => exact judged_pure r
    | none =>
        let keep (r : ArgumentTypeRef) (s : CommandingState) : CommandingState :=
          { s with argumentTypes := s.argumentTypes.set (p.name, tag) r }
        exact (judged_lift _).bind (fun type => leavesTypes_addKept type keep)
          fun type _ _ => judged_addKept type keep

theorem judged_withDefault (db : Database) (e : CommandElement) (p : CommandParameter)
    (a : Argument) :
    Judged d (liftM (withDefault db e p a) : CommandingBuild Argument) (defaultVerdict db e) := by
  have hof : Verdict.of (withDefault db e p a) = defaultVerdict db e := by
    unfold withDefault defaultVerdict
    cases e.kind with
    | editable =>
        cases e.origin with
        | telemetry => cases dynamicDefault db e <;> rfl
        | parameterDefault | raw | engineering => rfl
    | fixed | fixedArea => rfl
  rw [← hof]
  exact judged_lift _

theorem judged_argumentOf (e : CommandElement) :
    Judged d (argumentOf setting e) (argumentVerdict setting d.database d.stage e) := by
  unfold argumentOf argumentVerdict
  refine Judged.stage ?_
  cases parameterOf d.stage e with
  | error err => exact judged_throw err
  | ok p =>
      refine (judged_argumentTypeFor p e.sizeTagBytes).bind
        (fun _ => steps_database.bind fun _ => steps_lift _) fun type t ht => ?_
      refine Judged.database ?_
      rw [ht.database]
      exact judged_withDefault _ _ _ _

/-- An argument of its own is placed, as a value that is fixed or not. -/
theorem judged_placeArgument (c : Command) (e : CommandElement) :
    Judged d (placeArgument setting c e) (judge setting d.database d.stage (.argument e)) := by
  unfold placeArgument judge
  refine (judged_argumentOf e).bind (fun a => ?_) fun a t ht => ?_
  · dsimp only
    split
    · exact steps_stage.bind fun _ => (steps_lift _).bind fun _ => steps_pure _
    · exact steps_pure _
  · dsimp only
    split
    · refine Judged.stage ?_
      rw [ht.stage]
      exact (judged_lift _).andPure
    · exact judged_pure _

/-- The member of a record that an element of a group becomes. -/
def memberFor (setting : Setting) (e : CommandElement) : CommandingBuild RecordMember := do
  let argument ← argumentOf setting e
  return ⟨argument.name, argument.type⟩

/-- Places the array of a group whose members have their types. -/
def placeArray (c : Command) (counter : String) (fields : List RecordMember) :
    CommandingBuild Command := do
  let (name, element) ← groupElement counter fields
  let array ← addArgumentType { name := s!"{name}_array", value := .array element counter }
  return withArgument c { name := freeName c name, type := array }

theorem placeGroup_eq (c : Command) (counter : String) (members : List CommandElement) :
    placeGroup setting c counter members = (do
      checkMembers counter members
      let fields ← members.mapM (memberFor setting)
      placeArray c counter fields) := rfl

theorem leavesTypes_memberFor (e : CommandElement) : Steps LeavesTypes (memberFor setting e) :=
  (steps_argumentOf leavesTypes_argumentTypeFor e).bind fun _ => steps_pure _

theorem leavesTypes_placeArray (c : Command) (counter : String) (fields : List RecordMember) :
    Steps LeavesTypes (placeArray c counter fields) := by
  unfold placeArray groupElement
  refine Steps.bind ?_ fun _ => (leavesTypes_addArgumentType _).bind fun _ => steps_pure _
  split
  · exact steps_pure _
  · exact (leavesTypes_addArgumentType _).bind fun _ => steps_pure _

/-- The members of a group find their types one after the other. -/
theorem judged_members : ∀ (members : List CommandElement) (d : Draft CommandingState),
    Judged d (members.mapM (memberFor setting))
      (verdict setting d.database d.stage (members.map .member))
  | [], d => by
      rw [List.mapM_nil]
      exact judged_pure []
  | m :: members, d => by
      rw [List.mapM_cons, List.map_cons, verdict]
      refine Judged.bind (judged_argumentOf m).andPure (fun field => ?_) fun field t ht => ?_
      · exact (steps_mapM leavesTypes_memberFor members).bind fun _ => steps_pure _
      · rw [← ht.database, ← ht.stage]
        exact (judged_members members t).andPure

/-- Members can be repeated if all of them are editable arguments. -/
theorem of_checkMembers (counter : String) (members : List CommandElement) :
    Verdict.of (checkMembers counter members) =
      if members.all fun m => decide (m.kind = .editable) then .quiet else .fails := by
  cases hcheck : checkMembers counter members with
  | ok _ =>
      have hall : (members.all fun m => decide (m.kind = .editable)) = true :=
        List.all_eq_true.mpr fun m hm => decide_eq_true (checkMembers_eq_ok hcheck m hm)
      rw [if_pos hall]
      rfl
  | error e =>
      rw [if_neg fun hall => ?_]
      · rfl
      · -- among editable arguments there is nothing to fail with
        have hkind : ∀ m ∈ members, m.kind = .editable := by simpa using hall
        have harea : members.find? (fun m => !m.isArgument) = none :=
          List.find?_eq_none.mpr fun m hm => by simp [CommandElement.isArgument, hkind m hm]
        have hfixed : members.find? (fun m => decide (m.kind = .fixed)) = none :=
          List.find?_eq_none.mpr fun m hm => by simp [hkind m hm]
        simp [checkMembers, harea, hfixed] at hcheck

/-- A group whose members have their types makes an array of them. -/
theorem judged_placeArray (c : Command) (counter : String) (fields : List RecordMember) :
    Judged d (placeArray c counter fields) .makes := by
  have hleaves (x : String × ArgumentTypeRef) : Steps LeavesTypes (do
      let array ← addArgumentType { name := s!"{x.1}_array", value := .array x.2 counter }
      return withArgument c { name := freeName c x.1, type := array } : CommandingBuild Command) :=
    (leavesTypes_addArgumentType _).bind fun _ => steps_pure _
  unfold placeArray groupElement
  split
  · rename_i m
    exact (judged_addArgumentType
      { name := s!"{m.name}_array", value := .array m.type counter }).made
      fun array => steps_pure (withArgument c { name := freeName c m.name, type := array })
  · exact Judged.made ((judged_addArgumentType _).made fun _ => steps_pure _) hleaves

theorem judged_placeGroup (setting : Setting) (d : Draft CommandingState) (c : Command)
    (counter : String) (members : List CommandElement) :
    Judged d (placeGroup setting c counter members)
      (if members.all fun m => decide (m.kind = .editable) then
        (verdict setting d.database d.stage (members.map .member)).andThen .makes
      else .fails) := by
  have hcheck := of_checkMembers counter members
  rw [placeGroup_eq]
  cases hmembers : checkMembers counter members with
  | ok _ =>
      rw [hmembers] at hcheck
      split
      · exact (judged_members members d).bind (leavesTypes_placeArray c counter)
          fun fields t _ => judged_placeArray c counter fields
      · rename_i hall
        rw [if_neg hall] at hcheck
        cases hcheck
  | error e =>
      rw [hmembers] at hcheck
      split
      · rename_i hall
        rw [if_pos hall] at hcheck
        cases hcheck
      · exact judged_throw e

/-- **The elements of a command do what the first of their tasks does that is not quiet.** -/
theorem judged_placeElements (elements : List CommandElement) (c : Command)
    (d : Draft CommandingState) :
    Judged d (placeElements setting c elements)
      (verdict setting d.database d.stage (tasks elements)) := by
  induction elements using elements_induction generalizing c d with
  | nil =>
      rw [placeElements, tasks]
      exact judged_pure c
  | cons e rest ih =>
      have hafter (taken : Nat) (c' : Command) (t : Draft CommandingState) (ht : Noted d t) :
          Judged t (placeElements setting c' (rest.drop taken))
            (verdict setting d.database d.stage (tasks (rest.drop taken))) := by
        rw [← ht.database, ← ht.stage]
        exact ih taken c' t
      rw [placeElements, tasks]
      split
      · exact (judged_lift _).bind (fun _ => leavesTypes_placeElements rest _)
          fun octets t ht => hafter 0 _ t ht
      · refine (judged_placeArgument c e).bind (fun placed => ?_) fun placed t ht => ?_
        · dsimp only
          split
          · exact leavesTypes_placeElements rest _
          · split
            · exact steps_throw _
            · split
              · exact (leavesTypes_limitation _).bind fun _ => leavesTypes_placeElements rest _
              · exact (steps_placeGroup leavesTypes_argumentTypeFor
                  (fun _ _ _ _ => leavesTypes_addArgumentType _) _ _ _).bind
                    fun _ => leavesTypes_placeElements _ _
        · obtain ⟨c₁, counter⟩ := placed
          dsimp only
          split
          · exact hafter 0 c₁ t ht
          · split
            · exact judged_throw _
            · split
              · refine (judged_limitation _).bind (fun _ => leavesTypes_placeElements rest _)
                  fun _ u hu => hafter 0 _ u (IsTrans.trans _ _ _ ht hu)
              · have hgroup := (judged_placeGroup setting t c₁ counter
                  (rest.take e.groupSize)).bind
                    (fun c₂ => leavesTypes_placeElements (rest.drop e.groupSize) c₂)
                    fun c₂ u hu => hafter e.groupSize c₂ u (IsTrans.trans _ _ _ ht hu)
                rw [ht.database, ht.stage] at hgroup
                split
                · rename_i hall
                  rw [if_pos hall, Verdict.andThen_assoc] at hgroup
                  rw [verdict_append]
                  exact hgroup
                · rename_i hall
                  rw [if_neg hall] at hgroup
                  exact hgroup

/-! ## Commands -/

/-- The elements of the command of a record, if it gets as far as its elements. -/
def placed? (setting : Setting) (d : Draft CommandingState) (row : Row) :
    Option (List CommandElement) :=
  match row.require [0, 1, 5], row.text 0 with
  | .ok _, .ok name =>
    if isBinaryCommand name || d.database.commands.has name then none
    else
      match withHeader setting d.database d.stage row (begun row name) with
      | .ok _ => some ((d.stage.elements.find? name).getD [])
      | .error _ => none
  | _, _ => none

/-- No type is made for the command of a record before it is complete or fails. -/
def Traceless (setting : Setting) (d : Draft CommandingState) (row : Row) : Prop :=
  ∀ elements, placed? setting d row = some elements →
    verdict setting d.database d.stage (tasks elements) ≠ .makes

/-- What is there after a command has been rejected. -/
structure Rejected (setting : Setting) (row : Row) (d t : Draft CommandingState) : Prop where
  leaves : LeavesTypes d t
  traceless : Traceless setting d row → Noted d t
  makes : ¬Traceless setting d row → Makes d t

/-- Before its elements a command leaves nothing. -/
theorem rejected_of_none (h : placed? setting d row = none) : Rejected setting row d d where
  leaves := Std.Refl.refl d
  traceless := fun _ => Std.Refl.refl d
  makes := fun htrace => by
    refine absurd (fun elements helements => ?_) htrace
    rw [h] at helements
    cases helements

theorem Judged.rejected {x : CommandingBuild α} {elements : List CommandElement}
    (hplaced : placed? setting d row = some elements) (hleaves : Steps LeavesTypes x)
    (h : Judged d x (verdict setting d.database d.stage (tasks elements))) :
    Ends x d (fun _ => Rejected setting row d) (Rejected setting row d) := by
  have htrace : Traceless setting d row ↔
      verdict setting d.database d.stage (tasks elements) ≠ .makes := by
    unfold Traceless
    rw [hplaced]
    simp
  have hjudged (t : Draft CommandingState) (ht : LeavesTypes d t)
      (hquiet : verdict setting d.database d.stage (tasks elements) ≠ .makes → Noted d t)
      (hmakes : verdict setting d.database d.stage (tasks elements) = .makes → Makes d t) :
      Rejected setting row d t :=
    ⟨ht, fun h => hquiet (htrace.mp h), fun h => hmakes (by_contra fun hne => h (htrace.mpr hne))⟩
  cases hv : verdict setting d.database d.stage (tasks elements) with
  | quiet =>
      rw [hv] at h hjudged
      exact (Ends.both h (hleaves d)).mono
        (fun _ t _ ht => hjudged t ht.2 (fun _ => ht.1) nofun) fun t ht => ht.1.elim
  | fails =>
      rw [hv] at h hjudged
      exact (Ends.both h (hleaves d)).mono
        (fun _ t _ ht => ht.1.elim) fun t ht => hjudged t ht.2 (fun _ => ht.1) nofun
  | makes =>
      rw [hv] at h hjudged
      exact (Ends.both h (hleaves d)).mono
        (fun _ t _ ht => hjudged t ht.2 (fun hne => absurd rfl hne) fun _ => ht.1)
        fun t ht => hjudged t ht.2 (fun hne => absurd rfl hne) fun _ => ht.1

theorem defineCommand_rejects (setting : Setting) (row : Row) (d : Draft CommandingState) :
    Ends (defineCommand setting row) d (fun _ _ => True) (Rejected setting row d) := by
  unfold defineCommand
  cases hrequire : row.require [0, 1, 5] with
  | error e => exact ends_throw (rejected_of_none (by rw [placed?, hrequire]))
  | ok _ =>
      cases hname : row.text 0 with
      | error e => exact ends_throw (rejected_of_none (by rw [placed?, hrequire, hname]))
      | ok name =>
          show Ends (if _ then _ else _ : CommandingBuild Unit) d _ _
          refine Ends.ite (fun hplain => ?_) fun _ => trivial
          refine Ends.bind (ends_stage (Ends.bind (ends_database ?_)))
          refine Ends.ite (fun htaken => ?_) fun hfree => ?_
          · refine ends_throw (rejected_of_none ?_)
            rw [placed?, hrequire, hname]
            simp [htaken]
          · have hbegun : (isBinaryCommand name || d.database.commands.has name) = false := by
              simp_all
            show Ends ((liftM (withHeader setting d.database d.stage row (begun row name)) :
              CommandingBuild Command) >>= _) d _ _
            cases hheader : withHeader setting d.database d.stage row (begun row name) with
            | error e =>
                refine ends_throw (rejected_of_none ?_)
                rw [placed?, hrequire, hname]
                dsimp only
                rw [hbegun, hheader]
                rfl
            | ok c =>
                have hplaced : placed? setting d row =
                    some ((d.stage.elements.find? name).getD []) := by
                  rw [placed?, hrequire, hname]
                  dsimp only
                  rw [hbegun, hheader]
                  rfl
                show Ends (placeElements setting c _ >>= _) d _ _
                refine Ends.bind ((Judged.rejected hplaced (leavesTypes_placeElements _ c)
                  (judged_placeElements _ c d)).mono (fun c₁ t _ ht => ?_) fun _ ht => ht)
                -- what is left to do changes nothing where it fails
                refine Ends.bind (ends_database (Ends.bind (ends_lift (fun c₂ _ => ?_) ht)))
                exact Ends.bind (ends_add (fun _ _ _ => trivial) ht)

/-- **A command that is rejected leaves nothing but types of arguments**, those that were made
before it failed. It leaves the database as it was exactly if the first of its tasks that is not
quiet makes no type, and then the next command begins where it began. -/
theorem defineCommand_rejected {e : Error} (h : defineCommand setting row d = .error e t) :
    (t.database = { d.database with argumentTypes := t.database.argumentTypes } ∧
      d.database.argumentTypes.toList <+: t.database.argumentTypes.toList) ∧
    (t.database = d.database ↔ Traceless setting d row) ∧
    (Traceless setting d row → t.stage = d.stage) := by
  have hrejected := (ends_iff.mp (defineCommand_rejects setting row d)).2 e t h
  refine ⟨⟨hrejected.leaves.others, hrejected.leaves.types⟩, ⟨fun hsame => ?_, fun htrace => ?_⟩,
    fun htrace => (hrejected.traceless htrace).stage⟩
  · by_contra htrace
    have hmakes := hrejected.makes htrace
    rw [Makes, hsame] at hmakes
    exact Nat.lt_irrefl _ hmakes
  · exact (hrejected.traceless htrace).database

/-- A command whose last element is fixed to no value, after a counter and what it repeats. -/
def abandonedSetting : Setting :=
  .ofTables [
    ("cpc", "N1\t\t3\t4\nV1\t\t3\t12\nV2\t\t3\t12\n"),
    ("cdf", "CMD\tE\t\t8\t0\t1\tN1\nCMD\tE\t\t16\t8\t0\tV1\nCMD\tF\t\t16\t24\t0\tV2\n"),
    ("ccf", "CMD\ta command\t\t\tN\tNOHEADER\n")]

/-- The record of the command is rejected, and the types of all its elements are left. -/
theorem abandoned_left :
    ∃ (d t : Draft CommandingState) (row : Row) (e : Error),
      defineCommand abandonedSetting row d = .error e t ∧
      t.database.argumentTypes.names = ["N1", "V1", "V1_array", "V2"] ∧
      d.database.argumentTypes.names = [] ∧ ¬Traceless abandonedSetting d row := by
  have hok : (after? (loadParameters abandonedSetting)
      { database := { name := "MIB" }, stage := {} }).any (fun d₁ =>
        (after? (Build.scan abandonedSetting "cdf" (declareElement abandonedSetting)) d₁).any
          fun d => (Build.rows abandonedSetting "ccf").toOption.any fun rows => rows.head?.any
            fun row => match defineCommand abandonedSetting row d with
              | .error _ t => decide (
                  t.database.argumentTypes.names = ["N1", "V1", "V1_array", "V2"] ∧
                  d.database.argumentTypes.names = [])
              | .ok _ _ => false) = true := by
    decide +kernel
  obtain ⟨d₁, -, hok⟩ := (Option.any_eq_true _ _).mp hok
  obtain ⟨d, -, hok⟩ := (Option.any_eq_true _ _).mp hok
  obtain ⟨rows, -, hok⟩ := (Option.any_eq_true _ _).mp hok
  obtain ⟨row, -, hok⟩ := (Option.any_eq_true _ _).mp hok
  cases hrun : defineCommand abandonedSetting row d with
  | ok _ t =>
      rw [hrun] at hok
      cases hok
  | error e t =>
      rw [hrun] at hok
      obtain ⟨hnames, hnone⟩ := of_decide_eq_true hok
      refine ⟨d, t, row, e, hrun, hnames, hnone, fun htrace => ?_⟩
      have hsame := (defineCommand_rejected hrun).2.1.mpr htrace
      rw [hsame, hnone] at hnames
      cases hnames

end MissionBase.Commanding
