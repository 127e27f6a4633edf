import MissionBase.Proofs.Telemetry.ContextRules
import MissionBase.Proofs.Telemetry.PlainTypes
import MissionBase.Proofs.Turns

/-!
# Selection by context

Which calibrator a decoder chooses for a number with context rules is decided in several parts of a
compilation: rules are read and sorted, types are made, rules are attached to types all at once or
not at all, and limits make copies of types afterwards. Each parameter with rules has one turn when
rules are attached (`ContextTurn`), and its type is changed at no other, because no other parameter
has that type. So the end of it is what the turn does, and this is said by the records alone.
-/

namespace MissionBase

open Run Leniency

namespace Telemetry

variable {setting : Setting} {d d' t u v : Draft TelemetryState} {name : String}

/-! ## One turn -/

/-- The parameters with rules, in the order of their turns. -/
def contextNames (s : TelemetryState) : List String :=
  s.calibrations.contexts.keys.mergeSort fun a b => decide (a ≤ b)

/-- Attaches the rules of some parameters. -/
def attachRules (setting : Setting) (names : List String) : TelemetryBuild Unit :=
  names.forM fun name => Build.recover setting (attachContexts name)

theorem attachRules_append {names names' : List String} :
    attachRules setting (names ++ names') d = .ok () d' ↔
      ∃ u, attachRules setting names d = .ok () u ∧ attachRules setting names' u = .ok () d' := by
  have happend : attachRules setting (names ++ names') =
      attachRules setting names >>= fun _ => attachRules setting names' := List.forM_append
  rw [happend, bind_eq_ok]
  exact ⟨fun ⟨_, u, h, h'⟩ => ⟨u, h, h'⟩, fun ⟨u, h, h'⟩ => ⟨(), u, h, h'⟩⟩

theorem attachRules_singleton {name : String} :
    attachRules setting [name] d = .ok () d' ↔
      Build.recover setting (attachContexts name) d = .ok () d' := by
  have hone : attachRules setting [name] =
      Build.recover setting (attachContexts name) >>= fun _ => attachRules setting [] := rfl
  rw [hone, bind_eq_ok]
  constructor
  · rintro ⟨_, u, hrun, hend⟩
    obtain ⟨-, rfl⟩ := pure_eq_ok.mp hend
    exact hrun
  · intro hrun
    exact ⟨(), d', hrun, pure_eq_ok.mpr ⟨rfl, rfl⟩⟩

/-- The only turn of a parameter when rules are attached, with the drafts where it begins and
ends. -/
structure ContextTurn (setting : Setting) (name : String) (d u v d' : Draft TelemetryState) :
    Prop where
  only : ∃ before after, contextNames d.stage = before ++ name :: after ∧ name ∉ before ∧
    name ∉ after ∧ attachRules setting before d = .ok () u ∧ attachRules setting after v = .ok () d'
  run : Build.recover setting (attachContexts name) u = .ok () v

/-- Attaching the rules of a number gives its type all calibrators, or fails. -/
theorem attachContexts_eq {r : ParameterRecord} {q : ParameterRef} {p : Parameter}
    (hrules : d.stage.calibrations.contextRules name ≠ [])
    (hdeclared : d.stage.declared.find? name = some r) (hnumber : r.category = 'N')
    (hfind : d.database.parameters.find? name = some q)
    (hp : d.database.parameters.get? q = some p) :
    attachContexts name d =
      match (d.stage.calibrations.contextRules name).mapM
          (contextCalibrator d.database d.stage.calibrations) with
      | .ok cs => .ok ()
          { d with database := d.database.changeParameterType p.type (·.calibrated (.contexts cs)) }
      | .error e => .error e d := by
  unfold attachContexts
  refine (bind_of_ok (x := Build.stage) (a := d.stage) (t := d) rfl).trans ?_
  refine (bind_of_ok (x := Build.database) (a := d.database) (t := d) rfl).trans ?_
  dsimp only
  have hnot : (r.category != 'N') = false := by
    rw [hnumber]
    rfl
  rw [hdeclared]
  cases hlist : d.stage.calibrations.contextRules name with
  | nil => exact absurd hlist hrules
  | cons first rest =>
      dsimp only
      rw [if_neg (by rw [hnot]; exact Bool.false_ne_true), hfind]
      dsimp only
      cases hrun : (first :: rest).mapM (contextCalibrator d.database d.stage.calibrations) with
      | error e => rfl
      | ok cs =>
          refine (bind_of_ok (x := Build.ofExcept (.ok cs)) (a := cs) (t := d) rfl).trans ?_
          rw [hp]
          rfl

/-- The turns of other parameters leave the type of a parameter with rules alone, and all
parameters. -/
structure StaysFor (q : ParameterRef) (d t : Draft TelemetryState) : Prop where
  parameters : t.database.parameters = d.database.parameters
  stage : t.stage = d.stage
  type : t.database.typeOf? q = d.database.typeOf? q

theorem StaysFor.refl (q : ParameterRef) (d : Draft TelemetryState) : StaysFor q d d :=
  ⟨rfl, rfl, rfl⟩

theorem StaysFor.trans {q : ParameterRef} (h : StaysFor q d t) (h' : StaysFor q t u) :
    StaysFor q d u :=
  ⟨h'.parameters.trans h.parameters, h'.stage.trans h.stage, h'.type.trans h.type⟩

/-- No parameter but that at a place has the type of a parameter. -/
def Alone (db : Database) (q : ParameterRef) (p : Parameter) : Prop :=
  ∀ q' p', db.parameters.get? q' = some p' → p'.type = p.type → q' = q

/-- **The rules of another parameter change another type.** -/
theorem attachContexts_stays {q : ParameterRef} {p : Parameter} {other : String}
    (halone : Alone d.database q p) (hp : d.database.parameters.get? q = some p)
    (hne : other ≠ p.name) (ht : StaysFor q d t) :
    Ends (attachContexts other) t (fun _ u => StaysFor q d u) (StaysFor q d) := by
  refine (attachContexts_ends other t).mono (fun _ u _ hu => ?_) fun u hu => hu ▸ ht
  obtain rfl | ⟨q', p', calibrators, hfind, hp', -, -, rfl⟩ := hu
  · exact ht
  · refine ht.trans ⟨rfl, rfl, ?_⟩
    unfold Database.typeOf?
    show (t.database.parameters.get? q).bind _ = _
    rw [ht.parameters, hp, Option.bind_some, Option.bind_some]
    refine Catalog.get?_modify_of_ne _ (fun hindex => ?_) _
    have htype : p'.type = p.type := by
      cases hp'type : p'.type
      cases hptype : p.type
      rw [hp'type, hptype] at hindex
      exact congrArg Ref.mk hindex
    -- the type would be that of the parameter, which has another name
    rw [ht.parameters] at hp' hfind
    have hsame := halone q' p' hp' htype
    obtain ⟨p'', hp'', hname⟩ := Catalog.exists_of_find? hfind
    rw [hsame, hp] at hp''
    cases hp''
    exact hne hname.symm

theorem attachRules_stays {q : ParameterRef} {p : Parameter} (halone : Alone d.database q p)
    (hp : d.database.parameters.get? q = some p) {others : List String}
    (hothers : p.name ∉ others) :
    Ends (attachRules setting others) d (fun _ u => StaysFor q d u) (StaysFor q d) := by
  refine ends_forM_mem (fun other hother u hu => ?_) (.refl q d)
  refine Ends.recover (fun _ _ h => ⟨h.parameters, h.stage, h.type⟩) ?_
  exact attachContexts_stays halone hp (fun heq => hothers (heq ▸ hother)) hu

/-- **A parameter with rules has one turn**, before which its type stays as it is. -/
theorem exists_contextTurn {q : ParameterRef} {p : Parameter} (halone : Alone d.database q p)
    (hkeys : d.stage.calibrations.contexts.keys.Nodup)
    (hp : d.database.parameters.get? q = some p)
    (hcontext : d.stage.calibrations.hasContext p.name = true)
    (hrun : attachContextCalibrators setting d = .ok () d') :
    ∃ u v, ContextTurn setting p.name d u v d' ∧ StaysFor q d u := by
  have hperm : (contextNames d.stage).Perm d.stage.calibrations.contexts.keys :=
    List.mergeSort_perm _ _
  have hmem : p.name ∈ contextNames d.stage :=
    hperm.mem_iff.mpr (Registry.mem_keys_of_hasContext hcontext)
  have hnodup : (contextNames d.stage).Nodup := hperm.nodup_iff.mpr hkeys
  obtain ⟨before, after, hsplit⟩ := List.append_of_mem hmem
  rw [hsplit] at hnodup
  obtain ⟨-, hafter, hapart⟩ := List.nodup_append.mp hnodup
  have hbefore : p.name ∉ before := fun h => hapart _ h _ List.mem_cons_self rfl
  have hattach : attachRules setting (contextNames d.stage) d = .ok () d' := hrun
  rw [hsplit, attachRules_append] at hattach
  obtain ⟨u, hfirst, hrest⟩ := hattach
  obtain ⟨v, hturn, hlast⟩ := attachRules_append.mp
    (show attachRules setting ([p.name] ++ after) u = .ok () d' from hrest)
  have hstays := (attachRules_stays halone hp hbefore).of_ok hfirst
  exact ⟨u, v, ⟨⟨before, after, hsplit, hbefore, (List.nodup_cons.mp hafter).1, hfirst, hlast⟩,
    attachRules_singleton.mp hturn⟩, hstays⟩

/-- The type of the parameter stays as its turn leaves it. -/
theorem ContextTurn.stays {q : ParameterRef} {p : Parameter}
    (h : ContextTurn setting p.name d u v d') (halone : Alone v.database q p)
    (hp : v.database.parameters.get? q = some p) : StaysFor q v d' := by
  obtain ⟨-, after, -, -, hafter, -, hlast⟩ := h.only
  exact (attachRules_stays halone hp hafter).of_ok hlast

/-- What attaching the rules of a number leads to: its type has all calibrators, or it is as it was
and its turn has recorded an error. -/
structure ContextOutcome (setting : Setting) (name : String) (q : ParameterRef)
    (d d' : Draft TelemetryState) : Prop where
  /-- All rules can be carried out. -/
  attached : (∀ rule ∈ d.stage.calibrations.contextRules name,
      Usable d.database d.stage.calibrations rule) →
    ∃ cs, (d.stage.calibrations.contextRules name).mapM
        (contextCalibrator d.database d.stage.calibrations) = .ok cs ∧
      d'.database.typeOf? q = (d.database.typeOf? q).map (·.calibrated (.contexts cs))
  /-- Some rule cannot. -/
  refused : (¬ ∀ rule ∈ d.stage.calibrations.contextRules name,
      Usable d.database d.stage.calibrations rule) →
    d'.database.typeOf? q = d.database.typeOf? q ∧
      ∃ u v e, ContextTurn setting name d u v d' ∧ v.errors = u.errors ++ [e]

/-- **All rules of a number are attached, or none is and there is one error.** -/
theorem attachContextCalibrators_outcome {q : ParameterRef} {p : Parameter} {r : ParameterRecord}
    (hlenient : setting.config.strict = false) (halone : Alone d.database q p)
    (hkeys : d.stage.calibrations.contexts.keys.Nodup)
    (hfind : d.database.parameters.find? p.name = some q)
    (hp : d.database.parameters.get? q = some p)
    (hrules : d.stage.calibrations.contextRules p.name ≠ [])
    (hdeclared : d.stage.declared.find? p.name = some r) (hnumber : r.category = 'N')
    (hrun : attachContextCalibrators setting d = .ok () d') :
    ContextOutcome setting p.name q d d' := by
  have hcontext : d.stage.calibrations.hasContext p.name = true :=
    Registry.hasContext_iff.mpr hrules
  obtain ⟨u, v, hturn, hu⟩ := exists_contextTurn halone hkeys hp hcontext hrun
  -- where the turn begins, names, rules and the type are those of the start
  have hpu : u.database.parameters.get? q = some p := by
    rw [hu.parameters]
    exact hp
  have hresult := attachContexts_eq (d := u) (by rw [hu.stage]; exact hrules)
    (by rw [hu.stage]; exact hdeclared) hnumber (by rw [hu.parameters]; exact hfind) hpu
  have hsame : contextCalibrator u.database d.stage.calibrations =
      contextCalibrator d.database d.stage.calibrations :=
    funext fun rule => contextCalibrator_congr hu.parameters
  rw [hu.stage, hsame] at hresult
  have hthere : Alone u.database q p := fun q' p' hp' => halone q' p' (hu.parameters ▸ hp')
  refine ⟨fun husable => ?_, fun hunusable => ?_⟩
  · obtain ⟨cs, hcs⟩ := exists_contextCalibrators husable
    rw [hcs] at hresult
    have hv := (recover_of_ok hresult).symm.trans hturn.run
    cases hv
    refine ⟨cs, hcs, (hturn.stays hthere hpu).type.trans ?_⟩
    rw [← hu.type]
    unfold Database.typeOf?
    show (u.database.parameters.get? q).bind _ = _
    rw [hpu, Option.bind_some, Option.bind_some]
    exact Catalog.get?_modify_self _ _ _
  · obtain ⟨e, he, hmild⟩ := contextCalibrators_error hunusable
    rw [he] at hresult
    have hv := (recover_of_error hlenient hmild hresult).symm.trans hturn.run
    cases hv
    exact ⟨(hturn.stays hthere hpu).type.trans hu.type, u, _, e, hturn, rfl⟩

/-- A parameter has a type, and that type has certain context calibrators. -/
def HasContexts (q : ParameterRef) (cs : List ContextCalibrator) (db : Database) : Prop :=
  ∃ x, db.typeOf? q = some x ∧ x.contextCalibrators = cs

/-- A later database in which parameters have the context calibrators that they had. -/
def KeepsContexts (db db' : Database) : Prop :=
  ∀ q cs, HasContexts q cs db → HasContexts q cs db'

instance : Std.Refl KeepsContexts := ⟨fun _ _ _ h => h⟩

instance : IsTrans Database KeepsContexts := ⟨fun _ _ _ h h' q cs hcs => h' q cs (h q cs hcs)⟩

theorem keepsContexts_of_supplement {db db' : Database} (h : Supplement db db') :
    KeepsContexts db db' := by
  rintro q cs ⟨x, hx, hcs⟩
  exact ⟨x, (Database.KeepsTypes.of_supplement h).typeOf? hx, hcs⟩

/-- A copy with other alarms has the same context calibrators. -/
theorem keepsContexts_of_retypes {db db' : Database} {q : ParameterRef} (h : Retypes db db' q) :
    KeepsContexts db db' := by
  rintro q' cs ⟨x, hx, hcs⟩
  by_cases hq : q = q'
  · subst hq
    obtain ⟨y, name, alarm, hy, -, rfl⟩ := h
    cases hx.symm.trans hy
    exact ⟨_, typeOf?_retyped hx _, hcs⟩
  · exact ⟨x, h.typeOf? hq hx, hcs⟩

end Telemetry

/-! ## A whole compilation -/

variable {config : Config} {files : Files} {compiler : Option FormulaCompiler} {out : Compiled}

namespace Course

variable {course : Course config files compiler out}

/-- The calibrations of telemetry. -/
def registry (course : Course config files compiler out) : Registry :=
  course.calibrated.stage.calibrations

/-- A rule that can be carried out: its parameter is declared, and it names a numeric
calibration. -/
def Usable (course : Course config files compiler out) (rule : ContextRule) : Prop :=
  (∃ g ∈ course.givers, g.1.name = rule.reference) ∧
    (course.registry.numeric? rule.select).isSome = true

/-- A rule applies where the parameter that is declared under its reference has its raw value. -/
def applies (course : Course config files compiler out) (raw : ParameterRef → Option Int)
    (rule : ContextRule) : Bool :=
  (course.givers.find? fun g => g.1.name == rule.reference).any fun g => raw g.2 == some rule.value

/-- **The registry has the rules of the records.** -/
theorem exists_rules (course : Course config files compiler out) :
    ∃ rows, Build.rows course.setting "cur" = .ok rows ∧
      (∀ name, course.registry.contextRules name = Registry.rulesOf rows name) ∧
      course.registry.contexts.keys.Nodup := by
  obtain ⟨t, hload, heq⟩ := within_eq_ok.mp course.calibrations_eq
  have hscan := hload
  unfold Registry.loadTelemetry at hscan
  obtain ⟨_, _, hscan, -⟩ := bind_eq_ok.mp hscan
  obtain ⟨rows, hrows⟩ := exists_rows_of_scan hscan
  have hrules := (Registry.loadTelemetry_rules hrows rfl).of_ok hload
  refine ⟨rows, hrows, ?_⟩
  unfold registry
  rw [← heq]
  exact hrules

namespace Parts

variable (parts : course.Parts)

/-- Where context calibrators are attached, types with rules have one owner. -/
theorem computed_owned : Telemetry.Owned parts.computed := by
  have hrun : Telemetry.beforeContexts course.setting compiler
      ⟨course.versioned.database, course.versioned.errors, course.versioned.warnings, {}⟩ =
        .ok () parts.computed :=
    bind_eq_ok.mpr ⟨(), _, course.calibrations_eq, bind_eq_ok.mpr ⟨(), _,
      (Telemetry.loadParameters_eq_ok course.rows_eq).mpr parts.declared_eq, parts.computed_eq⟩⟩
  exact (Telemetry.beforeContexts_owned course.blank rfl).of_ok hrun

/-- What is attached is still there at the end. -/
theorem keepsContexts : Telemetry.KeepsContexts parts.contextual.database out.database := by
  have hlaidOut : Telemetry.KeepsContexts parts.contextual.database parts.laidOut.database :=
    Supplement.induct (Telemetry.supplies_beforeLimits.of_ok parts.laidOut_eq).database
      fun _ _ => Telemetry.keepsContexts_of_supplement
  have htelemetry : Telemetry.KeepsContexts parts.laidOut.database course.telemetry.database :=
    (Telemetry.steps_attachAll (R := Telemetry.KeepsContexts)
      (fun _ _ _ => Telemetry.keepsContexts_of_retypes) parts.limits).of_ok parts.telemetry_eq
  have hcommanding : Telemetry.KeepsContexts course.telemetry.database course.commanding.database :=
    Supplement.induct (Commanding.furnishes_buildCommands.of_ok course.commanding_eq).supplements
      fun _ _ => Telemetry.keepsContexts_of_supplement
  rw [course.database_eq]
  exact IsTrans.trans _ _ _ hlaidOut (IsTrans.trans _ _ _ htelemetry hcommanding)

/-- Where the declarations end, the givers have given what is there. -/
theorem declared_given : Telemetry.Given course.givers parts.declared :=
  Telemetry.declareAll_given course.given_nil parts.declared_eq

/-- What is known of a giver where context calibrators are attached. -/
structure Declares (g : ParameterRecord × ParameterRef) (p : Parameter) (x : ParameterType) :
    Prop where
  declared : parts.computed.stage.declared.find? p.name = some g.1
  find : parts.computed.database.parameters.find? p.name = some g.2
  get : parts.computed.database.parameters.get? g.2 = some p
  type : parts.computed.database.typeOf? g.2 = some x
  plain : x.Plain

/-- **A giver is found under its name, with a plain type.** -/
theorem exists_declares {g : ParameterRecord × ParameterRef} (hg : g ∈ course.givers) :
    ∃ p x, p.name = g.1.name ∧ parts.Declares g p x := by
  obtain ⟨hshared, hsparse⟩ := parts.declared_sparse
  have hgiven := parts.declared_given
  have huntouched := (Telemetry.untouched_compileSynthetic compiler).of_ok parts.computed_eq
  obtain ⟨p, hp, hname⟩ := hgiven.parameter hg
  have hentry : (g.1.name, g.1) ∈ parts.declared.stage.declared.entries := by
    rw [hgiven.declared]
    exact List.mem_map_of_mem (f := fun g : ParameterRecord × ParameterRef => (g.1.name, g.1)) hg
  have hfound : parts.declared.database.parameters.find? g.1.name = some g.2 := by
    have hnodup : (course.givers.map fun g => g.1.name).Nodup := by
      have hkeys := hsparse.names
      unfold Index.keys at hkeys
      rw [hgiven.declared, List.map_map] at hkeys
      exact hkeys
    rw [hgiven.find?]
    cases hfirst : course.givers.find? fun g' => g'.1.name == g.1.name with
    | none =>
        have hne := List.find?_eq_none.mp hfirst g hg
        exact absurd (beq_self_eq_true g.1.name) hne
    | some g' =>
        have hname' : (g'.1.name == g.1.name) = true :=
          List.find?_some (p := fun g' : ParameterRecord × ParameterRef => g'.1.name == g.1.name)
            hfirst
        have hmem := List.mem_of_find?_eq_some hfirst
        rw [List.inj_on_of_nodup_map hnodup hmem hg (eq_of_beq hname')]
        rfl
  obtain ⟨r, -, -, x, -, hx, -⟩ := hshared.declaration hp
  refine ⟨p, x, hname, ?_, ?_, ?_, ?_, parts.declared_plain p.type x hx⟩
  · rw [huntouched.stage, hname]
    exact Index.find?_of_mem hsparse.names hentry
  · rw [huntouched.parameters, hname]
    exact hfound
  · rw [huntouched.parameters]
    exact hp
  · unfold Database.typeOf?
    rw [huntouched.parameters, huntouched.types, hp]
    exact hx

/-- What is found under a name where context calibrators are attached. -/
theorem computed_find? (name : String) :
    parts.computed.database.parameters.find? name =
      (course.givers.find? fun g => g.1.name == name).map fun g => g.2 := by
  rw [((Telemetry.untouched_compileSynthetic compiler).of_ok parts.computed_eq).parameters]
  exact parts.declared_given.find? name

theorem computed_registry : parts.computed.stage.calibrations = course.registry := by
  rw [((Telemetry.untouched_compileSynthetic compiler).of_ok parts.computed_eq).stage]
  exact parts.declared_sparse.1.registry

theorem usable_iff (rule : ContextRule) :
    Telemetry.Usable parts.computed.database course.registry rule ↔ course.Usable rule := by
  unfold Telemetry.Usable Course.Usable
  rw [parts.computed_find?, Option.isSome_map, List.find?_isSome]
  simp only [beq_iff_eq]

theorem applies_eq (raw : ParameterRef → Option Int) :
    Telemetry.applies parts.computed.database raw = course.applies raw := by
  funext rule
  unfold Telemetry.applies Course.applies
  rw [parts.computed_find?, Option.any_map]

end Parts

end Course

/--
**The calibrator of a number is the one that its context rules select.**

Where errors are recorded, a declared number with rules ends in one of two ways. If all its rules
can be carried out, the calibrator that is chosen for raw values is that of the first rule whose
parameter has the raw value of the rule, and none where there is no such rule. If some rule cannot,
the number has no context calibrators, and its only turn when they are attached records one error.
-/
theorem compile_contextSelection (hlenient : config.strict = false)
    (h : compile config files compiler = .ok out) :
    ∃ (course : Course config files compiler out) (parts : course.Parts) (rows : List Row),
      Build.rows course.setting "cur" = .ok rows ∧
      ∀ g ∈ course.givers, g.1.category = 'N' → Registry.rulesOf rows g.1.name ≠ [] →
        ∃ x, out.database.typeOf? g.2 = some x ∧
          ((∀ rule ∈ Registry.rulesOf rows g.1.name, course.Usable rule) → ∀ raw,
            selectCalibrator? x.contextCalibrators raw =
              ((Registry.rulesOf rows g.1.name).find? (course.applies raw)).bind fun rule =>
                course.registry.numeric? rule.select) ∧
          ((∃ rule ∈ Registry.rulesOf rows g.1.name, ¬ course.Usable rule) →
            x.contextCalibrators = [] ∧
              ∃ u v e, Telemetry.ContextTurn course.setting g.1.name parts.computed u v
                parts.contextual ∧ v.errors = u.errors ++ [e]) := by
  obtain ⟨course⟩ := exists_course h
  obtain ⟨parts⟩ := course.exists_parts
  obtain ⟨rows, hrows, hrules, hkeys⟩ := course.exists_rules
  refine ⟨course, parts, rows, hrows, fun g hg hnumber hsome => ?_⟩
  obtain ⟨p, x, hname, hdeclares⟩ := parts.exists_declares hg
  have hregistry := parts.computed_registry
  have hsetting : course.setting.config.strict = false := by
    rw [Setting.of_config course.setting_eq]
    exact hlenient
  have hcontext : parts.computed.stage.calibrations.hasContext p.name = true := by
    rw [Registry.hasContext_iff, hregistry, hrules, hname]
    exact hsome
  have houtcome := Telemetry.attachContextCalibrators_outcome hsetting
    (parts.computed_owned.alone g.2 p hdeclares.get hcontext) (by rw [hregistry]; exact hkeys)
    hdeclares.find hdeclares.get (Registry.hasContext_iff.mp hcontext) hdeclares.declared hnumber
    parts.contextual_eq
  have hlist : parts.computed.stage.calibrations.contextRules p.name =
      Registry.rulesOf rows g.1.name := by
    rw [hregistry, hrules, hname]
  by_cases husable : ∀ rule ∈ Registry.rulesOf rows g.1.name, course.Usable rule
  · have hthere : ∀ rule ∈ Registry.rulesOf rows g.1.name,
        Telemetry.Usable parts.computed.database course.registry rule :=
      fun rule hrule => (parts.usable_iff rule).mpr (husable rule hrule)
    obtain ⟨cs, hcs, htype⟩ := houtcome.attached (by rw [hlist, hregistry]; exact hthere)
    rw [hlist, hregistry] at hcs
    rw [hdeclares.type] at htype
    obtain ⟨y, hy, hcalibrators⟩ := parts.keepsContexts g.2 cs ⟨_, htype, rfl⟩
    refine ⟨y, hy, fun _ raw => ?_, fun ⟨rule, hrule, hnot⟩ => absurd (husable rule hrule) hnot⟩
    rw [hcalibrators, ← parts.applies_eq]
    exact Telemetry.selectCalibrator?_contextCalibrators
      (fun rule hrule => Registry.value_of_mem_rulesOf hrule) hcs raw
  · have hnot : ¬ ∀ rule ∈ Registry.rulesOf rows g.1.name,
        Telemetry.Usable parts.computed.database course.registry rule :=
      fun hall => husable fun rule hrule => (parts.usable_iff rule).mp (hall rule hrule)
    obtain ⟨htype, u, v, e, hturn, herror⟩ :=
      houtcome.refused (by rw [hlist, hregistry]; exact hnot)
    rw [hdeclares.type] at htype
    obtain ⟨y, hy, hcalibrators⟩ := parts.keepsContexts g.2 [] ⟨x, htype, hdeclares.plain.contexts⟩
    refine ⟨y, hy, fun hall => absurd hall husable, fun _ => ⟨hcalibrators, u, v, e, ?_, herror⟩⟩
    rw [← hname]
    exact hturn

/-- A number with one rule, for the raw value 5 of another. -/
def oneRuleFiles : Files :=
  .ofTables "m" [
    ("vdf", "TEST\n"),
    ("mcf", "CAL\t\t2\n"),
    ("pcf", "Q\t\t\t\t3\t4\t\t\t\tN\tR\nP\t\t\t\t3\t4\t\t\t\tN\tR\n"),
    ("cur", "P\t1\tQ\t5\tCAL\n")]

/-- The calibrator is chosen for this raw value, and none without it. -/
theorem oneRule_selects :
    ∃ (out : Compiled) (course : Course { path := "m" } oneRuleFiles none out) (x : ParameterType)
      (c : Calibrator),
      compile { path := "m" } oneRuleFiles none = .ok out ∧
      out.database.typeOf? ⟨1⟩ = some x ∧ course.registry.numeric? "CAL" = some c ∧
      selectCalibrator? x.contextCalibrators
        (fun q => if q = ⟨0⟩ then some 5 else none) = some c ∧
      selectCalibrator? x.contextCalibrators (fun _ => none) = none := by
  have hok : ((compile { path := "m" } oneRuleFiles none).toOption.any fun _ =>
      (Setting.of { path := "m" } oneRuleFiles).toOption.any fun setting =>
      (after? (readVersion setting) ⟨{ name := "MIB" }, [], [], none⟩).any fun v =>
      (after? (loadCalibrations setting) ⟨v.database, v.errors, v.warnings, {}⟩).any fun d =>
      (Build.rows setting "pcf").toOption.any fun rows =>
      (Build.rows setting "cur").toOption.any fun records =>
      (d.stage.calibrations.numeric? "CAL").isSome &&
        decide ((Telemetry.givers setting rows d).map (fun g => (g.1.name, g.1.category, g.2)) =
            [("Q", 'N', ⟨0⟩), ("P", 'N', ⟨1⟩)] ∧
          (Registry.rulesOf records "P").map
            (fun rule => (rule.reference, rule.value, rule.select)) =
              [("Q", 5, "CAL")])) = true := by
    decide +kernel
  obtain ⟨out, hout, hok⟩ := (Option.any_eq_true _ _).mp hok
  obtain ⟨setting, hsetting, hok⟩ := (Option.any_eq_true _ _).mp hok
  obtain ⟨v, hv, hok⟩ := (Option.any_eq_true _ _).mp hok
  obtain ⟨d, hd, hok⟩ := (Option.any_eq_true _ _).mp hok
  obtain ⟨rows, hrows, hok⟩ := (Option.any_eq_true _ _).mp hok
  obtain ⟨records, hrecords, hok⟩ := (Option.any_eq_true _ _).mp hok
  obtain ⟨hcalibration, hok⟩ := (Bool.and_eq_true _ _).mp hok
  obtain ⟨hgivers, hrules⟩ := of_decide_eq_true hok
  obtain ⟨_, hv⟩ := after?_eq_some.mp hv
  obtain ⟨_, hd⟩ := after?_eq_some.mp hd
  have hrun := eq_ok_of_toOption hout
  obtain ⟨course, parts, records', hrecords', hselect⟩ := compile_contextSelection rfl hrun
  -- the course is that of the runs above
  obtain rfl := Except.ok.inj ((eq_ok_of_toOption hsetting).symm.trans course.setting_eq)
  cases hv.symm.trans course.version_eq
  cases hd.symm.trans course.calibrations_eq
  obtain rfl := Except.ok.inj ((eq_ok_of_toOption hrows).symm.trans course.rows_eq)
  obtain rfl := Except.ok.inj ((eq_ok_of_toOption hrecords).symm.trans hrecords')
  obtain ⟨c, hc⟩ := Option.isSome_iff_exists.mp hcalibration
  have hgivers : course.givers.map (fun g => (g.1.name, g.1.category, g.2)) =
      [("Q", 'N', ⟨0⟩), ("P", 'N', ⟨1⟩)] := hgivers
  obtain ⟨q, _, hlist, hq, hrest⟩ := List.map_eq_cons_iff.mp hgivers
  obtain ⟨p, _, rfl, hp, hrest⟩ := List.map_eq_cons_iff.mp hrest
  obtain rfl := List.map_eq_nil_iff.mp hrest
  obtain ⟨rule, _, hrules, hrule, hrest⟩ := List.map_eq_cons_iff.mp hrules
  obtain rfl := List.map_eq_nil_iff.mp hrest
  obtain ⟨hqname, -, hqplace⟩ : q.1.name = "Q" ∧ q.1.category = 'N' ∧ q.2 = ⟨0⟩ := by
    simpa using hq
  obtain ⟨hpname, hpcategory, hpplace⟩ : p.1.name = "P" ∧ p.1.category = 'N' ∧ p.2 = ⟨1⟩ := by
    simpa using hp
  obtain ⟨hreference, hvalue, hchoice⟩ :
      rule.reference = "Q" ∧ rule.value = 5 ∧ rule.select = "CAL" := by
    simpa using hrule
  have hmember (g : ParameterRecord × ParameterRef) (hg : g = q ∨ g = p) : g ∈ course.givers := by
    rw [hlist]
    simpa using hg
  obtain ⟨x, hx, hall, -⟩ := hselect p (hmember p (.inr rfl)) hpcategory
    (by rw [hpname, hrules]; exact List.cons_ne_nil _ _)
  rw [hpname, hrules] at hall
  have hchosen := hall fun rule' hrule' => by
    obtain rfl := List.mem_singleton.mp hrule'
    refine ⟨⟨q, hmember q (.inl rfl), hqname.trans hreference.symm⟩, ?_⟩
    rw [hchoice]
    exact hcalibration
  have happlies (raw : ParameterRef → Option Int) :
      course.applies raw rule = (raw ⟨0⟩ == some 5) := by
    unfold Course.applies
    rw [hlist, List.find?_cons_of_pos (by rw [hqname, hreference]; rfl), hvalue, ← hqplace]
    rfl
  refine ⟨out, course, x, c, hrun, hpplace ▸ hx, hc, ?_, ?_⟩
  · rw [hchosen, List.find?_cons_of_pos (by rw [happlies]; rfl)]
    exact (congrArg course.registry.numeric? hchoice).trans hc
  · rw [hchosen, List.find?_cons_of_neg (by rw [happlies]; decide)]
    rfl

end MissionBase
