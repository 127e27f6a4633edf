import MissionBase.Proofs.Commanding.Supplements
import MissionBase.Proofs.Course
import MissionBase.Proofs.Numeral

/-!
# Identifiers on board

An identifier on board is told in two ways: as an alias, which the latest registration decides, and
as a value of the enumerations of parameter identifiers, which are made by going through all
parameters once more. Both tell the last parameter that was declared with the identifier. What is
added after the declarations has no alias, so it makes no difference when either is asked, and
numbers are told apart by their texts.
-/

namespace MissionBase

open Run

/-! ## Identifiers that are kept -/

/-- A later database with the same aliases: what is added to the parameters has none. -/
structure Database.KeepsIdentifiers (db db' : Database) : Prop where
  owners : db'.aliasOwners = db.aliasOwners
  parameters : ∃ others, db'.parameters.toList.map Parameter.identity =
    db.parameters.toList.map Parameter.identity ++ others ∧ ∀ x ∈ others, x.2 = []

namespace Database.KeepsIdentifiers

variable {db db' : Database}

theorem of_eq (howners : db'.aliasOwners = db.aliasOwners)
    (hparameters : db'.parameters.toList.map Parameter.identity =
      db.parameters.toList.map Parameter.identity) : db.KeepsIdentifiers db' :=
  ⟨howners, [], by rw [hparameters, List.append_nil], nofun⟩

instance : Std.Refl Database.KeepsIdentifiers := ⟨fun _ => .of_eq rfl rfl⟩

instance : IsTrans Database Database.KeepsIdentifiers := by
  refine ⟨fun db db' db'' h h' => ⟨h'.owners.trans h.owners, ?_⟩⟩
  obtain ⟨others, heq, hnone⟩ := h.parameters
  obtain ⟨others', heq', hnone'⟩ := h'.parameters
  refine ⟨others ++ others', by rw [heq', heq, List.append_assoc], fun x hx => ?_⟩
  rcases List.mem_append.mp hx with hx | hx
  · exact hnone x hx
  · exact hnone' x hx

theorem of_supplement (h : Supplement db db') : db.KeepsIdentifiers db' := by
  cases h with
  | elsewhere _ hparameters howners _ => exact .of_eq howners (by rw [hparameters])
  | unsignedType size h =>
      obtain ⟨-, heq⟩ := Database.addParameterType_eq_ok.mp h
      cases heq
      exact .of_eq rfl rfl
  | @parameter _ _ p hnone h =>
      obtain ⟨-, heq⟩ := Database.addParameter_eq_ok.mp h
      cases heq
      refine ⟨?_, [p.identity], ?_, fun x hx => ?_⟩
      · rw [hnone]
        rfl
      · rw [Catalog.toList_push, List.map_append, List.map_singleton]
      · rw [List.mem_singleton.mp hx]
        exact hnone
  | argumentType _ => exact .of_eq rfl rfl

/-- Parameters stay at their places, with their names. -/
theorem parameter (h : db.KeepsIdentifiers db') {q : ParameterRef} {p : Parameter}
    (hp : db.parameters.get? q = some p) :
    ∃ p', db'.parameters.get? q = some p' ∧ p'.identity = p.identity := by
  obtain ⟨others, heq, -⟩ := h.parameters
  have hget (c : Catalog .parameter Parameter) :
      (c.toList.map Parameter.identity)[q.index]? = (c.get? q).map Parameter.identity := by
    rw [List.getElem?_map]
    exact congrArg _ (Array.getElem?_toList ..)
  have hlt : q.index < (db.parameters.toList.map Parameter.identity).length := by
    rw [List.length_map]
    exact Catalog.lt_size_of_get? hp
  have hsame := congrArg (·[q.index]?) heq
  rw [List.getElem?_append_left hlt, hget, hget, hp] at hsame
  exact Option.map_eq_some_iff.mp hsame

/-- A parameter that changes nothing but its type. -/
theorem of_retypes {q : ParameterRef} (h : Telemetry.Retypes db db' q) :
    db.KeepsIdentifiers db' := by
  obtain ⟨x, name, alarm, -, -, rfl⟩ := h
  exact .of_eq rfl (Catalog.map_toList_modify fun _ => rfl)

end Database.KeepsIdentifiers

/-! ## Who has an identifier -/

/-- The owners of identifiers with those of one more parameter. -/
def withIdentity (owners : Index Int String) (x : String × List Alias) : Index Int String :=
  (x.2.filter fun a => a.space == Telemetry.onBoardSpace).foldl (fun owners a =>
    match Text.int64? a.name.toList with
    | some id => owners.set id x.1
    | none => owners) owners

theorem onBoardIds_eq (db : Database) :
    db.onBoardIds = (db.parameters.toList.map Parameter.identity).foldl withIdentity {} := by
  rw [List.foldl_map]
  rfl

/-- Parameters without an alias have no identifier. -/
theorem foldl_withIdentity_of_nil {xs : List (String × List Alias)} (h : ∀ x ∈ xs, x.2 = [])
    (owners : Index Int String) : xs.foldl withIdentity owners = owners := by
  induction xs with
  | nil => rfl
  | cons x rest ih =>
      have hx : withIdentity owners x = owners := by
        rw [withIdentity, h x List.mem_cons_self]
        rfl
      rw [List.foldl_cons, hx]
      exact ih fun y hy => h y (List.mem_cons_of_mem x hy)

/-- **Where identifiers are kept, they have the same owners whichever way they are asked for.** -/
theorem Database.KeepsIdentifiers.onBoardIds {db db' : Database} (h : db.KeepsIdentifiers db') :
    db'.onBoardIds = db.onBoardIds := by
  obtain ⟨others, heq, hnone⟩ := h.parameters
  rw [onBoardIds_eq, onBoardIds_eq, heq, List.foldl_append, foldl_withIdentity_of_nil hnone]

/-- No identifier has two owners. -/
theorem nodup_keys_onBoardIds (db : Database) : db.onBoardIds.keys.Nodup := by
  have hset (x : String × List Alias) (owners : Index Int String) (h : owners.keys.Nodup) :
      (withIdentity owners x).keys.Nodup := by
    unfold withIdentity
    induction x.2.filter fun a => a.space == Telemetry.onBoardSpace generalizing owners with
    | nil => exact h
    | cons a rest ih =>
        rw [List.foldl_cons]
        refine ih _ ?_
        split
        · exact Index.nodup_keys_change h
        · exact h
  rw [onBoardIds_eq]
  have hall (xs : List (String × List Alias)) (owners : Index Int String)
      (h : owners.keys.Nodup) : (xs.foldl withIdentity owners).keys.Nodup := by
    induction xs generalizing owners with
    | nil => exact h
    | cons x rest ih => exact ih _ (hset x owners h)
  exact hall _ _ List.nodup_nil

/-! ## The last giver of an identifier -/

namespace Telemetry

/-- The last of the givers whose declaration has an identifier. -/
def lastGiver? (gs : List (ParameterRecord × ParameterRef)) (n : Int) :
    Option (ParameterRecord × ParameterRef) :=
  (gs.filter fun g => decide (g.1.onBoardId = some n)).getLast?

theorem lastGiver?_eq_find? (gs : List (ParameterRecord × ParameterRef)) (n : Int) :
    lastGiver? gs n = gs.reverse.find? fun g => decide (g.1.onBoardId = some n) := by
  rw [lastGiver?, List.getLast?_eq_head?_reverse, ← List.filter_reverse, List.head?_filter]

/-- The latest alias with the text of a number is that of the last giver of the number. -/
theorem find?_owners (gs : List (ParameterRecord × ParameterRef)) (n : Int) :
    ((gs.flatMap fun g => g.1.aliases.map (·, g.2)).find? fun o =>
        o.1 == ⟨onBoardSpace, toString n⟩).map (·.2) =
      (gs.find? fun g => decide (g.1.onBoardId = some n)).map (·.2) := by
  induction gs with
  | nil => rfl
  | cons g rest ih =>
      rw [List.flatMap_cons, List.find?_append, List.find?_cons]
      cases hid : g.1.onBoardId with
      | none =>
          rw [ParameterRecord.aliases, hid]
          simpa using ih
      | some id =>
          rw [ParameterRecord.aliases, hid]
          by_cases hn : id = n
          · subst hn
            simp
          · have hne : (⟨onBoardSpace, toString id⟩ : Alias) ≠ ⟨onBoardSpace, toString n⟩ := by
              intro heq
              exact hn (Text.toString_int_injective (congrArg Alias.name heq))
            simpa [hn, hne] using ih

/-- **The owner of an alias is what its last giver gives.** -/
theorem Given.ownerOf? {gs : List (ParameterRecord × ParameterRef)} {d : Draft TelemetryState}
    (h : Given gs d) (n : Int) :
    d.database.ownerOf? ⟨onBoardSpace, toString n⟩ = (lastGiver? gs n).map (·.2) := by
  unfold Database.ownerOf?
  rw [h.owners, find?_owners, lastGiver?_eq_find?]

/-- The declarations are read from records. -/
theorem ofRow_of_mem_givers {setting : Setting} {rows : List Row} {d : Draft TelemetryState}
    {g : ParameterRecord × ParameterRef} (hg : g ∈ givers setting rows d) :
    ∃ row, ParameterRecord.ofRow row setting.config.telemetry.sizeTagBytes = .ok g.1 := by
  induction rows generalizing d with
  | nil => cases hg
  | cons row rest ih =>
      rw [givers, List.mem_append] at hg
      rcases hg with hg | hg
      · refine ⟨row, ?_⟩
        rw [Option.mem_toList] at hg
        unfold giver? at hg
        split at hg
        · rename_i r t hr _
          split at hg
          · cases hg
          · cases hg
            exact hr
        · cases hg
      · split at hg
        · exact ih hg
        · cases hg

end Telemetry

/-- An identifier is a number of 64 bits, since it has been read. -/
theorem ParameterRecord.onBoardId_range {row : Row} {tag : Int} {r : ParameterRecord}
    (h : ParameterRecord.ofRow row tag = .ok r) {id : Int} (hid : r.onBoardId = some id) :
    -9223372036854775808 ≤ id ∧ id ≤ 9223372036854775807 := by
  unfold ParameterRecord.ofRow at h
  obtain ⟨_, -, h⟩ := except_bind_eq_ok.mp h
  obtain ⟨_, -, h⟩ := except_bind_eq_ok.mp h
  dsimp only at h
  split at h
  · cases h
  · obtain ⟨read, hread, h⟩ := except_bind_eq_ok.mp h
    obtain ⟨_, -, h⟩ := except_bind_eq_ok.mp h
    obtain ⟨_, -, h⟩ := except_bind_eq_ok.mp h
    obtain ⟨_, -, h⟩ := except_bind_eq_ok.mp h
    cases h
    cases hid
    unfold Row.int? Row.get? at hread
    split at hread
    · rename_i v _
      unfold Row.read at hread
      split at hread
      · rename_i x hx
        cases hread
        exact Text.int64?_eq_some hx
      · cases hread
    · cases hread

namespace Telemetry

/-- The owners of identifiers are those that the last givers name. -/
theorem find?_foldl_withIdentity {gs : List (ParameterRecord × ParameterRef)}
    (hrange : ∀ g ∈ gs, ∀ id, g.1.onBoardId = some id →
      -9223372036854775808 ≤ id ∧ id ≤ 9223372036854775807)
    (owners : Index Int String) (n : Int) :
    ((gs.map fun g => (g.1.name, g.1.aliases)).foldl withIdentity owners).find? n =
      ((lastGiver? gs n).map (·.1.name)).or (owners.find? n) := by
  induction gs generalizing owners with
  | nil => rfl
  | cons g rest ih =>
      have ih' := ih (fun g' hg' => hrange g' (List.mem_cons_of_mem g hg'))
      rw [List.map_cons, List.foldl_cons, ih', lastGiver?, lastGiver?]
      cases hid : g.1.onBoardId with
      | none =>
          have hsame : withIdentity owners (g.1.name, g.1.aliases) = owners := by
            rw [ParameterRecord.aliases, hid]
            rfl
          rw [hsame, List.filter_cons_of_neg (by simp [hid])]
      | some id =>
          have hset : withIdentity owners (g.1.name, g.1.aliases) = owners.set id g.1.name := by
            have hread := Text.int64?_toString (hrange g List.mem_cons_self id hid)
            rw [ParameterRecord.aliases, hid]
            show (match Text.int64? (toString id).toList with
              | some id => owners.set id g.1.name
              | none => owners) = _
            rw [hread]
          rw [hset]
          by_cases hn : id = n
          · subst hn
            rw [Index.find?_set_self, List.filter_cons_of_pos (by simp [hid]), List.getLast?_cons]
            cases (rest.filter fun g => decide (g.1.onBoardId = some id)).getLast? <;> rfl
          · rw [Index.find?_set_of_ne _ (Ne.symm hn),
              List.filter_cons_of_neg (by simpa [hid] using hn)]

end Telemetry

/-! ## The labels of identifiers -/

/-- The labels of an enumeration of parameter identifiers: every identifier that has an owner has
the name of the owner, and there are no others. -/
structure Labels.OfOwners (db : Database) (labels : Labels) : Prop where
  ranges : labels.ranges = []
  ascending : labels.values.Pairwise fun a b => a.value < b.value
  mem_iff : ∀ n label, ⟨n, label⟩ ∈ labels.values ↔
    ∃ q p, db.ownerOf? ⟨Telemetry.onBoardSpace, toString n⟩ = some q ∧
      db.parameters.get? q = some p ∧ p.name = label

theorem mem_identifierLabels {db : Database} {n : Int} {label : String} :
    ⟨n, label⟩ ∈ db.identifierLabels.values ↔ db.onBoardIds.find? n = some label := by
  have hperm := Index.sortByKey_perm (·.1) db.onBoardIds.entries
  unfold Database.identifierLabels
  rw [List.mem_map]
  constructor
  · rintro ⟨⟨m, name⟩, hmem, heq⟩
    cases heq
    exact Index.find?_of_mem (nodup_keys_onBoardIds db) (hperm.mem_iff.mp hmem)
  · intro hfind
    exact ⟨(n, label), hperm.mem_iff.mpr (Index.mem_of_find? hfind), rfl⟩

/-- Sorted values that are all different ascend. -/
theorem identifierLabels_ascending (db : Database) :
    db.identifierLabels.values.Pairwise fun a b => a.value < b.value := by
  have hnodup : ((Index.sortByKey (·.1) db.onBoardIds.entries).map (·.1)).Nodup :=
    ((Index.sortByKey_perm (·.1) _).map _).nodup_iff.mpr (nodup_keys_onBoardIds db)
  unfold Database.identifierLabels
  rw [List.pairwise_map]
  refine ((Index.pairwise_sortByKey _).and (List.pairwise_map.mp hnodup)).imp fun h => ?_
  exact lt_of_le_of_ne h.1 h.2

namespace Telemetry

variable {gs : List (ParameterRecord × ParameterRef)} {d : Draft TelemetryState}

/-- A giver names its parameter for good. -/
theorem Given.parameterKept (h : Given gs d) {db : Database}
    (hkeeps : d.database.KeepsIdentifiers db) {g : ParameterRecord × ParameterRef} (hg : g ∈ gs) :
    ∃ p, db.parameters.get? g.2 = some p ∧ p.name = g.1.name := by
  obtain ⟨p, hp, hname⟩ := h.parameter hg
  obtain ⟨p', hp', hidentity⟩ := hkeeps.parameter hp
  exact ⟨p', hp', (congrArg Prod.fst hidentity).trans hname⟩

/-- **The labels are those of the owners**: going through the parameters finds the last giver of an
identifier, and so does its alias. -/
theorem Given.labels (h : Given gs d) {db : Database} (hkeeps : d.database.KeepsIdentifiers db)
    (hrange : ∀ g ∈ gs, ∀ id, g.1.onBoardId = some id →
      -9223372036854775808 ≤ id ∧ id ≤ 9223372036854775807) :
    db.identifierLabels.OfOwners db where
  ranges := rfl
  ascending := identifierLabels_ascending db
  mem_iff := by
    intro n label
    have howner : db.ownerOf? ⟨onBoardSpace, toString n⟩ = (lastGiver? gs n).map (·.2) := by
      rw [← h.ownerOf?, Database.ownerOf?, hkeeps.owners]
      rfl
    rw [mem_identifierLabels, hkeeps.onBoardIds, onBoardIds_eq, h.parameters,
      find?_foldl_withIdentity hrange, howner]
    cases hlast : lastGiver? gs n with
    | none => simp [Index.find?]
    | some g =>
        obtain ⟨p, hp, hname⟩ := h.parameterKept hkeeps
          (List.mem_filter.mp (List.mem_of_getLast? hlast)).1
        show some g.1.name = some label ↔ _
        constructor
        · intro hlabel
          exact ⟨g.2, p, rfl, hp, hname.trans (Option.some.inj hlabel)⟩
        · rintro ⟨q, p', hq, hp', rfl⟩
          rw [← Option.some.inj hq] at hp'
          cases hp.symm.trans hp'
          rw [hname]

/-! ## The rest of the telemetry stage -/

/-- A step that keeps identifiers. -/
abbrev Identifying {σ : Type} : Draft σ → Draft σ → Prop := OnDatabase Database.KeepsIdentifiers

theorem identifying_of_supplies {σ τ α : Type} {key : σ → τ} {x : Build σ α}
    (h : Steps (Supplies key) x) : Steps Identifying x :=
  steps_of_supplies (fun _ _ => .of_supplement) h

theorem identifying_attachContexts (name : String) : Steps Identifying (attachContexts name) := by
  refine fun d => (attachContexts_ends name d).mono (fun _ t _ ht => ?_) fun t ht => ?_
  · obtain rfl | ⟨_, _, _, -, -, -, -, rfl⟩ := ht
    · exact Std.Refl.refl t
    · exact .of_eq rfl rfl
  · rw [ht]
    exact Std.Refl.refl d

theorem identifying_attachContextCalibrators {setting : Setting} :
    Steps Identifying (attachContextCalibrators setting) := by
  unfold attachContextCalibrators
  refine steps_stage.bind fun state => steps_forM (fun name => ?_) _
  exact (identifying_attachContexts name).recover fun _ _ => .of_eq rfl rfl

end Telemetry

/-- **What comes after the declarations keeps identifiers.** -/
theorem Course.given {config : Config} {files : Files} {compiler : Option FormulaCompiler}
    {out : Compiled} (course : Course config files compiler out) :
    ∃ d : Draft TelemetryState, Telemetry.Given course.givers d ∧
      d.database.KeepsIdentifiers course.telemetry.database := by
  obtain ⟨parts⟩ := course.exists_parts
  refine ⟨parts.declared, Telemetry.declareAll_given course.given_nil parts.declared_eq, ?_⟩
  have hsynthetic := (Telemetry.identifying_of_supplies
    (Telemetry.tracks_compileSynthetic Telemetry.supplying_tracks supplies_addAlgorithm
      compiler)).of_ok parts.computed_eq
  have hcontexts := Telemetry.identifying_attachContextCalibrators.of_ok parts.contextual_eq
  have hpackets :=
    (Telemetry.identifying_of_supplies Telemetry.supplies_beforeLimits).of_ok parts.laidOut_eq
  have hlimits := (Telemetry.steps_attachAll
    (fun _ _ _ => Database.KeepsIdentifiers.of_retypes) parts.limits).of_ok parts.telemetry_eq
  exact IsTrans.trans _ _ _ (IsTrans.trans _ _ _ hsynthetic hcontexts)
    (IsTrans.trans _ _ _ hpackets hlimits)

/-! ## The command stage -/

namespace Commanding

variable {setting : Setting} {d t : Draft CommandingState}

/-- The enumerations of parameter identifiers have the labels of the database. -/
def Labelled (d : Draft CommandingState) : Prop :=
  ∀ pfc r, d.stage.identifierTypes.find? pfc = some r →
    ∃ type, d.database.argumentTypes.get? r = some type ∧
      type.value = .enumerated d.database.identifierLabels

/-- A step that keeps identifiers, and the enumerations that there are. -/
structure Labelling (d t : Draft CommandingState) : Prop where
  identifiers : d.database.KeepsIdentifiers t.database
  recorded : ∀ pfc r, d.stage.identifierTypes.find? pfc = some r →
    t.stage.identifierTypes.find? pfc = some r
  labelled : Labelled d → Labelled t

theorem labels_eq_of_keeps {db db' : Database} (h : db.KeepsIdentifiers db') :
    db'.identifierLabels = db.identifierLabels := by
  unfold Database.identifierLabels
  rw [h.onBoardIds]

/-- **Every addition of the stage keeps the labels of identifiers.** -/
theorem Furnish.labelling (h : Furnish d t) : Labelling d t := by
  cases h with
  | supplying h =>
      have hkeeps : d.database.KeepsIdentifiers t.database :=
        Supplement.induct h.database fun _ _ => .of_supplement
      refine ⟨hkeeps, fun pfc r hr => h.stage ▸ hr, fun hlabelled pfc r hr => ?_⟩
      obtain ⟨type, htype, hvalue⟩ := hlabelled pfc r (h.stage ▸ hr)
      exact ⟨type, (Furnish.supplying h).argumentType htype,
        by rw [hvalue, labels_eq_of_keeps hkeeps]⟩
  | @identifiers pfc type hnone _ hvalue =>
      refine ⟨.of_eq rfl rfl, fun pfc' r hr => ?_, fun hlabelled pfc' r hr => ?_⟩
      · show (d.stage.identifierTypes.set pfc d.database.argumentTypes.next).find? pfc' = some r
        have hpfc : pfc' ≠ pfc := by
          rintro rfl
          rw [hnone] at hr
          cases hr
        rw [Index.find?_set_of_ne _ hpfc]
        exact hr
      · change (d.stage.identifierTypes.set pfc d.database.argumentTypes.next).find? pfc' =
          some r at hr
        by_cases hpfc : pfc' = pfc
        · rw [hpfc, Index.find?_set_self] at hr
          cases hr
          exact ⟨_, Catalog.get?_push_next d.database.argumentTypes _, hvalue⟩
        · rw [Index.find?_set_of_ne _ hpfc] at hr
          obtain ⟨type', htype, hvalue'⟩ := hlabelled pfc' r hr
          exact ⟨type', Catalog.get?_push_of_some htype _, hvalue'⟩

theorem Furnishing.labelling (h : Furnishing d t) : Labelling d t := by
  induction h with
  | refl => exact ⟨Std.Refl.refl _, fun _ _ => id, id⟩
  | tail _ hstep ih =>
      have hlast := hstep.labelling
      exact ⟨IsTrans.trans _ _ _ ih.identifiers hlast.identifiers,
        fun pfc r hr => hlast.recorded pfc r (ih.recorded pfc r hr),
        fun h => hlast.labelled (ih.labelled h)⟩

/-- An argument with parameter identifiers takes the enumeration of its format. -/
theorem find?_of_argumentTypeFor {p : CommandParameter} {tag : Int} {r : ArgumentTypeRef}
    (hcategory : p.category = 'P') (h : argumentTypeFor setting p tag d = .ok r t) :
    t.stage.identifierTypes.find? p.pfc = some r := by
  have hends : Ends (argumentTypeFor setting p tag) d
      (fun r t => t.stage.identifierTypes.find? p.pfc = some r) fun _ => True :=
    ends_argumentTypeFor
      (fun _ => ends_identifierType trivial (fun _ _ hfind => hfind)
        fun _ _ _ _ => Index.find?_set_self _ _ _)
      trivial (fun hother => (hother hcategory).elim) fun hother => (hother hcategory).elim
  exact hends.of_ok h

end Commanding

/-! ## The whole pass -/

/-- A place holds an enumeration of parameter identifiers: its labels are those of the owners. -/
def Database.Identifies (db : Database) (r : ArgumentTypeRef) : Prop :=
  ∃ type labels, db.argumentTypes.get? r = some type ∧ type.value = .enumerated labels ∧
    labels.OfOwners db

section

variable {config : Config} {files : Files} {compiler : Option FormulaCompiler} {out : Compiled}

/-- The givers of a course say what its database holds of identifiers. -/
theorem Course.kept (course : Course config files compiler out) :
    ∃ d : Draft TelemetryState, Telemetry.Given course.givers d ∧
      d.database.KeepsIdentifiers out.database := by
  obtain ⟨d, hgiven, hkeeps⟩ := course.given
  have hcommands := (Commanding.furnishes_buildCommands.of_ok course.commanding_eq).labelling
  rw [course.database_eq]
  exact ⟨d, hgiven, IsTrans.trans _ _ _ hkeeps hcommands.identifiers⟩

/-- The enumerations of parameter identifiers have the labels of the owners. -/
theorem Course.identifies (course : Course config files compiler out) {pfc : Int}
    {r : ArgumentTypeRef} (hr : course.commanding.stage.identifierTypes.find? pfc = some r) :
    out.database.Identifies r := by
  obtain ⟨d, hgiven, hkeeps⟩ := course.kept
  have hcommands := (Commanding.furnishes_buildCommands.of_ok course.commanding_eq).labelling
  obtain ⟨type, htype, hvalue⟩ := hcommands.labelled (fun _ _ h => by cases h) pfc r hr
  rw [← course.database_eq] at htype hvalue
  refine ⟨type, _, htype, hvalue, hgiven.labels hkeeps fun g hg id hid => ?_⟩
  obtain ⟨row, hrow⟩ := Telemetry.ofRow_of_mem_givers hg
  exact ParameterRecord.onBoardId_range hrow hid

/-- **An identifier on board has one owner everywhere**: the alias with the text of a number belongs
to the parameter of the last giver of that number, and to no other, and the type that an argument
with parameter identifiers takes has a label for each number with an owner, in ascending order,
which is the name of the owner. -/
theorem compile_identifiers (h : compile config files compiler = .ok out) :
    ∃ course : Course config files compiler out,
      (∀ n : Int, out.database.ownerOf? ⟨Telemetry.onBoardSpace, toString n⟩ =
        (Telemetry.lastGiver? course.givers n).map (·.2)) ∧
      (∀ g ∈ course.givers, ∃ p, out.database.parameters.get? g.2 = some p ∧
        p.name = g.1.name) ∧
      (∀ pfc r, course.commanding.stage.identifierTypes.find? pfc = some r →
        out.database.Identifies r) ∧
      ∀ p tag d r d', p.category = 'P' →
        Commanding.argumentTypeFor course.setting p tag d = .ok r d' →
        Commanding.Furnishing d' course.commanding → out.database.Identifies r := by
  obtain ⟨course⟩ := exists_course h
  obtain ⟨declared, hgiven, hkeeps⟩ := course.kept
  refine ⟨course, fun n => ?_, fun g hg => hgiven.parameterKept hkeeps hg,
    fun _ _ => course.identifies, fun p tag d r d' hcategory htype hrest => ?_⟩
  · rw [← hgiven.ownerOf?, Database.ownerOf?, hkeeps.owners]
    rfl
  · have hfound := Commanding.find?_of_argumentTypeFor hcategory htype
    exact course.identifies (hrest.labelling.recorded _ _ hfound)

end

/-- Two parameters with one identifier, and a command with an argument for parameter identifiers. -/
def repeatedIdentifierFiles : Files :=
  .ofTables "m" [
    ("vdf", "TEST\n"),
    ("pcf", "A\t\t7\t\t3\t4\t\t\t\tN\tR\nB\t\t7\t\t3\t4\t\t\t\tN\tR\n"),
    ("cpc", "P\t\t3\t4\t\t\t\tP\n"),
    ("cdf", "CMD\tE\t\t8\t0\t0\tP\n"),
    ("ccf", "CMD\ta command\t\t\tN\tNOHEADER\n")]

/-- The second of the parameters has the identifier. -/
theorem repeatedIdentifier_owner :
    ∃ (out : Compiled) (course : Course { path := "m" } repeatedIdentifierFiles none out),
      compile { path := "m" } repeatedIdentifierFiles none = .ok out ∧
      out.database.ownerOf? ⟨Telemetry.onBoardSpace, toString (7 : Int)⟩ = some ⟨1⟩ ∧
      (Telemetry.lastGiver? course.givers 7).map (·.2) = some ⟨1⟩ := by
  have hok : ((compile { path := "m" } repeatedIdentifierFiles none).toOption.any fun out =>
      decide (out.database.ownerOf? ⟨Telemetry.onBoardSpace, toString (7 : Int)⟩ =
        some ⟨1⟩)) = true := by
    decide +kernel
  obtain ⟨out, hout, howner⟩ := (Option.any_eq_true _ _).mp hok
  have hrun := eq_ok_of_toOption hout
  obtain ⟨course, howners, -⟩ := compile_identifiers hrun
  exact ⟨out, course, hrun, of_decide_eq_true howner,
    (howners 7).symm.trans (of_decide_eq_true howner)⟩

end MissionBase
