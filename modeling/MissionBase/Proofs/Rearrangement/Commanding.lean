import MissionBase.Proofs.Commanding.FirstElement
import MissionBase.Proofs.Rearrangement.Telemetry

/-!
# The command stage on rearranged tables

The states of two runs differ in decalibrations that are alike, and in the places of elements. The
elements of a command are placed by bit, so that its arguments, their types and its errors come out
the same, but for the places that errors tell.
-/

namespace MissionBase

open Run Leniency Rearrangement

variable {setting : Setting} {files : Files}

/-! ## Elements -/

namespace CommandElement

/-- An element without its place. -/
def unplaced (e : CommandElement) : CommandElement := { e with location := .nowhere }

theorem exists_of_unplaced {e e' : CommandElement} (h : e.unplaced = e'.unplaced) :
    ∃ l, e' = { e with location := l } := by
  cases e
  cases e'
  simp only [unplaced, mk.injEq, true_and] at h
  obtain ⟨rfl, rfl, rfl, rfl, rfl, rfl, rfl, rfl, rfl, rfl⟩ := h
  exact ⟨_, rfl⟩

theorem agree_required {α : Type} {e e' : Error} (h : e.unplaced = e'.unplaced) (x : Option α) :
    Agree Eq (required e x) (required e' x) := by
  cases x with
  | some a => exact .ok rfl
  | none => exact .error h

theorem agree_ofRow (row : Row) (sizeTagBytes : Int) :
    Agree (fun e e' => unplaced e = unplaced e') (ofRow row sizeTagBytes)
      (ofRow row.unplaced sizeTagBytes) := by
  refine (row.agree_require _).bind fun _ => ?_
  refine Agree.bind (agree_required (by rfl) _) fun kind => Agree.unless rfl ?_
  refine Agree.bind (agree_required (by rfl) _) fun origin => ?_
  refine (row.agree_getD _ _ _ _).bind fun groupSize => Agree.unless rfl ?_
  refine (row.agree_get _ _ _).bind fun size => Agree.unless rfl ?_
  exact (row.agree_get _ _ _).bind fun bit => (row.agree_getD _ _ _ _).bind fun tag => .ok rfl

/-- The bit of an element is read from a column. -/
theorem bit_of_ofRow {row : Row} {sizeTagBytes : Int} {e : CommandElement}
    (h : ofRow row sizeTagBytes = .ok e) : row.int 4 = .ok e.bit := by
  obtain ⟨-, -, h⟩ := except_bind_eq_ok.mp h
  obtain ⟨kind, -, h⟩ := except_bind_eq_ok.mp h
  dsimp only at h
  split at h
  · cases h
  obtain ⟨origin, -, h⟩ := except_bind_eq_ok.mp h
  obtain ⟨groupSize, -, h⟩ := except_bind_eq_ok.mp h
  split at h
  · cases h
  obtain ⟨size, -, h⟩ := except_bind_eq_ok.mp h
  split at h
  · cases h
  obtain ⟨bit, hbit, h⟩ := except_bind_eq_ok.mp h
  obtain ⟨tag, -, h⟩ := except_bind_eq_ok.mp h
  cases h
  exact hbit

end CommandElement

namespace Commanding

/-- The element that a record gives to a command, where the command parameters are known. -/
def elementOfRow (known : String → Bool) (sizeTagBytes : Int) (row : Row) :
    Except Error (Option (String × CommandElement)) := do
  let command ← row.text 0
  if !isBinaryCommand command then
    let element ← CommandElement.ofRow row sizeTagBytes
    match element.parameter with
    | some name =>
      if element.isArgument && !known name then
        throw (row.reference s!"CDF references unknown command parameter '{name}'")
    | none => pure ()
    return some (command, element)
  else return none

/-- The elements of commands, by bit. -/
def elementTable (known : String → Bool) (sizeTagBytes : Int) : KeyedTable CommandElement where
  read := elementOfRow known sizeTagBytes
  key := (·.bit)
  view := CommandElement.unplaced
  keyOf := columnKey 4
  key_view _ := rfl
  keyed {row owner e} h := by
    obtain ⟨command, hcommand, h⟩ := except_bind_eq_ok.mp h
    split at h
    · obtain ⟨element, helement, h⟩ := except_bind_eq_ok.mp h
      have hbit := CommandElement.bit_of_ofRow helement
      dsimp only at h
      split at h
      · split at h
        · cases h
        · cases h
          exact columnKey_eq hcommand hbit
      · cases h
        exact columnKey_eq hcommand hbit
    · cases h
  placeless row := by
    refine (row.agree_text _).bind fun command => Agree.ite ?_ (.ok rfl)
    refine agree_bind (CommandElement.agree_ofRow row _) fun e e' he => ?_
    have hitem := congrArg (fun e => some (command, e)) he
    obtain ⟨l, rfl⟩ := CommandElement.exists_of_unplaced he
    dsimp only
    split
    · exact Agree.unless rfl (.ok hitem)
    · exact .ok hitem
  mild row := by
    refine (row.mild_text _).bind fun command => Mild.ite ?_ mild_ok
    refine (CommandElement.mild_ofRow row _).bind fun e => ?_
    cases e.parameter with
    | some name => exact Mild.unless rfl mild_ok
    | none => exact mild_ok

end Commanding

/-- Two indexes with the same elements of every command, but for their places. -/
def ElementsAlike (elements elements' : Index String (List CommandElement)) : Prop :=
  ∀ command, (elements.find? command).map (List.map CommandElement.unplaced) =
    (elements'.find? command).map (List.map CommandElement.unplaced)

/-- Two states that differ in calibrations and in elements, which are alike. -/
def CommandingState.Alike (s s' : CommandingState) : Prop :=
  ∃ calibrations elements, s.calibrations.Alike calibrations ∧ ElementsAlike s.elements elements ∧
    s' = { s with calibrations := calibrations, elements := elements }

namespace CommandingState

variable {α : Type}

/-- What does not look at calibrations and elements goes on in the same way. -/
theorem blind_stage {f : CommandingState → CommandingBuild α}
    (hf : ∀ s calibrations elements,
      f { s with calibrations := calibrations, elements := elements } = f s)
    (h : ∀ s, Blind Alike (f s)) : Blind Alike (Build.stage >>= f) := by
  refine paired_stage fun s s' hs => ?_
  obtain ⟨calibrations, elements, -, -, rfl⟩ := hs
  rw [hf s calibrations elements]
  exact h s

/-- A change of something else does not show them, and leaves them as they are. -/
theorem blind_changeStage {change : CommandingState → CommandingState}
    (h : ∀ s calibrations elements,
      change { s with calibrations := calibrations, elements := elements } =
        { change s with calibrations := calibrations, elements := elements } ∧
      (change s).calibrations = s.calibrations ∧ (change s).elements = s.elements) :
    Blind Alike (Build.changeStage change) := by
  refine paired_changeStage fun s s' hs => ?_
  obtain ⟨calibrations, elements, hcalibrations, helements, rfl⟩ := hs
  obtain ⟨hchange, h₁, h₂⟩ := h s calibrations elements
  rw [hchange]
  refine ⟨calibrations, elements, ?_, ?_, rfl⟩
  · rwa [h₁]
  · rwa [h₂]

end CommandingState

namespace Commanding

open CommandingState

/-! ## Headers and command parameters -/

theorem blind_headerItem (row : Row) (header : String) (command : CommandRef) (size : Nat) :
    Blind Alike (headerItem row header command size) := by
  unfold headerItem
  dsimp only
  refine Paired.ite ?_ (Paired.ite (blind_pure _) ?_)
  · exact (blind_lift _).bind fun _ => (blind_lift _).bind fun _ => blind_pure _
  · split
    · refine (blind_lift _).bind fun name => blind_stage (fun _ _ _ => rfl) fun state => ?_
      split
      · exact blind_throw _
      · rename_i argument _
        have htype : Blind Alike (headerArgumentType row name argument size) := by
          unfold headerArgumentType
          split
          · exact Paired.ite (blind_pure _) (blind_throw _)
          · refine blind_database.bind fun _ => (blind_changeDatabase _).bind fun _ => ?_
            exact Paired.bind (blind_changeStage fun _ _ _ => ⟨rfl, rfl, rfl⟩) fun _ => blind_pure _
        refine htype.bind fun type => (blind_changeDatabase _).bind fun _ => ?_
        exact Paired.bind (blind_changeStage fun _ _ _ => ⟨rfl, rfl, rfl⟩) fun _ => blind_pure _
    · exact blind_throw _

theorem similar_loadHeaders (h : setting.config.Rearranges setting.files files) :
    Similar Alike (loadHeaders setting) (loadHeaders { setting with files := files }) := by
  refine (similar_scanKept h (by decide) (by decide) fun row => ?_).bind fun _ => ?_
  · refine (blind_lift _).bind fun _ => (blind_lift _).bind fun _ => ?_
    refine blind_stage (fun _ _ _ => rfl) fun _ => Similar.unless rfl ?_
    exact (blind_add _ _).bind fun _ => blind_changeStage fun _ _ _ => ⟨rfl, rfl, rfl⟩
  refine (similar_scanKept h (by decide) (by decide) fun row => ?_).bind fun _ => ?_
  · refine (blind_lift _).bind fun _ => (blind_lift _).bind fun _ => ?_
    refine blind_stage (fun _ _ _ => rfl) fun _ => Similar.unless rfl (Similar.unless rfl ?_)
    exact (blind_lift _).bind fun _ => blind_changeStage fun _ _ _ => ⟨rfl, rfl, rfl⟩
  refine (similar_scanKept h (by decide) (by decide) fun row => ?_).bind fun _ => blind_pure _
  refine (blind_lift _).bind fun _ => (blind_lift _).bind fun header => ?_
  refine blind_stage (fun _ _ _ => rfl) fun state => ?_
  split
  · exact blind_throw _
  · exact (blind_lift _).bind fun size => (blind_lift _).bind fun bit =>
      (blind_headerItem row header _ size).bind fun _ => blind_changeDatabase _

theorem similar_loadParameters (h : setting.config.Rearranges setting.files files) :
    Similar Alike (loadParameters setting) (loadParameters { setting with files := files }) := by
  refine (similar_scanKept h (by decide) (by decide) fun row => ?_).bind fun _ => blind_pure _
  refine (blind_lift _).bind fun p => blind_stage (fun _ _ _ => rfl) fun state => ?_
  exact Similar.unless rfl (blind_changeStage fun _ _ _ => ⟨rfl, rfl, rfl⟩)

/-! ## Loading the elements -/

theorem declareElement_eq {known : String → Bool} {row : Row} {d : Draft CommandingState}
    (h : ∀ name, d.stage.parameters.has name = known name) :
    declareElement setting row d =
      (elementTable known setting.config.command.sizeTagBytes).outcome
        (fun s x => { s with elements := s.elements.append x.1 x.2 }) row d := by
  unfold declareElement KeyedTable.outcome elementTable elementOfRow
  dsimp only
  cases row.text 0 with
  | error e => rfl
  | ok command =>
      refine (bind_of_ok (a := command) (t := d) rfl).trans ?_
      dsimp only [bind, Except.bind]
      cases isBinaryCommand command with
      | true => rfl
      | false =>
          simp only [Bool.not_false, if_true]
          cases CommandElement.ofRow row setting.config.command.sizeTagBytes with
          | error e => rfl
          | ok element =>
              refine (bind_of_ok (a := element) (t := d) rfl).trans ?_
              refine (bind_of_ok (x := Build.stage) (a := d.stage) (t := d) rfl).trans ?_
              dsimp only
              cases element.parameter with
              | none => rfl
              | some name =>
                  dsimp only
                  rw [h name]
                  cases element.isArgument && !known name <;> rfl

/-- The elements of rearranged records are alike once they are sorted. -/
theorem carries_loadElements (hlenient : setting.config.strict = false)
    (h : setting.config.Rearranges setting.files files) :
    Carries Alike Alike (loadElements setting) (loadElements { setting with files := files }) := by
  have hscan (known : String → Bool) :
      Carries (fun s s' => Alike s s' ∧ ∀ name, s.parameters.has name = known name)
        (fun s s' => Alike { s with elements := s.elements.sortLists (·.bit) }
          { s' with elements := s'.elements.sortLists (·.bit) })
        (Build.scan setting "cdf" (declareElement setting))
        (Build.scan { setting with files := files } "cdf" (declareElement setting)) := by
    refine (elementTable known _).carries_scan
      (P := fun s : CommandingState => ∀ name, s.parameters.has name = known name) hlenient
      h.elements (fun row d hd => declareElement_eq hd) (fun row d hd => declareElement_eq hd)
      (fun _ _ hs => hs) ?_ ?_
    · rintro s _ ⟨⟨calibrations, elements, -, -, rfl⟩, hknown⟩
      exact ⟨hknown, hknown⟩
    · rintro s _ items items' ⟨⟨calibrations, elements, hcalibrations, helements, rfl⟩, -⟩ hitems
      have hput (s : CommandingState) (l : List (String × CommandElement)) :
          l.foldl (fun s x => { s with elements := s.elements.append x.1 x.2 }) s =
            { s with elements := s.elements.gather l } :=
        List.foldl_hom (fun elements => ({ s with elements := elements } : CommandingState))
          fun _ _ => rfl
      rw [hput, hput]
      refine ⟨calibrations, _, hcalibrations, fun command => ?_, rfl⟩
      exact Index.find?_sortLists_gather (elementTable known 0).key_view hitems command
        (helements command)
  refine Paired.bind (fun d d' hd => ?_) fun _ => paired_changeStage fun _ _ hs => hs
  -- what is known does not change while the elements are read
  exact hscan d.stage.parameters.has d d' (hd.mono fun hs => ⟨hs, fun _ => rfl⟩)

end Commanding

/-! ## Types of arguments -/

/-- **Decalibrations that are alike give the same type.** -/
theorem CommandParameter.buildType_alike (p : CommandParameter) (epoch : Epoch)
    {calibrations calibrations' : Registry} (h : calibrations.Alike calibrations')
    (sizeTagBytes : Int) :
    p.buildType epoch calibrations' sizeTagBytes = p.buildType epoch calibrations sizeTagBytes := by
  have hdecalibrated (encoding : Encoding) : p.decalibratedType calibrations' encoding =
      p.decalibratedType calibrations encoding := by
    unfold decalibratedType
    split
    · rfl
    · rename_i name _
      have hcurve := h.decalibration name
      revert hcurve
      generalize calibrations.decalibrations.find? name = found
      generalize calibrations'.decalibrations.find? name = found'
      intro hcurve
      cases found with
      | none =>
          rw [Option.map_none, Option.map_eq_none_iff] at hcurve
          rw [hcurve]
      | some c =>
          cases found' with
          | none => cases hcurve
          | some c' =>
              obtain ⟨hformat, hcurve⟩ := Prod.mk.inj (Option.some.inj hcurve)
              dsimp only
              rw [hformat, hcurve]
  obtain ⟨curves, contexts, decalibrations, -, -, -, rfl⟩ := h
  unfold buildType
  simp only [hdecalibrated]
  rfl

namespace Commanding

open CommandingState

theorem blind_addArgumentType (type : ArgumentType) : Blind Alike (addArgumentType type) :=
  blind_database.bind fun _ => (blind_changeDatabase _).bind fun _ => blind_pure _

/-- The type of an argument does not depend on the order of decalibrations. -/
theorem blind_argumentTypeFor (p : CommandParameter) (sizeTagBytes : Int) :
    Blind Alike (argumentTypeFor setting p sizeTagBytes) := by
  refine Paired.ite ?_ ?_
  · unfold identifierType
    refine Similar.unless rfl (blind_stage (fun _ _ _ => rfl) fun state => ?_)
    split
    · exact blind_pure _
    · refine (blind_lift _).bind fun encoding => blind_database.bind fun db => ?_
      refine (blind_addArgumentType _).bind fun type => ?_
      exact Paired.bind (blind_changeStage fun _ _ _ => ⟨rfl, rfl, rfl⟩) fun _ => blind_pure _
  · refine paired_stage fun s s' hs => ?_
    obtain ⟨calibrations, elements, hcalibrations, -, rfl⟩ := hs
    dsimp only
    rw [p.buildType_alike setting.epoch hcalibrations]
    split
    · exact blind_pure _
    · refine (blind_lift _).bind fun built => (blind_addArgumentType _).bind fun type => ?_
      exact Paired.bind (blind_changeStage fun _ _ _ => ⟨rfl, rfl, rfl⟩) fun _ => blind_pure _

/-! ## Arguments -/

section

variable (element : CommandElement) (l : Location)

theorem agree_dynamicDefault (db : Database) :
    Agree Eq (dynamicDefault db element) (dynamicDefault db { element with location := l }) := by
  unfold dynamicDefault
  dsimp only
  split
  · exact .error rfl
  · split
    · exact .ok rfl
    · exact .error rfl

theorem agree_withDefault (db : Database) (p : CommandParameter) (argument : Argument) :
    Agree Eq (withDefault db element p argument)
      (withDefault db { element with location := l } p argument) := by
  unfold withDefault
  refine Agree.ite ?_ (.ok rfl)
  dsimp only
  split
  · exact .ok rfl
  · exact (agree_dynamicDefault element l db).map _
  · exact .ok rfl
  · exact .ok rfl

theorem similar_argumentOf :
    Similar Alike (argumentOf setting element)
      (argumentOf { setting with files := files } { element with location := l }) := by
  have hparameter (state : CommandingState) :
      Agree Eq (parameterOf state element) (parameterOf state { element with location := l }) := by
    unfold parameterOf
    dsimp only
    split
    · exact .ok rfl
    · exact .error rfl
  refine paired_stage fun s s' hs => ?_
  obtain ⟨calibrations, elements, -, -, rfl⟩ := hs
  refine Paired.bind (similar_lift (hparameter s)) fun p => ?_
  exact (blind_argumentTypeFor p _).bind fun type => blind_database.bind fun db =>
    similar_lift (agree_withDefault element l db p _)

theorem agree_fixedValue (state : CommandingState) :
    Agree Eq (fixedValue state element) (fixedValue state { element with location := l }) := by
  unfold fixedValue
  dsimp only
  refine Agree.ite (.error rfl) ?_
  split
  · exact .ok rfl
  · exact .error rfl

theorem similar_placeArgument (command : Command) :
    Similar Alike (placeArgument setting command element)
      (placeArgument { setting with files := files } command { element with location := l }) := by
  refine Paired.bind (similar_argumentOf element l) fun argument => Paired.ite ?_ (blind_pure _)
  refine paired_stage fun s s' hs => ?_
  obtain ⟨calibrations, elements, -, -, rfl⟩ := hs
  exact Paired.bind (similar_lift (agree_fixedValue element l s)) fun value => blind_pure _

end

/-! ## Groups -/

section

variable {elements elements' : List CommandElement}
  (h : elements.map CommandElement.unplaced = elements'.map CommandElement.unplaced)
include h

theorem find?_unplaced {p : CommandElement → Bool} (hp : ∀ e, p e.unplaced = p e) :
    (elements.find? p).map CommandElement.unplaced =
      (elements'.find? p).map CommandElement.unplaced := by
  have hfind (l : List CommandElement) : (l.find? p).map CommandElement.unplaced =
      (l.map CommandElement.unplaced).find? p := by
    rw [List.find?_map]
    exact congrArg (Option.map _) (congrArg (l.find? ·) (funext fun e => (hp e).symm))
  rw [hfind, hfind, h]

theorem agree_checkMembers (counter : String) :
    Agree Eq (checkMembers counter elements) (checkMembers counter elements') := by
  have harea := find?_unplaced h (p := fun m => !m.isArgument) fun _ => rfl
  have hfixed := find?_unplaced h (p := fun m => decide (m.kind = .fixed)) fun _ => rfl
  unfold checkMembers
  revert harea hfixed
  generalize elements.find? (fun m => !m.isArgument) = area
  generalize elements'.find? (fun m => !m.isArgument) = area'
  generalize elements.find? (fun m => decide (m.kind = .fixed)) = fixed
  generalize elements'.find? (fun m => decide (m.kind = .fixed)) = fixed'
  intro harea hfixed
  cases area with
  | some m =>
      cases area' with
      | some m' => exact .error rfl
      | none => cases harea
  | none =>
      cases area' with
      | some m' => cases harea
      | none =>
          cases fixed with
          | some m =>
              cases fixed' with
              | some m' => exact .error rfl
              | none => cases hfixed
          | none =>
              cases fixed' with
              | some m' => cases hfixed
              | none => exact .ok rfl

theorem similar_placeGroup (command : Command) (counter : String) :
    Similar Alike (placeGroup setting command counter elements)
      (placeGroup { setting with files := files } command counter elements') := by
  have helement (fields : List RecordMember) : Blind Alike (groupElement counter fields) := by
    unfold groupElement
    split
    · exact blind_pure _
    · exact (blind_addArgumentType _).bind fun _ => blind_pure _
  refine Paired.bind (similar_lift (agree_checkMembers h counter)) fun _ => ?_
  refine Paired.bind (similar_mapM (fun m m' hm => ?_) h) fun fields => ?_
  · obtain ⟨l, rfl⟩ := CommandElement.exists_of_unplaced hm
    exact Paired.bind (similar_argumentOf m l) fun _ => blind_pure _
  exact (helement fields).bind fun _ => (blind_addArgumentType _).bind fun _ => blind_pure _

end

theorem agree_areaOctets (element : CommandElement) (l : Location) :
    Agree Eq (areaOctets element) (areaOctets { element with location := l }) := by
  unfold areaOctets
  dsimp only
  split
  · unfold pattern
    split
    · exact .ok rfl
    · exact .error rfl
  · exact .ok rfl

/-- An element at another place is placed in the same way before elements at other places. -/
theorem similar_placeFirst (command : Command) (element : CommandElement) (l : Location)
    {rest rest' : List CommandElement}
    (hrest : rest.map CommandElement.unplaced = rest'.map CommandElement.unplaced) :
    Similar Alike (placeFirst setting command element rest)
      (placeFirst { setting with files := files } command { element with location := l }
        rest') := by
  have hlength : rest'.length = rest.length := by
    simpa using (congrArg List.length hrest).symm
  have htake (n : Nat) : (rest.take n).map CommandElement.unplaced =
      (rest'.take n).map CommandElement.unplaced := by
    rw [List.map_take, List.map_take, hrest]
  have hnested (n : Nat) : ((rest'.take n).any fun m => 0 < m.groupSize) =
      (rest.take n).any fun m => 0 < m.groupSize := by
    have hany (l : List CommandElement) : (l.any fun m => decide (0 < m.groupSize)) =
        (l.map CommandElement.unplaced).any fun m => decide (0 < m.groupSize) := by
      rw [List.any_map]
      rfl
    rw [hany, ← htake, ← hany]
  unfold placeFirst
  refine Paired.ite (Paired.bind (similar_lift (agree_areaOctets element l)) fun octets =>
    blind_pure _) ?_
  refine Paired.bind (similar_placeArgument element l command) fun placed => ?_
  dsimp only
  rw [hlength, hnested]
  refine Paired.ite (blind_pure _) (Paired.ite (similar_throw rfl) (Paired.ite ?_ ?_))
  · refine Paired.bind (similar_limitation ?_) fun _ => blind_pure _
    exact ((restates_place element.location l).append _).append _
  · exact Paired.bind (similar_placeGroup (htake _) _ _) fun _ => blind_pure _

/-- **Elements at other places are placed in the same way.** -/
theorem similar_placeElements (command : Command) {elements elements' : List CommandElement}
    (h : elements.map CommandElement.unplaced = elements'.map CommandElement.unplaced) :
    Similar Alike (placeElements setting command elements)
      (placeElements { setting with files := files } command elements') := by
  induction elements using elements_induction generalizing command elements' with
  | nil =>
      cases List.map_eq_nil_iff.mp h.symm
      rw [placeElements_nil, placeElements_nil]
      exact blind_pure command
  | cons element rest ih =>
      obtain ⟨element', rest', rfl, hhead, hrest⟩ := List.map_eq_cons_iff.mp h.symm
      obtain ⟨l, rfl⟩ := CommandElement.exists_of_unplaced hhead.symm
      rw [placeElements_cons, placeElements_cons]
      refine Paired.bind (similar_placeFirst command element l hrest.symm) fun x => ih x.2 x.1 ?_
      rw [List.map_drop, List.map_drop, hrest]

/-! ## Commands -/

theorem similar_defineCommand (row : Row) :
    Similar Alike (defineCommand setting row)
      (defineCommand { setting with files := files } row) := by
  refine (blind_lift _).bind fun _ => (blind_lift _).bind fun name => Paired.ite ?_ (blind_pure _)
  refine paired_stage fun s s' hs => blind_database.bind fun db => Similar.unless rfl ?_
  obtain ⟨calibrations, elements, -, helements, rfl⟩ := hs
  refine (blind_lift _).bind fun command => ?_
  have hlist : ((s.elements.find? name).getD []).map CommandElement.unplaced =
      ((elements.find? name).getD []).map CommandElement.unplaced := by
    have hget (x : Option (List CommandElement)) : (x.getD []).map CommandElement.unplaced =
        (x.map (List.map CommandElement.unplaced)).getD [] := by
      cases x <;> rfl
    rw [hget, hget, helements name]
  refine Paired.bind (similar_placeElements command hlist) fun placed => ?_
  exact blind_database.bind fun _ => (blind_lift _).bind fun _ => (blind_add _ _).bind fun _ =>
    blind_pure _

theorem similar_loadCommands (h : setting.config.Rearranges setting.files files) :
    Similar Alike (loadCommands setting) (loadCommands { setting with files := files }) :=
  Paired.bind (similar_scanKept h (by decide) (by decide) similar_defineCommand) fun _ =>
    blind_pure _

theorem similar_loadConstraints (h : setting.config.Rearranges setting.files files) :
    Similar Alike (loadConstraints setting) (loadConstraints { setting with files := files }) := by
  refine (similar_scanKept h (by decide) (by decide) fun row => ?_).bind fun _ => ?_
  · refine (blind_lift _).bind fun _ => blind_database.bind fun db => ?_
    refine (blind_lift _).bind fun _ => ?_
    split
    · exact blind_throw _
    · refine (blind_lift _).bind fun _ => ?_
      split
      · exact blind_throw _
      · exact (blind_lift _).bind fun _ => (blind_lift _).bind fun _ =>
          blind_changeStage fun _ _ _ => ⟨rfl, rfl, rfl⟩
  refine blind_stage (fun _ _ _ => rfl) fun state => similar_forM fun (command, comparisons) _ => ?_
  dsimp only
  unfold addConstraint
  split
  · exact blind_pure _
  · exact blind_changeDatabase _

/-! ## Verifiers -/

theorem blind_declareExpression (row : Row) : Blind Alike (declareExpression row) := by
  have hover (id what : String) : Blind Alike (passOver row id what) :=
    (blind_limitation _).bind fun _ => blind_changeStage fun _ _ _ => ⟨rfl, rfl, rfl⟩
  refine (blind_lift _).bind fun _ => (blind_lift _).bind fun id => ?_
  refine (blind_lift _).bind fun name => blind_database.bind fun db => ?_
  split
  · exact blind_throw _
  · refine Paired.ite (hover _ _) (Paired.ite (hover _ _) ?_)
    exact (blind_lift _).bind fun _ => blind_changeStage fun _ _ _ => ⟨rfl, rfl, rfl⟩

theorem blind_stageCheck? (row : Row) (id stage : String) (code : Nat) :
    Blind Alike (stageCheck? row id stage code) := by
  refine Paired.ite ?_ (Paired.ite ?_ (blind_throw _))
  · refine Paired.bind (blind_database.bind fun db => ?_) fun _ => blind_pure _
    split
    · exact blind_pure _
    · exact blind_echoedRequest.bind fun _ => blind_add _ _
  · exact blind_stage (fun _ _ _ => rfl) fun _ => (blind_lift _).bind fun _ => blind_pure _

theorem similar_loadVerifiers (h : setting.config.Rearranges setting.files files) :
    Similar Alike (loadVerifiers setting) (loadVerifiers { setting with files := files }) := by
  refine (similar_scanKept h (by decide) (by decide) blind_declareExpression).bind fun _ => ?_
  refine (similar_scanKept h (by decide) (by decide) fun row => ?_).bind fun _ => ?_
  · refine (blind_lift _).bind fun _ => (blind_lift _).bind fun id => ?_
    refine blind_stage (fun _ _ _ => rfl) fun state => Similar.unless rfl ?_
    refine (blind_lift _).bind fun window => (blind_stageCheck? row id _ _).bind fun check => ?_
    split
    · exact blind_changeStage fun _ _ _ => ⟨rfl, rfl, rfl⟩
    · exact blind_changeStage fun _ _ _ => ⟨rfl, rfl, rfl⟩
  refine (similar_scanKept h (by decide) (by decide) fun row => ?_).bind fun _ => blind_pure _
  refine (blind_lift _).bind fun _ => (blind_lift _).bind fun task => Paired.ite ?_ (blind_pure _)
  refine blind_database.bind fun db => ?_
  split
  · exact blind_throw _
  · refine (blind_lift _).bind fun id => blind_stage (fun _ _ _ => rfl) fun state => ?_
    split
    · exact blind_changeDatabase _
    · exact Paired.ite (blind_throw _) (blind_pure _)

end Commanding

/-- **The command stage builds the same from rearranged tables.** -/
theorem carries_buildCommands (hlenient : setting.config.strict = false)
    (h : setting.config.Rearranges setting.files files) :
    Carries CommandingState.Alike CommandingState.Alike (buildCommands setting)
      (buildCommands { setting with files := files }) := by
  refine (Commanding.similar_loadHeaders h).carries.bind fun _ => ?_
  refine Paired.bind (S := CommandingState.Alike)
    ((Registry.carries_loadCommanding hlenient h).within (fun _ _ _ => ⟨rfl, rfl⟩) ?_) fun _ => ?_
  · rintro s _ r r' ⟨calibrations, elements, -, helements, rfl⟩ hr
    exact ⟨r', elements, hr, helements, rfl⟩
  refine (Commanding.similar_loadParameters h).carries.bind fun _ => ?_
  refine (Commanding.carries_loadElements hlenient h).bind fun _ => ?_
  refine (Commanding.similar_loadCommands h).carries.bind fun _ => ?_
  refine (Commanding.similar_loadConstraints h).carries.bind fun _ => ?_
  exact (Commanding.similar_loadVerifiers h).carries

end MissionBase
