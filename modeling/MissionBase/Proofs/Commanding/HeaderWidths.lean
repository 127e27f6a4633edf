import MissionBase.Proofs.Commanding.Declarations
import MissionBase.Proofs.Commanding.HeaderRecords
import MissionBase.Proofs.Turns

/-!
# Widths of header arguments

The first field that places a header argument settles its type and its width. Later fields take the
type that is settled if they give the same width, and are refused if they do not. So all headers
share one type of the argument, and every field that was accepted gives the width of that type.
`Settled` says so of the fields so far, and `Settles` is a step that loses nothing of it.
-/

namespace MissionBase

/-- The type of a header argument has the width that it is made with. -/
theorem HeaderArgument.sizeInBits?_type (a : HeaderArgument) (name : String) (size : Nat) :
    (a.type name size).encoding.bind Encoding.sizeInBits? = some size := by
  unfold HeaderArgument.type
  cases a.signed <;> rfl

namespace Commanding

open Run Command

variable {setting : Setting} {d d' d'' : Draft CommandingState} {row : Row} {header name : String}
  {size : Nat}

/-- The type and the width that are settled for a header argument. -/
def headerLayout? (d : Draft CommandingState) (name : String) : Option (ArgumentTypeRef × Nat) :=
  (d.stage.headerArguments.find? name).bind (·.layout)

/-- An argument has the type that is settled for its name. -/
def HasSettledType (d : Draft CommandingState) (a : Argument) : Prop :=
  ∃ size, headerLayout? d a.name = some (a.type, size)

/-- What holds while the headers are read. -/
structure Settled (d : Draft CommandingState) : Prop where
  /-- A type that is settled has the width that is settled with it. -/
  widths : ∀ name r size, headerLayout? d name = some (r, size) →
    ∃ type, d.database.argumentTypes.get? r = some type ∧
      type.encoding.bind Encoding.sizeInBits? = some size
  /-- The arguments of a header have the types that are settled. -/
  headers : ∀ header t, d.stage.headers.find? header = some t →
    ∃ c, d.database.commands.get? t.command = some c ∧ ∀ a ∈ c.allArguments, HasSettledType d a

/-- A command that declares more, and nothing new but with a type that is settled. -/
def DeclaresSettled (d : Draft CommandingState) (c c' : Command) : Prop :=
  c.allArguments ⊆ c'.allArguments ∧
    ∀ a ∈ c'.allArguments, a ∈ c.allArguments ∨ HasSettledType d a

theorem declaresSettled_refl (d : Draft CommandingState) (c : Command) : DeclaresSettled d c c :=
  ⟨List.Subset.refl _, fun _ ha => .inl ha⟩

/-- A step that loses nothing of what is settled. -/
structure Settles (d d' : Draft CommandingState) : Prop where
  settled : Settled d'
  layouts : ∀ name l, headerLayout? d name = some l → headerLayout? d' name = some l
  commands : ∀ r c, d.database.commands.get? r = some c →
    ∃ c', d'.database.commands.get? r = some c' ∧ DeclaresSettled d' c c'

theorem Settled.settles (h : Settled d) : Settles d d :=
  ⟨h, fun _ _ hl => hl, fun _ c hc => ⟨c, hc, declaresSettled_refl d c⟩⟩

theorem Settles.hasSettledType (h : Settles d d') {a : Argument} (ha : HasSettledType d a) :
    HasSettledType d' a := by
  obtain ⟨size, hsize⟩ := ha
  exact ⟨size, h.layouts _ _ hsize⟩

theorem Settles.trans (h : Settles d d') (h' : Settles d' d'') : Settles d d'' := by
  refine ⟨h'.settled, fun name l hl => h'.layouts name l (h.layouts name l hl), fun r c hc => ?_⟩
  obtain ⟨c₁, hc₁, hsubset, hnew⟩ := h.commands r c hc
  obtain ⟨c₂, hc₂, hsubset', hnew'⟩ := h'.commands r c₁ hc₁
  refine ⟨c₂, hc₂, List.Subset.trans hsubset hsubset', fun a ha => ?_⟩
  rcases hnew' a ha with ha | hsettled
  · exact (hnew a ha).imp_right h'.hasSettledType
  · exact .inr hsettled

/-- What is settled depends on the headers, their arguments and the types alone. -/
theorem Settled.of_same (h : Settled d) (hheaders : d'.stage.headers = d.stage.headers)
    (harguments : d'.stage.headerArguments = d.stage.headerArguments)
    (hdatabase : d'.database = d.database) : Settled d' := by
  have hlayout (name : String) : headerLayout? d' name = headerLayout? d name := by
    unfold headerLayout?
    rw [harguments]
  refine ⟨fun name r size hr => ?_, fun header t ht => ?_⟩
  · rw [hdatabase]
    exact h.widths name r size ((hlayout name).symm.trans hr)
  · rw [hheaders] at ht
    obtain ⟨c, hc, hsettled⟩ := h.headers header t ht
    refine ⟨c, by rw [hdatabase]; exact hc, fun a ha => ?_⟩
    obtain ⟨size, hsize⟩ := hsettled a ha
    exact ⟨size, (hlayout a.name).trans hsize⟩

/-- A change of a command that declares nothing but what is settled. -/
theorem Settled.changeCommand (h : Settled d) (r : CommandRef) (change : Command → Command)
    (hchange : ∀ c, DeclaresSettled d c (change c)) :
    Settles d { d with database := d.database.changeCommand r change } := by
  refine ⟨⟨h.widths, fun header t ht => ?_⟩, fun _ _ hl => hl, fun q c hc => ?_⟩
  · obtain ⟨c, hc, hsettled⟩ := h.headers header t ht
    obtain ⟨c', hc', rfl | rfl⟩ := Catalog.exists_get?_modify hc r change
    · exact ⟨_, hc', fun a ha => ((hchange c).2 a ha).elim (hsettled a) id⟩
    · exact ⟨_, hc', hsettled⟩
  · obtain ⟨c', hc', rfl | rfl⟩ := Catalog.exists_get?_modify hc r change
    · exact ⟨_, hc', hchange c⟩
    · exact ⟨_, hc', declaresSettled_refl _ _⟩

/-- A header that stays at its command may get other roles. -/
theorem Settled.setHeader (h : Settled d) {t : HeaderTemplate} (t' : HeaderTemplate)
    (ht : d.stage.headers.find? header = some t) (hcommand : t'.command = t.command)
    {headers : Index String HeaderTemplate} (hself : headers.find? header = some t')
    (hother : ∀ n, n ≠ header → headers.find? n = d.stage.headers.find? n) :
    Settled { d with stage := { d.stage with headers := headers } } := by
  refine ⟨h.widths, fun n u hu => ?_⟩
  have hu : headers.find? n = some u := hu
  by_cases hn : n = header
  · rw [hn, hself] at hu
    cases hu
    rw [hcommand]
    exact h.headers header t ht
  · exact h.headers n u ((hother n hn).symm.trans hu)

/-! ## Declarations -/

theorem Settled.withTemplate (h : Settled d) (name : String) : Settled (withTemplate d name) := by
  refine ⟨h.widths, fun header t ht => ?_⟩
  have ht : (d.stage.headers.set name { command := d.database.commands.next }).find? header =
      some t := ht
  by_cases hname : header = name
  · -- the new template declares nothing yet
    rw [hname, Index.find?_set_self] at ht
    cases ht
    exact ⟨_, Catalog.get?_push_next _ _, fun a ha => nomatch ha⟩
  · rw [Index.find?_set_of_ne _ hname] at ht
    obtain ⟨c, hc, hsettled⟩ := h.headers header t ht
    exact ⟨c, Catalog.get?_push_of_some hc _, hsettled⟩

theorem declareHeaderArgument_settled (h : Settled d) (row : Row) :
    Ends (declareHeaderArgument row) d (fun _ => Settled) Settled := by
  refine ends_declareHeaderArgument h fun name argument hnone hargument => ?_
  -- nothing is settled for an argument that is new
  have hlayout (n : String) :
      ((d.stage.headerArguments.set name argument).find? n).bind (·.layout) =
        headerLayout? d n := by
    unfold headerLayout?
    by_cases hn : n = name
    · rw [hn, Index.find?_set_self, hnone, Option.bind_some, hargument, Option.bind_none]
    · rw [Index.find?_set_of_ne _ hn]
  refine ⟨fun n r size hr => h.widths n r size ((hlayout n).symm.trans hr), fun header t ht => ?_⟩
  obtain ⟨c, hc, hsettled⟩ := h.headers header t ht
  refine ⟨c, hc, fun a ha => ?_⟩
  obtain ⟨size, hsize⟩ := hsettled a ha
  exact ⟨size, (hlayout a.name).trans hsize⟩

/-! ## Fields -/

/-- **A header argument gets the type that is settled, or settles the type that it gets.** -/
theorem Settled.typed (h : Settled d) {argument : HeaderArgument} {type : ArgumentTypeRef}
    (hfind : d.stage.headerArguments.find? name = some argument)
    (htyped : HeaderTyped d name argument size type d') :
    Settles d d' ∧ headerLayout? d' name = some (type, size) := by
  have hlayout : headerLayout? d name = argument.layout := by
    unfold headerLayout?
    rw [hfind, Option.bind_some]
  cases htyped with
  | kept hargument => exact ⟨h.settles, hlayout.trans hargument⟩
  | made hargument =>
      let settled : HeaderArgument :=
        { argument with layout := some (d.database.argumentTypes.next, size) }
      let d₁ := withType d (argument.type name size) (keepLayout name argument size)
      have hself : headerLayout? d₁ name = some (d.database.argumentTypes.next, size) := by
        show ((d.stage.headerArguments.set name settled).find? name).bind _ = _
        rw [Index.find?_set_self, Option.bind_some]
      have hother (n : String) (hn : n ≠ name) : headerLayout? d₁ n = headerLayout? d n := by
        show ((d.stage.headerArguments.set name settled).find? n).bind _ = _
        rw [Index.find?_set_of_ne _ hn]
        rfl
      -- only the argument at hand gets a type, which had none
      have hkept (n : String) (l : ArgumentTypeRef × Nat) (hl : headerLayout? d n = some l) :
          headerLayout? d₁ n = some l := by
        rw [hother n, hl]
        rintro rfl
        rw [hlayout, hargument] at hl
        cases hl
      refine ⟨⟨⟨fun n r bits hr => ?_, fun header t ht => ?_⟩, hkept, fun _ c hc => ?_⟩, hself⟩
      · by_cases hn : n = name
        · rw [hn, hself] at hr
          cases hr
          exact ⟨_, Catalog.get?_push_next d.database.argumentTypes _,
            argument.sizeInBits?_type name size⟩
        · obtain ⟨u, hu, hwidth⟩ := h.widths n r bits ((hother n hn).symm.trans hr)
          exact ⟨u, Catalog.get?_push_of_some hu _, hwidth⟩
      · obtain ⟨c, hc, hsettled⟩ := h.headers header t ht
        refine ⟨c, hc, fun a ha => ?_⟩
        obtain ⟨bits, hbits⟩ := hsettled a ha
        exact ⟨bits, hkept _ _ hbits⟩
      · exact ⟨c, hc, declaresSettled_refl _ c⟩

theorem hasArgument_of_mem {c : Command} {a : Argument} (h : a ∈ c.allArguments) :
    c.hasArgument a.name = true := List.find?_isSome.mpr ⟨a, h, beq_self_eq_true _⟩

theorem allArguments_declaring (a : Argument) (c : Command) :
    c.allArguments ⊆ (declaring a c).allArguments ∧
      ∀ b ∈ (declaring a c).allArguments, b ∈ c.allArguments ∨ b = a := by
  unfold declaring
  split
  · exact ⟨List.Subset.refl _, fun b hb => .inl hb⟩
  · simp only [allArguments, List.append_assoc, List.subset_def, List.mem_append,
      List.mem_singleton]
    constructor
    · intro b hb
      tauto
    · intro b hb
      tauto

theorem hasArgument_declaring (a : Argument) (c : Command) :
    (declaring a c).hasArgument a.name = true := by
  unfold declaring
  split
  · assumption
  · refine hasArgument_of_mem (List.mem_append_left _ ?_)
    exact List.mem_append_right _ (List.mem_singleton_self a)

/-- A header argument is declared in a header, with a width that is settled, as all arguments of the
header have types that are settled. -/
structure DeclaredIn (d : Draft CommandingState) (command : CommandRef) (name : String)
    (size : Nat) : Prop where
  layout : ∃ r, headerLayout? d name = some (r, size)
  declared : ∃ c, d.database.commands.get? command = some c ∧ c.hasArgument name = true ∧
    ∀ a ∈ c.allArguments, HasSettledType d a

theorem DeclaredIn.settles {command : CommandRef} (h : DeclaredIn d command name size)
    (hd : Settles d d') : DeclaredIn d' command name size := by
  obtain ⟨⟨r, hr⟩, c, hc, hdeclared, hsettled⟩ := h
  obtain ⟨c', hc', hsubset, hnew⟩ := hd.commands command c hc
  obtain ⟨a, ha, hname⟩ := List.find?_isSome.mp hdeclared
  refine ⟨⟨r, hd.layouts name _ hr⟩, c', hc', ?_, fun b hb => ?_⟩
  · exact List.find?_isSome.mpr ⟨a, hsubset ha, hname⟩
  · exact (hnew b hb).elim (fun hold => hd.hasSettledType (hsettled b hold)) id

/-- **A header argument is declared in the header that places it.** -/
theorem Settled.withRole (h : Settled d) {t : HeaderTemplate}
    (ht : d.stage.headers.find? header = some t) {a : Argument}
    (hlayout : headerLayout? d a.name = some (a.type, size)) (role : HeaderRole) :
    Settles d (withRole d header t.command role a) ∧
      DeclaredIn (Commanding.withRole d header t.command role a) t.command a.name size := by
  have hdeclares (c : Command) : DeclaresSettled d c (declaring a c) := by
    obtain ⟨hsubset, hnew⟩ := allArguments_declaring a c
    refine ⟨hsubset, fun b hb => (hnew b hb).imp_right ?_⟩
    rintro rfl
    exact ⟨size, hlayout⟩
  have hchanged := h.changeCommand t.command (declaring a) hdeclares
  have hsettled : Settled (Commanding.withRole d header t.command role a) := by
    refine hchanged.settled.setHeader (t.withRole a.name role) ht (t.command_withRole a.name role)
      ?_ fun n hn => Index.find?_change_of_ne _ hn _
    rw [Index.find?_change_self, ht]
    rfl
  obtain ⟨c, hc, hold⟩ := h.headers header t ht
  refine ⟨⟨hsettled, hchanged.layouts, hchanged.commands⟩, ⟨a.type, hlayout⟩, declaring a c, ?_,
    hasArgument_declaring a c, fun b hb => ((hdeclares c).2 b hb).elim (hold b) id⟩
  show (d.database.commands.modify t.command (declaring a)).get? t.command = _
  rw [Catalog.get?_modify_self, hc, Option.map_some]

/-- A record of a field places a header argument. -/
def PlacesArgument (row : Row) (name : String) : Prop :=
  (HeaderRole.ofFlag? (row.flagD 2 ' ')).isSome ∧ row.text 5 = .ok name

theorem Settled.fieldItem (h : Settled d) {t : HeaderTemplate}
    (ht : d.stage.headers.find? header = some t) {item : CommandItem}
    (hitem : FieldItem d row header t.command size item d') :
    Settles d d' ∧ ∀ name, PlacesArgument row name → DeclaredIn d' t.command name size := by
  have hnone {flag : Char} (hflag : HeaderRole.ofFlag? flag = none)
      (hrow : row.flagD 2 ' ' = flag) (name : String) : ¬ PlacesArgument row name := by
    rintro ⟨hrole, -⟩
    rw [hrow, hflag] at hrole
    cases hrole
  cases hitem with
  | constant hflag => exact ⟨h.settles, fun name hplaces => (hnone rfl hflag name hplaces).elim⟩
  | spare hflag => exact ⟨h.settles, fun name hplaces => (hnone rfl hflag name hplaces).elim⟩
  | argument hname hfind htyped =>
      obtain ⟨hsettles, hlayout⟩ := h.typed hfind htyped
      rw [← htyped.headers] at ht
      obtain ⟨hplaced, hdeclared⟩ := hsettles.settled.withRole ht
        (a := { name := _, description := _, type := _ }) hlayout _
      refine ⟨hsettles.trans hplaced, fun name' hplaces => ?_⟩
      cases hname.symm.trans hplaces.2
      exact hdeclared

/-- The argument that a record places is declared in the header that the record names, and the width
that the record gives is settled for it. -/
def FieldSettled (d d' : Draft CommandingState) (row : Row) (name : String) : Prop :=
  ∃ header t, ∃ size : Nat, row.text 0 = .ok header ∧ d.stage.headers.find? header = some t ∧
    row.int 3 = .ok (size : Int) ∧ DeclaredIn d' t.command name size

theorem sizeOf_eq_ok {col : Nat} (h : sizeOf row col = .ok size) :
    row.int col = .ok (size : Int) := by
  unfold sizeOf at h
  obtain ⟨n, hn, h⟩ := except_bind_eq_ok.mp h
  split at h
  · cases h
  · rename_i hrange
    cases h
    rw [hn, Int.toNat_of_nonneg (by omega)]

/-- **A field that is accepted settles the width that it gives.** -/
theorem placeHeaderField_settles (h : Settled d) (row : Row) :
    Ends (placeHeaderField row) d
      (fun _ d' => Settles d d' ∧ ∀ name, PlacesArgument row name → FieldSettled d d' row name)
      (Settles d) := by
  refine ends_placeHeaderField h.settles fun header t size bit item d' hheader ht hsize hitem => ?_
  obtain ⟨hsettles, hdeclared⟩ := h.fieldItem ht hitem
  have hentered := hsettles.settled.changeCommand t.command
    (fun c => { c with entries := c.entries ++ [⟨.start bit, item⟩] })
    fun c => declaresSettled_refl d' c
  exact ⟨hsettles.trans hentered, fun name hplaces => ⟨header, t, size, hheader, ht,
    sizeOf_eq_ok hsize, (hdeclared name hplaces).settles hentered⟩⟩

/-! ## The tables of headers -/

/-- Reads the tables of headers up to their fields. -/
def declareHeaders (setting : Setting) : CommandingBuild Unit := do
  let _ ← Build.scan setting "tcp" declareHeader
  let _ ← Build.scan setting "pcpc" declareHeaderArgument

/-- What is settled stays settled. -/
def Settling (d t : Draft CommandingState) : Prop := Settled d → Settles d t

instance : Std.Refl Settling := ⟨fun _ h => h.settles⟩

instance : IsTrans (Draft CommandingState) Settling :=
  ⟨fun _ _ _ h h' hd => (h hd).trans (h' (h hd).settled)⟩

theorem settling_placeHeaderField (row : Row) : Steps Settling (placeHeaderField row) := by
  intro d
  by_cases hd : Settled d
  · exact (placeHeaderField_settles hd row).mono (fun _ _ _ h _ => h.1) fun _ h _ => h
  · exact ends_iff.mpr ⟨fun _ _ _ h => absurd h hd, fun _ _ _ h => absurd h hd⟩

theorem settled_record (h : Settled d) (e : Error) :
    Settled { d with errors := d.errors ++ [e] } := h.of_same rfl rfl rfl

theorem declareHeaders_settled (h : Settled d) :
    Ends (declareHeaders setting) d (fun _ => Settled) Settled := by
  have hrecord (d : Draft CommandingState) (e : Error) (hd : Settled d) :
      Settled { d with errors := d.errors ++ [e] } := settled_record hd e
  unfold declareHeaders
  refine Ends.bind ((ends_scan hrecord h fun row _ hd => ends_declareHeader hd fun name _ =>
    hd.withTemplate name).mono (fun _ d₁ _ h₁ => ?_) fun _ h => h)
  exact Ends.bind ((ends_scan hrecord h₁ fun row _ hd =>
    declareHeaderArgument_settled hd row).mono (fun _ _ _ h => h) fun _ h => h)

/-- **The width that an accepted field gives is settled in the end**, for the argument that it
places. -/
theorem loadHeaders_settled (h : Settled d) (hrun : loadHeaders setting d = .ok () d') :
    Settled d' ∧ ∃ d₁ rows, declareHeaders setting d = .ok () d₁ ∧
      Build.rows setting "pcdf" = .ok rows ∧
      ∀ row t u, (row, t) ∈ turns setting placeHeaderField rows d₁ →
        placeHeaderField row t = .ok () u →
        ∀ name, PlacesArgument row name → FieldSettled t d' row name := by
  obtain ⟨_, d₀, h₀, hrun⟩ := bind_eq_ok.mp hrun
  obtain ⟨_, d₁, h₁, hrun⟩ := bind_eq_ok.mp hrun
  obtain ⟨_, _, h₂, hrun⟩ := bind_eq_ok.mp hrun
  obtain ⟨-, rfl⟩ := pure_eq_ok.mp hrun
  have hdeclare : declareHeaders setting d = .ok () d₁ :=
    bind_eq_ok.mpr ⟨_, d₀, h₀, bind_eq_ok.mpr ⟨_, d₁, h₁, pure_eq_ok.mpr ⟨rfl, rfl⟩⟩⟩
  have hsettled := (declareHeaders_settled h).of_ok hdeclare
  obtain ⟨rows, hrows, hfields, -⟩ := scan_eq_ok.mp h₂
  have hrecord (d : Draft CommandingState) (e : Error) :
      Settling d { d with errors := d.errors ++ [e] } :=
    fun h => ⟨settled_record h e, fun _ _ hl => hl, fun _ c hc => ⟨c, hc, declaresSettled_refl _ c⟩⟩
  have hend := (steps_scan hrecord settling_placeHeaderField).of_ok h₂ hsettled
  refine ⟨hend.settled, d₁, rows, hdeclare, hrows, fun row t u hturn hrow name hplaces => ?_⟩
  obtain ⟨hbefore, hafter⟩ := turn_related hrecord settling_placeHeaderField hfields _ hturn
  have hfield := (placeHeaderField_settles (hbefore hsettled).settled row).of_ok hrow
  obtain ⟨header, template, size, hheader, hfind, hsize, hdeclared⟩ := hfield.2 name hplaces
  exact ⟨header, template, size, hheader, hfind, hsize,
    hdeclared.settles (hafter u hrow hfield.1.settled)⟩

end Commanding

end MissionBase
