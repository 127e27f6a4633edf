import MissionBase.Commanding.Headers
import MissionBase.Proofs.Database
import MissionBase.Proofs.DeclaredTypes

/-!
# What the records of headers do

A record of a header, of a header argument or of a field is taken up in one way, or it is refused
and leaves nothing behind. Each way is an effect on the draft: a template comes last, an argument is
noted, a field gets an item (`FieldItem`) that may give an argument its type (`HeaderTyped`) and
declare it. Whatever the tables of headers keep is kept by these effects.
-/

namespace MissionBase

theorem HeaderTemplate.command_withRole (t : HeaderTemplate) (name : String) (role : HeaderRole) :
    (t.withRole name role).command = t.command := by
  cases role <;> rfl

namespace Commanding

open Run Command

variable {d d' : Draft CommandingState} {row : Row} {header name : String} {command : CommandRef}
  {argument : HeaderArgument} {size : Nat} {type : ArgumentTypeRef} {item : CommandItem}
  {E : Draft CommandingState → Prop}

/-! ## Headers and their arguments -/

/-- The draft where the template of a header has come last. -/
def withTemplate (d : Draft CommandingState) (name : String) : Draft CommandingState :=
  { d with
    database := { d.database with
      commands := d.database.commands.push { Command.named name with isAbstract := true } }
    stage := { d.stage with
      headers := d.stage.headers.set name { command := d.database.commands.next } } }

/-- **A header that is new gets a template.** -/
theorem ends_declareHeader {Q : PUnit → Draft CommandingState → Prop} (hfails : E d)
    (hmade : ∀ name, d.stage.headers.has name = false → Q ⟨⟩ (withTemplate d name)) :
    Ends (declareHeader row) d Q E := by
  unfold declareHeader
  refine Ends.bind (ends_lift (fun _ _ => ?_) hfails)
  refine Ends.bind (ends_lift (fun name _ => ?_) hfails)
  refine Ends.bind (ends_stage (Ends.ite (fun _ => ends_throw hfails) fun hnew => ?_))
  refine Ends.bind (ends_add (fun r db hadd => ?_) hfails)
  obtain ⟨-, heq⟩ := Database.addCommand_eq_ok.mp hadd
  cases heq
  exact hmade name (Bool.eq_false_iff.mpr hnew)

/-- **A header argument that is new is noted**, without a type. -/
theorem ends_declareHeaderArgument {Q : PUnit → Draft CommandingState → Prop} (hfails : E d)
    (hmade : ∀ name argument, d.stage.headerArguments.find? name = none →
      argument.layout = none → Q ⟨⟩ { d with stage := { d.stage with
        headerArguments := d.stage.headerArguments.set name argument } }) :
    Ends (declareHeaderArgument row) d Q E := by
  unfold declareHeaderArgument
  refine Ends.bind (ends_lift (fun _ _ => ?_) hfails)
  refine Ends.bind (ends_lift (fun name _ => ?_) hfails)
  refine Ends.bind (ends_stage (Ends.ite (fun _ => ends_throw hfails) fun hnew => ?_))
  dsimp only
  refine Ends.ite (fun _ => ends_throw hfails) fun _ => ?_
  refine Ends.bind (ends_lift (fun description _ => ?_) hfails)
  exact hmade name _ (by simpa [Index.has] using hnew) rfl

/-! ## The type of a header argument -/

/-- The stage that keeps the type and the width of a header argument. -/
def keepLayout (name : String) (argument : HeaderArgument) (size : Nat) (type : ArgumentTypeRef)
    (s : CommandingState) : CommandingState :=
  { s with headerArguments :=
      s.headerArguments.set name { argument with layout := some (type, size) } }

/-- A header argument gets the type that it has, or a new one that it keeps. -/
inductive HeaderTyped (d : Draft CommandingState) (name : String) (argument : HeaderArgument)
    (size : Nat) : ArgumentTypeRef → Draft CommandingState → Prop where
  | kept {type : ArgumentTypeRef} : argument.layout = some (type, size) →
      HeaderTyped d name argument size type d
  | made : argument.layout = none →
      HeaderTyped d name argument size d.database.argumentTypes.next
        (withType d (argument.type name size) (keepLayout name argument size))

theorem ends_headerArgumentType :
    Ends (headerArgumentType row name argument size) d (HeaderTyped d name argument size)
      (fun t => t = d) := by
  unfold headerArgumentType
  cases hlayout : argument.layout with
  | some layout =>
      refine Ends.ite (fun hsize => ends_pure (.kept ?_)) fun _ => ends_throw rfl
      rw [hlayout, ← hsize]
  | none => exact Ends.bind (ends_database (.made hlayout))

theorem HeaderTyped.headers (h : HeaderTyped d name argument size type d') :
    d'.stage.headers = d.stage.headers := by
  cases h <;> rfl

theorem HeaderTyped.commands (h : HeaderTyped d name argument size type d') :
    d'.database.commands = d.database.commands := by
  cases h <;> rfl

/-! ## Fields -/

/-- A command with an argument that it declares on first use. -/
def declaring (a : Argument) (c : Command) : Command :=
  if c.hasArgument a.name then c else { c with arguments := c.arguments ++ [a] }

theorem entries_declaring (a : Argument) (c : Command) : (declaring a c).entries = c.entries := by
  unfold declaring
  split <;> rfl

theorem base_declaring (a : Argument) (c : Command) : (declaring a c).base = c.base := by
  unfold declaring
  split <;> rfl

/-- The draft where a header has declared an argument and given it a role. -/
def withRole (d : Draft CommandingState) (header : String) (command : CommandRef)
    (role : HeaderRole) (a : Argument) : Draft CommandingState :=
  { d with
    database := d.database.changeCommand command (declaring a)
    stage := { d.stage with headers := d.stage.headers.change header fun t =>
      (t.getD { command := command }).withRole a.name role } }

/-- What a field holds, and the draft where it does: a pattern, spare bits, or an argument that the
header declares. -/
inductive FieldItem (d : Draft CommandingState) (row : Row) (header : String)
    (command : CommandRef) (size : Nat) : CommandItem → Draft CommandingState → Prop where
  | constant {text : String} {octets : List UInt8} : row.flagD 2 ' ' = 'F' →
      row.text 6 = .ok text → pattern row.location text size = .ok octets →
      FieldItem d row header command size (.fixedValue (row.text? 1) octets size) d
  | spare : row.flagD 2 ' ' = 'P' →
      FieldItem d row header command size (.fixedValue (row.text? 5) (zeroOctets size) size) d
  | argument {role : HeaderRole} {name : String} {argument : HeaderArgument}
      {type : ArgumentTypeRef} {d' : Draft CommandingState} : row.text 5 = .ok name →
      d.stage.headerArguments.find? name = some argument →
      HeaderTyped d name argument size type d' →
      FieldItem d row header command size (.argument name) (withRole d' header command role
        { name := name, description := some argument.description, type := type })

theorem ends_headerItem :
    Ends (headerItem row header command size) d (FieldItem d row header command size)
      (fun t => t = d) := by
  unfold headerItem
  dsimp only
  refine Ends.ite (fun hflag => ?_) fun _ => Ends.ite (fun hflag => ?_) fun _ => ?_
  · refine Ends.bind (ends_lift (fun text htext => ?_) rfl)
    exact Ends.bind (ends_lift (fun octets hoctets => .constant hflag htext hoctets) rfl)
  · exact ends_pure (.spare hflag)
  · cases HeaderRole.ofFlag? (row.flagD 2 ' ') with
    | none => exact ends_throw rfl
    | some role =>
        refine Ends.bind (ends_lift (fun name hname => Ends.bind (ends_stage ?_)) rfl)
        cases hfind : d.stage.headerArguments.find? name with
        | none => exact ends_throw rfl
        | some argument =>
            exact Ends.bind (ends_headerArgumentType.mono
              (fun type d' _ htyped => .argument hname hfind htyped) fun _ h => h)

/-- The draft where an entry has come last in a command. -/
def withEntry (d : Draft CommandingState) (command : CommandRef) (e : CommandEntry) :
    Draft CommandingState :=
  { d with database := d.database.changeCommand command fun c =>
      { c with entries := c.entries ++ [e] } }

/-- **A field comes last in its header**, with its item. -/
theorem ends_placeHeaderField {Q : PUnit → Draft CommandingState → Prop} (hfails : E d)
    (hplaced : ∀ header t size bit item d', row.text 0 = .ok header →
      d.stage.headers.find? header = some t → sizeOf row 3 = .ok size →
      FieldItem d row header t.command size item d' →
      Q ⟨⟩ (withEntry d' t.command ⟨.start bit, item⟩)) :
    Ends (placeHeaderField row) d Q E := by
  unfold placeHeaderField
  refine Ends.bind (ends_lift (fun _ _ => ?_) hfails)
  refine Ends.bind (ends_lift (fun header hheader => ?_) hfails)
  refine Ends.bind (ends_stage ?_)
  cases ht : d.stage.headers.find? header with
  | none => exact ends_throw hfails
  | some t =>
      refine Ends.bind (ends_lift (fun size hsize => ?_) hfails)
      refine Ends.bind (ends_lift (fun bit _ => ?_) hfails)
      refine Ends.bind (ends_headerItem.mono (fun item d' _ hitem => ?_) fun t ht => ht ▸ hfails)
      exact hplaced header t size bit item d' hheader ht hsize hitem

end Commanding

end MissionBase
