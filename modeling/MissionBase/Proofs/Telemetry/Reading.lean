import MissionBase.Proofs.Database
import MissionBase.Proofs.Telemetry.Grammar
import Mathlib.Logic.Function.Iterate

/-!
# Two ways to read a packet

The elements of a variable structure say directly how a packet is read: every element stands some
bits after the one read before it, and a counter tells how often the elements that it claims are
read. The containers that a structure is expanded to say it again, as entries that stand at a bit
of their container or after one another, with repetitions and nested containers.

`decode` reads by the elements, `walk` by the containers. Both go through the same sequence of
items, so what a packet holds can be given by the number of the item in that sequence: how many
bits it takes, and its value. Both end with what they have read and where.
-/

namespace MissionBase.Telemetry

/-- What a packet holds: the width and the value of whatever is read as the item of a number. -/
structure Content where
  width : Nat → EntryItem → Nat
  value : Nat → Nat

/-- The items read so far, each with the bit where it begins, and the bit after the last one. -/
structure Reading where
  seen : List (EntryItem × Int) := []
  stop : Int

/-- One more item, read at a bit. -/
def Reading.next (c : Content) (item : EntryItem) (bit : Int) (r : Reading) : Reading :=
  ⟨r.seen ++ [(item, bit)], bit + c.width r.seen.length item⟩

@[simp] theorem Reading.seen_next (c : Content) (item : EntryItem) (bit : Int) (r : Reading) :
    (r.next c item bit).seen = r.seen ++ [(item, bit)] := rfl

/-! ## By the elements -/

/-- How often the elements that a counter claims are read, where the counter is the item of a
number. -/
def timesOf (c : Content) (counter : VariableElement) (number : Nat) : Nat :=
  if 0 < counter.fixedRepetitions then counter.fixedRepetitions.toNat else c.value number

/-- Reads elements one after the other, each at its offset from the end of what was read before. -/
def decode (item : VariableElement → EntryItem) (c : Content) :
    List VariableElement → Reading → Reading
  | [], r => r
  | e :: rest, r =>
    decode item c (rest.drop e.groupSize)
      ((decode item c (rest.take e.groupSize))^[timesOf c e r.seen.length]
        (r.next c (item e) (r.stop + e.offset)))
  termination_by elements => elements.length
  decreasing_by all_goals simp only [List.length_cons, List.length_take, List.length_drop]; omega

/-! ## By the containers -/

/-- The number of the item that a parameter was last read as. -/
def latest? (p : ParameterRef) (seen : List (EntryItem × Int)) : Option Nat :=
  (seen.reverse.findIdx? fun x => decide (x.1 = .parameter p)).map fun i => seen.length - 1 - i

theorem latest?_concat (p : ParameterRef) (seen : List (EntryItem × Int)) (bit : Int) :
    latest? p (seen ++ [(.parameter p, bit)]) = some seen.length := by
  simp [latest?, List.findIdx?_cons]

/-- How often an entry occurs; a count by a parameter is the value last read for it. -/
def occurrences? (c : Content) (seen : List (EntryItem × Int)) : Option Repeat → Option Nat
  | none => some 1
  | some ⟨.fixed n, _⟩ => some n
  | some ⟨.dynamic p, _⟩ => (latest? p seen).map c.value

/-- The bit where an entry begins, in a container that begins at a bit and after an entry that ends
at one. -/
def bitOf (origin stop : Int) : EntryPlace → Int
  | .start bit => origin + bit
  | .previous gap => stop + gap

/-- Occurrences one after the other, the first one at a bit and each other one a gap after the end
of the one before. -/
def repeated (read : Int → Reading → Option Reading) (gap : Nat) :
    Nat → Int → Reading → Option Reading
  | 0, _, r => some r
  | n + 1, bit, r => (read bit r).bind fun r' => repeated read gap n (r'.stop + gap) r'

/-- One occurrence of an item at a bit. A container spans its own entries. -/
def walkItem (db : Database) (c : Content)
    (inside : List Entry → Int → Reading → Option Reading) :
    EntryItem → Int → Reading → Option Reading
  | .container k, bit, r =>
    (db.containers.get? k).bind fun container =>
      inside container.entries bit { r with stop := bit }
  | item, bit, r => some (r.next c item bit)

/-- An entry of a container that begins at a bit. -/
def walkEntry (db : Database) (c : Content)
    (inside : List Entry → Int → Reading → Option Reading) (origin : Int) (r : Reading)
    (entry : Entry) : Option Reading :=
  (occurrences? c r.seen entry.repetition).bind fun n =>
    repeated (walkItem db c inside entry.item) ((entry.repetition.map (·.gap)).getD 0) n
      (bitOf origin r.stop entry.place) r

/-- The entries of a container that begins at a bit, with containers inside containers up to a
depth. -/
def walk (db : Database) (c : Content) : Nat → List Entry → Int → Reading → Option Reading
  | 0, _, _, _ => none
  | depth + 1, entries, origin, r => entries.foldlM (walkEntry db c (walk db c depth) origin) r

/-- Reads by entries of a container. Containers that do not contain themselves are never deeper
inside one another than there are containers. -/
def readEntries (db : Database) (c : Content) (entries : List Entry) (origin : Int) (r : Reading) :
    Option Reading :=
  walk db c (db.containers.size + 1) entries origin r

end MissionBase.Telemetry
