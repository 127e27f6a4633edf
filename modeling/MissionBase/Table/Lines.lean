import MissionBase.Table.Row

/-!
# Reading tables

A table is a text with a record per line and columns between separators. A line ends at a line
feed; carriage returns before it belong to the end. A first line that starts with `#` is a comment
and lines of blanks only are skipped, yet both count. A line is UTF-8 where its bytes are, and
otherwise one character per byte.
-/

namespace MissionBase

/-- The lines of a file, each with its line feed if it has one. -/
def splitLines (bytes : List UInt8) : List (List UInt8) :=
  let step (b : UInt8) : List (List UInt8) → List (List UInt8)
    | [] => [[b]]
    | line :: lines => if b = 10 then [b] :: line :: lines else (b :: line) :: lines
  bytes.foldr step []

/-- The characters of a line. -/
def decodeLine (line : List UInt8) : List Char :=
  match String.fromUTF8? ⟨line.toArray⟩ with
  | some s => s.toList
  | none => line.map fun b => Char.ofNat b.toNat

/-- The characters between separators; one more item than there are separators. -/
def splitFields (separator : Char) : List Char → List (List Char)
  | [] => [[]]
  | c :: cs =>
    if c = separator then [] :: splitFields separator cs
    else
      match splitFields separator cs with
      | [] => [[c]]
      | field :: fields => (c :: field) :: fields

/-- The record of the line with a number, or none where the line is skipped. -/
def rowOfLine? (file : String) (separator : Char) (number : Nat) (line : List UInt8) :
    Option Row :=
  let cs := Text.dropTrailing (· = '\n') (decodeLine line)
  if number = 1 ∧ cs.head? = some '#' then none
  else
    let cs := Text.dropTrailing (· = '\r') cs
    if Text.isBlankText cs then none
    else some ⟨(splitFields separator cs).map String.ofList, file, number⟩

/-- The records among lines of which the first has the number given. -/
def rowsOfLines (file : String) (separator : Char) : Nat → List (List UInt8) → List Row
  | _, [] => []
  | number, line :: lines =>
    match rowOfLine? file separator number line with
    | some row => row :: rowsOfLines file separator (number + 1) lines
    | none => rowsOfLines file separator (number + 1) lines

/-- The records of a table. -/
def readRows (file : String) (separator : Char) (bytes : List UInt8) : List Row :=
  rowsOfLines file separator 1 (splitLines bytes)

end MissionBase
