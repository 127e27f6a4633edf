import MissionBase.Decimal.Numeral
import MissionBase.Decimal.Style
import MissionBase.Json.Token
import MissionBase.Text.Blank

/-!
# Reading documents into structures

A reader takes the tokens of one value from the front of the tokens left. Readers of structures
take an object whose fields may come in any order, each at most once, with fields of other names
skipped; or a list of the fields' values in the order of their declaration. What a document does
not give keeps its default.
-/

namespace MissionBase.Json

/-- A reader of values. -/
abbrev Reader (α : Type) := List Step → Except Fault (α × List Step)

/-- The fault of a text that ends too early. -/
def unexpectedEnd : Fault := Cause.endInValue.within []

/-- A character as it stands in a quoted text of a message. -/
def quotedChar (c : Char) : List Char :=
  if c = '"' then ['\\', '"']
  else if c = '\\' then ['\\', '\\']
  else if c = '\n' then ['\\', 'n']
  else if c = '\r' then ['\\', 'r']
  else if c = '\t' then ['\\', 't']
  else if c.toNat = 0 then ['\\', '0']
  else if c.toNat < 32 ∨ c.toNat = 127 ∨ (c ≠ ' ' ∧ Text.isBlank c) then
    ['\\', 'u', '\x7b'] ++ Nat.toDigits 16 c.toNat ++ ['\x7d']
  else [c]

/-- The number that the characters of a fractional literal write. -/
def fractionalValue (characters : List Char) : Float := (Decimal.float? characters).getD 0.0

/-- Whether a literal is a number that binary64 can hold. -/
def checkLiteral (step : Step) : Literal → Except Fault Literal
  | .fractional characters =>
    if Decimal.isFinite (fractionalValue characters) then .ok (.fractional characters)
    else .error (Cause.numberTooLarge.before step.rest)
  | l => .ok l

/-- A number in words. -/
def Literal.describe : Literal → String
  | .integer n => s!"integer `{n}`"
  | .fractional characters =>
    "floating point `" ++ Decimal.Style.document.write (fractionalValue characters) ++ "`"

/-- A text in words. -/
def describeText (s : String) : String :=
  "string \"" ++ String.ofList (s.toList.flatMap quotedChar) ++ "\""

/-- The fault of a value that is not the one expected. -/
def mismatch {α : Type} (expected : String) (step : Step) : Except Fault α :=
  let wrong (found : String) : Except Fault α :=
    .error ((Cause.wrongType found expected).before step.rest)
  match step.token with
  | .null => wrong "null"
  | .bool b => wrong s!"boolean `{b}`"
  | .number content => do
    let l ← content
    let l ← checkLiteral step l
    wrong l.describe
  | .text content => do wrong (describeText (← content))
  | .openList => .error ((Cause.wrongType "sequence" expected).before step.start)
  | .openObject => .error ((Cause.wrongType "map" expected).before step.start)
  | .fault f => .error f
  | _ => .error (Cause.expectedValue.within step.start)

/-- A truth value. -/
def readBool : Reader Bool
  | [] => .error unexpectedEnd
  | step :: rest =>
    match step.token with
    | .bool b => .ok (b, rest)
    | _ => mismatch "a boolean" step

/-- A text; `expected` names what it stands for. -/
def readText (expected : String) : Reader String
  | [] => .error unexpectedEnd
  | step :: rest =>
    match step.token with
    | .text content => content.map fun s => (s, rest)
    | _ => mismatch expected step

/-- A text of one character. -/
def readChar : Reader Char
  | [] => .error unexpectedEnd
  | step :: rest =>
    match step.token with
    | .text content => do
      let s ← content
      match s.toList with
      | [c] => .ok (c, rest)
      | _ => .error ((Cause.wrongValue (describeText s) "a character").before step.rest)
    | _ => mismatch "a character" step

/-- An integer between two bounds; `expected` names its type. -/
def readInteger (expected : String) (lo hi : Int) : Reader Int
  | [] => .error unexpectedEnd
  | step :: rest =>
    match step.token with
    | .number content => do
      match ← content with
      | .integer n =>
        if lo ≤ n ∧ n ≤ hi then .ok (n, rest)
        else .error ((Cause.wrongValue s!"integer `{n}`" expected).before step.rest)
      | .fractional _ => mismatch expected step
    | _ => mismatch expected step

/-- A value, or nothing for null. -/
def readOption {α : Type} (reader : Reader α) : Reader (Option α)
  | [] => .error unexpectedEnd
  | step :: rest =>
    match step.token with
    | .null => .ok (none, rest)
    | _ => (reader (step :: rest)).map fun (x, rest) => (some x, rest)

/-- The tokens after a value that is not read; `depth` counts the containers it has open. -/
def skipValue : Nat → List Step → Except Fault (List Step)
  | _, [] => .error unexpectedEnd
  | depth, step :: rest =>
    match step.token with
    | .fault f => .error f
    | .openList => skipValue (depth + 1) rest
    | .openObject => skipValue (depth + 1) rest
    | .closeList => if depth ≤ 1 then .ok rest else skipValue (depth - 1) rest
    | .closeObject => if depth ≤ 1 then .ok rest else skipValue (depth - 1) rest
    | .comma => skipValue depth rest
    | .key _ => skipValue depth rest
    | _ => if depth = 0 then .ok rest else skipValue depth rest

/-- A field of a structure `σ`: its name, and how its value changes the structure. -/
structure Field (σ : Type) where
  name : String
  read : σ → Reader σ

/-- A field from a reader of its value. -/
def Field.of {σ α : Type} (name : String) (reader : Reader α) (put : σ → α → σ) : Field σ :=
  ⟨name, fun s steps => (reader steps).map fun (x, rest) => (put s x, rest)⟩

/-- The place of the fault of a repeated field: the end of the object is looked for after its
name. -/
def afterRepeated (step : Step) : List Char :=
  match step.rest.dropWhile isSpace with
  | '\x7d' :: rest => rest
  | rest => rest

/-- The fields of an object after its opening brace. The first argument bounds the steps, `seen`
holds the names read so far. -/
def readFields {σ : Type} (fields : List (Field σ)) : Nat → List String → σ → Reader σ
  | 0, _, _, _ => .error unexpectedEnd
  | _, _, _, [] => .error unexpectedEnd
  | fuel + 1, seen, s, step :: rest =>
    match step.token with
    | .closeObject => .ok (s, rest)
    | .key content => do
      let name ← content
      match fields.find? fun f => f.name == name with
      | none => readFields fields fuel seen s (← skipValue 0 rest)
      | some field =>
        if seen.contains name then
          .error ((Cause.duplicateField name).before (afterRepeated step))
        else
          let (s, rest) ← field.read s rest
          readFields fields fuel (name :: seen) s rest
    | .fault f => .error f
    | _ => .error (Cause.expectedKey.within step.start)

/-- The end of a list of which every item has been read. -/
def readListEnd : List Step → Except Fault (List Step)
  | [] => .error unexpectedEnd
  | step :: rest =>
    match step.token with
    | .closeList => .ok rest
    | .comma =>
      match step.rest.dropWhile isSpace with
      | ']' :: more => .error (Cause.trailingComma.within (']' :: more))
      | more => .error (Cause.trailingText.within more)
    | .fault f =>
      if f.cause = .endInList then .error f else .error (Cause.trailingText.within f.rest)
    | _ => .error (Cause.trailingText.within step.start)

/-- The values of fields in their order; the list may end before all of them. -/
def readItems {σ : Type} : List (Field σ) → Bool → σ → Reader σ
  | [], _, s, steps => (readListEnd steps).map fun rest => (s, rest)
  | field :: fields, first, s, steps =>
    match steps with
    | [] => .error unexpectedEnd
    | step :: rest =>
      match step.token, first with
      | .closeList, _ => .ok (s, rest)
      | .comma, false => do
        let (s, rest) ← field.read s rest
        readItems fields false s rest
      | .fault f, false => .error f
      | _, _ => do
        let (s, rest) ← field.read s (step :: rest)
        readItems fields false s rest

/-- A structure; `expected` names its type. -/
def readStructure {σ : Type} (expected : String) (fields : List (Field σ)) (s : σ) : Reader σ
  | [] => .error unexpectedEnd
  | step :: rest =>
    match step.token with
    | .openObject => readFields fields (rest.length + 1) [] s rest
    | .openList => readItems fields true s rest
    | _ => mismatch expected step

/-- The value of a whole document. -/
def readDocument {α : Type} (reader : Reader α) (text : List Char) : Except Fault α := do
  let (x, rest) ← reader (steps text)
  match rest with
  | [] => .ok x
  | step :: _ =>
    match step.token with
    | .fault f => .error f
    | _ => .error (Cause.trailingText.within step.start)

end MissionBase.Json
