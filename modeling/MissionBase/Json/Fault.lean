/-!
# Faults of a document

Why a JSON document cannot be read, and where. A fault remembers the characters not yet consumed;
its position in the text follows from their number. Some faults are seen while a character is
looked at before it is consumed: their column is one byte further, as far as there is a next
character.
-/

namespace MissionBase.Json

/-- What is wrong with a document. -/
inductive Cause where
  | endInList
  | endInObject
  | endInText
  | endInValue
  | expectedColon
  | expectedListComma
  | expectedObjectComma
  | expectedWord
  | expectedValue
  | expectedKey
  | badEscape
  | badNumber
  | numberTooLarge
  | controlCharacter
  | loneSurrogate
  | endOfEscape
  | trailingComma
  | trailingText
  /-- A value of another kind than the one expected. -/
  | wrongType (found expected : String)
  /-- A value of the kind expected, but none of the values accepted. -/
  | wrongValue (found expected : String)
  | duplicateField (name : String)
  deriving Repr, DecidableEq

/-- The three classes of causes. -/
inductive Category where
  /-- The text breaks the grammar. -/
  | malformed
  /-- The text ends before the document does. -/
  | truncated
  /-- The document is well formed, but not what the reader expects. -/
  | mismatched
  deriving Repr, DecidableEq

/-- The class of a cause. -/
def Cause.category : Cause → Category
  | endInList | endInObject | endInText | endInValue => .truncated
  | wrongType .. | wrongValue .. | duplicateField .. => .mismatched
  | _ => .malformed

/-- The wording of a cause. -/
def Cause.message : Cause → String
  | endInList => "EOF while parsing a list"
  | endInObject => "EOF while parsing an object"
  | endInText => "EOF while parsing a string"
  | endInValue => "EOF while parsing a value"
  | expectedColon => "expected `:`"
  | expectedListComma => "expected `,` or `]`"
  | expectedObjectComma => "expected `,` or `\x7d`"
  | expectedWord => "expected ident"
  | expectedValue => "expected value"
  | expectedKey => "key must be a string"
  | badEscape => "invalid escape"
  | badNumber => "invalid number"
  | numberTooLarge => "number out of range"
  | controlCharacter => "control character (\\u0000-\\u001F) found while parsing a string"
  | loneSurrogate => "lone leading surrogate in hex escape"
  | endOfEscape => "unexpected end of hex escape"
  | trailingComma => "trailing comma"
  | trailingText => "trailing characters"
  | wrongType found expected => "invalid type: " ++ found ++ ", expected " ++ expected
  | wrongValue found expected => "invalid value: " ++ found ++ ", expected " ++ expected
  | duplicateField name => "duplicate field `" ++ name ++ "`"

/-- A cause with its place. -/
structure Fault where
  cause : Cause
  /-- The characters not consumed when the fault was found. -/
  rest : List Char
  /-- Whether the fault lies in the next of them. -/
  peeked : Bool := false

/-- A fault found in what has been consumed. -/
def Cause.before (c : Cause) (rest : List Char) : Fault := ⟨c, rest, false⟩

/-- A fault found in the next character, or in the lack of one. -/
def Cause.within (c : Cause) (rest : List Char) : Fault := ⟨c, rest, true⟩

/-- A line and a column, after the character `c` at the line and column given. Lines count from
one, columns are bytes since the start of the line. -/
def advance (at_ : Nat × Nat) (c : Char) : Nat × Nat :=
  if c = '\n' then (at_.1 + 1, 0) else (at_.1, at_.2 + c.utf8Size)

/-- The line and the column of a fault in its text. -/
def Fault.position (f : Fault) (text : List Char) : Nat × Nat :=
  let place := (text.take (text.length - f.rest.length)).foldl advance (1, 0)
  match f.peeked, f.rest with
  | true, c :: _ => if c = '\n' then advance place c else (place.1, place.2 + 1)
  | _, _ => place

/-- The wording of a fault, with its position. -/
def Fault.message (f : Fault) (text : List Char) : String :=
  let (line, column) := f.position text
  s!"{f.cause.message} at line {line} column {column}"

end MissionBase.Json
