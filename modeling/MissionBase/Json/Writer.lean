import MissionBase.Json.Value
import MissionBase.Decimal.Style

/-!
# Writing documents

`compact` puts no space anywhere; `pretty` puts each item of a list and each field of an object on
a line of its own, indented by two spaces a level, and keeps empty lists and objects on one line.
A number that is undefined or infinite is written `null`.
-/

namespace MissionBase.Json

/-- A lower-case hexadecimal digit. -/
def hexDigit (n : Nat) : Char := Nat.digitChar (n % 16)

/-- A character as it stands between quotes: quotes, backslashes and control characters are
escaped, all else stands for itself. -/
def escaped (c : Char) : List Char :=
  if c = '"' then ['\\', '"']
  else if c = '\\' then ['\\', '\\']
  else if c = '\n' then ['\\', 'n']
  else if c = '\r' then ['\\', 'r']
  else if c = '\t' then ['\\', 't']
  else if c.toNat = 8 then ['\\', 'b']
  else if c.toNat = 12 then ['\\', 'f']
  else if c.toNat < 32 then ['\\', 'u', '0', '0', hexDigit (c.toNat / 16), hexDigit c.toNat]
  else [c]

/-- A text between quotes. -/
def quoted (s : String) : String :=
  "\"" ++ s.foldl (fun acc c => (escaped c).foldl String.push acc) "" ++ "\""

/-- A number as it stands in a document. -/
def numberText (x : Float) : String :=
  match Decimal.Binary.ofFloat x with
  | .finite .. => Decimal.Style.document.write x
  | _ => "null"

mutual

/-- A value appended to `out` without spaces. -/
def appendCompact (out : String) : Json → String
  | .null => out ++ "null"
  | .bool b => out ++ if b then "true" else "false"
  | .integer n => out ++ toString n
  | .number x => out ++ numberText x
  | .text s => out ++ quoted s
  | .list items => appendItems (out ++ "[") true items ++ "]"
  | .object fields => appendFields (out ++ "\x7b") true fields ++ "\x7d"

/-- Items with commas between them. -/
def appendItems (out : String) (first : Bool) : List Json → String
  | [] => out
  | x :: xs => appendItems (appendCompact (if first then out else out ++ ",") x) false xs

/-- Fields with commas between them. -/
def appendFields (out : String) (first : Bool) : List (String × Json) → String
  | [] => out
  | f :: fs => appendFields (appendField (if first then out else out ++ ",") f) false fs

/-- A name, a colon and a value. -/
def appendField (out : String) : String × Json → String
  | (name, value) => appendCompact (out ++ quoted name ++ ":") value

end

/-- A document on one line. -/
def compact (j : Json) : String := appendCompact "" j

/-- A new line with its indentation. -/
def newLine (depth : Nat) : String := "\n" ++ "".pushn ' ' (2 * depth)

mutual

/-- A value appended to `out`, its lines indented by `depth` levels. -/
def appendPretty (depth : Nat) (out : String) : Json → String
  | .null => out ++ "null"
  | .bool b => out ++ if b then "true" else "false"
  | .integer n => out ++ toString n
  | .number x => out ++ numberText x
  | .text s => out ++ quoted s
  | .list [] => out ++ "[]"
  | .list items => appendPrettyItems depth (out ++ "[") true items ++ newLine depth ++ "]"
  | .object [] => out ++ "\x7b\x7d"
  | .object fields =>
    appendPrettyFields depth (out ++ "\x7b") true fields ++ newLine depth ++ "\x7d"

/-- Items on lines of their own. -/
def appendPrettyItems (depth : Nat) (out : String) (first : Bool) : List Json → String
  | [] => out
  | x :: xs =>
    let out := (if first then out else out ++ ",") ++ newLine (depth + 1)
    appendPrettyItems depth (appendPretty (depth + 1) out x) false xs

/-- Fields on lines of their own. -/
def appendPrettyFields (depth : Nat) (out : String) (first : Bool) :
    List (String × Json) → String
  | [] => out
  | f :: fs =>
    let out := (if first then out else out ++ ",") ++ newLine (depth + 1)
    appendPrettyFields depth (appendPrettyField (depth + 1) out f) false fs

/-- A name, a colon, a space and a value. -/
def appendPrettyField (depth : Nat) (out : String) : String × Json → String
  | (name, value) => appendPretty depth (out ++ quoted name ++ ": ") value

end

/-- A document over several lines. -/
def pretty (j : Json) : String := appendPretty 0 "" j

end MissionBase.Json
