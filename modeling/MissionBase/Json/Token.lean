import MissionBase.Json.Fault
import MissionBase.Text.Numeral

/-!
# Tokens of a document

The text of a JSON document as the tokens of its values, in order, up to the first place where the
grammar is broken. A reader that knows what it expects takes the tokens one by one, so the first
fault in the order of the text wins, whether the grammar or the reader finds it.

Texts and numbers are scanned for their form first and carry a fault of their content: a surrogate
without its partner counts where a text is read, and not where its value is skipped.
-/

namespace MissionBase.Json

/-- A number as it is written. -/
inductive Literal where
  | integer (value : Int)
  /-- A number with a point or an exponent, a negative zero, or an integer beyond 64 bits. -/
  | fractional (characters : List Char)
  deriving Repr, DecidableEq

/-- A step through a document. -/
inductive Token where
  | null
  | bool (value : Bool)
  | number (content : Except Fault Literal)
  | text (content : Except Fault String)
  | key (content : Except Fault String)
  | openList
  /-- The comma between two items of a list. -/
  | comma
  | closeList
  | openObject
  | closeObject
  | fault (f : Fault)

/-- A token with the characters from its first one on, and with those after its last one. -/
structure Step where
  token : Token
  start : List Char
  rest : List Char

/-- White space between tokens. -/
def isSpace (c : Char) : Bool := c = ' ' || c = '\n' || c = '\t' || c = '\r'

/-- The rest of a word of which the first letter has been read. -/
def scanWord : List Char → List Char → Except Fault (List Char)
  | [], rest => .ok rest
  | _ :: _, [] => .error (Cause.endInValue.before [])
  | w :: word, c :: rest =>
    if w = c then scanWord word rest else .error (Cause.expectedWord.before rest)

/-- Four hexadecimal digits. -/
def scanHex : List Char → Except Fault (Nat × List Char)
  | a :: b :: c :: d :: rest =>
    match Text.digits? 16 [a, b, c, d] with
    | some n => .ok (n, rest)
    | none => .error (Cause.badEscape.before rest)
  | _ => .error (Cause.endInText.before [])

/-- Whether a number is the first half of a surrogate pair. -/
def isHighSurrogate (n : Nat) : Bool := 0xd800 ≤ n && n ≤ 0xdbff

/-- Whether a number is the second half of a surrogate pair. -/
def isLowSurrogate (n : Nat) : Bool := 0xdc00 ≤ n && n ≤ 0xdfff

/-- The second half of a surrogate pair, which has to follow its first half at once. -/
def scanLow : List Char → Except Fault (Nat × List Char)
  | [] => .error (Cause.endInText.before [])
  | '\\' :: [] => .error (Cause.endInText.before [])
  | '\\' :: 'u' :: rest =>
    match scanHex rest with
    | .ok (n, rest) =>
      if isLowSurrogate n then .ok (n, rest) else .error (Cause.loneSurrogate.before rest)
    | .error f => .error f
  | '\\' :: _ :: rest => .error (Cause.endOfEscape.before rest)
  | _ :: rest => .error (Cause.endOfEscape.before rest)

/-- The character that a one-letter escape stands for. -/
def escapeChar? : Char → Option Char
  | '"' => some '"'
  | '\\' => some '\\'
  | '/' => some '/'
  | 'b' => some (Char.ofNat 8)
  | 'f' => some (Char.ofNat 12)
  | 'n' => some '\n'
  | 'r' => some '\r'
  | 't' => some '\t'
  | _ => none

/-- What the scan of a text found. -/
structure ScannedText where
  content : Except Fault String
  /-- What follows the closing quote, or why there is none. -/
  rest : Except Fault (List Char)

/-- A text from after its opening quote. The first argument bounds the steps, `acc` holds the
characters so far in reverse, `bad` the first fault of the content. -/
def scanText : Nat → List Char → Option Fault → List Char → ScannedText
  | 0, _, _, cs => ⟨.error (Cause.endInText.before cs), .error (Cause.endInText.before cs)⟩
  | fuel + 1, acc, bad, cs =>
    let stop (f : Fault) : ScannedText := ⟨.error (bad.getD f), .error f⟩
    match cs with
    | [] => stop (Cause.endInText.before [])
    | '"' :: rest =>
      match bad with
      | some f => ⟨.error f, .ok rest⟩
      | none => ⟨.ok (String.ofList acc.reverse), .ok rest⟩
    | '\\' :: [] => stop (Cause.endInText.before [])
    | '\\' :: 'u' :: rest =>
      match scanHex rest with
      | .error f => stop f
      | .ok (n, rest) =>
        if isHighSurrogate n then
          match scanLow rest with
          | .ok (low, rest) =>
            let code := 0x10000 + (n - 0xd800) * 0x400 + (low - 0xdc00)
            scanText fuel (Char.ofNat code :: acc) bad rest
          | .error f => scanText fuel acc (some (bad.getD f)) rest
        else if isLowSurrogate n then
          scanText fuel acc (some (bad.getD (Cause.loneSurrogate.before rest))) rest
        else scanText fuel (Char.ofNat n :: acc) bad rest
    | '\\' :: c :: rest =>
      match escapeChar? c with
      | some c => scanText fuel (c :: acc) bad rest
      | none => stop (Cause.badEscape.before rest)
    | c :: rest =>
      if c.toNat < 32 then stop (Cause.controlCharacter.before rest)
      else scanText fuel (c :: acc) bad rest

/-- A digit of a number. -/
def isDigit (c : Char) : Bool := '0' ≤ c && c ≤ '9'

/-- The digits before the point: a zero stands alone. -/
def scanWhole : List Char → Except Fault (List Char)
  | [] => .error (Cause.endInValue.before [])
  | '0' :: rest =>
    match rest with
    | c :: _ => if isDigit c then .error (Cause.badNumber.within rest) else .ok rest
    | [] => .ok rest
  | c :: rest =>
    if isDigit c then .ok (rest.dropWhile isDigit) else .error (Cause.badNumber.before rest)

/-- An optional point with at least one digit after it. -/
def scanFraction : List Char → Except Fault (List Char)
  | '.' :: [] => .error (Cause.endInValue.within [])
  | '.' :: c :: rest =>
    if isDigit c then .ok (rest.dropWhile isDigit) else .error (Cause.badNumber.within (c :: rest))
  | cs => .ok cs

/-- The digits of an exponent after its letter and sign. -/
def scanPower : List Char → Except Fault (List Char)
  | [] => .error (Cause.endInValue.before [])
  | c :: rest =>
    if isDigit c then .ok (rest.dropWhile isDigit) else .error (Cause.badNumber.before rest)

/-- An optional exponent. -/
def scanExponent : List Char → Except Fault (List Char)
  | c :: rest =>
    if c = 'e' ∨ c = 'E' then
      match rest with
      | '+' :: rest => scanPower rest
      | '-' :: rest => scanPower rest
      | rest => scanPower rest
    else .ok (c :: rest)
  | [] => .ok []

/-- What follows a number. -/
def scanNumber (cs : List Char) : Except Fault (List Char) := do
  let unsigned := match cs with
    | '-' :: rest => rest
    | rest => rest
  scanExponent (← scanFraction (← scanWhole unsigned))

/-- The number that well-formed characters write. An integer beyond 64 bits is not kept exactly,
and minus zero is no integer. -/
def literal (cs : List Char) : Literal :=
  match Text.integer? cs with
  | some n =>
    if -9223372036854775808 ≤ n ∧ n ≤ 18446744073709551615 ∧ cs ≠ ['-', '0'] then .integer n
    else .fractional cs
  | none => .fractional cs

/-- A fault of a number where its value is skipped: the end of the text is no number either. -/
def skippedFault (f : Fault) : Fault :=
  if f.cause = .endInValue then { f with cause := .badNumber } else f

/-- The containers that are open, the innermost first. -/
inductive Frame where
  | list
  | object
  deriving Repr, DecidableEq

/-- What the grammar expects next. -/
inductive Expected where
  | value
  /-- An item of a list after a comma. -/
  | item
  | firstItem
  | firstKey
  | key
  | colon
  /-- The end of the value just read: a comma or the end of the innermost container. -/
  | next
  deriving Repr, DecidableEq

/-- The fault of a place where the text ends. -/
def endFault (frames : List Frame) (expected : Expected) : Fault :=
  let cause : Cause := match expected, frames with
    | .firstItem, _ => .endInList
    | .firstKey, _ => .endInObject
    | .colon, _ => .endInObject
    | .next, .list :: _ => .endInList
    | .next, .object :: _ => .endInObject
    | _, _ => .endInValue
  cause.within []

/-- The tokens of a text, given the open containers and what is expected. The first argument
bounds the steps; each consumes a character. -/
def scan : Nat → List Frame → Expected → List Char → List Step
  | 0, frames, expected, cs => [⟨.fault (endFault frames expected), cs, cs⟩]
  | fuel + 1, frames, expected, cs =>
    let cs := cs.dropWhile isSpace
    let stop (f : Fault) : List Step := [⟨.fault f, cs, cs⟩]
    let word (w : List Char) (t : Token) (rest : List Char) : List Step :=
      match scanWord w rest with
      | .ok rest => ⟨t, cs, rest⟩ :: scan fuel frames .next rest
      | .error f => stop f
    let text (token : Except Fault String → Token) (after : Expected) (rest : List Char) :
        List Step :=
      let scanned := scanText (rest.length + 1) [] none rest
      match scanned.rest with
      | .ok rest => ⟨token scanned.content, cs, rest⟩ :: scan fuel frames after rest
      | .error f => ⟨token scanned.content, cs, cs⟩ :: stop f
    match expected, cs with
    | .next, [] => if frames.isEmpty then [] else stop (endFault frames .next)
    | _, [] => stop (endFault frames expected)
    | .next, c :: rest =>
      match frames, c with
      | .list :: _, ',' => ⟨.comma, cs, rest⟩ :: scan fuel frames .item rest
      | .list :: outer, ']' => ⟨.closeList, cs, rest⟩ :: scan fuel outer .next rest
      | .object :: _, ',' => scan fuel frames .key rest
      | .object :: outer, '\x7d' => ⟨.closeObject, cs, rest⟩ :: scan fuel outer .next rest
      | .list :: _, _ => stop (Cause.expectedListComma.within cs)
      | .object :: _, _ => stop (Cause.expectedObjectComma.within cs)
      | [], _ => stop (Cause.trailingText.within cs)
    | .colon, c :: rest =>
      if c = ':' then scan fuel frames .value rest else stop (Cause.expectedColon.within cs)
    | .firstKey, c :: rest =>
      if c = '\x7d' then ⟨.closeObject, cs, rest⟩ :: scan fuel frames.tail .next rest
      else if c = '"' then text .key .colon rest
      else stop (Cause.expectedKey.within cs)
    | .key, c :: rest =>
      if c = '"' then text .key .colon rest
      else if c = '\x7d' then stop (Cause.trailingComma.within cs)
      else stop (Cause.expectedKey.within cs)
    | expected, c :: rest =>
      if c = ']' && expected == .firstItem then
        ⟨.closeList, cs, rest⟩ :: scan fuel frames.tail .next rest
      else if c = ']' && expected == .item then stop (Cause.trailingComma.within cs)
      else if c = 'n' then word ['u', 'l', 'l'] .null rest
      else if c = 't' then word ['r', 'u', 'e'] (.bool true) rest
      else if c = 'f' then word ['a', 'l', 's', 'e'] (.bool false) rest
      else if c = '"' then text .text .next rest
      else if c = '[' then ⟨.openList, cs, rest⟩ :: scan fuel (.list :: frames) .firstItem rest
      else if c = '\x7b' then
        ⟨.openObject, cs, rest⟩ :: scan fuel (.object :: frames) .firstKey rest
      else if c = '-' || isDigit c then
        match scanNumber cs with
        | .ok rest =>
          let characters := cs.take (cs.length - rest.length)
          ⟨.number (.ok (literal characters)), cs, rest⟩ :: scan fuel frames .next rest
        | .error f => ⟨.number (.error f), cs, cs⟩ :: stop (skippedFault f)
      else stop (Cause.expectedValue.within cs)

/-- The tokens of a document. -/
def steps (text : List Char) : List Step := scan (text.length + 2) [] .value text

end MissionBase.Json
