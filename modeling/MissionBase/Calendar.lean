import MissionBase.Decimal.Power
import MissionBase.Text.Blank
import MissionBase.Text.Numeral

/-!
# Dates with times

Date-times of the Gregorian calendar, extended to years before the first and after the
9999th. They are read in two forms. The local form is `YYYY-MM-DDThh:mm:ss` with an optional
fraction; its numbers may be shorter than shown, may have blanks in front, and the year may have a
sign and then any number of digits. The zoned form has numbers of exact length and ends in `Z` or
an offset, which is subtracted. Second 60 is a leap second.
-/

namespace MissionBase

/-- A date with a time of day. -/
structure DateTime where
  year : Int
  month : Nat
  day : Nat
  hour : Nat
  minute : Nat
  /-- At most 60, which is a leap second. -/
  second : Nat
  nanosecond : Nat
  deriving Repr, DecidableEq

namespace DateTime

/-- Whether a year has 366 days. -/
def isLeapYear (year : Int) : Bool :=
  year % 4 == 0 && (year % 100 != 0 || year % 400 == 0)

/-- The days of a month. -/
def daysInMonth (year : Int) (month : Nat) : Nat :=
  if month = 2 then if isLeapYear year then 29 else 28
  else if month = 4 ∨ month = 6 ∨ month = 9 ∨ month = 11 then 30
  else 31

/-- The date of a calendar that reaches from the year -262143 to the year 262142. -/
def ofParts? (year : Int) (month day hour minute second nanosecond : Nat) : Option DateTime :=
  if -262143 ≤ year ∧ year ≤ 262142 ∧ 1 ≤ month ∧ month ≤ 12 ∧ 1 ≤ day ∧
      day ≤ daysInMonth year month ∧ hour ≤ 23 ∧ minute ≤ 59 ∧ second ≤ 60 then
    some ⟨year, month, day, hour, minute, second, nanosecond⟩
  else none

/-- The day after a date, its time unchanged. -/
def nextDay (d : DateTime) : DateTime :=
  if d.day < daysInMonth d.year d.month then { d with day := d.day + 1 }
  else if d.month < 12 then { d with month := d.month + 1, day := 1 }
  else { d with year := d.year + 1, month := 1, day := 1 }

/-- The day before a date, its time unchanged. -/
def previousDay (d : DateTime) : DateTime :=
  if 1 < d.day then { d with day := d.day - 1 }
  else if 1 < d.month then
    { d with month := d.month - 1, day := daysInMonth d.year (d.month - 1) }
  else { d with year := d.year - 1, month := 12, day := 31 }

/-- The date-time a number of minutes earlier, less than a day in either direction. -/
def minusMinutes (d : DateTime) (minutes : Int) : DateTime :=
  let total := (d.hour * 60 + d.minute : Nat) - minutes
  let inDay := (total % 1440).toNat
  let d' := { d with hour := inDay / 60, minute := inDay % 60 }
  if total < 0 then d'.previousDay else if 1440 ≤ total then d'.nextDay else d'

/-! ## Reading -/

/-- A reader takes characters from the front of a text. -/
abbrev Reader (α : Type) := List Char → Option (α × List Char)

/-- An ASCII digit. -/
def isDigit (c : Char) : Bool := '0' ≤ c && c ≤ '9'

/-- Digits, at least one and at most the number given. -/
def digits (most : Nat) : Reader Nat := fun cs =>
  let taken := (cs.takeWhile isDigit).take most
  (Text.digits? 10 taken).map fun n => (n, cs.drop taken.length)

/-- A fixed number of digits. -/
def exactDigits (count : Nat) : Reader Nat := fun cs =>
  let taken := (cs.takeWhile isDigit).take count
  if taken.length = count then (Text.digits? 10 taken).map fun n => (n, cs.drop count) else none

/-- One given character. -/
def literal (c : Char) : Reader Unit
  | [] => none
  | d :: rest => if d = c then some ((), rest) else none

/-- A number after blanks. -/
def spacedDigits (most : Nat) : Reader Nat := fun cs => digits most (cs.dropWhile Text.isBlank)

/-- A year after blanks: up to four digits, or a sign and any number of digits. -/
def spacedYear : Reader Int := fun cs =>
  match cs.dropWhile Text.isBlank with
  | '-' :: rest => (digits rest.length rest).map fun (n, rest) => (-(n : Int), rest)
  | '+' :: rest => (digits rest.length rest).map fun (n, rest) => ((n : Int), rest)
  | rest => (digits 4 rest).map fun (n, rest) => ((n : Int), rest)

/-- The nanoseconds of a fraction after its point; digits beyond the ninth are dropped. -/
def fraction : Reader Nat := fun cs =>
  let taken := (cs.takeWhile isDigit).take 9
  (Text.digits? 10 taken).map fun n => (n * Decimal.tenTo (9 - taken.length), cs.dropWhile isDigit)

/-- A fraction with its point, or nothing. -/
def optionalFraction : Reader Nat
  | '.' :: rest => fraction rest
  | cs => some (0, cs)

/-- The local form. -/
def ofLocal? (cs : List Char) : Option DateTime := do
  let (year, cs) ← spacedYear cs
  let (_, cs) ← literal '-' cs
  let (month, cs) ← spacedDigits 2 cs
  let (_, cs) ← literal '-' cs
  let (day, cs) ← spacedDigits 2 cs
  let (_, cs) ← literal 'T' cs
  let (hour, cs) ← spacedDigits 2 cs
  let (_, cs) ← literal ':' cs
  let (minute, cs) ← spacedDigits 2 cs
  let (_, cs) ← literal ':' cs
  let (second, cs) ← spacedDigits 2 cs
  let (nanosecond, cs) ← optionalFraction cs
  if cs.isEmpty then ofParts? year month day hour minute second nanosecond else none

/-- The minutes of an offset that ends a text: `Z`, or a sign, hours, a colon and minutes. -/
def offset? : List Char → Option Int
  | [c] => if c = 'Z' ∨ c = 'z' then some 0 else none
  | sign :: rest => do
    let factor : Int ← if sign = '+' then some 1
      else if sign = '-' ∨ sign = '\u2212' then some (-1) else none
    let (hours, rest) ← exactDigits 2 rest
    let (_, rest) ← literal ':' rest
    let (minutes, rest) ← exactDigits 2 rest
    if rest.isEmpty ∧ hours ≤ 23 ∧ minutes ≤ 59 then
      some (factor * ((hours * 60 + minutes : Nat) : Int))
    else none
  | [] => none

/-- The zoned form, as the date-time at offset zero. -/
def ofZoned? (cs : List Char) : Option DateTime := do
  let (year, cs) ← exactDigits 4 cs
  let (_, cs) ← literal '-' cs
  let (month, cs) ← exactDigits 2 cs
  let (_, cs) ← literal '-' cs
  let (day, cs) ← exactDigits 2 cs
  let cs ← match cs with
    | c :: rest => if c = 'T' ∨ c = 't' ∨ c = ' ' then some rest else none
    | [] => none
  let (hour, cs) ← exactDigits 2 cs
  let (_, cs) ← literal ':' cs
  let (minute, cs) ← exactDigits 2 cs
  let (_, cs) ← literal ':' cs
  let (second, cs) ← exactDigits 2 cs
  let (nanosecond, cs) ← optionalFraction cs
  let offset ← offset? cs
  (ofParts? year month day hour minute second nanosecond).map (·.minusMinutes offset)

/-- A date-time in the local form, or else in the zoned form. -/
def ofText? (cs : List Char) : Option DateTime :=
  match ofLocal? cs with
  | some d => some d
  | none => ofZoned? cs

/-! ## Writing -/

/-- A number with zeros in front, at least as wide as given. -/
def padded (width n : Nat) : String :=
  let digits := toString n
  "".pushn '0' (width - digits.length) ++ digits

/-- A year of four digits, or of more with a sign. -/
def yearText (year : Int) : String :=
  if 0 ≤ year ∧ year ≤ 9999 then padded 4 year.toNat
  else (if year < 0 then "-" else "+") ++ padded 4 year.natAbs

/-- A fraction of three, six or nine digits, as few as hold it; none for zero. -/
def fractionText (nanosecond : Nat) : String :=
  if nanosecond = 0 then ""
  else if nanosecond % 1000000 = 0 then "." ++ padded 3 (nanosecond / 1000000)
  else if nanosecond % 1000 = 0 then "." ++ padded 6 (nanosecond / 1000)
  else "." ++ padded 9 nanosecond

/-- The written form of a date-time. -/
def text (d : DateTime) : String :=
  s!"{yearText d.year}-{padded 2 d.month}-{padded 2 d.day}T" ++
    s!"{padded 2 d.hour}:{padded 2 d.minute}:{padded 2 d.second}{fractionText d.nanosecond}"

end DateTime

end MissionBase
