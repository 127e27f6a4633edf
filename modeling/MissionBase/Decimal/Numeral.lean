import MissionBase.Text.Numeral
import MissionBase.Decimal.Binary64

/-!
# Reading decimal numerals

A numeral is an optional sign before either digits with an optional point (at least one digit on
one of its sides) and an optional exponent, or one of the words `inf`, `infinity` and `nan` in
any case of letters. Its value is the nearest binary64 value, infinite beyond the greatest.
-/

namespace MissionBase.Decimal

open MissionBase.Text

/-- A decimal digit. -/
def isDigit (c : Char) : Bool := '0' ≤ c && c ≤ '9'

/-- An upper-case ASCII letter made lower-case; every other character as it is. -/
def lowerAscii (c : Char) : Char :=
  if 'A' ≤ c ∧ c ≤ 'Z' then Char.ofNat (c.toNat + 32) else c

/-- Digits with a power of ten: `digits * 10 ^ power`. -/
structure Scaled where
  digits : Nat
  power : Int
  deriving Repr, DecidableEq

/-- The number that decimal digits write. -/
def digitsValue (cs : List Char) : Nat := cs.foldl (fun acc c => acc * 10 + (c.toNat - 48)) 0

/-- The exponent after its letter: an optional sign and at least one digit, to the end. -/
def exponent? (cs : List Char) : Option Int := integer? cs

/-- Digits with an optional point, and what follows them. -/
def significand (cs : List Char) : List Char × List Char × List Char :=
  let whole := cs.takeWhile isDigit
  match cs.dropWhile isDigit with
  | '.' :: rest => (whole, rest.takeWhile isDigit, rest.dropWhile isDigit)
  | rest => (whole, [], rest)

/-- An unsigned numeral with digits. -/
def scaled? (cs : List Char) : Option Scaled :=
  let (whole, fraction, rest) := significand cs
  if whole.isEmpty && fraction.isEmpty then none
  else
    let digits := digitsValue (whole ++ fraction)
    match rest with
    | [] => some ⟨digits, -(fraction.length : Int)⟩
    | c :: rest =>
      if c = 'e' ∨ c = 'E' then
        (exponent? rest).map fun e => ⟨digits, e - (fraction.length : Int)⟩
      else none

/-- Infinity, of either sign. -/
def infinity (negative : Bool) : Float :=
  Float.ofBits (UInt64.ofNat (if negative then twoTo 63 + infinityBits else infinityBits))

/-- The number of decimal digits of a positive number. -/
def decimalLength (n : Nat) : Nat := (Nat.toDigits 10 n).length

/-- The value of scaled digits. Beyond `10 ^ 310` every number rounds to infinity and below
`10 ^ (-330)` to zero, so no greater power of ten is ever computed. -/
def Scaled.toFloat (negative : Bool) (s : Scaled) : Float :=
  if s.digits = 0 then nearest negative 0 1
  else
    let magnitude := (decimalLength s.digits : Int) + s.power
    if 311 < magnitude then infinity negative
    else if magnitude < -330 then nearest negative 0 1
    else if 0 ≤ s.power then nearest negative (s.digits * tenTo s.power.toNat) 1
    else nearest negative s.digits (tenTo (-s.power).toNat)

/-- An unsigned numeral, digits or a word. -/
def magnitude? (negative : Bool) (cs : List Char) : Option Float :=
  match scaled? cs with
  | some s => some (s.toFloat negative)
  | none =>
    let word := String.ofList (cs.map lowerAscii)
    if word = "inf" ∨ word = "infinity" then some (infinity negative)
    else if word = "nan" then some (0.0 / 0.0)
    else none

/-- The value of a numeral. -/
def float? : List Char → Option Float
  | '-' :: cs => magnitude? true cs
  | '+' :: cs => magnitude? false cs
  | cs => magnitude? false cs

end MissionBase.Decimal
