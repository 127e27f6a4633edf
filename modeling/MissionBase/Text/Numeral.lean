/-!
# Numerals

Whole numbers written in a radix with ASCII digits. A natural numeral may carry a plus sign, an
integer numeral either sign; there is at least one digit, and nothing else: no blanks, no
separators between digits. Range is the caller's business (`within`).
-/

namespace MissionBase.Text

/-- The value of a digit: `0` to `9`, then letters of either case, as far as the radix goes. -/
def digit? (radix : Nat) (c : Char) : Option Nat :=
  let n := c.toNat
  let value :=
    if 48 ≤ n && n ≤ 57 then n - 48
    else if 97 ≤ n && n ≤ 122 then n - 87
    else if 65 ≤ n && n ≤ 90 then n - 55
    else radix
  if value < radix then some value else none

/-- The number that `acc` becomes when the digits `cs` are written after it. -/
def digitsAfter? (radix : Nat) : Nat → List Char → Option Nat
  | acc, [] => some acc
  | acc, c :: cs =>
    match digit? radix c with
    | some d => digitsAfter? radix (acc * radix + d) cs
    | none => none

/-- Digits only, and at least one. -/
def digits? (radix : Nat) : List Char → Option Nat
  | [] => none
  | cs => digitsAfter? radix 0 cs

/-- Digits after an optional plus sign. -/
def natural? (radix : Nat) : List Char → Option Nat
  | '+' :: cs => digits? radix cs
  | cs => digits? radix cs

/-- Decimal digits after an optional sign. -/
def integer? : List Char → Option Int
  | '-' :: cs => (digits? 10 cs).map fun n => -(n : Int)
  | '+' :: cs => (digits? 10 cs).map fun n => (n : Int)
  | cs => (digits? 10 cs).map fun n => (n : Int)

/-- A value that lies between two bounds, both included. -/
def within (lo hi : Int) (n : Int) : Option Int :=
  if lo ≤ n ∧ n ≤ hi then some n else none

/-- Integers of 64 bits with a sign. -/
def int64? (cs : List Char) : Option Int :=
  (integer? cs).bind (within (-9223372036854775808) 9223372036854775807)

/-- Integers of 32 bits with a sign. -/
def int32? (cs : List Char) : Option Int :=
  (integer? cs).bind (within (-2147483648) 2147483647)

/-- Natural numbers of 64 bits in a radix. -/
def nat64? (radix : Nat) (cs : List Char) : Option Nat :=
  (natural? radix cs).bind fun n => if n ≤ 18446744073709551615 then some n else none

end MissionBase.Text
