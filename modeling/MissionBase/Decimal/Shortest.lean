import MissionBase.Decimal.Binary64

/-!
# Shortest decimal digits

The fewest decimal digits that read back as the same binary64 value, and of those the nearest to
it. The reals that round to a value `m * 2 ^ q` form an interval around it, ends included iff `m`
is even. For one digit, two digits and so on, the two neighbours of the value on that decimal
grid are tested; the first grid with a neighbour in the interval is the shortest. Of two
neighbours in the interval the nearer wins, and the greater when they are equally near. Arithmetic
is exact: every quantity is a natural number over one common denominator.
-/

namespace MissionBase.Decimal

/-- The number `digits * 10 ^ power`. -/
structure Digits where
  digits : Nat
  power : Int
  deriving Repr, DecidableEq

/-- A positive value and the ends of its interval, as numerators over one denominator. -/
structure Interval where
  low : Nat
  value : Nat
  high : Nat
  den : Nat
  /-- Whether the ends belong to it. -/
  closed : Bool
  deriving Repr, DecidableEq

/-- The reals nearest to `mantissa * 2 ^ power`. Below a power of two the values lie closer
together, so the lower end is then at a quarter of a unit instead of a half. -/
def Interval.around (mantissa : Nat) (power : Int) : Interval :=
  let narrow := mantissa = twoTo 52 ∧ -1074 < power
  let low := if narrow then 4 * mantissa - 1 else 4 * mantissa - 2
  let value := 4 * mantissa
  let high := 4 * mantissa + 2
  let closed := decide (mantissa % 2 = 0)
  if 0 ≤ power then
    let unit := twoTo power.toNat
    ⟨low * unit, value * unit, high * unit, 4, closed⟩
  else ⟨low, value, high, 4 * twoTo (-power).toNat, closed⟩

/-- Whether `num / den` lies in the interval. -/
def Interval.covers (i : Interval) (num den : Nat) : Bool :=
  let low := i.low * den
  let high := i.high * den
  let x := num * i.den
  if i.closed then decide (low ≤ x ∧ x ≤ high) else decide (low < x ∧ x < high)

/-- The point of the grid of multiples of `10 ^ power` that stands for the interval, if one of
the two neighbours of its value lies in it. -/
def Interval.onGrid? (i : Interval) (power : Int) : Option Digits :=
  -- A multiple of the grid's unit is `n * up / down`.
  let up := if 0 ≤ power then tenTo power.toNat else 1
  let down := if 0 ≤ power then 1 else tenTo (-power).toNat
  let below := i.value * down / (i.den * up)
  let above := below + 1
  let fromBelow := i.value * down - below * (i.den * up)
  let fromAbove := above * (i.den * up) - i.value * down
  match decide (0 < below) && i.covers (below * up) down, i.covers (above * up) down with
  | true, true => some ⟨if fromBelow < fromAbove then below else above, power⟩
  | true, false => some ⟨below, power⟩
  | false, true => some ⟨above, power⟩
  | false, false => none

/-- The first grid, from the power given downward, with a point for the interval. -/
def Interval.search (i : Interval) : Nat → Int → Digits
  | 0, power => ⟨i.value / i.den, power⟩
  | fuel + 1, power =>
    match i.onGrid? power with
    | some d => d
    | none => i.search fuel (power - 1)

/-- The number of decimal digits before the point of `num / den`, at least zero. -/
def wholeDigits (num den : Nat) : Nat :=
  if num < den then 0 else (Nat.toDigits 10 (num / den)).length

/-- How many zeros follow the point of `num / den` when it is below one. -/
def leadingZeros (num den : Nat) : Nat → Nat → Nat
  | 0, zeros => zeros
  | fuel + 1, zeros =>
    if den ≤ num * tenTo (zeros + 1) then zeros else leadingZeros num den fuel (zeros + 1)

/-- The power of ten of the first digit of `num / den`. -/
def firstPower (num den : Nat) : Int :=
  if den ≤ num then (wholeDigits num den : Int) - 1 else -(leadingZeros num den 330 0 : Int) - 1

/-- The digits without the zeros at their end. -/
def Digits.strip : Nat → Digits → Digits
  | 0, d => d
  | fuel + 1, d =>
    if d.digits ≠ 0 ∧ d.digits % 10 = 0 then Digits.strip fuel ⟨d.digits / 10, d.power + 1⟩ else d

/-- The shortest digits of the positive value `mantissa * 2 ^ power`. -/
def shortest (mantissa : Nat) (power : Int) : Digits :=
  let i := Interval.around mantissa power
  (i.search 18 (firstPower i.value i.den + 1)).strip 20

end MissionBase.Decimal
