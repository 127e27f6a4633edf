import MissionBase.Decimal.Power

/-!
# Binary64 values as exact numbers

A finite value is a natural number `m` times a power of two, with `m` below `2 ^ 53` and the
power at least `-1074`; its encoding grows with its magnitude, so `(q + 1074) * 2 ^ 52 + m` is
the encoding of `m * 2 ^ q` both for the normal and for the subnormal values. `nearest` finds
the value closest to a quotient of natural numbers and gives a tie to the even neighbour.
-/

namespace MissionBase.Decimal

/-- A value of the format, taken apart. -/
inductive Binary where
  | nan
  | infinite (negative : Bool)
  /-- The number `mantissa * 2 ^ power`, with a sign of its own so that zero has two forms. -/
  | finite (negative : Bool) (mantissa : Nat) (power : Int)
  deriving Repr, DecidableEq

/-- The encoding of infinity, which is also the least that no finite value has. -/
def infinityBits : Nat := 0x7ff * twoTo 52

/-- The value of an encoding. -/
def Binary.ofBits (bits : Nat) : Binary :=
  let negative := decide (twoTo 63 ≤ bits)
  let magnitude : Nat := bits % twoTo 63
  let biased : Nat := magnitude / twoTo 52
  let fraction : Nat := magnitude % twoTo 52
  if magnitude = infinityBits then .infinite negative
  else if infinityBits < magnitude then .nan
  else if biased = 0 then .finite negative fraction (-1074)
  else .finite negative (twoTo 52 + fraction) ((biased : Int) - 1075)

/-- The value of a number. -/
def Binary.ofFloat (x : Float) : Binary := .ofBits x.toBits.toNat

/-- The quotient rounded to the nearest natural number, a half going to the even one. -/
def roundEven (num den : Nat) : Nat :=
  let q := num / den
  let r := num % den
  if 2 * r < den then q
  else if den < 2 * r then q + 1
  else if q % 2 = 0 then q else q + 1

/-- The greatest power `q`, at least `-1074`, with `2 ^ 52 * 2 ^ q ≤ num / den`; `-1074` where
there is none. -/
def binaryPower (num den : Nat) : Int :=
  let estimate : Int := (num.log2 : Int) - (den.log2 : Int) - 52
  -- The true power is the estimate or one below it.
  let reached :=
    if 0 ≤ estimate then decide (twoTo 52 * twoTo estimate.toNat * den ≤ num)
    else decide (twoTo 52 * den ≤ num * twoTo (-estimate).toNat)
  let power := if reached then estimate else estimate - 1
  if power < -1074 then -1074 else power

/-- The encoding of the positive value nearest to `num / den`; infinity above all of them. -/
def nearestBits (num den : Nat) : Nat :=
  if num = 0 then 0
  else
    let power := binaryPower num den
    let mantissa :=
      if 0 ≤ power then roundEven num (den * twoTo power.toNat)
      else roundEven (num * twoTo (-power).toNat) den
    let bits := (power + 1074).toNat * twoTo 52 + mantissa
    if infinityBits ≤ bits then infinityBits else bits

/-- The value nearest to `num / den`, with the sign given. -/
def nearest (negative : Bool) (num den : Nat) : Float :=
  let bits := nearestBits num den
  Float.ofBits (UInt64.ofNat (if negative then twoTo 63 + bits else bits))

/-- The value nearest to an integer. -/
def ofInt (n : Int) : Float := nearest (decide (n < 0)) n.natAbs 1

/-- Whether a value is neither infinite nor undefined. -/
def isFinite (x : Float) : Bool :=
  match Binary.ofFloat x with
  | .finite .. => true
  | _ => false

/-- A key that orders all values: negative before positive zero, and undefined values beyond
the infinities on the side of their sign. -/
def orderKey (x : Float) : Int :=
  let bits := x.toBits.toNat
  if twoTo 63 ≤ bits then -((bits % twoTo 63 : Nat) : Int) - 1 else (bits : Int)

end MissionBase.Decimal
