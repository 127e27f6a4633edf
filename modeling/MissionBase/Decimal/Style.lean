import MissionBase.Decimal.Shortest

/-!
# Writing decimal numerals

A number is written from its shortest digits in a style: which powers of ten are written
positionally, whether a whole number keeps `.0`, and the words for the undefined value and the
infinities. Two styles are in use: `Style.document` in written documents and
`Style.positional` where a number is part of a comparison's text.
-/

namespace MissionBase.Decimal

/-- The choices of a style. -/
structure Style where
  /-- Numbers whose first digit stands for this power of ten or more take an exponent. -/
  exponentFrom : Option Int
  /-- Numbers whose first digit stands for a power of ten below this one take an exponent. -/
  exponentBelow : Option Int
  /-- Whether a whole number is written with `.0`. -/
  pointZero : Bool
  /-- The word for the undefined value. -/
  undefinedWord : String
  /-- The word for infinity, after the sign. -/
  infinityWord : String

/-- The style of documents: an exponent from `1e16` on and below `1e-5`, and otherwise a point
with a digit on both sides. -/
def Style.document : Style := ⟨some 16, some (-5), true, "null", "null"⟩

/-- All digits in their places, with a point only before a fraction. -/
def Style.positional : Style := ⟨none, none, false, "NaN", "inf"⟩

/-- Zeros as characters. -/
def zeros (n : Nat) : List Char := List.replicate n '0'

/-- The digits written in their places. -/
def placed (pointZero : Bool) (digits : List Char) (power : Int) : List Char :=
  if 0 ≤ power then
    digits ++ zeros power.toNat ++ if pointZero then ['.', '0'] else []
  else
    let places := (-power).toNat
    if places < digits.length then
      digits.take (digits.length - places) ++ '.' :: digits.drop (digits.length - places)
    else ['0', '.'] ++ zeros (places - digits.length) ++ digits

/-- The digits written with an exponent after the first. -/
def withExponent (digits : List Char) (first : Int) : List Char :=
  let mantissa := match digits with
    | [] => []
    | [d] => [d]
    | d :: ds => d :: '.' :: ds
  mantissa ++ 'e' :: (toString first).toList

/-- A nonnegative finite number in a style. -/
def Style.magnitude (n : Style) (mantissa : Nat) (power : Int) : List Char :=
  if mantissa = 0 then placed n.pointZero ['0'] 0
  else
    let d := shortest mantissa power
    let digits := Nat.toDigits 10 d.digits
    let first := d.power + digits.length - 1
    let large := match n.exponentFrom with
      | some e => decide (e ≤ first)
      | none => false
    let small := match n.exponentBelow with
      | some e => decide (first < e)
      | none => false
    if large || small then withExponent digits first else placed n.pointZero digits d.power

/-- A number in a style. -/
def Style.write (n : Style) (x : Float) : String :=
  match Binary.ofFloat x with
  | .nan => n.undefinedWord
  | .infinite negative => (if negative then "-" else "") ++ n.infinityWord
  | .finite negative mantissa power =>
    String.ofList ((if negative then ['-'] else []) ++ n.magnitude mantissa power)

end MissionBase.Decimal
