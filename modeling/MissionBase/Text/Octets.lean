import MissionBase.Text.Blank
import MissionBase.Text.Numeral

/-!
# Octets in hexadecimal

A bit pattern is written as hexadecimal text, two characters an octet, the most significant
octet first. A text of odd length stands for the same text with a zero in front. Each pair is a
natural numeral in radix 16, so a pair may also be a plus sign and one digit.
-/

namespace MissionBase.Text

/-- One octet per pair of characters. -/
def octetPairs? : List Char → Option (List UInt8)
  | [] => some []
  | [_] => none
  | a :: b :: rest =>
    match natural? 16 [a, b], octetPairs? rest with
    | some n, some octets => some (UInt8.ofNat n :: octets)
    | _, _ => none

/-- A text of even length: a zero goes in front of an odd one. -/
def evenly (cs : List Char) : List Char :=
  if cs.length % 2 = 1 then '0' :: cs else cs

/-- How many octets hold `bits` bits. -/
def octetsFor (bits : Nat) : Nat := (bits + 7) / 8

/-- At least `count` octets, with zeros on the left where there are fewer. -/
def padLeft (count : Nat) (octets : List UInt8) : List UInt8 :=
  List.replicate (count - octets.length) 0 ++ octets

/-- The octets of a hexadecimal text, at least as many as `bits` bits need. -/
def octets? (text : String) (bits : Nat) : Option (List UInt8) :=
  (octetPairs? (evenly (trimChars text.toList))).map (padLeft (octetsFor bits))

/-- Two lower-case hexadecimal digits. -/
def octetText (o : UInt8) : List Char :=
  [Nat.digitChar (o.toNat / 16), Nat.digitChar (o.toNat % 16)]

end MissionBase.Text
