/-!
# Raw encodings

The layout in bits of a raw value. A table names it by a type code, a format code and, for values
of variable length, the width in bytes of the size tag in front of them. `Encoding.resolve` gives
the layout of such a triple, or tells why there is none.
-/

namespace MissionBase

/-- Why a type code and a format code name no layout. -/
inductive TypeError where
  | unknownType (ptc pfc : Int)
  /-- A size tag of negative width. -/
  | invalidSizeTag (width : Int)
  /-- A layout that exists, but not in this place. -/
  | invalidCombination (ptc pfc : Int) (reason : String)
  deriving Repr, DecidableEq

/-- The wording of a type error. -/
def TypeError.message : TypeError → String
  | unknownType ptc pfc => s!"unknown parameter type (ptc,pfc): ({ptc},{pfc})"
  | invalidSizeTag width => s!"invalid size tag width {width} for variable length parameter"
  | invalidCombination ptc pfc reason =>
    s!"invalid combination (ptc,pfc) ({ptc},{pfc}): {reason}"

/-- The two formats of floating point values. -/
inductive FloatFormat where
  | ieee754
  | milStd1750a
  deriving Repr, DecidableEq

/-- The formats of on-board times. -/
inductive TimeFormat where
  /-- Unsegmented time preceded by a field that tells its widths. -/
  | cucExplicit
  /-- Day segmented time, with or without its microsecond field. -/
  | cds (microseconds : Bool)
  /-- Unsegmented time of known widths. -/
  | cuc (coarseBytes fineBytes : Nat)
  /-- The 64 bit time of format code 30. -/
  | extended64
  deriving Repr, DecidableEq

namespace TimeFormat

/-- The time format of a format code. -/
def ofFormatCode? (pfc : Int) : Option TimeFormat :=
  if pfc = 0 then some cucExplicit
  else if pfc = 1 then some (cds false)
  else if pfc = 2 then some (cds true)
  else if 3 ≤ pfc ∧ pfc ≤ 18 then
    let n := (pfc - 3).toNat
    some (cuc (n / 4 + 1) (n % 4))
  else if pfc = 30 then some extended64
  else none

/-- The width in bits, where the format alone fixes it. -/
def sizeInBits? : TimeFormat → Option Nat
  | cucExplicit => none
  | cds microseconds => some (if microseconds then 64 else 48)
  | cuc coarse fine => some (8 * (coarse + fine))
  | extended64 => some 64

/-- The bytes that hold fractions of a second. -/
def fineBytes? : TimeFormat → Option Nat
  | cuc _ fine => some fine
  | _ => none

end TimeFormat

/-- The layout of a raw value. -/
inductive Encoding where
  | unsignedInteger (size : Nat)
  /-- Two's complement. -/
  | signedInteger (size : Nat)
  | float (size : Nat) (format : FloatFormat)
  | fixedBinary (size : Nat)
  | leadingSizeBinary (tagSize : Nat)
  | fixedString (size : Nat)
  | leadingSizeString (tagSize : Nat)
  /-- The shift to the left aligns the value with the fine part of the reference clock. -/
  | absoluteTime (format : TimeFormat) (shift : Nat)
  | relativeTime (format : TimeFormat)
  /-- An embedded packet header. -/
  | aggregate
  /-- A value whose type another parameter tells. -/
  | deduced
  deriving Repr, DecidableEq

namespace Encoding

/-- The width of the value in bits; none where it varies or is not known here. -/
def sizeInBits? : Encoding → Option Nat
  | unsignedInteger size | signedInteger size | float size _ | fixedBinary size
  | fixedString size => some size
  | absoluteTime format _ | relativeTime format => format.sizeInBits?
  | _ => none

/-- An integer, with or without a sign. -/
def isInteger : Encoding → Bool
  | unsignedInteger _ | signedInteger _ => true
  | _ => false

/-- A floating point value. -/
def isFloat : Encoding → Bool
  | float .. => true
  | _ => false

/-- A number of either kind. -/
def isNumeric (e : Encoding) : Bool := e.isInteger || e.isFloat

/-- The width of the integers of a format code. -/
def integerSize? (pfc : Int) : Option Nat :=
  if 0 ≤ pfc ∧ pfc ≤ 12 then some (pfc.toNat + 4)
  else if pfc = 13 then some 24
  else if pfc = 14 then some 32
  else if pfc = 15 then some 48
  else if pfc = 16 then some 64
  else none

/-- The floating point layout of a format code. -/
def float? (pfc : Int) : Option Encoding :=
  if pfc = 1 then some (float 32 .ieee754)
  else if pfc = 2 then some (float 64 .ieee754)
  else if pfc = 3 then some (float 32 .milStd1750a)
  else if pfc = 4 then some (float 48 .milStd1750a)
  else none

/-- A layout of fixed width for a positive format code, in bytes, and for zero a layout with a
size tag of `width` bytes. -/
def sized (ptc pfc width : Int) (fixed tagged : Nat → Encoding) : Except TypeError Encoding :=
  if pfc = 0 then
    if width < 0 then .error (.invalidSizeTag width) else .ok (tagged (8 * width.toNat))
  else if 0 < pfc then .ok (fixed (8 * pfc.toNat))
  else .error (.unknownType ptc pfc)

/-- The layout of a type code and a format code; `width` is the width in bytes of the size tag of
binary and string values of variable length. -/
def resolve (ptc pfc width : Int) : Except TypeError Encoding :=
  let known : Option Encoding → Except TypeError Encoding
    | some e => .ok e
    | none => .error (.unknownType ptc pfc)
  match ptc with
  | 1 => known (if pfc = 0 then some (unsignedInteger 1) else none)
  | 2 => known (if 1 ≤ pfc ∧ pfc ≤ 32 then some (unsignedInteger pfc.toNat) else none)
  | 3 => known ((integerSize? pfc).map unsignedInteger)
  | 4 => known ((integerSize? pfc).map signedInteger)
  | 5 => known (float? pfc)
  | 6 => known (if 1 ≤ pfc ∧ pfc ≤ 64 then some (unsignedInteger pfc.toNat) else none)
  | 7 => sized ptc pfc width fixedBinary leadingSizeBinary
  | 8 => sized ptc pfc width fixedString leadingSizeString
  | 9 => known ((TimeFormat.ofFormatCode? pfc).map (absoluteTime · 0))
  | 10 =>
    known (if 3 ≤ pfc ∧ pfc ≤ 18 then (TimeFormat.ofFormatCode? pfc).map relativeTime else none)
  | 11 => .ok deduced
  | 12 => .ok aggregate
  | _ => .error (.unknownType ptc pfc)

/-- An absolute time aligned with a reference clock that has more bytes of fractions. -/
def withReferenceClock (reference : Option Nat) : Encoding → Encoding
  | absoluteTime format shift =>
    match reference with
    | none => absoluteTime format shift
    | some bytes =>
      match format.fineBytes? with
      | some own => absoluteTime format (8 * (bytes - own))
      | none => absoluteTime format 0
  | e => e

end Encoding

end MissionBase
