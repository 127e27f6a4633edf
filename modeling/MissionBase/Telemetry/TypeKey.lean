import MissionBase.Telemetry.Records

/-!
# Shared parameter types

Parameters whose declarations agree in what determines a type share one. The attributes form a
key; the name of a type is made from its key.
-/

namespace MissionBase

/-- What of a declaration determines the type of its parameter. -/
structure TypeKey where
  ptc : Int
  pfc : Int
  category : Char
  calibration : Option String
  interpolation : Option Char
  sizeTagBytes : Int
  unit : Option String
  /-- The value, for constants only. -/
  constant : Option String
  deriving Repr, DecidableEq

namespace TypeKey

/-- The key of a declaration. -/
def ofRecord (r : ParameterRecord) : TypeKey :=
  ⟨r.ptc, r.pfc, r.category, r.calibration, r.interpolation, r.sizeTagBytes, r.unit, r.constant?⟩

/-- A unit as a part of a name: slashes and percent signs left out, blanks replaced. -/
def unitText (unit : String) : String :=
  let kept := unit.toList.filter fun c => c != '/' && c != '%'
  String.ofList (kept.map fun c => if Text.isBlank c then '_' else c)

/-- The name of the type of a key. -/
def typeName (k : TypeKey) : String :=
  let calibration := k.calibration.getD ""
  let interpolation := (k.interpolation.map String.singleton).getD ""
  let base :=
    s!"ptcpfc_{k.ptc}_{k.pfc}_{k.category}_{calibration}_{interpolation}_{k.sizeTagBytes}"
  match k.unit with
  | some unit => base ++ "_" ++ unitText unit
  | none => base

end TypeKey

end MissionBase
