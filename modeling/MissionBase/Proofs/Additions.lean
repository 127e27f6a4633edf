import MissionBase.Proofs.Database
import MissionBase.Proofs.Steps
import MissionBase.Telemetry.Packets

/-!
# Relations that additions step in

An addition to the database is refused, and leaves the draft where it is, or its element comes last
in a catalog. So a relation between drafts that holds where an element of a free name comes last is
one that its addition steps in. The parameters of packet headers are made of two such additions, of
a type and of a parameter, and so are the parameters of echoed requests, which the packets of
service 1 carry.
-/

namespace MissionBase

open Run

variable {σ : Type} {R : Draft σ → Draft σ → Prop} [Std.Refl R] {refused : String → Error}

/-! ## One addition -/

theorem steps_addParameterType {t : ParameterType}
    (h : ∀ d : Draft σ, d.database.parameterTypes.has t.name = false → R d { d with
      database := { d.database with parameterTypes := d.database.parameterTypes.push t } }) :
    Steps R (Build.add refused fun db => db.addParameterType t : Build σ ParameterTypeRef) := by
  refine steps_add fun d _ _ hadd => ?_
  obtain ⟨hfree, heq⟩ := Database.addParameterType_eq_ok.mp hadd
  cases heq
  exact h d hfree

theorem steps_addParameter {p : Parameter}
    (h : ∀ d : Draft σ, d.database.parameters.has p.name = false → R d { d with
      database := { d.database with
        parameters := d.database.parameters.push p
        aliasOwners := Database.registerAliases d.database.aliasOwners
          d.database.parameters.next p.aliases } }) :
    Steps R (Build.add refused fun db => db.addParameter p : Build σ ParameterRef) := by
  refine steps_add fun d _ _ hadd => ?_
  obtain ⟨hfree, heq⟩ := Database.addParameter_eq_ok.mp hadd
  cases heq
  exact h d hfree

theorem steps_addContainer {c : Container}
    (h : ∀ d : Draft σ, d.database.containers.has c.name = false → R d { d with
      database := { d.database with containers := d.database.containers.push c } }) :
    Steps R (Build.add refused fun db => db.addContainer c : Build σ ContainerRef) := by
  refine steps_add fun d _ _ hadd => ?_
  obtain ⟨hfree, heq⟩ := Database.addContainer_eq_ok.mp hadd
  cases heq
  exact h d hfree

theorem steps_addCommand {c : Command}
    (h : ∀ d : Draft σ, d.database.commands.has c.name = false → R d { d with
      database := { d.database with commands := d.database.commands.push c } }) :
    Steps R (Build.add refused fun db => db.addCommand c : Build σ CommandRef) := by
  refine steps_add fun d _ _ hadd => ?_
  obtain ⟨hfree, heq⟩ := Database.addCommand_eq_ok.mp hadd
  cases heq
  exact h d hfree

theorem steps_addAlgorithm {a : Algorithm}
    (h : ∀ d : Draft σ, d.database.algorithms.has a.name = false → R d { d with
      database := { d.database with algorithms := d.database.algorithms.push a } }) :
    Steps R (Build.add refused fun db => db.addAlgorithm a : Build σ AlgorithmRef) := by
  refine steps_add fun d _ _ hadd => ?_
  obtain ⟨hfree, heq⟩ := Catalog.map_add_eq_ok.mp hadd
  cases heq
  exact h d hfree

/-! ## Parameters of packet headers -/

section

variable (htype : ∀ size, Steps R (Build.add .structural fun db =>
  db.addParameterType (unsignedType size) : Build σ ParameterTypeRef))
include htype

theorem steps_unsignedTypeRef [IsTrans (Draft σ) R] (size : Nat) :
    Steps R (unsignedTypeRef size : Build σ ParameterTypeRef) := by
  unfold unsignedTypeRef
  refine steps_database.bind fun db => ?_
  split
  · exact steps_pure _
  · exact htype size

/-- A parameter of some bits is added after its type. -/
theorem steps_addUnsigned [IsTrans (Draft σ) R]
    (hparameter : ∀ name type, Steps R (Build.add .structural fun db =>
      db.addParameter { name := name, type := type } : Build σ ParameterRef))
    (name : String) (size : Nat) : Steps R (addUnsigned name size : Build σ ParameterRef) :=
  (steps_unsignedTypeRef htype size).bind fun type => hparameter name type

end

section

variable [IsTrans (Draft σ) R]
  (hadd : ∀ name size, Steps R (addUnsigned name size : Build σ ParameterRef))
include hadd

theorem steps_unsignedOrNew (name : String) (size : Nat) :
    Steps R (unsignedOrNew name size : Build σ ParameterRef) := by
  unfold unsignedOrNew
  refine steps_database.bind fun db => ?_
  split
  · exact steps_pure _
  · exact hadd name size

theorem steps_echoedRequest :
    Steps R (echoedRequest : Build σ (ParameterRef × ParameterRef)) := by
  unfold echoedRequest
  refine (steps_unsignedOrNew hadd _ _).bind fun _ => ?_
  exact (steps_unsignedOrNew hadd _ _).bind fun _ => steps_pure _

end

theorem Telemetry.steps_echoEntries {R : Draft TelemetryState → Draft TelemetryState → Prop}
    [Std.Refl R] [IsTrans (Draft TelemetryState) R] {setting : Setting}
    (hadd : ∀ name size, Steps R (addUnsigned name size)) (key : PacketKey) :
    Steps R (echoEntries setting key) := by
  unfold echoEntries
  split
  · exact (steps_echoedRequest hadd).bind fun _ => steps_pure _
  · exact steps_pure _

end MissionBase
