import MissionBase.Database.Criteria

/-!
# Containers

A container lays out the entries of a packet. It may extend another container, whose entries come
first, under a restriction that tells its packets from others. Entries stand at a bit from the
start of the container or some bits after the end of the entry before them.
-/

namespace MissionBase

/-- Where an entry begins. -/
inductive EntryPlace where
  /-- Bits after the start of the container. -/
  | start (bit : Int)
  /-- Bits after the end of the entry before. -/
  | previous (gap : Int)
  deriving Repr, DecidableEq

/-- How often an entry occurs. -/
inductive RepeatCount where
  | fixed (count : Nat)
  /-- As often as the value of a parameter says. -/
  | dynamic (parameter : ParameterRef)
  deriving Repr, DecidableEq

/-- The repetition of an entry, with the bits between the occurrences. -/
structure Repeat where
  count : RepeatCount
  gap : Nat
  deriving Repr, DecidableEq

/-- What stands at an entry. -/
inductive EntryItem where
  | parameter (parameter : ParameterRef)
  /-- The parameter whose alias in a namespace is the value of another parameter. -/
  | indirect (selector : ParameterRef) (space : String)
  | container (container : ContainerRef)
  deriving Repr, DecidableEq

/-- An entry of a container. -/
structure Entry where
  place : EntryPlace
  repetition : Option Repeat := none
  item : EntryItem
  deriving Repr, DecidableEq

/-- A name in a namespace. -/
structure Alias where
  space : String
  name : String
  deriving Repr, DecidableEq

/-- The layout of a packet or of a part of one. -/
structure Container where
  name : String
  description : Option String := none
  base : Option ContainerRef := none
  /-- What distinguishes the packets of this container among those of its base. -/
  restriction : Option Criteria := none
  isAbstract : Bool := false
  size : Option Nat := none
  entries : List Entry := []
  aliases : List Alias := []
  deriving Repr, DecidableEq

end MissionBase
