import Patchbay.Bytes
import Patchbay.Single

/-! Descriptions: graphs as people write them, with names for nodes and parameters. -/

namespace Patchbay

/-- A control parameter. -/
structure ParameterEntry where
  name : Bytes
  default : Single
  lag : Single
  deriving DecidableEq, Repr

/-- Parameters that share a control node. -/
structure GroupEntry where
  rate : Bytes
  op : Bytes
  /-- No list and an empty list are told apart. -/
  parameters : Option (List ParameterEntry)
  deriving DecidableEq, Repr

/-- A unit node. -/
structure NodeEntry where
  id : Bytes
  op : Bytes
  rate : Bytes
  outputs : Option Int
  special : Int
  inputs : List Bytes
  deriving DecidableEq, Repr

/-- A graph with names in place of wires. -/
structure Description where
  name : Bytes
  controls : List GroupEntry
  nodes : List NodeEntry
  /-- No list and an empty list are told apart. -/
  roots : Option (List Bytes)
  deriving DecidableEq, Repr

/-- The number of outputs of a node, one unless it says otherwise. -/
def NodeEntry.outputCount (entry : NodeEntry) : Int := entry.outputs.getD 1

/-- The parameter before anything is said about it. -/
def ParameterEntry.blank : ParameterEntry := ⟨[], .zero, .zero⟩

/-- The group before anything is said about it. -/
def GroupEntry.blank : GroupEntry := ⟨[], [], none⟩

/-- The node before anything is said about it. -/
def NodeEntry.blank : NodeEntry := ⟨[], [], [], none, 0, []⟩

/-- The description before anything is said about it. -/
def Description.blank : Description := ⟨[], [], [], none⟩

end Patchbay
