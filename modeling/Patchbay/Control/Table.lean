import Patchbay.Control.Descriptor
import Std.Data.HashMap

/-! Control tables: parameters in order of registration, with an index by name. -/

namespace Patchbay

/-- Parameters in order, and for each name the place of its first bearer. -/
structure ControlTable where
  descriptors : Array Descriptor
  places : Std.HashMap Bytes Nat

namespace ControlTable

/-- The table without parameters. -/
def empty : ControlTable := ⟨#[], {}⟩

/-- Adds one parameter at the end; its name is indexed unless an earlier parameter bears it. -/
def push (table : ControlTable) (descriptor : Descriptor) : ControlTable where
  places :=
    if descriptor.named then table.places.insertIfNew descriptor.name table.descriptors.size
    else table.places
  descriptors := table.descriptors.push descriptor

/-- Adds parameters at the end, and tells the place of the first of them. -/
def append (table : ControlTable) (descriptors : List Descriptor) : ControlTable × Nat :=
  (descriptors.foldl push table, table.descriptors.size)

/-- The number of parameters. -/
def size (table : ControlTable) : Nat := table.descriptors.size

/-- The parameter at a place. -/
def get? (table : ControlTable) (place : Nat) : Option Descriptor := table.descriptors[place]?

/-- The parameters in order. -/
def toList (table : ControlTable) : List Descriptor := table.descriptors.toList

/-- The place of the first parameter with a name. -/
def lookup (table : ControlTable) (name : Bytes) : Option Nat := table.places[name]?

/-- The table of a list of parameters. -/
def ofList (descriptors : List Descriptor) : ControlTable := (empty.append descriptors).1

end ControlTable

/-- The named parameters of a list with their places. -/
def namedEntries (descriptors : List Descriptor) : List (Bytes × Nat) :=
  descriptors.zipIdx.filterMap fun (descriptor, place) =>
    if descriptor.named then some (descriptor.name, place) else none

/-- The places of the parameters without a name. -/
def unnamedPlaces (descriptors : List Descriptor) : List Nat :=
  descriptors.zipIdx.filterMap fun (descriptor, place) =>
    if descriptor.named then none else some place

end Patchbay
