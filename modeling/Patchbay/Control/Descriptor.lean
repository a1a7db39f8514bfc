import Patchbay.Rate
import Patchbay.Single

/-! Control descriptors: the named parameters that a definition offers to the outside. -/

namespace Patchbay

/-- One parameter of a control node; the empty name stands for no name. -/
structure Descriptor where
  name : Bytes
  rate : Rate
  default : Single
  lag : Single
  deriving DecidableEq, Repr

namespace Descriptor

/-- The descriptor without a name, with all values zero. -/
def blank : Descriptor := ⟨[], .scalar, .zero, .zero⟩

/-- Whether the parameter has a name. -/
def named (descriptor : Descriptor) : Bool := !descriptor.name.isEmpty

end Descriptor

/-- The operators whose nodes own parameters, in their listing order. -/
def controlOps : List Bytes :=
  [utf8 "Control", utf8 "AudioControl", utf8 "TrigControl", utf8 "LagControl"]

/-- Whether nodes of an operator own parameters. -/
def isControlOp (op : Bytes) : Bool := controlOps.contains op

end Patchbay
