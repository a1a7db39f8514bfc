import Patchbay.Graph.Basic

/-! Elements: what a graph is put together from and what names its roots. -/

namespace Patchbay

/-- A part of a graph that can be patched into inputs or named as a root. -/
inductive Element where
  /-- A node with all its outputs. -/
  | node (node : Nat)
  /-- One output of a node. -/
  | output (node : Nat) (slot : Int)
  /-- A constant. -/
  | constant (index : Nat)
  /-- One parameter of a control node. -/
  | channel (node : Nat) (slot : Int)
  deriving DecidableEq, Repr

/-- Why an element cannot be taken apart. -/
inductive ElementError where
  /-- An output that a node does not have. -/
  | noOutput (slot : Int) (count : Nat) (op : Bytes)
  /-- An output other than the first of a single signal. -/
  | notSingle (slot : Int)
  /-- A place outside a list. -/
  | outOfRange
  deriving DecidableEq, Repr

/-- A source as an element. -/
def Source.element : Source → Element
  | .output n slot => .output n slot
  | .constant n => .constant n

namespace Element

/-- The node that an element names; a constant names none. -/
def node? : Element → Option Nat
  | .node n => some n
  | .output n _ => some n
  | .constant _ => none
  | .channel n _ => some n

/-- The number of signals of an element. -/
def outputCount (graph : Graph) : Element → Nat
  | .node n => (graph.node n).outputs.size
  | _ => 1

/-- One signal of an element. -/
def signal (graph : Graph) (element : Element) (slot : Int) : Except ElementError Element :=
  match element with
  | .node n =>
    let node := graph.node n
    if slot < 0 || node.outputs.size ≤ slot then
      .error (.noOutput slot node.outputs.size node.op)
    else if node.controls.isSome then .ok (.channel n slot)
    else .ok (.output n slot)
  | single => if slot = 0 then .ok single else .error (.notSingle slot)

/-- The single signals of an element: a node with one output stands for it. -/
def leaves (graph : Graph) : Element → List Element
  | .node n =>
    let count := (graph.node n).outputs.size
    if count = 1 then [.node n] else (List.range count).map fun slot => .output n (slot : Nat)
  | single => [single]

/-- The source that a single signal is. -/
def source : Element → Source
  | .node n => .output n 0
  | .output n slot => .output n slot
  | .constant index => .constant index
  | .channel n slot => .output n slot

/-- The inputs that a list of elements flattens to. -/
def inputs (graph : Graph) (elements : List Element) : List Source :=
  elements.flatMap fun element => (element.leaves graph).map source

/-- The descriptor of a parameter. -/
def descriptor (graph : Graph) : Element → Except ElementError Descriptor
  | .channel n slot =>
    if slot < 0 then .error .outOfRange
    else match (graph.node n).descriptors[slot.toNat]? with
      | some descriptor => .ok descriptor
      | none => .error .outOfRange
  | _ => .error .outOfRange

/-- The rate of one output of a node. -/
def rate (graph : Graph) : Element → Except ElementError Rate
  | .output n slot =>
    if slot < 0 then .error .outOfRange
    else match (graph.node n).outputs[slot.toNat]? with
      | some rate => .ok rate
      | none => .error .outOfRange
  | _ => .error .outOfRange

end Element

/-- The complaint about an element, for those that have words. -/
def ElementError.message? : ElementError → Option Bytes
  | .noOutput slot count op =>
    some
      ("ugen: output index " ++ intText slot ++ " out of range [0," ++ natText count ++ ") on " ++
        op)
  | .notSingle slot => some ("ugen: output index " ++ intText slot ++ " out of range [0,1)")
  | .outOfRange => none

namespace Node

/-- A node whose outputs all have its own rate. -/
def uniform (op : Bytes) (rate : Rate) (outputs : Nat) (special : Int) (inputs : List Source) :
    Node :=
  ⟨op, rate, inputs, Array.replicate outputs rate, special, none⟩

/-- The operator of nodes with one operand. -/
def unaryOp : Bytes := utf8 "UnaryOpUGen"

/-- The operator of nodes with two operands. -/
def binaryOp : Bytes := utf8 "BinaryOpUGen"

/-- A node that holds parameters, one per output and all of one rate. -/
def holding (op : Bytes) (rate : Rate) (descriptors : List Descriptor) : Node :=
  ⟨op, rate, [], Array.replicate descriptors.length rate, 0,
    some (descriptors.map fun descriptor => { descriptor with rate := rate })⟩

/-- The control node for a rate. -/
def control (rate : Rate) (descriptors : List Descriptor) : Node :=
  holding (if rate = .audio then "AudioControl" else "Control") rate descriptors

/-- The control node whose parameters fall back to zero after use. -/
def trigger (descriptors : List Descriptor) : Node := holding "TrigControl" .control descriptors

end Node

namespace Graph

/-- The parameter of a node with a name. -/
def channel? (graph : Graph) (n : Nat) (name : Bytes) : Option Element :=
  ((graph.node n).descriptors.findIdx? fun descriptor => descriptor.named &&
    descriptor.name == name).map
    fun place => .channel n place

/-- All parameters of a node. -/
def channels (graph : Graph) (n : Nat) : List Element :=
  (List.range (graph.node n).descriptors.length).map fun place => .channel n (place : Nat)

end Graph

end Patchbay
