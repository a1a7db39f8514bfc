import Patchbay.Control.Descriptor
import Patchbay.Decimal.General

/-! Graphs of unit generators. Nodes and constants are numbered, so that sharing and loops are
visible. -/

namespace Patchbay

/-- What an input of a node takes its signal from. -/
inductive Source where
  /-- An output of a node. -/
  | output (node : Nat) (slot : Int)
  /-- A constant. -/
  | constant (index : Nat)
  deriving DecidableEq, Repr

/-- The node that a source belongs to. -/
def Source.node? : Source → Option Nat
  | .output node _ => some node
  | .constant _ => none

/-- The constant that a source stands for. -/
def Source.constant? : Source → Option Nat
  | .output _ _ => none
  | .constant index => some index

/-- A unit generator. Its outputs are given by their rates; a node made to hold parameters has a
list of descriptors, which may be empty. -/
structure Node where
  op : Bytes
  rate : Rate
  inputs : List Source
  outputs : Array Rate
  special : Int
  controls : Option (List Descriptor)
  deriving DecidableEq, Repr

namespace Node

/-- The node without inputs and outputs that stands in for a number outside the graph. -/
def blank : Node := ⟨[], .scalar, [], #[], 0, none⟩

instance : Inhabited Node := ⟨blank⟩

/-- The descriptors of a node, none when it was not made to hold parameters. -/
def descriptors (node : Node) : List Descriptor := node.controls.getD []

/-- The nodes that feed the inputs of a node, in input order and with repeats. -/
def producers (node : Node) : List Nat := node.inputs.filterMap Source.node?

/-- The distinct nodes that feed a node, in order of their first use. -/
def antecedents (node : Node) : List Nat := node.producers.eraseDups

/-- One parameter per output: the node's own descriptors when there is one for each output;
otherwise the missing ones are blank and each takes the rate of its output. -/
def parameters (node : Node) : List Descriptor :=
  let own := node.descriptors
  if own.length = node.outputs.size then own
  else
    let known := own.toArray
    node.outputs.toList.zipIdx.map fun (rate, place) =>
      { known[place]?.getD .blank with rate := rate }

end Node

/-- A graph: its nodes and its constants, each known by its number. -/
structure Graph where
  nodes : Array Node
  constants : Array Single
  deriving DecidableEq, Repr

namespace Graph

/-- The graph without nodes and constants. -/
def empty : Graph := ⟨#[], #[]⟩

/-- The node with a number. -/
def node (graph : Graph) (n : Nat) : Node := graph.nodes[n]?.getD .blank

/-- The value of the constant with a number. -/
def constant (graph : Graph) (n : Nat) : Single := graph.constants[n]?.getD .zero

/-- Adds a node and tells its number. -/
def addNode (graph : Graph) (node : Node) : Graph × Nat :=
  ({ graph with nodes := graph.nodes.push node }, graph.nodes.size)

/-- Adds a constant and tells its number. -/
def addConstant (graph : Graph) (value : Single) : Graph × Nat :=
  ({ graph with constants := graph.constants.push value }, graph.constants.size)

/-- The text of a source: the operator and output of a node, or the value of a constant. -/
def sourceText (graph : Graph) : Source → Bytes
  | .output node slot => (graph.node node).op ++ "[" ++ intText slot ++ "]"
  | .constant index => (graph.constant index).text

/-- The text of a node: its operator, rate and inputs. -/
def nodeText (graph : Graph) (n : Nat) : Bytes :=
  let node := graph.node n
  node.op ++ "." ++ node.rate.name ++ "(" ++
    Bytes.join ", " (node.inputs.map graph.sourceText) ++ ")"

end Graph

end Patchbay
