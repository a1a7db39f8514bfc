import Patchbay.Graph.Element

/-! A bench: a graph under construction, with the elements made so far. -/

namespace Patchbay

/-- A graph and the elements at hand, in the order in which they were made. -/
structure Bench where
  graph : Graph
  elements : Array Element

namespace Bench

/-- A bench with nothing on it. -/
def empty : Bench := ⟨.empty, #[]⟩

/-- Puts an element on the bench. -/
def push (bench : Bench) (element : Element) : Bench :=
  { bench with elements := bench.elements.push element }

/-- The place of an element, the first one where there are several. -/
def place? (bench : Bench) (element : Element) : Option Nat :=
  bench.elements.findIdx? (· == element)

/-- Adds a node to the graph and puts it on the bench. -/
def addNode (bench : Bench) (node : Node) : Bench :=
  let (graph, n) := bench.graph.addNode node
  { bench with graph := graph }.push (.node n)

/-- Adds a constant to the graph and puts it on the bench. -/
def addConstant (bench : Bench) (value : Single) : Bench :=
  let (graph, n) := bench.graph.addConstant value
  { bench with graph := graph }.push (.constant n)

/-- Changes the inputs of a node. -/
def rewire (bench : Bench) (n : Nat) (change : List Source → List Source) : Bench :=
  let nodes := bench.graph.nodes.modify n fun node => { node with inputs := change node.inputs }
  { bench with graph := { bench.graph with nodes := nodes } }

end Bench

end Patchbay
