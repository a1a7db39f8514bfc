import Patchbay.Description.Check
import Patchbay.Description.Reference
import Patchbay.Graph.Element
import Patchbay.Single

/-! Building: from the names of a description to the wires of a graph. -/

namespace Patchbay

/-- Why a reference leads nowhere. -/
inductive LinkError where
  | malformed (error : ReferenceError)
  | noControl (name : Bytes)
  | noNode (id : Bytes)
  | noSlot (id : Bytes) (count slot : Nat)
  | constantRoot
  deriving DecidableEq, Repr

/-- Why a description does not build. -/
inductive BuildError where
  | broken (name : Bytes) (violation : Violation)
  | sameControl (name : Bytes)
  | sameNode (id : Bytes)
  | badInput (id : Bytes) (place : Nat) (error : LinkError)
  | badRoot (place : Nat) (error : LinkError)
  deriving DecidableEq, Repr

/-- The text of a link error. -/
def LinkError.message : LinkError → Bytes
  | .malformed error => error.message
  | .noControl name => "unknown reference: control " ++ Text.quote name
  | .noNode id => "unknown reference: node " ++ Text.quote id
  | .noSlot id count slot =>
    "unknown reference: node " ++ Text.quote id ++ " has " ++ natText count ++ " outputs, not " ++
      intText (wrapWord (slot + 1))
  | .constantRoot => malformedInput "a constant cannot be a root"

/-- The text of a build error. -/
def BuildError.message : BuildError → Bytes
  | .broken name violation => "graph " ++ Text.quote name ++ ": " ++ violation.message
  | .sameControl name => "control " ++ Text.quote name ++ ": duplicate control name"
  | .sameNode id => "node " ++ Text.quote id ++ ": duplicate node id"
  | .badInput id place error =>
    "node " ++ Text.quote id ++ " input " ++ natText place ++ ": " ++ error.message
  | .badRoot place error => "root " ++ natText place ++ ": " ++ error.message

/-- A graph with the names of its nodes and parameters, and the roots to compile. -/
structure Built where
  name : Bytes
  graph : Graph
  nodes : List (Bytes × Nat)
  channels : List (Bytes × Element)
  roots : List Element
  deriving DecidableEq, Repr

/-- The node of a group. -/
def GroupEntry.node (entry : GroupEntry) : Node :=
  let rate := if entry.rate.isEmpty then .control else (Rate.parse? entry.rate).getD .scalar
  let descriptors := (entry.parameters.getD []).map fun parameter =>
    ⟨parameter.name, .scalar, parameter.default, parameter.lag⟩
  if entry.op.isEmpty then .control rate descriptors
  else if entry.op = utf8 "TrigControl" then .trigger descriptors
  else .holding entry.op rate descriptors

/-- The node of a node entry, without its inputs. -/
def NodeEntry.node (entry : NodeEntry) : Node :=
  .uniform entry.op ((Rate.parse? entry.rate).getD .scalar) entry.outputCount.toNat entry.special []

namespace Built

/-- The graph of nothing. -/
def start (name : Bytes) : Built := ⟨name, .empty, [], [], []⟩

/-- Adds names for the parameters of a node. -/
def addChannels (built : Built) (n : Nat) : List (Descriptor × Nat) → Except BuildError Built
  | [] => .ok built
  | (descriptor, slot) :: rest =>
    if (built.channels.lookup descriptor.name).isSome then .error (.sameControl descriptor.name)
    else
      addChannels { built with channels := built.channels ++ [(descriptor.name, .channel n slot)] }
        n rest

/-- Adds the node of a group. -/
def addGroup (built : Built) (entry : GroupEntry) : Except BuildError Built :=
  let node := entry.node
  let (graph, n) := built.graph.addNode node
  addChannels { built with graph := graph } n node.descriptors.zipIdx

/-- Adds the node of a node entry. -/
def addNode (built : Built) (entry : NodeEntry) : Except BuildError Built :=
  if (built.nodes.lookup entry.id).isSome then .error (.sameNode entry.id)
  else
    let (graph, n) := built.graph.addNode entry.node
    .ok { built with graph := graph, nodes := built.nodes ++ [(entry.id, n)] }

/-- Adds entries one after another. -/
def addAll {α : Type} (add : Built → α → Except BuildError Built) :
    Built → List α → Except BuildError Built
  | built, [] => .ok built
  | built, entry :: rest =>
    match add built entry with
    | .error error => .error error
    | .ok built => addAll add built rest

/-- The element that a reference leads to. A constant is new each time. -/
def resolve (built : Built) : Reference → Except LinkError (Graph × Element)
  | .constant value =>
    let (graph, n) := built.graph.addConstant value
    .ok (graph, .constant n)
  | .control name =>
    match built.channels.lookup name with
    | some channel => .ok (built.graph, channel)
    | none => .error (.noControl name)
  | .node id slot? =>
    match built.nodes.lookup id with
    | none => .error (.noNode id)
    | some n =>
      match slot? with
      | none => .ok (built.graph, .node n)
      | some slot =>
        let count := (built.graph.node n).outputs.size
        if slot < count then .ok (built.graph, .output n slot)
        else .error (.noSlot id count slot)

/-- The elements that inputs refer to. -/
def resolveInputs (id : Bytes) : Built → Nat → List Bytes → List Element →
    Except BuildError (Graph × List Element)
  | built, _, [], done => .ok (built.graph, done.reverse)
  | built, place, text :: rest, done =>
    match Reference.read text with
    | .error error => .error (.badInput id place (.malformed error))
    | .ok reference =>
      match built.resolve reference with
      | .error error => .error (.badInput id place error)
      | .ok (graph, element) =>
        resolveInputs id { built with graph := graph } (place + 1) rest (element :: done)

/-- Wires the inputs of a node. -/
def wire (built : Built) (entry : NodeEntry) : Except BuildError Built :=
  match resolveInputs entry.id built 0 entry.inputs [] with
  | .error error => .error error
  | .ok (graph, elements) =>
    let inputs := Element.inputs graph elements
    let n := (built.nodes.lookup entry.id).getD 0
    .ok { built with
      graph :=
        { graph with nodes := graph.nodes.modify n fun node => { node with inputs := inputs } } }

/-- Adds a root. -/
def addRoot (built : Built) (root : Bytes × Nat) : Except BuildError Built :=
  match Reference.read root.1 with
  | .error error => .error (.badRoot root.2 (.malformed error))
  | .ok (.constant _) => .error (.badRoot root.2 .constantRoot)
  | .ok reference =>
    match built.resolve reference with
    | .error error => .error (.badRoot root.2 error)
    | .ok (_, element) => .ok { built with roots := built.roots ++ [element] }

end Built

/-- Builds the graph of a description. References may point forward, and loops are left to the
compiler. -/
def Description.build (description : Description) : Except BuildError Built := do
  if let some violation := description.check then
    throw (.broken description.name violation)
  let built ← Built.addAll Built.addGroup (.start description.name) description.controls
  let built ← Built.addAll Built.addNode built description.nodes
  let built ← Built.addAll Built.wire built description.nodes
  Built.addAll Built.addRoot built (description.roots.getD []).zipIdx

end Patchbay
