import Patchbay.Fault.Basic
import Patchbay.Graph.Collect
import Patchbay.Single

/-! Definitions: a sequenced graph with its node, constant and control tables. -/

namespace Patchbay

/-- A row of the node table: a node of the graph and its special index in the definition. -/
structure Placed where
  node : Nat
  special : Int
  deriving DecidableEq, Repr

/-- A definition. Its tables list nodes and constants of the graph by their numbers. -/
structure Definition where
  name : Bytes
  graph : Graph
  nodes : List Placed
  constants : List Nat
  controls : List Descriptor
  dedup : Dedup
  deriving DecidableEq, Repr

namespace Definition

/-- The row of each node in the node table; of a repeated node, the last row. -/
def rows (definition : Definition) : Std.HashMap Nat Nat :=
  definition.nodes.zipIdx.foldl (fun rows (placed, row) => rows.insert placed.node row) ∅

/-- The slot of each constant key in the constant table; of a repeated key, the first slot. -/
def slots (definition : Definition) : Std.HashMap ConstantKey Nat :=
  definition.constants.zipIdx.foldl
    (fun slots (constant, slot) =>
      slots.insertIfNew (definition.dedup.key definition.graph constant) slot)
    ∅

/-- The first parameter with a name, and its place. -/
def control? (definition : Definition) (name : Bytes) : Option (Descriptor × Nat) :=
  definition.controls.zipIdx.find? fun (descriptor, _) => descriptor.named &&
    descriptor.name == name

end Definition

/-- The row of a node in the node table. -/
abbrev Rows := Std.HashMap Nat Nat

/-- The slot of a constant key in the constant table. -/
abbrev Slots := Std.HashMap ConstantKey Nat

namespace Definition

/-- A fault that a check finds in a row of the node table. -/
def checkFault (definition : Definition) (row : Nat) (node : Node) (index : Int) (context : Bytes)
    (cause : Cause) : Fault :=
  { Fault.structural "validate" cause with
    definition := definition.name
    node := row
    nodeOp := node.op
    index := index
    context := context }

/-- Checks that the rates of a node's outputs are valid. -/
def checkOutputs (definition : Definition) (row : Nat) (node : Node) : Except Fault Unit :=
  match node.outputs.findIdx? fun rate => !rate.valid with
  | some slot =>
    .error (definition.checkFault row node slot
      ("output rate " ++ natText (node.outputs[slot]?.getD .scalar).code.toNat) .badRate)
  | none => .ok ()

/-- Checks that an input refers to an earlier row and an output it has, or to a constant of the
table. -/
def checkInput (definition : Definition) (rows : Rows) (slots : Slots) (row : Nat) (node : Node)
    (place : Nat) : Source → Except Fault Unit
  | .output producer slot =>
    let feeder := definition.graph.node producer
    match rows[producer]? with
    | none =>
      .error (definition.checkFault row node place
        ("input refers to " ++ feeder.op ++ " outside the node table") .danglingReference)
    | some other =>
      if row ≤ other then
        .error (definition.checkFault row node place
          ("input refers to node " ++ natText other) .orderViolation)
      else if slot < 0 || feeder.outputs.size ≤ slot then
        .error (definition.checkFault row node place
          ("output " ++ intText slot ++ " of " ++ feeder.op ++ " does not exist")
            .danglingReference)
      else .ok ()
  | .constant constant =>
    if slots.contains (definition.dedup.key definition.graph constant) then .ok ()
    else
      .error (definition.checkFault row node place
        ("constant " ++ (definition.graph.constant constant).text ++
          " is not in the constant table")
        .danglingReference)

/-- Checks inputs in order, counting from a place. -/
def checkInputs (definition : Definition) (rows : Rows) (slots : Slots) (row : Nat) (node : Node) :
    Nat → List Source → Except Fault Unit
  | _, [] => .ok ()
  | place, source :: rest =>
    match definition.checkInput rows slots row node place source with
    | .error fault => .error fault
    | .ok () => definition.checkInputs rows slots row node (place + 1) rest

/-- Checks that the parameters of a control node lie in the control table. -/
def checkParameters (definition : Definition) (row : Nat) (node : Node) (special : Int) :
    Except Fault Unit :=
  let count := definition.controls.length
  if isControlOp node.op && (special < 0 || wrapWord (special + node.outputs.size) > count) then
    .error (definition.checkFault row node special
      ("descriptor range exceeds " ++ natText count ++ " controls") .danglingReference)
  else .ok ()

/-- Checks one row of the node table. -/
def checkRow (definition : Definition) (rows : Rows) (slots : Slots) (row : Nat) (placed : Placed) :
    Except Fault Unit := do
  let node := definition.graph.node placed.node
  if !node.rate.valid then
    throw (definition.checkFault row node node.rate.code.toNat "node rate" .badRate)
  definition.checkOutputs row node
  definition.checkInputs rows slots row node 0 node.inputs
  definition.checkParameters row node placed.special

/-- Checks rows in order, counting from a row number. -/
def checkRows (definition : Definition) (rows : Rows) (slots : Slots) :
    Nat → List Placed → Except Fault Unit
  | _, [] => .ok ()
  | row, placed :: rest =>
    match definition.checkRow rows slots row placed with
    | .error fault => .error fault
    | .ok () => definition.checkRows rows slots (row + 1) rest

/-- Checks that a definition is whole: rates are valid, inputs refer to earlier rows and to the
constant table, and parameters lie in the control table. -/
def check (definition : Definition) : Except Fault Unit :=
  definition.checkRows definition.rows definition.slots 0 definition.nodes

end Definition

end Patchbay
