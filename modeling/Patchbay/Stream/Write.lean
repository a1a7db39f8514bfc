import Patchbay.Definition.Basic

/-! Writing definition files: big-endian tables after a magic number and a version. -/

namespace Patchbay.Stream

/-- The number that starts every definition file. -/
def magic : Nat := 0x53436766

/-- The version of the format. -/
def version : Nat := 1

/-- The largest count, index or special that the format holds. -/
def maxCount : Nat := 0xFFFF

/-- The longest name that the format holds. -/
def maxName : Nat := 255

/-- The last row that an input can refer to. -/
def maxRow : Nat := 0x7FFF

/-- A number below 2^16 in two bytes. -/
def word16 (n : Nat) : Bytes := [UInt8.ofNat (n / 256), UInt8.ofNat n]

/-- A number below 2^32 in four bytes. -/
def word32 (n : Nat) : Bytes := word16 (n / 65536) ++ word16 n

/-- A sample value in four bytes. -/
def single (value : Single) : Bytes := word32 value.bits.toNat

/-- A name after its length in one byte. -/
def name (text : Bytes) : Bytes := UInt8.ofNat text.length :: text

/-- A table after its length in two bytes. -/
def table {α : Type} (write : α → Bytes) (items : List α) : Bytes :=
  word16 items.length ++ items.flatMap write

/-- The mark of a constant in the place of a row. -/
def constantMark : Nat := 0xFFFF

/-- A fault of writing. -/
def fault (definition : Definition) (cause : Cause) : Fault :=
  { Fault.structural "encode" cause with definition := definition.name }

/-- Refuses a name that is too long. -/
def checkName (definition : Definition) (text : Bytes) (what : Bytes) (index : Int) :
    Except Fault Unit :=
  if text.length ≤ maxName then .ok ()
  else
    .error { fault definition .nameTooLong with
      index := index
      context := what ++ " is " ++ natText text.length ++ " bytes" }

/-- Refuses a table that is too long. -/
def checkCount (definition : Definition) (count : Nat) (what : Bytes) : Except Fault Unit :=
  if count ≤ maxCount then .ok ()
  else
    .error { fault definition .tooMany with
      index := count
      context := natText count ++ " " ++ what }

/-- Checks all that is checked before the first byte of a definition is written. -/
def checkDefinition (definition : Definition) : Except Fault Unit := do
  checkName definition definition.name "definition name" (-1)
  checkCount definition definition.constants.length "constants"
  checkCount definition definition.controls.length "parameters"
  checkCount definition definition.nodes.length "nodes"
  definition.check

/-- The name table: the named parameters with their places. A parameter without a name is left out,
or refused when strict. -/
def nameEntries (strict : Bool) (definition : Definition) : Except Fault (List (Bytes × Nat)) := do
  if strict then
    if let place :: _ := unnamedPlaces definition.controls then
      throw { fault definition .unnamedControl with
        index := place
        context := "parameter has no name" }
  let entries := namedEntries definition.controls
  match entries.find? fun (text, _) => maxName < text.length with
  | some (text, place) => checkName definition text "control name" place
  | none => pure ()
  return entries

/-- A fault of writing a row of the node table. -/
def rowFault (definition : Definition) (row : Nat) (node : Node) (index : Int) (context : Bytes)
    (cause : Cause) : Fault :=
  { fault definition cause with
    node := row
    nodeOp := node.op
    index := index
    context := context }

/-- An input in four bytes. -/
def input (definition : Definition) (rows : Rows) (slots : Slots) (row : Nat) (node : Node)
    (place : Nat) : Source → Except Fault Bytes
  | .output producer slot =>
    let other := rows.getD producer 0
    if maxRow < other || maxCount < slot then
      .error (rowFault definition row node place
        ("reference to node " ++ natText other ++ " output " ++ intText slot) .tooMany)
    else .ok (word16 other ++ word16 slot.toNat)
  | .constant constant =>
    .ok (word16 constantMark ++
      word16 (slots.getD (definition.dedup.key definition.graph constant) 0))

/-- Inputs in order, after what was written before them, counting from a place. -/
def inputs (definition : Definition) (rows : Rows) (slots : Slots) (row : Nat) (node : Node) :
    Nat → List Source → List Bytes → Except Fault (List Bytes)
  | _, [], written => .ok written.reverse
  | place, source :: rest, written =>
    match input definition rows slots row node place source with
    | .error fault => .error fault
    | .ok bytes => inputs definition rows slots row node (place + 1) rest (bytes :: written)

/-- Refuses a node that the format cannot hold. -/
def checkNode (definition : Definition) (row : Nat) (node : Node) (special : Int) :
    Except Fault Unit :=
  if maxName < node.op.length then
    .error (rowFault definition row node (-1)
      ("operator name is " ++ natText node.op.length ++ " bytes") .nameTooLong)
  else if maxCount < node.inputs.length || maxCount < node.outputs.size then
    .error (rowFault definition row node (-1)
      (natText node.inputs.length ++ " inputs, " ++ natText node.outputs.size ++ " outputs")
        .tooMany)
  else if special < 0 || maxCount < special then
    .error (rowFault definition row node special "special index out of range" .tooMany)
  else .ok ()

/-- A row of the node table. -/
def row (definition : Definition) (rows : Rows) (slots : Slots) (number : Nat) (placed : Placed) :
    Except Fault Bytes := do
  let node := definition.graph.node placed.node
  checkNode definition number node placed.special
  let written ← inputs definition rows slots number node 0 node.inputs []
  return name node.op ++ [node.rate.code] ++ word16 node.inputs.length ++
    word16 node.outputs.size ++ word16 placed.special.toNat ++ written.flatten ++
    node.outputs.toList.map Rate.code

/-- Rows in order, after what was written before them, counting from a row number. -/
def rows (definition : Definition) (index : Rows) (slots : Slots) :
    Nat → List Placed → List Bytes → Except Fault (List Bytes)
  | _, [], written => .ok written.reverse
  | number, placed :: rest, written =>
    match row definition index slots number placed with
    | .error fault => .error fault
    | .ok bytes => rows definition index slots (number + 1) rest (bytes :: written)

/-- The bytes of a definition that passed the first checks. -/
def body (strict : Bool) (definition : Definition) : Except Fault Bytes := do
  let entries ← nameEntries strict definition
  let written ← rows definition definition.rows definition.slots 0 definition.nodes []
  return name definition.name ++
    table (fun constant => single (definition.graph.constant constant)) definition.constants ++
    table (fun descriptor => single descriptor.default) definition.controls ++
    table (fun (text, place) => name text ++ word16 place) entries ++
    word16 definition.nodes.length ++ written.flatten ++ word16 0

/-- The bytes of a definition. -/
def encodeDefinition (strict : Bool) (definition : Definition) : Except Fault Bytes := do
  checkDefinition definition
  body strict definition

/-- The bytes of a file that holds the definitions in order. -/
def encode (strict : Bool) (definitions : List Definition) : Except Fault Bytes := do
  if maxCount < definitions.length then
    throw { Fault.structural "encode" .tooMany with
      index := definitions.length
      context := natText definitions.length ++ " definitions in one file" }
  let bodies ← definitions.mapM (encodeDefinition strict)
  return word32 magic ++ word32 version ++ word16 definitions.length ++ bodies.flatten

end Patchbay.Stream
