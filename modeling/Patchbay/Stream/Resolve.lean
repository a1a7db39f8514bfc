import Patchbay.Stream.Raw

/-! Resolving parameters: which parameters and names of a definition in a file belong to a control
node. -/

namespace Patchbay.Stream

/-- Something in a file that belongs to no control node, or names a parameter a second time. -/
inductive Diagnostic where
  /-- A name for a parameter that no control node owns. -/
  | orphanName (name : Bytes) (index offset : Nat)
  /-- A second name for a parameter. -/
  | duplicateName (name : Bytes) (index offset : Nat)
  /-- A parameter that no control node owns. -/
  | orphanParameter (index offset : Nat)
  deriving DecidableEq, Repr

namespace Diagnostic

/-- The word that counts a diagnostic. -/
def reason : Diagnostic → Bytes
  | .orphanName .. => "orphan_name"
  | .duplicateName .. => "duplicate_name"
  | .orphanParameter .. => "orphan_parameter"

/-- What is done about it, in words. -/
def text : Diagnostic → Bytes
  | .orphanName .. => "dropped control name without a control node"
  | .duplicateName .. => "dropped second name for control"
  | .orphanParameter .. => "dropped parameter without a control node"

/-- The parameter that it is about. -/
def index : Diagnostic → Nat
  | .orphanName _ index _ => index
  | .duplicateName _ index _ => index
  | .orphanParameter index _ => index

/-- The name that it is about. -/
def name? : Diagnostic → Option Bytes
  | .orphanName name _ _ => some name
  | .duplicateName name _ _ => some name
  | .orphanParameter .. => none

/-- The fault that a strict reader makes of it. -/
def fault (definition : Bytes) : Diagnostic → Fault
  | .orphanName name index offset | .duplicateName name index offset =>
    { Fault.inconsistency "decode" .orphanControl with
      definition := definition
      index := index
      offset := offset
      context := "name " ++ Text.quote name }
  | .orphanParameter index offset =>
    { Fault.inconsistency "decode" .orphanControl with
      definition := definition
      index := index
      offset := offset }

end Diagnostic

/-- For each parameter, the rate of the output of the first control node that owns it. -/
abbrev Owners := Array (Option Rate)

/-- Lets the outputs of a control node own the parameters from a place on that have no owner. -/
def claim : Nat → List Rate → Owners → Owners
  | _, [], owners => owners
  | place, rate :: rest, owners =>
    claim (place + 1) rest
      (owners.modify place fun owner => match owner with
        | none => some rate
        | some first => some first)

/-- The owners of the parameters of a definition. -/
def RawDefinition.owners (raw : RawDefinition) : Owners :=
  raw.nodes.foldl
    (fun owners node =>
      if isControlOp node.op then claim node.special node.outputs.toList owners else owners)
    (Array.replicate raw.defaults.size none)

/-- Gives a parameter its name, or tells why not. -/
def label (owners : Owners) (labels : Array Bytes) (entry : NameEntry) :
    Array Bytes × Option Diagnostic :=
  if (owners[entry.index]?.getD none).isNone then
    (labels, some (.orphanName entry.name entry.index entry.offset))
  else if labels[entry.index]?.getD [] ≠ [] then
    (labels, some (.duplicateName entry.name entry.index entry.offset))
  else (labels.setIfInBounds entry.index entry.name, none)

/-- The names of the parameters, and what is wrong with the name table. -/
def labelAll (owners : Owners) (entries : List NameEntry) : Array Bytes × List Diagnostic :=
  let (labels, found) := entries.foldl
    (fun (labels, found) entry =>
      let (labels, diagnostic) := label owners labels entry
      (labels, diagnostic.toList ++ found))
    (Array.replicate owners.size [], [])
  (labels, found.reverse)

/-- The parameters that no control node owns. -/
def orphanParameters (parametersAt : Nat) (owners : Owners) : List Diagnostic :=
  owners.toList.zipIdx.filterMap fun (owner, place) =>
    match owner with
    | some _ => none
    | none => some (.orphanParameter place (parametersAt + 4 * place))

/-- All that is wrong with the names and parameters of a definition, in order of discovery. -/
def RawDefinition.diagnostics (raw : RawDefinition) : List Diagnostic :=
  let owners := raw.owners
  (labelAll owners raw.entries.toList).2 ++ orphanParameters raw.parametersAt owners

/-- The parameters that a control node owns, in order. -/
def RawDefinition.controls (raw : RawDefinition) (owners : Owners) : List Descriptor :=
  let (labels, _) := labelAll owners raw.entries.toList
  owners.toList.zipIdx.filterMap fun (owner, place) =>
    owner.map fun rate => ⟨labels[place]?.getD [], rate, raw.defaults[place]?.getD .zero, .zero⟩

/-- For each parameter, and for the end of the table, how many owned parameters stand before it. -/
def ownedBefore (owners : Owners) : Array Nat :=
  (owners.foldl
    (fun (counts, count) owner =>
      let count := if owner.isSome then count + 1 else count
      (counts.push count, count))
    (#[0], 0)).1

/-- The input of a node for an input in a file. -/
def RawInput.source : RawInput → Source
  | .constant slot => .constant slot
  | .output row slot => .output row slot

/-- The node and the row of the node table for a row in a file. Parameters are counted anew among
those that have an owner. -/
def RawNode.resolve (raw : RawNode) (row : Nat) (before : Array Nat) (controls : Array Descriptor) :
    Node × Placed :=
  let inputs := raw.inputs.toList.map RawInput.source
  if isControlOp raw.op then
    let place := before[raw.special]?.getD 0
    let descriptors := raw.outputs.toList.zipIdx.map fun (rate, slot) =>
      { controls[place + slot]?.getD .blank with rate := rate }
    (⟨raw.op, raw.rate, inputs, raw.outputs, 0, some descriptors⟩, ⟨row, place⟩)
  else (⟨raw.op, raw.rate, inputs, raw.outputs, raw.special, none⟩, ⟨row, raw.special⟩)

/-- The definition that a definition in a file stands for, without what belongs to no control
node. -/
def RawDefinition.resolve (raw : RawDefinition) : Definition :=
  let owners := raw.owners
  let controls := raw.controls owners
  let before := ownedBefore owners
  let table := controls.toArray
  let resolved := raw.nodes.toList.zipIdx.map fun (node, row) => node.resolve row before table
  { name := raw.name
    graph := ⟨(resolved.map Prod.fst).toArray, raw.constants⟩
    nodes := resolved.map Prod.snd
    constants := List.range raw.constants.size
    controls := controls
    dedup := .identity }

end Patchbay.Stream
