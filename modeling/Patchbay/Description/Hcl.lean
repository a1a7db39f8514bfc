import Patchbay.Description.Basic
import Patchbay.Description.Reference
import Patchbay.Hcl.Decode
import Patchbay.Hcl.Parser

/-! Descriptions written in HCL. -/

namespace Patchbay

open Hcl

/-- Why a text in HCL holds no description. -/
inductive HclError where
  /-- The text is not well formed. -/
  | malformed
  /-- Complaints about arguments and blocks, in order. -/
  | noted (notes : List Note)
  /-- The number of outputs of a node is none. -/
  | outputs (id : Bytes) (problem : Bytes)
  /-- An input of a node is none. -/
  | inputs (id : Bytes) (problem : Bytes)
  deriving DecidableEq, Repr

/-- The text of an error in an HCL description. -/
def HclError.message : HclError → Bytes
  | .malformed => "invalid HCL"
  | .noted notes =>
    Bytes.join "; " (notes.map fun note => "line " ++ natText note.line ++ ": " ++ note.summary)
  | .outputs id problem => "node " ++ Text.quote id ++ " outputs: " ++ problem
  | .inputs id problem => "node " ++ Text.quote id ++ " inputs: " ++ malformedInput problem

namespace Description

/-- What a parameter block may hold. -/
def parameterRule : BodyRule := ⟨[], [utf8 "default", utf8 "lag"], []⟩

/-- What a control block may hold. -/
def groupRule : BodyRule := ⟨[], [utf8 "rate", utf8 "op"], [(utf8 "param", some (utf8 "name"))]⟩

/-- What a node block may hold. -/
def nodeRule : BodyRule :=
  ⟨[utf8 "op", utf8 "rate"], [utf8 "special", utf8 "outputs", utf8 "inputs"], []⟩

/-- What a whole text may hold. -/
def textRule : BodyRule :=
  ⟨[utf8 "roots"], [utf8 "name"], [(utf8 "control", none), (utf8 "node", some (utf8 "id"))]⟩

/-- An argument that is a text, empty when it is not there. -/
def textArgument (body : Body) (name : Bytes) : Noted Bytes :=
  return (← body.read name .text Value.text?).getD []

/-- An argument that is a sample value, zero when it is not there. -/
def singleArgument (body : Body) (name : Bytes) : Noted Single :=
  return ((← body.read name .number Value.double?).map Single.ofBinary).getD .zero

/-- The parameter of a block. -/
def readParameter (name : Bytes) (body : Body) : Noted ParameterEntry := do
  body.check parameterRule
  return ⟨name, ← singleArgument body (utf8 "default"), ← singleArgument body (utf8 "lag")⟩

/-- The group of a block. -/
def readGroup (body : Body) : Noted GroupEntry := do
  body.check groupRule
  let rate ← textArgument body (utf8 "rate")
  let op ← textArgument body (utf8 "op")
  let parameters ← (body.blocksOf (utf8 "param") true).mapM fun (name, inner) =>
    readParameter name inner
  return ⟨rate, op, if parameters.isEmpty then none else some parameters⟩

/-- The node of a block, its outputs and inputs still to be evaluated. -/
def readNode (id : Bytes) (body : Body) : Noted (NodeEntry × Body) := do
  body.check nodeRule
  let op ← textArgument body (utf8 "op")
  let rate ← textArgument body (utf8 "rate")
  let special := (← body.read (utf8 "special") .number Value.integer?).getD 0
  return (⟨id, op, rate, none, special, []⟩, body)

/-- The value of an argument, null when it is not there. -/
def evaluated (body : Body) (name : Bytes) : Except HclError Value :=
  match body.argument? name with
  | none => .ok (.null .dynamic)
  | some expr =>
    let (value, notes) := (expr.eval .outer).run []
    if notes.isEmpty then .ok value else .error (.noted notes.reverse)

/-- The number of outputs that a node asks for. -/
def outputCount (id : Bytes) : Value → Except HclError (Option Int)
  | .null _ => .ok none
  | .number wide =>
    match wide.word? with
    | some count => .ok (some count)
    | none =>
      .error (.outputs id ("value must be a whole number, between -9223372036854775808 and " ++
        utf8 "9223372036854775807"))
  | _ => .error (.outputs id "number value is required")

/-- The text of an input: a number in sample precision, or a text as it is. -/
def inputText (id : Bytes) : Value → Except HclError Bytes
  | .null _ | .unknown _ => .error (.inputs id "null input")
  | .number wide => .ok (Single.ofBinary wide.value).text
  | .text value => .ok value
  | other => .error (.inputs id (other.kind.name ++ " input"))

/-- The inputs of a node. -/
def inputTexts (id : Bytes) : Value → Except HclError (List Bytes)
  | .null _ => .ok []
  | .tuple items | .list _ items => items.mapM (inputText id)
  | other => .error (.inputs id ("expected a list, got " ++ other.kind.name))

/-- A node with its outputs and inputs. -/
def finishNode (entry : NodeEntry) (body : Body) : Except HclError NodeEntry := do
  let outputs ← outputCount entry.id (← evaluated body (utf8 "outputs"))
  let inputs ← inputTexts entry.id (← evaluated body (utf8 "inputs"))
  return { entry with outputs := outputs, inputs := inputs }

/-- The description of a body, the outputs and inputs of its nodes still to be evaluated. -/
def readBody (body : Body) : Noted (Description × List (NodeEntry × Body)) := do
  body.check textRule
  let name ← textArgument body (utf8 "name")
  let roots ← body.read (utf8 "roots") (.list .text) Value.texts?
  let controls ← (body.blocksOf (utf8 "control") false).mapM fun (_, inner) => readGroup inner
  let nodes ← (body.blocksOf (utf8 "node") true).mapM fun (id, inner) => readNode id inner
  let roots := (roots.getD none).filter fun texts => !texts.isEmpty
  return (⟨name, controls, [], roots⟩, nodes)

/-- The description that a text holds. -/
def ofHcl (text : Bytes) : Except HclError Description := do
  match Hcl.parse text with
  | none => throw .malformed
  | some body =>
    let ((description, nodes), notes) := (readBody body).run []
    if !notes.isEmpty then throw (.noted notes.reverse)
    let nodes ← nodes.mapM fun (entry, inner) => finishNode entry inner
    return { description with nodes := nodes }

end Description

end Patchbay
