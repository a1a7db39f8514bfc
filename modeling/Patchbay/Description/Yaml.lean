import Patchbay.Description.Basic
import Patchbay.Description.Reference
import Patchbay.Yaml.Decode

/-! Descriptions written in YAML. -/

namespace Patchbay

open Yaml Yaml.Decode

/-- A field for an input, which takes any scalar as it is written. A null is no input at all. -/
def inputSlot : Slot Bytes := fun _ current node => do
  match node, isNull node with
  | .scalar line tag text, true =>
    discard (scalarValue line tag text)
    return (current, false)
  | .scalar _ _ text, false => return (text, true)
  | other, true =>
    refuse "graphspec.Input" other
    return (current, false)
  | other, false =>
    throw
      (.refused
        ("line " ++ natText other.line ++ ": " ++ malformedInput "expected a number or a string"))

/-- The fields of a parameter. -/
def ParameterEntry.shape : Shape ParameterEntry where
  type := "graphspec.Param"
  closed := true
  fields := [
    ("name", part (·.name) (fun entry name => { entry with name := name }) text),
    ("default", part (·.default) (fun entry value => { entry with default := value }) single),
    ("lag", part (·.lag) (fun entry lag => { entry with lag := lag }) single)]

/-- The fields of a group. -/
def GroupEntry.shape : Shape GroupEntry where
  type := "graphspec.ControlGroup"
  closed := true
  fields := [
    ("rate", part (·.rate) (fun entry rate => { entry with rate := rate }) text),
    ("op", part (·.op) (fun entry op => { entry with op := op }) text),
    ("params", part (·.parameters) (fun entry parameters => { entry with parameters := parameters })
      (list "[]graphspec.Param" .blank (record ParameterEntry.shape)))]

/-- The fields of a node. -/
def NodeEntry.shape : Shape NodeEntry where
  type := "graphspec.NodeSpec"
  closed := true
  fields := [
    ("id", part (·.id) (fun entry id => { entry with id := id }) text),
    ("op", part (·.op) (fun entry op => { entry with op := op }) text),
    ("rate", part (·.rate) (fun entry rate => { entry with rate := rate }) text),
    ("outputs", part (·.outputs) (fun entry outputs => { entry with outputs := outputs }) 
      (optional "*int" 0 integer)),
    ("special", part (·.special) (fun entry special => { entry with special := special }) integer),
    ("inputs", part (some ·.inputs) (fun entry inputs => { entry with inputs := inputs.getD [] })
      (list "[]graphspec.Input" [] inputSlot))]

/-- The fields of a description. -/
def Description.shape : Shape Description where
  type := "graphspec.Document"
  closed := true
  fields := [
    ("name", part (·.name) (fun description name => { description with name := name }) text),
    ("controls", part (some ·.controls)
      (fun description controls => { description with controls := controls.getD [] })
      (list "[]graphspec.ControlGroup" .blank (record GroupEntry.shape))),
    ("nodes", part (some ·.nodes)
      (fun description nodes => { description with nodes := nodes.getD [] })
      (list "[]graphspec.NodeSpec" .blank (record NodeEntry.shape))),
    ("roots", part (·.roots) (fun description roots => { description with roots := roots })
      (list "[]graphspec.Input" [] inputSlot))]

/-- The description that a text holds. -/
def Description.ofYaml (text : Bytes) : Except Yaml.Error Description :=
  match Yaml.parse text with
  | .error problem => .error (.malformed problem)
  | .ok none => .error .noDocument
  | .ok (some document) => Yaml.decode (record Description.shape) .blank document

end Patchbay
