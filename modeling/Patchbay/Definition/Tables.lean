import Patchbay.Decimal.General
import Patchbay.Definition.Basic
import Patchbay.Screen.Box

/-! The tables of a definition for the eye. -/

namespace Patchbay.Definition

/-- The label of a line of a table. -/
def label (letter : Bytes) (place : Nat) : Bytes :=
  letter ++ Screen.padRight 3 (natText place) ++ " "

/-- The lines of the constants. -/
def constantLines (definition : Definition) : List Bytes :=
  definition.constants.zipIdx.map fun (constant, slot) =>
    label "c" slot ++ (definition.graph.constant constant).text

/-- The lines of the parameters. -/
def controlLines (definition : Definition) : List Bytes :=
  definition.controls.zipIdx.map fun (control, place) =>
    label "p" place ++ (if control.named then control.name else "(unnamed)") ++ " = " ++
      control.default.text ++
      " " ++ control.rate.name

/-- The lines of the nodes. -/
def nodeLines (definition : Definition) : List Bytes :=
  let (rows, slots) := (definition.rows, definition.slots)
  let sourceText : Source → Bytes
    | .output n slot => "n" ++ natText (rows[n]?.getD 0) ++ ":" ++ intText slot
    | .constant n => "c" ++ natText (slots[definition.dedup.key definition.graph n]?.getD 0)
  definition.nodes.zipIdx.map fun (placed, row) =>
    let node := definition.graph.node placed.node
    let special : Bytes := if placed.special = 0 then [] else " special=" ++ intText placed.special
    label "n" row ++ node.op ++ "." ++ node.rate.name ++ special ++
      " (" ++ Bytes.join ", " (node.inputs.map sourceText) ++ ") -> [" ++
      Bytes.join ", " (node.outputs.toList.map Rate.name) ++ "]"

/-- The tables of a definition; those of constants and parameters only where there are any. -/
def tables (definition : Definition) : Bytes :=
  let optional (title : Bytes) (lines : List Bytes) : Bytes :=
    if lines.isEmpty then [] else Screen.titled title lines
  Screen.block definition.name ++ "  " ++ natText definition.nodes.length ++ " nodes, " ++
    natText definition.constants.length ++ " constants, " ++ natText definition.controls.length ++
    " controls\n\n" ++ optional "Constants" definition.constantLines ++
    optional "Controls" definition.controlLines ++ Screen.titled "Nodes" definition.nodeLines

end Patchbay.Definition
