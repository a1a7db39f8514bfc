import Mathlib.Data.List.Forall2
import Patchbay.Proofs.Definition.Check
import Patchbay.Stream.Write

/-! Definitions alike: two definitions that differ only in the numbers of their nodes and constants
are checked and written alike, down to the last field of a fault. -/

namespace Patchbay

namespace Definition

/-- Two inputs of two definitions that lead to the same place in the tables, and that are told of in
the same words. -/
inductive InputAlike (one two : Definition) : Source → Source → Prop
  /-- Both take the same output of producers in the same row. -/
  | output {producer other : Nat} {slot : Int} : two.rows[other]? = one.rows[producer]? →
    (two.graph.node other).op = (one.graph.node producer).op →
    (two.graph.node other).outputs.size = (one.graph.node producer).outputs.size →
    InputAlike one two (.output producer slot) (.output other slot)
  /-- Both take the same value from the same slot. -/
  | constant {index other : Nat} : two.slots[two.keyOf other]? = one.slots[one.keyOf index]? →
    two.graph.constant other = one.graph.constant index →
    InputAlike one two (.constant index) (.constant other)

/-- Two rows of two definitions that differ in the numbers of their nodes and constants at most. -/
structure RowAlike (one two : Definition) (placed other : Placed) : Prop where
  op : (two.graph.node other.node).op = (one.graph.node placed.node).op
  rate : (two.graph.node other.node).rate = (one.graph.node placed.node).rate
  outputs : (two.graph.node other.node).outputs = (one.graph.node placed.node).outputs
  special : other.special = placed.special
  inputs : List.Forall₂ (InputAlike one two) (one.graph.node placed.node).inputs
    (two.graph.node other.node).inputs

/-- Two definitions that differ in the numbers of their nodes and constants at most. -/
structure Alike (one two : Definition) : Prop where
  name : two.name = one.name
  constants : two.constants.map two.graph.constant = one.constants.map one.graph.constant
  controls : two.controls = one.controls
  rows : List.Forall₂ (RowAlike one two) one.nodes two.nodes

variable {one two : Definition} {placed other : Placed}

/-- A fault of a check names the definition and the operator, but no number. -/
theorem checkFault_alike {first second : Node} (name : two.name = one.name)
    (op : second.op = first.op) (row : Nat) (index : Int) (context : Bytes) (cause : Cause) :
    two.checkFault row second index context cause =
      one.checkFault row first index context cause := by
  -- It is made of the name, the operator and the place.
  simp only [checkFault, name, op]

/-- Inputs that are alike are checked alike. -/
theorem checkInput_alike {first second : Node} {source target : Source} (name : two.name = one.name)
    (op : second.op = first.op) (alike : InputAlike one two source target) (row place : Nat) :
    two.checkInput two.rows two.slots row second place target =
      one.checkInput one.rows one.slots row first place source := by
  cases alike with
  | output found words size =>
    -- The row, the number of outputs and the operator of the producer are all that is asked for.
    simp only [checkInput, found, words, size, checkFault_alike name op]
  | constant found value =>
    -- A key has a slot in one table exactly when it has one in the other.
    simp only [keyOf] at found
    simp only [checkInput, Std.HashMap.contains_eq_isSome_getElem?, found, value,
      checkFault_alike name op]

/-- Lists of inputs that are alike are checked alike. -/
theorem checkInputs_alike {first second : Node} {sources targets : List Source}
    (name : two.name = one.name)
    (op : second.op = first.op) (alike : List.Forall₂ (InputAlike one two) sources targets)
    (row place : Nat) :
    two.checkInputs two.rows two.slots row second place targets =
      one.checkInputs one.rows one.slots row first place sources := by
  -- The place moves along with both lists.
  induction alike generalizing place with
  | nil => rw [checkInputs, checkInputs]
  | cons head _ ih =>
    simp only [checkInputs, checkInput_alike name op head row place, ih (place + 1)]

/-- Rows that are alike are checked alike. -/
theorem checkRow_alike (alike : Alike one two) (row : RowAlike one two placed other)
    (number : Nat) :
    two.checkRow two.rows two.slots number other =
      one.checkRow one.rows one.slots number placed := by
  -- What is checked of a row is the same in both, and so are the two tables that are looked up.
  have inputs := checkInputs_alike alike.name row.op row.inputs number 0
  simp only [checkRow, checkOutputs, checkParameters, row.op, row.rate, row.outputs, row.special,
    alike.controls, inputs, checkFault_alike alike.name row.op]

/-- Definitions that are alike are checked alike. -/
theorem Alike.check (alike : Alike one two) : two.check = one.check := by
  have general : ∀ (rows others : List Placed), List.Forall₂ (RowAlike one two) rows others →
    ∀ number,
      two.checkRows two.rows two.slots number others =
        one.checkRows one.rows one.slots number rows := by
    -- The number moves along with the rows that are left.
    intro rows others same
    induction same with
    | nil => exact fun _ => by rw [checkRows, checkRows]
    | cons head _ ih =>
      intro number
      simp only [checkRows, checkRow_alike alike head number, ih (number + 1)]
  exact general _ _ alike.rows 0

end Definition

namespace Stream

open Definition (Alike InputAlike RowAlike)

variable {one two : Definition} {placed other : Placed}

/-- A fault of writing a row names the definition and the operator, but no number. -/
theorem rowFault_alike {first second : Node} (name : two.name = one.name)
    (op : second.op = first.op) (row : Nat) (index : Int) (context : Bytes) (cause : Cause) :
    rowFault two row second index context cause = rowFault one row first index context cause := by
  -- It is made of the name, the operator and the place.
  simp only [rowFault, fault, name, op]

/-- Inputs that are alike are written alike. -/
theorem input_alike {first second : Node} {source target : Source} (name : two.name = one.name)
    (op : second.op = first.op) (alike : InputAlike one two source target) (row place : Nat) :
    input two two.rows two.slots row second place target =
      input one one.rows one.slots row first place source := by
  -- Alike inputs have the same row, or the same slot.
  cases alike with
  | output found _ _ =>
    simp only [input, Std.HashMap.getD_eq_getD_getElem?, found, rowFault_alike name op]
  | constant found _ =>
    simp only [Definition.keyOf] at found
    simp only [input, Std.HashMap.getD_eq_getD_getElem?, found]

/-- Lists of inputs that are alike are written alike. -/
theorem inputs_alike {first second : Node} {sources targets : List Source}
    (name : two.name = one.name)
    (op : second.op = first.op) (alike : List.Forall₂ (InputAlike one two) sources targets)
    (row place : Nat) (written : List Bytes) :
    inputs two two.rows two.slots row second place targets written =
      inputs one one.rows one.slots row first place sources written := by
  -- The inputs are written in turn, and the first fault is the same in both.
  induction alike generalizing place written with
  | nil => rw [inputs, inputs]
  | cons head _ ih =>
    simp only [inputs, input_alike name op head row place]
    split
    · rfl
    · exact ih (place + 1) _

/-- Rows that are alike are written alike. -/
theorem row_alike (alike : Alike one two) (same : RowAlike one two placed other) (number : Nat) :
    row two two.rows two.slots number other = row one one.rows one.slots number placed := by
  -- What is written of a row is the same in both.
  have sources := inputs_alike alike.name same.op same.inputs number 0 []
  simp only [row, checkNode, same.op, same.rate, same.outputs, same.special,
    same.inputs.length_eq.symm, sources, rowFault_alike alike.name same.op]

/-- Lists of rows that are alike are written alike. -/
theorem rows_alike (alike : Alike one two) {items others : List Placed}
    (same : List.Forall₂ (RowAlike one two) items others) (number : Nat) (written : List Bytes) :
    rows two two.rows two.slots number others written =
      rows one one.rows one.slots number items written := by
  -- The rows are written in turn, and the first fault is the same in both.
  induction same generalizing number written with
  | nil => rw [rows, rows]
  | cons head _ ih =>
    simp only [rows, row_alike alike head number]
    split
    · rfl
    · exact ih (number + 1) _

/-- Definitions that are alike are written alike. -/
theorem encodeDefinition_alike (alike : Alike one two) (strict : Bool) :
    encodeDefinition strict two = encodeDefinition strict one := by
  have constants : two.constants.length = one.constants.length := by
    have lengths := congrArg List.length alike.constants
    rwa [List.length_map, List.length_map] at lengths
  have values : table (fun constant => single (two.graph.constant constant)) two.constants =
      table (fun constant => single (one.graph.constant constant)) one.constants := by
    have bytes := congrArg (List.flatMap single) alike.constants
    rw [List.flatMap_map, List.flatMap_map] at bytes
    rw [table, table, constants, bytes]
  have names : nameEntries strict two = nameEntries strict one := by
    simp only [nameEntries, alike.controls, fault, checkName, alike.name]
  have checks : checkDefinition two = checkDefinition one := by
    simp only [checkDefinition, checkName, checkCount, fault, alike.name, constants, alike.controls,
      alike.rows.length_eq.symm, alike.check]
  -- The tables are compared one by one, in the order in which they are written.
  simp only [encodeDefinition, body, checks, names, alike.name, values, alike.controls,
    alike.rows.length_eq.symm, rows_alike alike alike.rows]

/-- A file with one definition is the same for definitions that are alike. -/
theorem encode_alike (alike : Alike one two) (strict : Bool) :
    encode strict [two] = encode strict [one] := by
  -- The file has one part, that of the definition.
  simp only [encode, List.mapM_cons, encodeDefinition_alike alike, List.length_singleton]

end Stream

end Patchbay
