import Patchbay.Proofs.Control.Table
import Patchbay.Proofs.Definition.Check
import Patchbay.Proofs.Stream.File

/-! Written definitions: which definitions the writer accepts, and that it writes the tables as they
stand. -/

open Patchbay.Stream (RawInput RawNode RawDefinition maxName maxCount maxRow)

namespace Patchbay

namespace Definition

/-- The input in a file for an input of a node. -/
def rawInput (definition : Definition) : Source → RawInput
  | .output producer slot => .output (definition.rows.getD producer 0) slot.toNat
  | .constant constant => .constant (definition.slots.getD (definition.keyOf constant) 0)

/-- The row in a file for a row of the node table. -/
def rawNode (definition : Definition) (placed : Placed) : RawNode where
  op := (definition.graph.node placed.node).op
  rate := (definition.graph.node placed.node).rate
  special := placed.special.toNat
  inputs := ((definition.graph.node placed.node).inputs.map definition.rawInput).toArray
  outputs := (definition.graph.node placed.node).outputs

/-- The definition in a file for a definition, without the offsets of its parts. -/
def raw (definition : Definition) : RawDefinition where
  name := definition.name
  constants := (definition.constants.map definition.graph.constant).toArray
  parametersAt := 0
  defaults := (definition.controls.map Descriptor.default).toArray
  entries := ((namedEntries definition.controls).map fun entry => ⟨entry.1, entry.2, 0⟩).toArray
  nodes := (definition.nodes.map definition.rawNode).toArray

/-- An input whose reference the format holds. -/
def InputFits (definition : Definition) : Source → Prop
  | .output producer slot => definition.rows.getD producer 0 ≤ maxRow ∧ slot ≤ maxCount
  | .constant _ => True

/-- A row that the format holds. -/
structure RowFits (definition : Definition) (placed : Placed) : Prop where
  op : (definition.graph.node placed.node).op.length ≤ maxName
  inputCount : (definition.graph.node placed.node).inputs.length ≤ maxCount
  outputCount : (definition.graph.node placed.node).outputs.size ≤ maxCount
  special : 0 ≤ placed.special ∧ placed.special ≤ maxCount
  inputs : ∀ source ∈ (definition.graph.node placed.node).inputs, definition.InputFits source

/-- A definition that passes the check and that the format holds. Strictly, all its parameters have
names. -/
structure Writable (strict : Bool) (definition : Definition) : Prop where
  name : definition.name.length ≤ maxName
  constantCount : definition.constants.length ≤ maxCount
  controlCount : definition.controls.length ≤ maxCount
  nodeCount : definition.nodes.length ≤ maxCount
  checked : definition.check = .ok ()
  allNamed : strict = true → ∀ descriptor ∈ definition.controls, descriptor.named = true
  controlNames : ∀ descriptor ∈ definition.controls, descriptor.name.length ≤ maxName
  rows : ∀ placed ∈ definition.nodes, definition.RowFits placed

end Definition

namespace Stream

variable {definition : Definition} {strict : Bool}

/-- An input is written when the format holds its reference. -/
theorem input_eq_ok_iff {number place : Nat} {node : Node} {source : Source} {bytes : Bytes} :
    input definition definition.rows definition.slots number node place source = .ok bytes ↔
      definition.InputFits source ∧ bytes = (definition.rawInput source).bytes := by
  cases source with
  | output producer slot =>
    simp only [input, Definition.InputFits, Definition.rawInput, RawInput.bytes]
    split
    · -- A row or an output beyond the format is refused.
      rename_i large
      simp only [Bool.or_eq_true, decide_eq_true_eq] at large
      simp only [reduceCtorEq, false_iff]
      rintro ⟨fits, _⟩
      omega
    · rename_i small
      simp only [Bool.or_eq_true, decide_eq_true_eq] at small
      rw [Except.ok.injEq, eq_comm, iff_and_self]
      exact fun _ => by omega
  | constant constant =>
    -- The number of constants has been checked, so that a slot always fits.
    simp only [input, Definition.InputFits, Definition.rawInput, RawInput.bytes, Definition.keyOf,
      true_and]
    rw [Except.ok.injEq, eq_comm]

/-- Inputs are written one after the other when the format holds all their references. -/
theorem inputs_eq_ok_iff {number place : Nat} {node : Node} {sources : List Source}
    {written result : List Bytes} :
    inputs definition definition.rows definition.slots number node place sources written =
      .ok result ↔
      (∀ source ∈ sources, definition.InputFits source) ∧
        result = written.reverse ++
          sources.map fun source => (definition.rawInput source).bytes := by
  -- What is written already is kept in reverse.
  induction sources generalizing place written with
  | nil => simp [inputs, eq_comm]
  | cons source rest ih =>
    simp only [inputs]
    split
    · rename_i fault failed
      simp only [reduceCtorEq, false_iff]
      rintro ⟨fits, _⟩
      rw [input_eq_ok_iff.mpr ⟨fits source List.mem_cons_self, rfl⟩] at failed
      cases failed
    · rename_i bytes success
      obtain ⟨fits, rfl⟩ := input_eq_ok_iff.mp success
      rw [ih, List.forall_mem_cons]
      simp [fits]

/-- A node passes when the format holds its operator, counts and special index. -/
theorem checkNode_eq_ok_iff {number : Nat} {node : Node} {special : Int} {result : Unit} :
    checkNode definition number node special = .ok result ↔
      node.op.length ≤ maxName ∧ (node.inputs.length ≤ maxCount ∧ node.outputs.size ≤ maxCount) ∧
        0 ≤ special ∧ special ≤ maxCount := by
  -- The operator, the counts and the special index are looked at in this order.
  simp only [checkNode]
  split
  · simp only [reduceCtorEq, false_iff]
    omega
  · split
    · rename_i many
      simp only [Bool.or_eq_true, decide_eq_true_eq] at many
      simp only [reduceCtorEq, false_iff]
      omega
    · rename_i few
      simp only [Bool.or_eq_true, decide_eq_true_eq] at few
      split
      · rename_i outside
        simp only [Bool.or_eq_true, decide_eq_true_eq] at outside
        simp only [reduceCtorEq, false_iff]
        omega
      · rename_i inside
        simp only [Bool.or_eq_true, decide_eq_true_eq] at inside
        simp only [true_iff]
        omega

/-- A row is written when the format holds it. -/
theorem row_eq_ok_iff {number : Nat} {placed : Placed} {bytes : Bytes} :
    row definition definition.rows definition.slots number placed = .ok bytes ↔
      definition.RowFits placed ∧ bytes = (definition.rawNode placed).bytes := by
  -- The node is checked before its inputs are written.
  simp only [row, bind_eq_ok_iff, checkNode_eq_ok_iff, inputs_eq_ok_iff]
  constructor
  · rintro ⟨_, ⟨op, ⟨inputCount, outputCount⟩, special⟩, _, ⟨fits, rfl⟩, done⟩
    refine ⟨⟨op, inputCount, outputCount, special, fits⟩, (Except.ok.inj done).symm.trans ?_⟩
    simp [RawNode.bytes, Definition.rawNode, List.flatMap, Function.comp_def]
  · rintro ⟨⟨op, inputCount, outputCount, special, fits⟩, rfl⟩
    refine ⟨(), ⟨op, ⟨inputCount, outputCount⟩, special⟩, _, ⟨fits, rfl⟩, congrArg Except.ok ?_⟩
    simp [RawNode.bytes, Definition.rawNode, List.flatMap, Function.comp_def]

/-- Rows are written one after the other when the format holds them all. -/
theorem rows_eq_ok_iff {number : Nat} {items : List Placed} {written result : List Bytes} :
    rows definition definition.rows definition.slots number items written = .ok result ↔
      (∀ placed ∈ items, definition.RowFits placed) ∧
        result = written.reverse ++ items.map fun placed => (definition.rawNode placed).bytes := by
  -- As for the inputs, what is written already is kept in reverse.
  induction items generalizing number written with
  | nil => simp [rows, eq_comm]
  | cons placed rest ih =>
    simp only [rows]
    split
    · rename_i fault failed
      simp only [reduceCtorEq, false_iff]
      rintro ⟨fits, _⟩
      rw [row_eq_ok_iff.mpr ⟨fits placed List.mem_cons_self, rfl⟩] at failed
      cases failed
    · rename_i bytes success
      obtain ⟨fits, rfl⟩ := row_eq_ok_iff.mp success
      rw [ih, List.forall_mem_cons]
      simp [fits]

/-- The names of all parameters fit the format exactly when no entry has a name that is too long. -/
theorem find_tooLong_eq_none_iff {descriptors : List Descriptor} :
    ((namedEntries descriptors).find? fun (text, _) => maxName < text.length) = none ↔
      ∀ descriptor ∈ descriptors, descriptor.name.length ≤ maxName := by
  simp only [List.find?_eq_none, decide_eq_true_eq, Nat.not_lt, Prod.forall, mem_namedEntries_iff]
  constructor
  · -- A parameter without a name has no entry, but no length either.
    intro short descriptor member
    obtain ⟨place, here⟩ := List.mem_iff_getElem?.mp member
    by_cases empty : descriptor.name = []
    · rw [empty]
      exact Nat.zero_le _
    · exact short descriptor.name place ⟨empty, descriptor, here, rfl⟩
  · rintro short text place ⟨_, descriptor, here, rfl⟩
    exact short descriptor (List.mem_of_getElem? here)

/-- The name table lists the named parameters when the format holds their names. Strictly, all must
be named. -/
theorem nameEntries_eq_ok_iff {entries : List (Bytes × Nat)} :
    nameEntries strict definition = .ok entries ↔
      (strict = true → ∀ descriptor ∈ definition.controls, descriptor.named = true) ∧
        (∀ descriptor ∈ definition.controls, descriptor.name.length ≤ maxName) ∧
        entries = namedEntries definition.controls := by
  rw [← unnamedPlaces_eq_nil_iff, ← find_tooLong_eq_none_iff]
  -- The names are looked at after the search for a parameter without one.
  have looked : ∀ result, (nameEntries false definition = .ok result ↔
      ((namedEntries definition.controls).find? fun (text, _) => maxName < text.length) = none ∧
        result = namedEntries definition.controls) := by
    intro result
    simp only [nameEntries, Bool.false_eq_true, if_false]
    cases found : (namedEntries definition.controls).find? fun (text, _) => maxName <
      text.length with
    | none => simp [Pure.pure, Except.pure, eq_comm]
    | some entry =>
      have long : maxName < entry.1.length := by simpa using List.find?_some found
      simp [checkName, Nat.not_le.mpr long, Bind.bind, Except.bind]
  cases strict with
  | false => simpa using looked entries
  | true =>
    -- A strict writer stops at the first parameter without a name and goes on like a tolerant one
    -- else.
    rw [← looked entries]
    cases unnamed : unnamedPlaces definition.controls with
    | nil => simp [nameEntries, unnamed]
    | cons place rest =>
      simp [nameEntries, unnamed, throw, throwThe, MonadExceptOf.throw, Bind.bind, Except.bind]

/-- A name passes when the format holds it. -/
theorem checkName_eq_ok_iff {text what : Bytes} {index : Int} {result : Unit} :
    checkName definition text what index = .ok result ↔ text.length ≤ maxName := by
  -- The length is compared with the limit.
  simp only [checkName]
  split
  · rename_i short
    simpa using short
  · rename_i long
    simpa using long

/-- A count passes when the format holds it. -/
theorem checkCount_eq_ok_iff {count : Nat} {what : Bytes} {result : Unit} :
    checkCount definition count what = .ok result ↔ count ≤ maxCount := by
  -- The count is compared with the limit.
  simp only [checkCount]
  split
  · rename_i few
    simpa using few
  · rename_i many
    simpa using many

/-- A definition is written exactly when it is writable, and then as its tables stand. -/
theorem encodeDefinition_eq_ok_iff {bytes : Bytes} :
    encodeDefinition strict definition = .ok bytes ↔
      definition.Writable strict ∧ bytes = definition.raw.bytes := by
  -- The writer puts together the same parts, table by table.
  have written : name definition.name ++
      table (fun constant => single (definition.graph.constant constant)) definition.constants ++
      table (fun descriptor => single descriptor.default) definition.controls ++
      table (fun (text, place) => name text ++ word16 place) (namedEntries definition.controls) ++
      word16 definition.nodes.length ++
      ([].reverse ++ definition.nodes.map fun placed =>
        (definition.rawNode placed).bytes).flatten ++ word16 0 =
      definition.raw.bytes := by
    simp [RawDefinition.bytes, RawDefinition.front, RawDefinition.head, Definition.raw, table,
      List.flatMap_def, Function.comp_def, NameEntry.bytes]
  simp only [encodeDefinition, checkDefinition, body, bind_eq_ok_iff, checkName_eq_ok_iff,
    checkCount_eq_ok_iff, nameEntries_eq_ok_iff, rows_eq_ok_iff]
  constructor
  · rintro ⟨_, ⟨_, named, _, constants, _, controls, _, nodes, checked⟩, _, ⟨allNamed, short, rfl⟩,
      _, ⟨fits, rfl⟩, done⟩
    exact ⟨⟨named, constants, controls, nodes, checked, allNamed, short, fits⟩,
      (Except.ok.inj done).symm.trans written⟩
  · rintro ⟨⟨named, constants, controls, nodes, checked, allNamed, short, fits⟩, rfl⟩
    exact ⟨(), ⟨(), named, (), constants, (), controls, (), nodes, checked⟩, _,
      ⟨allNamed, short, rfl⟩, _, ⟨fits, rfl⟩, congrArg Except.ok written⟩

/-- A file is written exactly when the format holds the number of its definitions and each of them
is writable. -/
theorem encode_eq_ok_iff {definitions : List Definition} {data : Bytes} :
    encode strict definitions = .ok data ↔
      definitions.length ≤ maxCount ∧ (∀ definition ∈ definitions, definition.Writable strict) ∧
        data = fileBytes (definitions.map Definition.raw) := by
  -- The definitions are written in turn, each as its own bytes.
  have each : ∀ bodies, definitions.mapM (encodeDefinition strict) = .ok bodies ↔
      (∀ definition ∈ definitions, definition.Writable strict) ∧
        bodies = definitions.map fun definition => definition.raw.bytes := by
    induction definitions with
    | nil => simp [Pure.pure, Except.pure, eq_comm]
    | cons first rest ih =>
      intro bodies
      simp only [List.mapM_cons, bind_eq_ok_iff, encodeDefinition_eq_ok_iff, ih,
        List.forall_mem_cons]
      constructor
      · rintro ⟨_, ⟨writable, rfl⟩, _, ⟨others, rfl⟩, done⟩
        exact ⟨⟨writable, others⟩, (Except.ok.inj done).symm⟩
      · rintro ⟨⟨writable, others⟩, rfl⟩
        exact ⟨_, ⟨writable, rfl⟩, _, ⟨others, rfl⟩, rfl⟩
  have whole : fileBytes (definitions.map Definition.raw) = word32 magic ++ word32 version ++
      word16 definitions.length ++
        (definitions.map fun definition => definition.raw.bytes).flatten := by
    rw [fileBytes, fileHead, List.length_map, List.flatMap_def, List.map_map]
    rfl
  simp only [encode, bind_eq_ok_iff, refuse_eq_ok_iff, each, Nat.not_lt, whole]
  constructor
  · rintro ⟨few, _, ⟨writable, rfl⟩, done⟩
    exact ⟨few, writable, (Except.ok.inj done).symm⟩
  · rintro ⟨few, writable, rfl⟩
    exact ⟨few, _, ⟨writable, rfl⟩, rfl⟩

end Stream

namespace Definition

variable {definition : Definition} {strict : Bool} {row : Nat} {placed : Placed}

/-- A definition that can be written strictly can be written. -/
theorem Writable.tolerant (writable : definition.Writable strict) : definition.Writable false :=
  -- Only a strict writer asks for names.
  { writable with allNamed := fun isStrict => by cases isStrict }

/-- A definition that is written has sound rows. -/
theorem Writable.rowSound (writable : definition.Writable strict)
    (here : definition.nodes[row]? = some placed) :
    definition.RowSound row placed :=
  -- The check passed, and it looks at every row.
  (check_eq_ok_iff definition).mp writable.checked row placed here

/-- The format holds the references of an input that resolves, unless its producer stands in a late
row or has too many outputs. -/
theorem inputFits_of_resolves {source : Source} (resolves : definition.Resolves row source)
    (low : ∀ producer slot, source = .output producer slot → ∀ (other : Nat) (feeder : Placed),
      definition.nodes[other]? = some feeder → feeder.node = producer → other ≤ maxRow)
    (outputs : ∀ placed ∈ definition.nodes, (definition.graph.node placed.node).outputs.size ≤
      maxCount) :
    definition.InputFits source := by
  cases source with
  | output producer slot =>
    -- The producer stands in the row that is written for it.
    obtain ⟨⟨other, _, found⟩, _, inside⟩ := resolves
    obtain ⟨feeder, there, rfl⟩ := rows_sound found
    have early := low feeder.node slot rfl other feeder there rfl
    have held := outputs feeder (List.mem_of_getElem? there)
    simp only [InputFits, Std.HashMap.getD_eq_getD_getElem?, found, Option.getD_some]
    omega
  | constant constant => trivial

/-- A row of a definition in a file comes from the row of the node table. -/
theorem raw_nodes_get (definition : Definition) (row : Nat) :
    definition.raw.nodes[row]? = definition.nodes[row]?.map definition.rawNode := by
  -- The rows are made one by one.
  simp [raw]

/-- An input that resolves and fits the format is sound in the file. -/
theorem rawInput_sound {source : Source} (resolves : definition.Resolves row source)
    (fits : definition.InputFits source) (constants : definition.constants.length ≤ maxCount) :
    (definition.rawInput source).Sound definition.raw.constants.size
      (definition.raw.nodes.toList.take row).toArray := by
  cases source with
  | output producer slot =>
    obtain ⟨⟨other, before, found⟩, positive, inside⟩ := resolves
    obtain ⟨feeder, there, rfl⟩ := rows_sound found
    simp only [InputFits, Std.HashMap.getD_eq_getD_getElem?, found, Option.getD_some] at fits
    simp only [rawInput, Std.HashMap.getD_eq_getD_getElem?, found, Option.getD_some]
    refine ⟨fits.1, by omega, definition.rawNode feeder, ?_, ?_⟩
    · -- The earlier rows of the file are those written for the earlier rows of the table.
      rw [List.getElem?_toArray, List.getElem?_take_of_lt before, Array.getElem?_toList,
        raw_nodes_get, there, Option.map_some]
    · simp only [rawNode]
      omega
  | constant constant =>
    -- The slot of a key is a place of the constant table.
    obtain ⟨slot, found⟩ := resolves
    obtain ⟨_, listed, _⟩ := slots_sound found
    have inside := (List.getElem?_eq_some_iff.mp listed).1
    simp only [rawInput, Std.HashMap.getD_eq_getD_getElem?, found, Option.getD_some]
    refine ⟨by simpa [raw] using inside, by omega⟩

/-- A row that is sound and fits the format is sound in the file. -/
theorem rawNode_sound (sound : definition.RowSound row placed) (fits : definition.RowFits placed)
    (constants : definition.constants.length ≤ maxCount) :
    (definition.rawNode placed).Sound definition.raw.constants.size definition.raw.defaults.size
      (definition.raw.nodes.toList.take row).toArray := by
  refine ⟨fits.op, sound.rate, by simpa [rawNode] using fits.inputCount, fits.outputCount, ?_, ?_,
    sound.outputs, ?_⟩
  · have bounds := fits.special
    simp only [rawNode]
    omega
  · intro input member
    obtain ⟨source, listed, rfl⟩ : ∃ source ∈ (definition.graph.node placed.node).inputs,
        definition.rawInput source = input := by simpa [rawNode] using member
    exact rawInput_sound (sound.inputs source listed) (fits.inputs source listed) constants
  · -- Numbers that the format holds do not wrap around.
    intro control
    obtain ⟨positive, inside⟩ := sound.parameters control
    have bounds := fits.special
    have outputs := fits.outputCount
    simp only [maxCount] at bounds outputs
    have small : fitsWord (placed.special + (definition.graph.node placed.node).outputs.size) =
        true :=
      Bool.and_eq_true_iff.mpr ⟨decide_eq_true (by simp only [wordLimit]; omega),
        decide_eq_true (by simp only [wordLimit]; omega)⟩
    rw [wrapWord_eq small] at inside
    simp only [rawNode, raw, List.size_toArray, List.length_map]
    omega

/-- A definition that is written fits the format. -/
theorem Writable.raw_fits (writable : definition.Writable strict) : definition.raw.Fits where
  name := writable.name
  constants := by simpa [raw] using writable.constantCount
  defaults := by simpa [raw] using writable.controlCount
  entryCount := by
    -- There are no more entries than parameters.
    have few : (namedEntries definition.controls).length ≤ definition.controls.zipIdx.length :=
      List.length_filterMap_le _ _
    have all := writable.controlCount
    simp only [raw, List.size_toArray, List.length_map]
    rw [List.length_zipIdx] at few
    omega
  entries := by
    intro entry member
    -- An entry has the name of a parameter and its place as an index.
    obtain ⟨text, place, listed, rfl⟩ :
      ∃ text place, (text, place) ∈ namedEntries definition.controls ∧
        (⟨text, place, 0⟩ : Stream.NameEntry) = entry := by simpa [raw] using member
    obtain ⟨_, descriptor, here, rfl⟩ := mem_namedEntries_iff.mp listed
    have inside := (List.getElem?_eq_some_iff.mp here).1
    have all := writable.controlCount
    exact ⟨writable.controlNames descriptor (List.mem_of_getElem? here), by simp only; omega⟩
  nodeCount := by simpa [raw] using writable.nodeCount
  nodes := by
    intro row node here
    rw [raw_nodes_get, Option.map_eq_some_iff] at here
    obtain ⟨placed, there, rfl⟩ := here
    exact rawNode_sound (writable.rowSound there)
      (writable.rows placed (List.mem_of_getElem? there))
      writable.constantCount

end Definition

end Patchbay
