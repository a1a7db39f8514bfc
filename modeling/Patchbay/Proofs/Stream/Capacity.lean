import Patchbay.Proofs.Stream.RoundTrip

/-! The capacity of the format: which definitions a file can hold, and that every number that is
written is read back as it was. -/

open Patchbay.Stream (RawDefinition RawNode NameEntry)

namespace Patchbay

namespace Definition

/-- A row that the format can hold. Its inputs come from rows that fit into two bytes with a sign,
wherever their producers stand. -/
structure RowHeld (definition : Definition) (placed : Placed) : Prop where
  op : (definition.graph.node placed.node).op.length ≤ 255
  inputCount : (definition.graph.node placed.node).inputs.length ≤ 65535
  outputCount : (definition.graph.node placed.node).outputs.size ≤ 65535
  special : 0 ≤ placed.special ∧ placed.special ≤ 65535
  producers : ∀ producer slot, .output producer slot ∈ (definition.graph.node placed.node).inputs →
    ∀ (row : Nat) (feeder : Placed), definition.nodes[row]? = some feeder → feeder.node = producer →
      row ≤ 32767

/-- A definition that passes the check and that the format can hold. -/
structure Held (definition : Definition) : Prop where
  name : definition.name.length ≤ 255
  constants : definition.constants.length ≤ 65535
  controls : definition.controls.length ≤ 65535
  nodes : definition.nodes.length ≤ 65535
  checked : definition.check = .ok ()
  controlNames : ∀ descriptor ∈ definition.controls, descriptor.name.length ≤ 255
  rows : ∀ placed ∈ definition.nodes, definition.RowHeld placed

/-- A row in a file that records a row of the node table. Its counts, its special index and the
position of every input are the numbers of the table. -/
structure RowRecorded (definition : Definition) (placed : Placed) (node : RawNode) : Prop where
  op : node.op = (definition.graph.node placed.node).op
  rate : node.rate = (definition.graph.node placed.node).rate
  inputCount : node.inputs.size = (definition.graph.node placed.node).inputs.length
  outputs : node.outputs = (definition.graph.node placed.node).outputs
  special : (node.special : Int) = placed.special
  inputs : (definition.graph.node placed.node).inputs.map definition.wire? =
    node.inputs.toList.map fun input => some input.source

/-- A definition in a file that records a definition. Each table has as many items as there were,
and each entry of the name table the place of its parameter. -/
structure Recorded (definition : Definition) (raw : RawDefinition) : Prop where
  name : raw.name = definition.name
  constants : raw.constants.toList = definition.constants.map definition.graph.constant
  defaults : raw.defaults.toList = definition.controls.map Descriptor.default
  entries : raw.entries.toList.map (fun entry => (entry.name, entry.index)) =
    namedEntries definition.controls
  nodes : List.Forall₂ definition.RowRecorded definition.nodes raw.nodes.toList

variable {definition : Definition} {strict : Bool}

/-- A definition is written, with or without names for all its parameters, exactly when the format
can hold it. -/
theorem writable_iff_held : definition.Writable false ↔ definition.Held := by
  constructor
  · intro writable
    refine ⟨writable.name, writable.constantCount, writable.controlCount, writable.nodeCount,
      writable.checked, writable.controlNames, fun placed listed => ?_⟩
    have fits := writable.rows placed listed
    refine ⟨fits.op, fits.inputCount, fits.outputCount, fits.special, ?_⟩
    intro producer slot member row feeder there same
    -- The row that is written for the producer is the last one in which it stands.
    obtain ⟨last, found⟩ := rows_complete (List.mem_of_getElem? there)
    rw [same] at found
    have early : definition.rows.getD producer 0 ≤ Stream.maxRow := (fits.inputs _ member).1
    rw [Std.HashMap.getD_eq_getD_getElem?, found, Option.getD_some] at early
    exact Nat.le_trans (rows_last found there same) early
  · intro held
    refine ⟨held.name, held.constants, held.controls, held.nodes, held.checked,
      (fun isStrict => by cases isStrict), held.controlNames, fun placed listed => ?_⟩
    have row := held.rows placed listed
    refine ⟨row.op, row.inputCount, row.outputCount, row.special, fun source member => ?_⟩
    -- An output that was checked exists, so that its number is below that of the outputs.
    obtain ⟨number, here⟩ := List.mem_iff_getElem?.mp listed
    have sound := (check_eq_ok_iff definition).mp held.checked number placed here
    have outputs := fun placed listed => (held.rows placed listed).outputCount
    refine inputFits_of_resolves (sound.inputs source member) ?_ outputs
    rintro producer slot rfl
    exact row.producers producer slot member

/-- A definition is written strictly exactly when it is written and all its parameters have
names. -/
theorem writable_strict_iff : definition.Writable true ↔
    definition.Writable false ∧ ∀ descriptor ∈ definition.controls, descriptor.name ≠ [] := by
  -- Only the names are treated in another way.
  constructor
  · intro writable
    refine ⟨writable.tolerant, fun descriptor member => ?_⟩
    exact Descriptor.named_iff.mp (writable.allNamed rfl descriptor member)
  · intro both
    obtain ⟨writable, all⟩ := both
    exact { writable with
      allNamed := fun _ descriptor member => Descriptor.named_iff.mpr (all descriptor member) }

/-- The row in a file for a row that is written records it. -/
theorem Writable.rowRecorded (writable : definition.Writable strict) {row : Nat} {placed : Placed}
    (here : definition.nodes[row]? = some placed) :
    definition.RowRecorded placed (definition.rawNode placed) := by
  have fits := writable.rows placed (List.mem_of_getElem? here)
  have sound := writable.rowSound here
  refine ⟨rfl, rfl, by simp [rawNode], rfl, Int.toNat_of_nonneg fits.special.1, ?_⟩
  -- An input that resolves is written at its position in the tables.
  simp only [rawNode, List.map_map]
  exact List.map_congr_left fun source member => wire?_eq (sound.inputs source member)

/-- The definition in a file for a definition that is written records it, wherever it stands. -/
theorem Writable.recorded (writable : definition.Writable strict) {raw : RawDefinition}
    (same : raw.unlocated = definition.raw) : definition.Recorded raw := by
  refine ⟨congrArg RawDefinition.name same, ?_, ?_, ?_, ?_⟩
  · simpa [Definition.raw, RawDefinition.unlocated] using
      congrArg (fun raw => raw.constants.toList) same
  · simpa [Definition.raw, RawDefinition.unlocated] using
      congrArg (fun raw => raw.defaults.toList) same
  · -- Locating an entry changes neither its name nor its index.
    have entries :=
      congrArg (fun raw => raw.entries.toList.map fun entry => (entry.name, entry.index)) same
    simpa [Definition.raw, RawDefinition.unlocated, NameEntry.located, Function.comp_def] using
      entries
  · have nodes : raw.nodes.toList = definition.nodes.map definition.rawNode := by
      simpa [Definition.raw, RawDefinition.unlocated] using
        congrArg (fun raw => raw.nodes.toList) same
    rw [nodes, List.forall₂_map_right_iff, List.forall₂_same]
    intro placed listed
    obtain ⟨row, here⟩ := List.mem_iff_getElem?.mp listed
    exact writable.rowRecorded here

end Definition

namespace Stream

/-- Definitions that are sound where they stand are read one after the other, up to the end of the
file. -/
theorem many_readDefinition {raws : List RawDefinition} {start : Nat} (sound : SoundFrom start raws)
    (definition : Bytes) (done : Array RawDefinition) :
    ∃ last, Cursor.many (fun _ => readDefinition) raws.length done
        ⟨raws.flatMap RawDefinition.bytes, start, definition⟩ = .ok (done ++ raws.toArray, last) ∧
        last.rest = [] := by
  -- The start moves along with the definitions that are left.
  induction raws generalizing start definition done with
  | nil => exact ⟨⟨[], start, definition⟩, by simp [Cursor.many], rfl⟩
  | cons raw raws ih =>
    obtain ⟨first, others⟩ := soundFrom_cons_iff.mp sound
    have read : readDefinition ⟨(raw :: raws).flatMap RawDefinition.bytes, start, definition⟩ =
        .ok (raw, ⟨raws.flatMap RawDefinition.bytes, start + raw.bytes.length, raw.name⟩) :=
      readDefinition_eq_ok_iff.mpr ⟨⟨List.flatMap_cons, rfl, rfl⟩, first⟩
    obtain ⟨last, rest, ended⟩ := ih others raw.name (done.push raw)
    refine ⟨last, ?_, ended⟩
    simp only [List.length_cons, Cursor.many, read, rest]
    simp

/-- The capacity of the format. Definitions are written exactly when there are no more of them than
a file can hold and each of them can be held; strictly, when all their parameters have names as
well, and then as the same bytes. Whatever is written is read back number by number: as many
definitions, and each of them with as many items in its tables and with the same indices and special
indices. -/
theorem encode_capacity (definitions : List Definition) :
    ((∃ data, encode false definitions = .ok data) ↔
        definitions.length ≤ 65535 ∧ ∀ definition ∈ definitions, definition.Held) ∧
      (∀ data, encode true definitions = .ok data ↔ encode false definitions = .ok data ∧
        ∀ definition ∈ definitions, ∀ descriptor ∈ definition.controls, descriptor.name ≠ []) ∧
      ∀ strict data, encode strict definitions = .ok data →
        ∃ start raws last, readHeader data = .ok (definitions.length, start) ∧
          Cursor.many (fun _ => readDefinition) definitions.length #[] start = .ok (raws, last) ∧
          last.rest = [] ∧
          List.Forall₂ Definition.Recorded definitions raws.toList := by
  refine ⟨?_, fun data => ?_, fun strict data written => ?_⟩
  · simp only [encode_eq_ok_iff, Definition.writable_iff_held]
    exact ⟨fun ⟨_, few, held, _⟩ => ⟨few, held⟩, fun ⟨few, held⟩ => ⟨_, few, held, rfl⟩⟩
  · simp only [encode_eq_ok_iff, Definition.writable_strict_iff]
    constructor
    · rintro ⟨few, both, same⟩
      exact ⟨⟨few, fun definition member => (both definition member).1, same⟩,
        fun definition member => (both definition member).2⟩
    · rintro ⟨⟨few, writable, same⟩, named⟩
      exact ⟨few, fun definition member => ⟨writable definition member, named definition member⟩,
        same⟩
  · -- The file holds the written form of each definition, which is sound where it stands.
    obtain ⟨few, writable, rfl⟩ := encode_eq_ok_iff.mp written
    have sound := locatedFile_sound_of_writable few writable
    have same := locatedFile_raw_unlocated definitions
    rw [← fileBytes_locatedFile]
    have length : (locatedFile (definitions.map Definition.raw)).length = definitions.length := by
      rw [length_locatedFile, List.length_map]
    generalize locatedFile (definitions.map Definition.raw) = raws at sound same length
    obtain ⟨last, read, ended⟩ := many_readDefinition sound.definitions [] #[]
    rw [length] at read
    refine ⟨_, _, last, length ▸ readHeader_fileBytes sound.count, read, ended, ?_⟩
    -- But for its offsets, each definition in the file is what is written for the definition in its
    -- place.
    refine List.forall₂_iff_get.mpr ⟨by simpa using length.symm, fun i here there => ?_⟩
    have at_i := congrArg (fun raws => raws[i]?) same
    simp only [List.get_eq_getElem]
    exact (writable _ (List.getElem_mem here)).recorded (by simpa [here, length ▸ here] using at_i)

/-- The diamond is held and written, and its numbers are read back. It is refused strictly, since
one of its parameters has no name. -/
theorem diamond_capacity :
    diamondDefinition.Held ∧ (¬ ∃ data, encode true [diamondDefinition] = .ok data) ∧
      ∃ data, encode false [diamondDefinition] = .ok data ∧
        ∃ start raws last, readHeader data = .ok (1, start) ∧
          Cursor.many (fun _ => readDefinition) 1 #[] start = .ok (raws, last) ∧ last.rest = [] ∧
          List.Forall₂ Definition.Recorded [diamondDefinition] raws.toList := by
  obtain ⟨accepts, strictly, readBack⟩ := encode_capacity [diamondDefinition]
  have held := Definition.writable_iff_held.mp diamond_writable
  obtain ⟨data, written⟩ := accepts.mpr ⟨by decide, List.forall_mem_singleton.mpr held⟩
  refine ⟨held, ?_, data, written, readBack false data written⟩
  rintro ⟨other, success⟩
  -- The second output of the control node has no descriptor, and so no name.
  have named :=
    ((strictly other).mp success).2 diamondDefinition List.mem_cons_self
      ⟨[], .control, .zero, .zero⟩
    (by rw [diamond_controls]; decide)
  exact named rfl

end Stream

end Patchbay
