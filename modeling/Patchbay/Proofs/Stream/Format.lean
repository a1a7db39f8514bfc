import Patchbay.Proofs.Stream.Cursor

/-! The file format: the written form of a definition in a file, and that the reader accepts exactly
the written forms of sound definitions. -/

namespace Patchbay.Stream

/-- The written form of an input. -/
def RawInput.bytes : RawInput → Bytes
  | .constant slot => word16 constantMark ++ word16 slot
  | .output row slot => word16 row ++ word16 slot

/-- An input that refers to a constant of the table, or to an output of an earlier row, in numbers
that the format holds. -/
def RawInput.Sound (constants : Nat) (earlier : Array RawNode) : RawInput → Prop
  | .constant slot => slot < constants ∧ slot ≤ maxCount
  | .output row slot => row ≤ maxRow ∧ slot ≤ maxCount ∧
    ∃ producer, earlier[row]? = some producer ∧ slot < producer.outputs.size

instance (constants : Nat) (earlier : Array RawNode) :
    (input : RawInput) → Decidable (input.Sound constants earlier)
  | .constant slot => inferInstanceAs (Decidable (slot < constants ∧ slot ≤ maxCount))
  | .output row slot => inferInstanceAs (Decidable (row ≤ maxRow ∧ slot ≤ maxCount ∧
      ∃ producer, earlier[row]? = some producer ∧ slot < producer.outputs.size))

/-- The written form of a row of the node table. -/
def RawNode.bytes (node : RawNode) : Bytes :=
  name node.op ++ [node.rate.code] ++ word16 node.inputs.size ++ word16 node.outputs.size ++
    word16 node.special ++ node.inputs.toList.flatMap RawInput.bytes ++
    node.outputs.toList.map Rate.code

/-- A row that fits the format and the tables of its definition. -/
structure RawNode.Sound (constants parameters : Nat) (earlier : Array RawNode) (node : RawNode) :
    Prop where
  op : node.op.length ≤ maxName
  rate : node.rate.valid = true
  inputCount : node.inputs.size ≤ maxCount
  outputCount : node.outputs.size ≤ maxCount
  special : node.special ≤ maxCount
  inputs : ∀ input ∈ node.inputs, input.Sound constants earlier
  outputs : ∀ rate ∈ node.outputs, rate.valid = true
  parameters : isControlOp node.op = true → node.special + node.outputs.size ≤ parameters

instance (constants parameters : Nat) (earlier : Array RawNode) (node : RawNode) :
    Decidable (node.Sound constants parameters earlier) :=
  decidable_of_iff (node.op.length ≤ maxName ∧ node.rate.valid = true ∧
    node.inputs.size ≤ maxCount ∧
      node.outputs.size ≤ maxCount ∧ node.special ≤ maxCount ∧
      (∀ input ∈ node.inputs, input.Sound constants earlier) ∧
      (∀ rate ∈ node.outputs, rate.valid = true) ∧
      (isControlOp node.op = true → node.special + node.outputs.size ≤ parameters))
    ⟨fun ⟨op, rate, few, small, special, inputs, outputs, held⟩ =>
        ⟨op, rate, few, small, special, inputs, outputs, held⟩,
      fun ⟨op, rate, few, small, special, inputs, outputs, held⟩ =>
        ⟨op, rate, few, small, special, inputs, outputs, held⟩⟩

/-- The written form of an entry of the name table. -/
def NameEntry.bytes (entry : NameEntry) : Bytes := Stream.name entry.name ++ word16 entry.index

/-- An entry that fits the format. -/
structure NameEntry.Fits (entry : NameEntry) : Prop where
  name : entry.name.length ≤ maxName
  index : entry.index ≤ maxCount

instance (entry : NameEntry) : Decidable entry.Fits :=
  decidable_of_iff (entry.name.length ≤ maxName ∧ entry.index ≤ maxCount)
    ⟨fun ⟨name, index⟩ => ⟨name, index⟩, fun ⟨name, index⟩ => ⟨name, index⟩⟩

/-- An entry that fits the format and knows the offset at which it stands. -/
structure NameEntry.Sound (offset : Nat) (entry : NameEntry) : Prop extends entry.Fits where
  offset_eq : entry.offset = offset

namespace RawDefinition

/-- The part of the written form of a definition in front of its parameter defaults. -/
def head (raw : RawDefinition) : Bytes :=
  Stream.name raw.name ++ table single raw.constants.toList ++ word16 raw.defaults.size

/-- The part of the written form of a definition in front of the entries of its name table. -/
def front (raw : RawDefinition) : Bytes :=
  raw.head ++ raw.defaults.toList.flatMap single ++ word16 raw.entries.size

/-- The written form of a definition. -/
def bytes (raw : RawDefinition) : Bytes :=
  raw.front ++ raw.entries.toList.flatMap NameEntry.bytes ++ table RawNode.bytes raw.nodes.toList ++
    word16 0

/-- A definition that fits the format. -/
structure Fits (raw : RawDefinition) : Prop where
  name : raw.name.length ≤ maxName
  constants : raw.constants.size ≤ maxCount
  defaults : raw.defaults.size ≤ maxCount
  entryCount : raw.entries.size ≤ maxCount
  entries : ∀ entry ∈ raw.entries, entry.Fits
  nodeCount : raw.nodes.size ≤ maxCount
  nodes : ∀ (row : Nat) (node : RawNode), raw.nodes[row]? = some node →
    node.Sound raw.constants.size raw.defaults.size (raw.nodes.toList.take row).toArray

instance (raw : RawDefinition) : Decidable raw.Fits :=
  decidable_of_iff (raw.name.length ≤ maxName ∧ raw.constants.size ≤ maxCount ∧
    raw.defaults.size ≤ maxCount ∧
      raw.entries.size ≤ maxCount ∧ (∀ entry ∈ raw.entries, entry.Fits) ∧
      raw.nodes.size ≤ maxCount ∧
      ∀ row < raw.nodes.size, ∀ node ∈ raw.nodes[row]?,
        node.Sound raw.constants.size raw.defaults.size (raw.nodes.toList.take row).toArray)
    ⟨fun ⟨name, few, small, listed, entries, held, nodes⟩ =>
      ⟨name, few, small, listed, entries, held,
        fun row node here => nodes row (Array.getElem?_eq_some_iff.mp here).1 node here⟩,
      fun ⟨name, few, small, listed, entries, held, nodes⟩ =>
        ⟨name, few, small, listed, entries, held,
        fun row _ node here => nodes row node here⟩⟩

/-- A definition that fits the format and knows the offsets that its parts have when it starts at an
offset. -/
structure Sound (start : Nat) (raw : RawDefinition) : Prop extends raw.Fits where
  parametersAt : raw.parametersAt = start + raw.head.length
  offsets : ∀ (i : Nat) (entry : NameEntry), raw.entries[i]? = some entry →
    entry.offset = start + raw.front.length +
      ((raw.entries.toList.take i).flatMap NameEntry.bytes).length

end RawDefinition

variable {cursor next : Cursor}

/-- An entry of the name table is read where its written form stands. -/
theorem readEntry_eq_ok_iff {entry : NameEntry} :
    readEntry cursor = .ok (entry, next) ↔ cursor.Passes next entry.bytes ∧
      entry.Sound cursor.offset := by
  -- The name is read first, and its index behind it.
  simp only [readEntry, bind_eq_ok_iff, Prod.exists, Cursor.name_eq_ok_iff, Cursor.word16_eq_ok_iff]
  constructor
  · rintro ⟨text, between, ⟨one, short⟩, index, after, ⟨two, small⟩, done⟩
    obtain ⟨rfl, rfl⟩ := Prod.mk.inj (Except.ok.inj done)
    exact ⟨Cursor.passes_append_iff.mpr ⟨between, one, two⟩, ⟨short, small⟩, rfl⟩
  · rintro ⟨passes, ⟨short, small⟩, offset⟩
    obtain ⟨between, one, two⟩ := Cursor.passes_append_iff.mp passes
    exact ⟨entry.name, between, ⟨one, short⟩, entry.index, next,
      ⟨two, small⟩, by rw [← offset]; rfl⟩

/-- An input is read where the written form of a sound one stands. -/
theorem readInput_eq_ok_iff {constants place : Nat} {earlier : Array RawNode} {op : Bytes}
    {input : RawInput} :
    readInput constants earlier op place cursor = .ok (input, next) ↔
      cursor.Passes next input.bytes ∧ input.Sound constants earlier := by
  simp only [readInput, bind_eq_ok_iff, Prod.exists, Cursor.word16_eq_ok_iff]
  constructor
  · rintro ⟨source, between, ⟨one, _⟩, index, after, ⟨two, small⟩, done⟩
    have both := Cursor.passes_append_iff.mpr ⟨between, one, two⟩
    split at done
    · -- The mark in the place of a row stands for a constant.
      rename_i mark
      split at done
      · rename_i inside
        obtain ⟨rfl, rfl⟩ := Prod.mk.inj (Except.ok.inj done)
        subst mark
        exact ⟨both, inside, small⟩
      · cases done
    · -- Otherwise the row must be an earlier one and have the output.
      split at done
      · cases done
      · rename_i producer found
        split at done
        · rename_i low
          split at done
          · rename_i inside
            obtain ⟨rfl, rfl⟩ := Prod.mk.inj (Except.ok.inj done)
            exact ⟨both, Nat.le_of_lt_succ low, small, producer, found, inside⟩
          · cases done
        · cases done
  · rintro ⟨passes, sound⟩
    cases input with
    | constant slot =>
      obtain ⟨inside, small⟩ := sound
      obtain ⟨between, one, two⟩ := Cursor.passes_append_iff.mp passes
      refine ⟨constantMark, between, ⟨one, Nat.le_refl _⟩, slot, next, ⟨two, small⟩, ?_⟩
      rw [if_pos rfl, if_pos inside]
      rfl
    | output row slot =>
      obtain ⟨low, small, producer, found, inside⟩ := sound
      obtain ⟨between, one, two⟩ := Cursor.passes_append_iff.mp passes
      -- A row that the format holds is never the mark of a constant.
      simp only [maxRow] at low
      refine ⟨row, between, ⟨one, by simp only [maxCount]; omega⟩, slot, next, ⟨two, small⟩, ?_⟩
      rw [if_neg (by simp only [constantMark]; omega), found]
      simp only
      rw [if_pos (by omega), if_pos inside]
      rfl

/-- The rate of an output is read where a valid one stands. -/
theorem readOutput_eq_ok_iff {row place : Nat} {op : Bytes} {rate : Rate} :
    readOutput row op place cursor = .ok (rate, next) ↔
      cursor.Passes next [rate.code] ∧ rate.valid = true := by
  -- The byte is read, and then looked at.
  simp only [readOutput, bind_eq_ok_iff, Prod.exists, Cursor.byte_eq_ok_iff]
  constructor
  · rintro ⟨code, after, passes, done⟩
    split at done
    · rename_i valid
      obtain ⟨rfl, rfl⟩ := Prod.mk.inj (Except.ok.inj done)
      exact ⟨passes, valid⟩
    · cases done
  · rintro ⟨passes, valid⟩
    refine ⟨rate.code, next, passes, ?_⟩
    rw [if_pos valid]
    rfl

/-- A row of the node table is read where the written form of a sound one stands. -/
theorem readNode_eq_ok_iff {constants parameters : Nat} {earlier : Array RawNode} {node : RawNode} :
    readNode constants parameters earlier cursor = .ok (node, next) ↔
      cursor.Passes next node.bytes ∧ node.Sound constants parameters earlier := by
  -- The readings follow the parts of the written form one by one.
  simp only [readNode, bind_eq_ok_iff, refuse_eq_ok_iff, Prod.exists, Cursor.name_eq_ok_iff,
    Cursor.byte_eq_ok_iff, Cursor.word16_eq_ok_iff,
    Cursor.many_plain_iff fun _ _ _ _ => readInput_eq_ok_iff,
    Cursor.many_plain_iff fun _ _ _ _ => readOutput_eq_ok_iff]
  constructor
  · rintro ⟨op, afterOp, ⟨one, short⟩, code, afterRate, two, valid, inputCount, afterInputs,
      ⟨three, few⟩, outputCount, afterOutputs, ⟨four, small⟩, special, afterSpecial, ⟨five, held⟩,
      inputs, inputsEnd, ⟨rfl, six, sound⟩, outputs, outputsEnd, ⟨rfl, seven, rates⟩, fits, done⟩
    obtain ⟨rfl, rfl⟩ := Prod.mk.inj (Except.ok.inj done)
    refine ⟨?_, short, by simpa using valid, few, small, held, sound, rates, ?_⟩
    · simp only [RawNode.bytes, Cursor.passes_append_iff, List.map_eq_flatMap]
      exact ⟨inputsEnd,
        ⟨afterSpecial,
          ⟨afterOutputs, ⟨afterInputs, ⟨afterRate, ⟨afterOp, one, two⟩, three⟩, four⟩, five⟩, six⟩,
          seven⟩
    · simpa using fits
  · rintro ⟨passes, short, valid, few, small, held, sound, rates, fits⟩
    simp only [RawNode.bytes, Cursor.passes_append_iff, List.map_eq_flatMap] at passes
    obtain ⟨inputsEnd,
      ⟨afterSpecial,
        ⟨afterOutputs, ⟨afterInputs, ⟨afterRate, ⟨afterOp, one, two⟩, three⟩, four⟩, five⟩, six⟩,
        seven⟩ := passes
    exact ⟨node.op, afterOp, ⟨one, short⟩, node.rate.code, afterRate, two, by simpa using valid,
      _, afterInputs, ⟨three, few⟩, _, afterOutputs, ⟨four, small⟩, node.special, afterSpecial,
      ⟨five, held⟩, node.inputs, inputsEnd, ⟨rfl, six, sound⟩, node.outputs, next,
      ⟨rfl, seven, rates⟩, by simpa using fits, rfl⟩

/-- A definition is read where the written form of a sound one stands. -/
theorem readDefinition_eq_ok_iff {raw : RawDefinition} :
    readDefinition cursor = .ok (raw, next) ↔
      { cursor with definition := raw.name }.Passes next raw.bytes ∧ raw.Sound cursor.offset := by
  -- As for a row, the readings follow the parts of the written form.
  simp only [readDefinition, bind_eq_ok_iff, refuse_eq_ok_iff, Prod.exists, Cursor.name_eq_ok_iff,
    Cursor.word16_eq_ok_iff, Cursor.many_single_iff,
    Cursor.many_start_iff (fun _ => NameEntry.Sound) fun _ _ _ _ => readEntry_eq_ok_iff,
    Cursor.many_start_iff (fun earlier _ => RawNode.Sound _ _ earlier) fun _ _ _ _ =>
      readNode_eq_ok_iff]
  constructor
  · rintro ⟨text, afterName, ⟨one, short⟩, _, afterCount, ⟨two, few⟩, constants, afterConstants,
      ⟨rfl, three⟩, _, first, ⟨four, small⟩, defaults, afterDefaults, ⟨rfl, five⟩, _,
      afterEntryCount, ⟨six, listed⟩, entries, afterEntries, ⟨rfl, seven, entriesSound⟩, _,
      afterNodeCount, ⟨eight, held⟩, nodes, variantsAt, ⟨rfl, nine, nodesSound⟩, variants, after,
      ⟨ten, _⟩, none, done⟩
    obtain ⟨rfl, rfl⟩ := Prod.mk.inj (Except.ok.inj done)
    -- The two offsets that are recorded are those of the ends of the head and of the front.
    let raw : RawDefinition := ⟨text, constants, first.offset, defaults, entries, nodes⟩
    have head : { cursor with definition := text }.Passes first raw.head := by
      simp only [RawDefinition.head, table, Array.length_toList, Cursor.passes_append_iff]
      exact ⟨afterConstants, ⟨_, one.rename text, afterCount, two, three⟩, four⟩
    have front : { cursor with definition := text }.Passes afterEntryCount raw.front := by
      simp only [RawDefinition.front, Cursor.passes_append_iff]
      exact ⟨afterDefaults, ⟨first, head, five⟩, six⟩
    refine ⟨?_, ⟨short, few, small, listed, fun entry member => ?_, held, nodesSound⟩, head.offset,
      fun i entry here => ?_⟩
    · -- The number of variants, which ends the written form, must be zero.
      simp only [RawDefinition.bytes, table, Array.length_toList, Cursor.passes_append_iff]
      have zero : variants = 0 := Decidable.not_not.mp none
      exact ⟨variantsAt,
        ⟨afterEntries, ⟨afterEntryCount, front, seven⟩, afterNodeCount, eight, nine⟩, zero ▸ ten⟩
    · obtain ⟨i, here⟩ := Array.mem_iff_getElem?.mp member
      exact (entriesSound i entry here).toFits
    · have sound := (entriesSound i entry here).offset_eq
      rwa [front.offset] at sound
  · rintro ⟨passes, ⟨short, few, small, listed, entriesFit, held, nodesSound⟩, parametersAt,
      offsets⟩
    simp only [RawDefinition.bytes, table, Array.length_toList, Cursor.passes_append_iff] at passes
    obtain ⟨variantsAt,
      ⟨afterEntries, ⟨afterEntryCount, front, seven⟩, afterNodeCount, eight, nine⟩, ten⟩ := passes
    -- The front and the head are taken apart, but their ends are needed as a whole too.
    have frontParts := front
    simp only [RawDefinition.front, Cursor.passes_append_iff] at frontParts
    obtain ⟨afterDefaults, ⟨first, head, five⟩, six⟩ := frontParts
    have headParts := head
    simp only [RawDefinition.head, table, Array.length_toList,
      Cursor.passes_append_iff] at headParts
    obtain ⟨afterConstants, ⟨afterName, one, afterCount, two, three⟩, four⟩ := headParts
    -- The name is read before the cursor names the definition.
    have named : { afterName with definition := raw.name } = afterName := by
      rw [show raw.name = afterName.definition from one.definition.symm]
    refine ⟨raw.name, { afterName with definition := [] }, ⟨one.rename [], short⟩, _, afterCount,
      ⟨named ▸ two, few⟩, raw.constants, afterConstants, ⟨rfl, three⟩, _, first, ⟨four, small⟩,
      raw.defaults, afterDefaults, ⟨rfl, five⟩, _, afterEntryCount, ⟨six, listed⟩, raw.entries,
      afterEntries, ⟨rfl, seven, fun i entry here => ?_⟩, _, afterNodeCount, ⟨eight, held⟩,
      raw.nodes, variantsAt, ⟨rfl, nine, nodesSound⟩, 0, next, ⟨ten, Nat.zero_le _⟩, by simp, ?_⟩
    · rw [front.offset]
      exact ⟨entriesFit entry (Array.mem_of_getElem? here), offsets i entry here⟩
    · rw [head.offset, ← parametersAt]
      rfl

end Patchbay.Stream
