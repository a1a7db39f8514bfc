import Patchbay.Proofs.Stream.RoundTrip

/-! The grammar of definition files: the reader accepts exactly the written forms of files in the
grammar, no two files in it are written the same way, and what is read carries the tables of its
file. -/

namespace Patchbay.Stream

section Unambiguous

variable {raws others : List RawDefinition}

/-- A sound definition is read from its written form, whatever stands behind it. -/
theorem readDefinition_bytes {start : Nat} {raw : RawDefinition} (sound : raw.Sound start)
    (rest : Bytes) :
    readDefinition ⟨raw.bytes ++ rest, start, []⟩ =
      .ok (raw, ⟨rest, start + raw.bytes.length, raw.name⟩) :=
  -- Reading finds exactly what is sound.
  readDefinition_eq_ok_iff.mpr ⟨⟨rfl, rfl, rfl⟩, sound⟩

/-- Definitions that are sound where they stand are told apart by their written forms. -/
theorem SoundFrom.eq_of_bytes {start : Nat} (sound : SoundFrom start raws)
    (also : SoundFrom start others) (length : raws.length = others.length)
    (same : raws.flatMap RawDefinition.bytes = others.flatMap RawDefinition.bytes) :
    raws = others := by
  -- The start moves along with the definitions that are left.
  induction raws generalizing start others with
  | nil => exact (List.length_eq_zero_iff.mp length.symm).symm
  | cons raw raws ih =>
    obtain ⟨other, others, rfl⟩ := List.exists_cons_of_length_eq_add_one length.symm
    obtain ⟨first, later⟩ := soundFrom_cons_iff.mp sound
    obtain ⟨alsoFirst, alsoLater⟩ := soundFrom_cons_iff.mp also
    rw [List.flatMap_cons, List.flatMap_cons] at same
    -- The reader finds both first definitions in the same bytes, and it gives one answer only.
    have one := readDefinition_bytes first (raws.flatMap RawDefinition.bytes)
    have two := readDefinition_bytes alsoFirst (others.flatMap RawDefinition.bytes)
    rw [same, two, Except.ok.injEq, Prod.mk.injEq, Cursor.mk.injEq] at one
    obtain ⟨rfl, rest, -⟩ := one
    -- The rest of the bytes is that of the other definitions.
    rw [ih later alsoLater (by simpa using length) rest.symm]

/-- Sound files are told apart by their written forms. -/
theorem FileSound.eq_of_bytes (sound : FileSound raws) (also : FileSound others)
    (same : fileBytes raws = fileBytes others) : raws = others := by
  -- The starts of the files are read alike, so that both have as many definitions.
  have one := readHeader_fileBytes sound.count
  rw [same, readHeader_fileBytes also.count, Except.ok.injEq, Prod.mk.injEq, Cursor.mk.injEq] at one
  obtain ⟨length, rest, -⟩ := one
  exact sound.definitions.eq_of_bytes (length ▸ also.definitions) length.symm rest.symm

/-- Files that fit the format and are written the same way differ in their offsets only. -/
theorem unlocated_eq_of_bytes (few : raws.length ≤ maxCount) (fits : ∀ raw ∈ raws, raw.Fits)
    (alsoFew : others.length ≤ maxCount) (alsoFit : ∀ raw ∈ others, raw.Fits)
    (same : fileBytes raws = fileBytes others) :
    raws.map RawDefinition.unlocated = others.map RawDefinition.unlocated := by
  -- Once they are located, both files are sound and so the same.
  have located : locatedFile raws = locatedFile others := by
    apply (locatedFile_sound few fits).eq_of_bytes (locatedFile_sound alsoFew alsoFit)
    rw [fileBytes_locatedFile, fileBytes_locatedFile, same]
  rw [← locatedFile_unlocated raws, located, locatedFile_unlocated]

end Unambiguous

/-- The name that entries give to a place does not depend on where the entries stand. -/
theorem nameAt_located (entries : List NameEntry) (offset place : Nat) :
    nameAt (entries.map (NameEntry.located offset)) place = nameAt entries place := by
  -- The search for the entry looks at names and indices alone.
  simp only [nameAt, List.find?_map, Option.map_map]
  rfl

namespace RawDefinition

variable {raw : RawDefinition}

/-- A definition without offsets is written as with them. -/
theorem unlocated_bytes (raw : RawDefinition) : raw.unlocated.bytes = raw.bytes := by
  -- An entry is written without its offset.
  have entries : raw.unlocated.entries.toList.map NameEntry.bytes =
      raw.entries.toList.map NameEntry.bytes := by
    rw [unlocated, Array.toList_map, List.map_map]
    rfl
  have size : raw.unlocated.entries.size = raw.entries.size := by simp [unlocated]
  simp only [bytes, front, size, List.flatMap_def, entries]
  rfl

/-- A definition without offsets has no offsets to lose. -/
theorem unlocated_unlocated (raw : RawDefinition) : raw.unlocated.unlocated = raw.unlocated := by
  -- Every offset is zero already.
  simp [unlocated, Function.comp_def, NameEntry.located]

/-- A definition fits the format with or without its offsets. -/
theorem Fits.unlocated (fits : raw.Fits) : raw.unlocated.Fits where
  -- No limit of the format looks at an offset.
  name := fits.name
  constants := fits.constants
  defaults := fits.defaults
  entryCount := by simpa [RawDefinition.unlocated] using fits.entryCount
  entries := by
    intro entry member
    obtain ⟨known, listed, rfl⟩ := Array.mem_map.mp member
    obtain ⟨short, small⟩ := fits.entries known listed
    exact ⟨short, small⟩
  nodeCount := fits.nodeCount
  nodes := fits.nodes

/-- A definition in a file stands for the same definition with or without its offsets. -/
theorem resolve_unlocated (raw : RawDefinition) : raw.unlocated.resolve = raw.resolve := by
  -- Only the names of the controls are taken from the entries.
  have controls : raw.unlocated.controls raw.unlocated.owners = raw.controls raw.owners := by
    rw [controls_eq, controls_eq]
    have parameter : raw.unlocated.parameter = raw.parameter := by
      funext place rate
      simp only [RawDefinition.parameter, unlocated, Array.toList_map, nameAt_located]
    rw [parameter]
    rfl
  simp only [resolve, controls]
  rfl

/-- There is nothing wrong with a definition exactly when there is nothing wrong with it without its
offsets. -/
theorem diagnostics_unlocated (raw : RawDefinition) :
    raw.unlocated.diagnostics = [] ↔ raw.diagnostics = [] := by
  rw [diagnostics_eq_nil_iff, diagnostics_eq_nil_iff]
  -- An entry keeps its place, its index and the entries in front of it.
  refine and_congr_right fun _ => ⟨fun all i entry here => ?_, fun all i entry here => ?_⟩
  · have there : raw.unlocated.entries[i]? = some (entry.located 0) := by simp [unlocated, here]
    simpa [unlocated, ← List.map_take, nameAt_located, NameEntry.located] using all i _ there
  · simp only [unlocated, Array.getElem?_map, Option.map_eq_some_iff] at here
    obtain ⟨known, there, rfl⟩ := here
    simpa [unlocated, ← List.map_take, nameAt_located, NameEntry.located] using all i known there

/-- A row of the node table that carries a row in a file: its operator, rate, outputs and inputs,
each input at the place in the tables that the file gives. A control node's special index is counted
among the owned parameters. -/
structure RowCarries (raw : RawDefinition) (definition : Definition) (node : RawNode)
    (placed : Placed) : Prop where
  op : (definition.graph.node placed.node).op = node.op
  rate : (definition.graph.node placed.node).rate = node.rate
  special : placed.special = raw.placeOf node
  outputs : (definition.graph.node placed.node).outputs = node.outputs
  inputs : (definition.graph.node placed.node).inputs.map definition.wire? =
    node.inputs.toList.map fun input => some input.source

/-- A definition that carries a definition in a file: its name, its constants, its rows, and those
of its parameters that a control node owns, with the first name that the entries give. -/
structure Carries (raw : RawDefinition) (definition : Definition) : Prop where
  name : definition.name = raw.name
  constants : definition.constants.map definition.graph.constant = raw.constants.toList
  controls : definition.controls = (List.range raw.defaults.size).filterMap fun place =>
    (raw.rateAt? place).map (raw.parameter place)
  nodes : List.Forall₂ (raw.RowCarries definition) raw.nodes.toList definition.nodes

/-- The definition that a definition in a file stands for carries it. -/
theorem resolve_carries (fits : raw.Fits) : raw.Carries raw.resolve where
  name := rfl
  constants := raw.resolve_constants
  controls := raw.controls_eq
  nodes := by
    have length : raw.resolve.nodes.length = raw.nodes.toList.length := by simp [resolve]
    refine List.forall₂_iff_get.mpr ⟨length.symm, fun row inside _ => ?_⟩
    -- The row in the definition is the row in the file with the same number.
    have here : raw.nodes[row]? = some raw.nodes.toList[row] := by
      rw [← Array.getElem?_toList, List.getElem?_eq_getElem inside]
    have there := resolve_nodes_get fits row
    rw [here, Option.map_some, List.getElem?_eq_getElem (length ▸ inside),
      Option.some.injEq] at there
    simp only [List.get_eq_getElem, there]
    obtain ⟨op, rate, inputs, outputs⟩ := resolve_node here
    refine ⟨op, rate, rfl, outputs, ?_⟩
    -- An input resolves, so that its place in the tables is the one that is written for it.
    rw [inputs, List.map_map]
    refine List.map_congr_left fun input listed => ?_
    have sound := (fits.nodes row _ here).inputs input (Array.mem_toList_iff.mp listed)
    obtain ⟨resolves, written, _⟩ := resolve_input fits sound
    rw [Function.comp_apply, Definition.wire?_eq resolves, written]

end RawDefinition

/-- A file in the grammar of the format: no more definitions than the format counts, each of which
fits. Where the parts of a definition stand is not in the grammar, so that no offset is kept. -/
structure Grammatical (raws : List RawDefinition) : Prop where
  count : raws.length ≤ maxCount
  fits : ∀ raw ∈ raws, raw.Fits
  plain : ∀ raw ∈ raws, raw.unlocated = raw

namespace Grammatical

variable {raws others : List RawDefinition}

/-- Without its offsets, a sound file is in the grammar. -/
theorem of_sound (sound : FileSound raws) : Grammatical (raws.map RawDefinition.unlocated) where
  -- Soundness includes that each definition fits.
  count := by simpa using sound.count
  fits := List.forall_mem_map.mpr fun _ member => (sound.fits member).unlocated
  plain := List.forall_mem_map.mpr fun raw _ => raw.unlocated_unlocated

/-- A file in the grammar has no offsets to lose. -/
theorem map_unlocated (grammatical : Grammatical raws) : raws.map RawDefinition.unlocated = raws :=
  -- Each definition is left as it is.
  (List.map_congr_left grammatical.plain).trans (List.map_id _)

/-- Files in the grammar are told apart by their written forms. -/
theorem eq_of_bytes (grammatical : Grammatical raws) (also : Grammatical others)
    (same : fileBytes raws = fileBytes others) : raws = others := by
  -- Their bytes tell files apart up to offsets, of which there are none.
  have unlocated :=
    unlocated_eq_of_bytes grammatical.count grammatical.fits also.count also.fits same
  rwa [grammatical.map_unlocated, also.map_unlocated] at unlocated

/-- A file in the grammar is sound where it is located. -/
theorem located_sound (grammatical : Grammatical raws) : FileSound (locatedFile raws) :=
  -- Locating asks for the limits alone, which the grammar has.
  locatedFile_sound grammatical.count grammatical.fits

/-- Locating a file in the grammar does not change the definitions that it stands for. -/
theorem located_resolve (grammatical : Grammatical raws) :
    (locatedFile raws).map RawDefinition.resolve = raws.map RawDefinition.resolve := by
  -- Resolving does not look at the offsets, and apart from these the file is the same.
  have same := congrArg (List.map RawDefinition.resolve) (locatedFile_unlocated raws)
  rw [grammatical.map_unlocated, List.map_map] at same
  rw [← same]
  exact List.map_congr_left fun raw _ => raw.resolve_unlocated.symm

/-- Nothing is wrong with the located definitions of a file exactly when nothing is wrong with its
definitions. -/
theorem located_quiet_iff (grammatical : Grammatical raws) :
    (∀ raw ∈ locatedFile raws, raw.diagnostics = []) ↔ ∀ raw ∈ raws, raw.diagnostics = [] := by
  -- Apart from the offsets, the located definitions are those of the file.
  have same := (locatedFile_unlocated raws).trans grammatical.map_unlocated
  calc (∀ raw ∈ locatedFile raws, raw.diagnostics = [])
      ↔ ∀ raw ∈ locatedFile raws, raw.unlocated.diagnostics = [] :=
        forall₂_congr fun raw _ => raw.diagnostics_unlocated.symm
    _ ↔ ∀ raw ∈ (locatedFile raws).map RawDefinition.unlocated, raw.diagnostics = [] := by
        rw [List.forall_mem_map]
    _ ↔ ∀ raw ∈ raws, raw.diagnostics = [] := by rw [same]

/-- A file in the grammar is read as the definitions that it stands for, by a strict reader when
there is nothing wrong with their names and parameters. -/
theorem decode_eq (grammatical : Grammatical raws) {strict : Bool}
    (quiet : strict = true → ∀ raw ∈ raws, raw.diagnostics = []) :
    decode strict (fileBytes raws) = .ok (raws.map RawDefinition.resolve) := by
  -- Once located, the file is sound, and a sound file is read as what it stands for.
  refine decode_eq_ok_iff.mpr
    ⟨locatedFile raws, grammatical.located_sound, (fileBytes_locatedFile raws).symm, ?_,
      grammatical.located_resolve.symm⟩
  exact fun isStrict => grammatical.located_quiet_iff.mpr (quiet isStrict)

/-- A tolerant reader reads every file in the grammar. -/
theorem decode_tolerant (grammatical : Grammatical raws) :
    decode false (fileBytes raws) = .ok (raws.map RawDefinition.resolve) :=
  -- A tolerant reader asks for nothing more.
  grammatical.decode_eq fun isStrict => by cases isStrict

/-- A tolerant reader drops nothing from a file exactly when there is nothing wrong with its names
and parameters. -/
theorem droppedFrom_eq_nil_iff (grammatical : Grammatical raws) :
    droppedFrom false (fileBytes raws) = [] ↔ ∀ raw ∈ raws, raw.diagnostics = [] := by
  -- The diagnostics of the located file are what is dropped.
  rw [← fileBytes_locatedFile,
    droppedFrom_eq grammatical.located_sound (fun isStrict => by cases isStrict),
    List.flatMap_eq_nil_iff, ← grammatical.located_quiet_iff]
  simp only [List.map_eq_nil_iff]

end Grammatical

/-- What is read comes from a file in the grammar. -/
theorem exists_grammatical {strict : Bool} {data : Bytes} {definitions : List Definition}
    (read : decode strict data = .ok definitions) :
    ∃ raws, Grammatical raws ∧ fileBytes raws = data ∧
      definitions = raws.map RawDefinition.resolve := by
  obtain ⟨raws, sound, rfl, _, rfl⟩ := decode_eq_ok_iff.mp read
  refine ⟨raws.map RawDefinition.unlocated, .of_sound sound, ?_, ?_⟩
  · -- The written form has no offsets.
    rw [fileBytes, fileBytes, List.length_map, List.flatMap_map]
    simp only [RawDefinition.unlocated_bytes]
  · rw [List.map_map]
    exact List.map_congr_left fun raw _ => raw.resolve_unlocated.symm

/-- The reader accepts exactly the grammar of the format: it reads a file exactly when its bytes are
the written form of a file in the grammar, to the last byte. There is only one such file for the
bytes, and the definitions that are read carry it one by one. -/
theorem decode_accepts_grammar (data : Bytes) :
    ((∃ definitions, decode false data = .ok definitions) ↔ ∃ raws, Grammatical raws ∧
      fileBytes raws = data) ∧
      ∀ raws, Grammatical raws → fileBytes raws = data →
        (∀ others, Grammatical others → fileBytes others = data → others = raws) ∧
          ∃ definitions, decode false data = .ok definitions ∧
            List.Forall₂ RawDefinition.Carries raws definitions := by
  refine ⟨⟨?_, ?_⟩, ?_⟩
  · intro accepted
    obtain ⟨definitions, read⟩ := accepted
    obtain ⟨raws, grammatical, written, _⟩ := exists_grammatical read
    exact ⟨raws, grammatical, written⟩
  · intro given
    obtain ⟨raws, grammatical, rfl⟩ := given
    exact ⟨_, grammatical.decode_tolerant⟩
  · intro raws grammatical written
    subst written
    refine ⟨fun others also same => also.eq_of_bytes grammatical same, _,
      grammatical.decode_tolerant, ?_⟩
    -- Each definition is carried by what it stands for.
    rw [List.forall₂_map_right_iff, List.forall₂_same]
    exact fun raw member => RawDefinition.resolve_carries (grammatical.fits raw member)

/-- A definition in a file with two control nodes that overlap, two parameters that belong to
neither, a name for a parameter that does not exist, a second name for one that has a name, and an
empty name. -/
def tangled : RawDefinition where
  name := utf8 "tangled"
  constants := #[⟨0x7FC00001⟩]
  parametersAt := 0
  defaults := #[⟨0⟩, ⟨0x3F800000⟩, ⟨0x40000000⟩, ⟨0x80000000⟩, ⟨0x40800000⟩]
  entries :=
    #[⟨utf8 "pan", 3, 0⟩, ⟨utf8 "freq", 1, 0⟩, ⟨utf8 "stray", 9, 0⟩, ⟨utf8 "pitch", 1, 0⟩,
      ⟨[], 2, 0⟩]
  nodes := #[⟨utf8 "Control", .control, 1, #[], #[.control, .control]⟩,
    ⟨utf8 "LagControl", .control, 2, #[.constant 0], #[.audio, .audio]⟩,
    ⟨utf8 "SinOsc", .audio, 7, #[.output 1 1, .constant 0], #[.audio]⟩]

/-- The tangled definition is in the grammar. -/
theorem tangled_grammatical : Grammatical [tangled] :=
  -- The limits are checked by counting, and there is no offset.
  ⟨by decide, List.forall_mem_singleton.mpr (by decide),
    List.forall_mem_singleton.mpr (by simp [RawDefinition.unlocated, tangled, NameEntry.located])⟩

/-- A definition in a file whose parameters all belong to one control node, with names for two of
them. -/
def untangled : RawDefinition where
  name := utf8 "untangled"
  constants := #[⟨0⟩]
  parametersAt := 0
  defaults := #[⟨0x43DC0000⟩, ⟨0x3F800000⟩, ⟨0⟩]
  entries := #[⟨utf8 "freq", 0, 0⟩, ⟨utf8 "pan", 2, 0⟩]
  nodes := #[⟨utf8 "Control", .control, 0, #[], #[.control, .control, .control]⟩,
    ⟨utf8 "SinOsc", .audio, 0, #[.output 0 0, .constant 0], #[.audio]⟩]

/-- The untangled definition is in the grammar. -/
theorem untangled_grammatical : Grammatical [untangled] :=
  -- The limits are checked by counting, and there is no offset.
  ⟨by decide, List.forall_mem_singleton.mpr (by decide),
    List.forall_mem_singleton.mpr (by simp [RawDefinition.unlocated, untangled, NameEntry.located])⟩

/-- Nothing is wrong with the untangled definition, and with the tangled one something is. -/
theorem diagnostics_tangled : untangled.diagnostics = [] ∧ tangled.diagnostics ≠ [] := by decide

/-- The file with the tangled definition is read, and no other file in the grammar has its bytes. -/
theorem tangled_accepted :
    Grammatical [tangled] ∧
      (∀ others, Grammatical others → fileBytes others = fileBytes [tangled] → others = [tangled]) ∧
      ∃ definitions, decode false (fileBytes [tangled]) = .ok definitions ∧
        List.Forall₂ RawDefinition.Carries [tangled] definitions :=
  -- The tangled definition is in the grammar.
  ⟨tangled_grammatical, (decode_accepts_grammar (fileBytes [tangled])).2 [tangled]
    tangled_grammatical rfl⟩

end Patchbay.Stream
