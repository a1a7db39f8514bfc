import Patchbay.Proofs.Definition.Compile
import Patchbay.Proofs.Stream.Resolved

/-! Round trips: definitions that are written and read back agree with what was written, and are
written as the same bytes again. -/

open Patchbay.Stream (RawDefinition NameEntry RawNode nameAt nameAt_take_eq_nil)

namespace Patchbay

namespace Definition

instance (definition : Definition) (placed : Placed) (slot : Int) :
    Decidable (definition.Covers placed slot) :=
  inferInstanceAs (Decidable (_ ∧ _ ∧ _))

/-- A definition in which every parameter is covered by some control node. -/
def Covered (definition : Definition) : Prop :=
  ∀ slot < definition.controls.length, ∃ placed ∈ definition.nodes, definition.Covers placed slot

/-- The rate of the output that stands for a parameter at the first control node that covers it. -/
def rateAt? (definition : Definition) (slot : Nat) : Option Rate :=
  definition.nodes.findSome? fun placed =>
    if definition.Covers placed slot then
      (definition.graph.node placed.node).outputs[((slot : Int) - placed.special).toNat]?
    else none

/-- An input by its position in the tables: the row and the output of its producer, or its constant
slot. -/
def wire? (definition : Definition) : Source → Option Source
  | .output producer slot => definition.rows[producer]?.map fun row => .output row slot
  | .constant constant => definition.slots[definition.keyOf constant]?.map .constant

/-- Two rows of two definitions that agree on all but the numbers of nodes and constants. -/
structure RowAgrees (original decoded : Definition) (one two : Placed) : Prop where
  op : (decoded.graph.node two.node).op = (original.graph.node one.node).op
  rate : (decoded.graph.node two.node).rate = (original.graph.node one.node).rate
  special : two.special = one.special
  outputs : (decoded.graph.node two.node).outputs = (original.graph.node one.node).outputs
  inputs : (decoded.graph.node two.node).inputs.map decoded.wire? =
    (original.graph.node one.node).inputs.map original.wire?
  wired : ∀ source ∈ (original.graph.node one.node).inputs, ∃ wire, original.wire? source =
    some wire

/-- A definition that was read agrees with the one that was written. Each parameter keeps its name
and default, takes its rate from the first control node that covers it, and loses its lag. -/
structure Agrees (original decoded : Definition) : Prop where
  name : decoded.name = original.name
  constants : decoded.constants.map decoded.graph.constant =
    original.constants.map original.graph.constant
  controlCount : decoded.controls.length = original.controls.length
  controls : ∀ (slot : Nat) (descriptor : Descriptor), original.controls[slot]? = some descriptor →
    ∃ rate, original.rateAt? slot = some rate ∧
      decoded.controls[slot]? = some ⟨descriptor.name, rate, descriptor.default, .zero⟩
  nodes : List.Forall₂ (RowAgrees original decoded) original.nodes decoded.nodes

variable {definition : Definition} {row : Nat}

/-- The definition in a file for a definition has no offsets. -/
theorem raw_unlocated (definition : Definition) : definition.raw.unlocated = definition.raw := by
  -- Every offset that is written is zero.
  simp [RawDefinition.unlocated, raw, NameEntry.located, Function.comp_def]

/-- An input that resolves has the position that is written for it. -/
theorem wire?_eq {source : Source} (resolves : definition.Resolves row source) :
    definition.wire? source = some (definition.rawInput source).source := by
  -- The look-up succeeds, so that the default of the written form is not used.
  cases source with
  | output producer slot =>
    obtain ⟨⟨other, _, found⟩, positive, _⟩ := resolves
    simp only [wire?, rawInput, found, Option.map_some, Std.HashMap.getD_eq_getD_getElem?,
      Option.getD_some, Stream.RawInput.source, Int.toNat_of_nonneg positive]
  | constant constant =>
    obtain ⟨slot, found⟩ := resolves
    simp only [wire?, rawInput, found, Option.map_some, Std.HashMap.getD_eq_getD_getElem?,
      Option.getD_some, Stream.RawInput.source]

/-- A row owns the parameters that it covers. -/
theorem rawNode_rateAt? {placed : Placed} (fits : definition.RowFits placed) (slot : Nat) :
    (definition.rawNode placed).rateAt? slot =
      if definition.Covers placed slot then
        (definition.graph.node placed.node).outputs[((slot : Int) - placed.special).toNat]?
      else none := by
  have positive := fits.special.1
  have index : slot - placed.special.toNat = ((slot : Int) - placed.special).toNat := by omega
  simp only [RawNode.rateAt?, rawNode, index]
  by_cases covers : definition.Covers placed slot
  · -- Inside its range, a control node owns the parameter.
    have bounds := covers.2
    rw [if_pos covers, if_pos ⟨covers.1, by omega⟩]
  · rw [if_neg covers]
    split
    · -- Behind its last output, a control node owns nothing.
      rename_i owns
      have beyond : ¬ (slot : Int) <
          placed.special + (definition.graph.node placed.node).outputs.size :=
        fun inside => covers ⟨owns.1, by omega, inside⟩
      exact Array.getElem?_eq_none (by omega)
    · rfl

/-- The owners of the parameters in a file are the control nodes that cover them. -/
theorem raw_rateAt? {strict : Bool} (writable : definition.Writable strict) (slot : Nat) :
    definition.raw.rateAt? slot = definition.rateAt? slot := by
  -- Row by row, both searches look for the same rate.
  simp only [RawDefinition.rateAt?, raw, rateAt?, List.findSome?_map]
  have rows := writable.rows
  revert rows
  induction definition.nodes with
  | nil => exact fun _ => rfl
  | cons placed rest ih =>
    intro rows
    rw [List.forall_mem_cons] at rows
    rw [List.findSome?_cons, List.findSome?_cons, Function.comp_apply, rawNode_rateAt? rows.1,
      ih rows.2]

/-- Every parameter of a covered definition has a rate. -/
theorem Covered.exists_rate (covered : definition.Covered) {slot : Nat}
    (inside : slot < definition.controls.length) :
    ∃ rate, definition.rateAt? slot = some rate := by
  -- The node that covers the parameter has an output for it, so that the search finds one.
  obtain ⟨placed, listed, covers⟩ := covered slot inside
  rw [← Option.isSome_iff_exists, rateAt?, List.findSome?_isSome_iff]
  refine ⟨placed, listed, ?_⟩
  have bounds := covers.2
  rw [if_pos covers, Array.getElem?_eq_getElem (by omega)]
  rfl

/-- Sound rows that are written the same way agree. -/
theorem rowAgrees_of_rawNode {original decoded : Definition} {one two : Placed}
    (same : decoded.rawNode two = original.rawNode one) (here : original.RowSound row one)
    (there : decoded.RowSound row two) (positive : 0 ≤ one.special) (natural : 0 ≤ two.special) :
    RowAgrees original decoded one two := by
  have special : two.special.toNat = one.special.toNat := congrArg RawNode.special same
  have inputs : ((decoded.graph.node two.node).inputs.map decoded.rawInput) =
      (original.graph.node one.node).inputs.map original.rawInput := by
    simpa [rawNode] using congrArg (fun node => node.inputs.toList) same
  refine ⟨congrArg RawNode.op same, congrArg RawNode.rate same, by omega,
    congrArg RawNode.outputs same, ?_,
    fun source member => ⟨_, wire?_eq (here.inputs source member)⟩⟩
  -- The position of an input is read off what is written for it.
  calc (decoded.graph.node two.node).inputs.map decoded.wire?
      = ((decoded.graph.node two.node).inputs.map decoded.rawInput).map fun input =>
        some input.source := by
        rw [List.map_map]
        exact List.map_congr_left fun source member => wire?_eq (there.inputs source member)
    _ = ((original.graph.node one.node).inputs.map original.rawInput).map fun input =>
      some input.source := by
        rw [inputs]
    _ = (original.graph.node one.node).inputs.map original.wire? := by
        rw [List.map_map]
        exact List.map_congr_left fun source member => (wire?_eq (here.inputs source member)).symm

/-- A definition that a compilation gives is covered. -/
theorem covered_of_compile {graph : Graph} {roots : List Element} {rule : Dedup} {name : Bytes}
    (compiled : compile graph roots rule name = .ok definition) : definition.Covered := by
  -- In an arranged definition the segments of the control nodes cover the control table.
  intro slot inside
  exact ((compile_arranged compiled).covered_iff slot).mpr ⟨by omega, by omega⟩

end Definition

/-- A definition in a file whose parameters are all owned and whose entries are the name table of
some parameters is tidy. -/
theorem tidy_of_namedEntries {raw : RawDefinition} {descriptors : List Descriptor}
    (owned : ∀ place < raw.defaults.size, ∃ rate, raw.rateAt? place = some rate)
    (length : raw.defaults.size = descriptors.length)
    (written : raw.entries.toList.map (fun entry => (entry.name, entry.index)) =
      namedEntries descriptors) :
    raw.Tidy := by
  -- A name table lists each named parameter once, in order.
  have increasing := namedEntries_increasing descriptors
  rw [← written, List.pairwise_map] at increasing
  have listed : ∀ entry ∈ raw.entries, entry.name ≠ [] ∧ entry.index < raw.defaults.size := by
    intro entry member
    have there : (entry.name, entry.index) ∈ namedEntries descriptors :=
      written ▸ List.mem_map_of_mem (Array.mem_toList_iff.mpr member)
    obtain ⟨named, descriptor, here, _⟩ := mem_namedEntries_iff.mp there
    exact ⟨named, length ▸ (List.getElem?_eq_some_iff.mp here).1⟩
  refine ⟨raw.diagnostics_eq_nil_iff.mpr ⟨owned, fun i entry here => ⟨?_, ?_⟩⟩,
    fun entry member => (listed entry member).1, increasing⟩
  · exact (listed entry (Array.mem_of_getElem? here)).2
  · exact nameAt_take_eq_nil increasing (by rwa [Array.getElem?_toList])

/-- How a definition in a file comes from a definition that was written. -/
structure Transcribes (strict : Bool) (definition : Definition) (raw : RawDefinition) : Prop where
  writable : definition.Writable strict
  covered : definition.Covered
  fits : raw.Fits
  same : raw.unlocated = definition.raw

namespace Transcribes

variable {strict : Bool} {definition : Definition} {raw : RawDefinition}

/-- The rates of the parameters in the file are those of the definition. -/
theorem rateAt?_eq (written : Transcribes strict definition raw) (slot : Nat) :
    raw.rateAt? slot = definition.rateAt? slot := by
  -- The offsets do not matter to the rates.
  rw [← Definition.raw_rateAt? written.writable, ← written.same]
  rfl

/-- The defaults in the file are those of the parameters. -/
theorem defaults_eq (written : Transcribes strict definition raw) :
    raw.defaults = (definition.controls.map Descriptor.default).toArray :=
  -- The offsets do not matter to the defaults.
  show raw.unlocated.defaults = definition.raw.defaults from
    congrArg RawDefinition.defaults written.same

/-- There is one default in the file for each parameter. -/
theorem defaults_size (written : Transcribes strict definition raw) :
    raw.defaults.size = definition.controls.length := by
  -- The defaults are taken one from each parameter.
  simp [written.defaults_eq]

/-- The entries in the file are the name table of the definition. -/
theorem entries_eq (written : Transcribes strict definition raw) :
    raw.entries.toList.map (fun entry => (entry.name, entry.index)) =
      namedEntries definition.controls := by
  -- Names and indices are the same up to offsets.
  have entries : raw.entries.map (NameEntry.located 0) = definition.raw.entries :=
    congrArg RawDefinition.entries written.same
  have pairs :=
    congrArg (fun entries => entries.toList.map fun entry => (entry.name, entry.index)) entries
  simpa [Definition.raw, NameEntry.located, Function.comp_def] using pairs

/-- What was written is tidy. -/
theorem tidy (written : Transcribes strict definition raw) : raw.Tidy := by
  -- All parameters are owned, and the name table is written in order.
  refine tidy_of_namedEntries (fun place inside => ?_) written.defaults_size written.entries_eq
  rw [written.rateAt?_eq]
  exact written.covered.exists_rate (written.defaults_size ▸ inside)

/-- What was written is read as a definition that is written the same way. -/
theorem resolve_raw (written : Transcribes strict definition raw) :
    raw.resolve.raw = definition.raw :=
  -- What is tidy is written as it stands.
  (written.tidy.resolve_raw written.fits).trans written.same

/-- The controls of what is read are the parameters as they were written. -/
theorem controls_get (written : Transcribes strict definition raw) {slot : Nat}
    {descriptor : Descriptor} (here : definition.controls[slot]? = some descriptor) :
    ∃ rate, definition.rateAt? slot = some rate ∧
      raw.resolve.controls[slot]? = some ⟨descriptor.name, rate, descriptor.default, .zero⟩ := by
  have inside := (List.getElem?_eq_some_iff.mp here).1
  obtain ⟨rate, covered⟩ := written.covered.exists_rate inside
  have owned : raw.rateAt? slot = some rate := by rw [written.rateAt?_eq, covered]
  have there := written.tidy.controls_get owned (written.defaults_size ▸ inside)
  -- The names are the same since the name tables are.
  have names : namedEntries (raw.controls raw.owners) = namedEntries definition.controls :=
    written.tidy.namedEntries_controls.trans written.entries_eq
  have name := name_eq_of_namedEntries names there here
  have default : raw.defaults[slot]?.getD .zero = descriptor.default := by
    simp [written.defaults_eq, here]
  refine ⟨rate, covered, ?_⟩
  rw [← name, ← default]
  exact there

/-- What is read has as many parameters as were written. -/
theorem length_controls (written : Transcribes strict definition raw) :
    raw.resolve.controls.length = definition.controls.length :=
  -- What is tidy loses no parameter.
  written.tidy.length_controls.trans written.defaults_size

/-- What is read can be written in the same mode. -/
theorem resolve_writable (written : Transcribes strict definition raw) :
    raw.resolve.Writable strict := by
  refine RawDefinition.resolve_writable written.fits fun isStrict descriptor member => ?_
  obtain ⟨slot, here⟩ := List.mem_iff_getElem?.mp member
  have inside : slot < definition.controls.length :=
    written.length_controls ▸ (List.getElem?_eq_some_iff.mp here).1
  obtain ⟨rate, _, there⟩ := written.controls_get (List.getElem?_eq_getElem inside)
  -- A parameter that is read has the name with which it was written.
  have same : some descriptor = some _ := here.symm.trans there
  rw [Option.some.injEq] at same
  have named :=
    written.writable.allNamed isStrict definition.controls[slot] (List.getElem_mem inside)
  rw [same]
  exact named

/-- What is read agrees with what was written. -/
theorem agrees (written : Transcribes strict definition raw) : definition.Agrees raw.resolve := by
  have same := written.resolve_raw
  refine ⟨congrArg RawDefinition.name same, ?_, written.length_controls, fun slot descriptor here =>
    written.controls_get here, ?_⟩
  · -- The constants are compared by their bits, as they are written.
    have constants := congrArg (fun raw => raw.constants.toList) same
    simpa [Definition.raw] using constants
  · -- Rows that are written the same way agree.
    have nodes : raw.resolve.nodes.map raw.resolve.rawNode =
        definition.nodes.map definition.rawNode :=
      congrArg (fun raw => raw.nodes.toList) same
    have length := congrArg List.length nodes
    rw [List.length_map, List.length_map] at length
    refine List.forall₂_iff_get.mpr ⟨length.symm, fun row here there => ?_⟩
    simp only [List.get_eq_getElem]
    have rawSame : raw.resolve.rawNode raw.resolve.nodes[row] =
        definition.rawNode definition.nodes[row] := by
      have both := congrArg (fun nodes => nodes[row]?) nodes
      simpa [here, there] using both
    have writable := written.resolve_writable
    exact Definition.rowAgrees_of_rawNode rawSame
      (written.writable.rowSound (List.getElem?_eq_getElem here))
      (writable.rowSound (List.getElem?_eq_getElem there))
      (written.writable.rows _ (List.getElem_mem here)).special.1
      (writable.rows _ (List.getElem_mem there)).special.1

end Transcribes

section RoundTrip

variable {strict : Bool} {definitions : List Definition}

/-- Definitions that are written fit the format together. -/
theorem locatedFile_sound_of_writable (few : definitions.length ≤ Stream.maxCount)
    (writable : ∀ definition ∈ definitions, definition.Writable strict) :
    Stream.FileSound (Stream.locatedFile (definitions.map Definition.raw)) := by
  -- What is written for each definition fits on its own.
  refine Stream.locatedFile_sound (by rwa [List.length_map]) fun raw member => ?_
  obtain ⟨definition, listed, rfl⟩ := List.mem_map.mp member
  exact (writable definition listed).raw_fits

/-- The definitions in a file are, but for their offsets, what is written for each definition. -/
theorem locatedFile_raw_unlocated (definitions : List Definition) :
    (Stream.locatedFile (definitions.map Definition.raw)).map RawDefinition.unlocated =
      definitions.map Definition.raw := by
  -- Locating changes offsets only, and there were none.
  rw [Stream.locatedFile_unlocated, List.map_map]
  exact List.map_congr_left fun definition _ => definition.raw_unlocated

/-- The definitions in a written file come from those that were written. -/
theorem transcribes_of_writable (few : definitions.length ≤ Stream.maxCount)
    (writable : ∀ definition ∈ definitions, definition.Writable strict)
    (covered : ∀ definition ∈ definitions, definition.Covered) :
    List.Forall₂ (Transcribes strict) definitions
      (Stream.locatedFile (definitions.map Definition.raw)) := by
  -- Both lists are as long as each other, and agree place by place.
  have sound := locatedFile_sound_of_writable few writable
  have same := locatedFile_raw_unlocated definitions
  have length := congrArg List.length same
  rw [List.length_map, List.length_map] at length
  refine List.forall₂_iff_get.mpr ⟨length.symm, fun i here there => ?_⟩
  have at_i := congrArg (fun raws => raws[i]?) same
  simp only [List.get_eq_getElem]
  exact ⟨writable _ (List.getElem_mem here), covered _ (List.getElem_mem here),
    sound.fits (List.getElem_mem there), by simpa [here, there] using at_i⟩

/-- Every definition in a written file comes from one that was written. -/
theorem exists_transcribed {raws : List RawDefinition}
    (transcribed : List.Forall₂ (Transcribes strict) definitions raws) {raw : RawDefinition}
    (member : raw ∈ raws) :
    ∃ definition, Transcribes strict definition raw := by
  -- The lists go together one by one.
  induction transcribed with
  | nil => cases member
  | cons first _ ih =>
    rcases List.mem_cons.mp member with rfl | later
    · exact ⟨_, first⟩
    · exact ih later

/-- What is read from a written file is written as before, definition by definition. -/
theorem transcribed_raw {raws : List RawDefinition}
    (transcribed : List.Forall₂ (Transcribes strict) definitions raws) :
    (raws.map RawDefinition.resolve).map Definition.raw = definitions.map Definition.raw := by
  -- The lists go together one by one.
  induction transcribed with
  | nil => rfl
  | cons first _ ih => rw [List.map_cons, List.map_cons, List.map_cons, first.resolve_raw, ih]

/-- What is read from a written file is written as the same bytes in every mode that accepts it. -/
theorem encode_transcribed {raws : List RawDefinition} (few : definitions.length ≤ Stream.maxCount)
    (transcribed : List.Forall₂ (Transcribes strict) definitions raws) {mode : Bool}
    (each : ∀ raw ∈ raws, raw.resolve.Writable mode) :
    Stream.encode mode (raws.map RawDefinition.resolve) =
      .ok (Stream.fileBytes (definitions.map Definition.raw)) := by
  -- The number of definitions, and what is written for each, are the same.
  refine Stream.encode_eq_ok_iff.mpr ⟨?_, ?_, by rw [transcribed_raw transcribed]⟩
  · rwa [List.length_map, ← transcribed.length_eq]
  · intro definition member
    obtain ⟨raw, listed, rfl⟩ := List.mem_map.mp member
    exact each raw listed

/-- A definition that was written by itself is read back in both modes, and is written as the same
bytes again. -/
theorem exists_rewritten {definition : Definition} {data : Bytes} (covered : definition.Covered)
    (written : Stream.encode strict [definition] = .ok data) :
    ∃ decoded, (∀ mode, Stream.decode mode data = .ok [decoded]) ∧ definition.Agrees decoded ∧
      Stream.encode false [decoded] = .ok data ∧ Stream.encode strict [decoded] = .ok data := by
  obtain ⟨few, writable, rfl⟩ := Stream.encode_eq_ok_iff.mp written
  have sound := locatedFile_sound_of_writable few writable
  have transcribed :=
    transcribes_of_writable few writable fun other member => List.mem_singleton.mp member ▸ covered
  have bytes := Stream.fileBytes_locatedFile ([definition].map Definition.raw)
  generalize Stream.locatedFile ([definition].map Definition.raw) = raws at sound transcribed bytes
  have again : ∀ {mode : Bool}, (∀ raw ∈ raws, raw.resolve.Writable mode) →
      Stream.encode mode (raws.map RawDefinition.resolve) =
        .ok (Stream.fileBytes ([definition].map Definition.raw)) :=
    encode_transcribed few transcribed
  -- The file holds this one definition.
  cases transcribed with
  | @cons _ raw _ _ transcribes rest =>
    cases rest
    have quiet : ∀ other ∈ [raw], other.diagnostics = [] := fun other member =>
      List.mem_singleton.mp member ▸ transcribes.tidy.quiet
    have rewritable : ∀ other ∈ [raw], other.resolve.Writable strict := fun other member =>
      List.mem_singleton.mp member ▸ transcribes.resolve_writable
    refine ⟨raw.resolve, fun mode => ?_, transcribes.agrees, ?_, again rewritable⟩
    · exact Stream.decode_eq_ok_iff.mpr ⟨[raw], sound, bytes.symm, fun _ => quiet, rfl⟩
    · exact again fun other member => (rewritable other member).tolerant

/-- A round trip. Every definition that a compilation gives is covered. When covered definitions are
written, a tolerant and a strict reader both read the file without dropping anything, as definitions
that agree with the written ones one by one, and these are written as the same bytes again. -/
theorem decode_encode :
    (∀ (graph : Graph) (roots : List Element) (rule : Dedup) (name : Bytes)
        (definition : Definition),
        compile graph roots rule name = .ok definition → definition.Covered) ∧
      ∀ (strict : Bool) (definitions : List Definition) (data : Bytes),
        Stream.encode strict definitions = .ok data →
        (∀ definition ∈ definitions, definition.Covered) →
        ∃ decoded : List Definition,
          (∀ mode, Stream.decode mode data = .ok decoded ∧ Stream.droppedFrom mode data = []) ∧
            List.Forall₂ Definition.Agrees definitions decoded ∧
            Stream.encode false decoded = .ok data ∧ Stream.encode strict decoded = .ok data := by
  refine ⟨fun _ _ _ _ _ compiled => Definition.covered_of_compile compiled, ?_⟩
  intro strict definitions data written covered
  -- The file holds the written form of each definition, which is sound where it stands.
  obtain ⟨few, writable, rfl⟩ := Stream.encode_eq_ok_iff.mp written
  have sound := locatedFile_sound_of_writable few writable
  have transcribed := transcribes_of_writable few writable covered
  have bytes := Stream.fileBytes_locatedFile (definitions.map Definition.raw)
  -- All that follows is about the definitions in the file, wherever they stand in it.
  generalize Stream.locatedFile (definitions.map Definition.raw) = raws at sound transcribed bytes
  have quiet : ∀ raw ∈ raws, raw.diagnostics = [] := by
    intro raw member
    obtain ⟨definition, transcribes⟩ := exists_transcribed transcribed member
    exact transcribes.tidy.quiet
  have rewritable : ∀ raw ∈ raws, raw.resolve.Writable strict := by
    intro raw member
    obtain ⟨definition, transcribes⟩ := exists_transcribed transcribed member
    exact transcribes.resolve_writable
  refine ⟨raws.map RawDefinition.resolve, fun mode => ⟨?_, ?_⟩, ?_, ?_, ?_⟩
  · exact Stream.decode_eq_ok_iff.mpr ⟨raws, sound, bytes.symm, fun _ => quiet, rfl⟩
  · -- A reader drops what it has a diagnostic for, and there is none.
    rw [← bytes, Stream.droppedFrom_eq sound fun _ => quiet, List.flatMap_eq_nil_iff]
    intro raw member
    rw [quiet raw member]
    rfl
  · exact List.forall₂_map_right_iff.mpr (transcribed.imp fun _ _ transcribes => transcribes.agrees)
  · exact encode_transcribed few transcribed fun raw member => (rewritable raw member).tolerant
  · exact encode_transcribed few transcribed rewritable

/-- The parameters of the diamond are those of its only control node. -/
theorem diamond_controls : diamondDefinition.controls = (diamond.node 0).parameters := by
  -- Of the nodes that are reached only one is a control node.
  show (reached diamond diamondRoots).flatMap diamond.owned = _
  rw [diamond_reached]
  rfl

/-- The diamond can be written, although one of its parameters has no name. -/
theorem diamond_writable : diamondDefinition.Writable false := by
  -- The tables are worked out from the collected nodes before anything is decided about them.
  have nodes : diamondDefinition.nodes = [⟨0, 0⟩, ⟨1, 0⟩, ⟨2, 2⟩, ⟨3, 0⟩] := by
    simp only [diamondDefinition, defined, diamond_reached]
    rfl
  have constants : diamondDefinition.constants.length ≤ 2 := by
    show (usedConstants diamond .value (reached diamond diamondRoots)).length ≤ 2
    rw [diamond_reached]
    exact length_firstByKey_le _ _
  have checked := (compile_eq_ok_iff.mp diamond_compiled).2
  have outputs : ∀ placed ∈ diamondDefinition.nodes,
      (diamondDefinition.graph.node placed.node).outputs.size ≤ Stream.maxCount := by
    rw [nodes]
    decide
  have counts : ∀ placed ∈ diamondDefinition.nodes,
      (diamondDefinition.graph.node placed.node).op.length ≤ Stream.maxName ∧
        (diamondDefinition.graph.node placed.node).inputs.length ≤ Stream.maxCount ∧
        0 ≤ placed.special ∧ placed.special ≤ Stream.maxCount := by
    rw [nodes]
    decide
  refine ⟨by decide, Nat.le_trans constants (by decide), ?_, ?_, checked,
    (fun isStrict => by cases isStrict), ?_, ?_⟩
  · rw [diamond_controls]
    decide
  · rw [nodes]
    decide
  · rw [diamond_controls]
    decide
  · intro placed listed
    obtain ⟨op, inputs, special⟩ := counts placed listed
    obtain ⟨row, here⟩ := List.mem_iff_getElem?.mp listed
    have sound := (Definition.check_eq_ok_iff _).mp checked row placed here
    refine ⟨op, inputs, outputs placed listed, special, fun source member => ?_⟩
    -- There are only four rows, all of which the format can refer to.
    refine Definition.inputFits_of_resolves (sound.inputs source member)
      (fun _ _ _ other feeder there _ => ?_) outputs
    have inside := (List.getElem?_eq_some_iff.mp there).1
    rw [nodes] at inside
    exact Nat.le_trans (Nat.le_of_lt inside) (by decide)

/-- The diamond is written and read back without loss. -/
theorem diamond_decode_encode :
    Stream.encode false [diamondDefinition] = .ok (Stream.fileBytes [diamondDefinition.raw]) ∧
      diamondDefinition.Covered ∧
      ∃ decoded : List Definition,
        (∀ mode, Stream.decode mode (Stream.fileBytes [diamondDefinition.raw]) = .ok decoded ∧
          Stream.droppedFrom mode (Stream.fileBytes [diamondDefinition.raw]) = []) ∧
        List.Forall₂ Definition.Agrees [diamondDefinition] decoded ∧
        Stream.encode false decoded = .ok (Stream.fileBytes [diamondDefinition.raw]) := by
  -- The diamond compiles and can be written.
  have written : Stream.encode false [diamondDefinition] =
      .ok (Stream.fileBytes [diamondDefinition.raw]) :=
    Stream.encode_eq_ok_iff.mpr ⟨by decide, List.forall_mem_singleton.mpr diamond_writable, rfl⟩
  have covered := decode_encode.1 _ _ _ _ _ diamond_compiled
  obtain ⟨decoded, read, agrees, again, _⟩ :=
    decode_encode.2 false _ _ written (List.forall_mem_singleton.mpr covered)
  exact ⟨written, covered, decoded, read, agrees, again⟩

end RoundTrip

end Patchbay
