import Patchbay.Proofs.Stream.Grammar

/-! Normal forms: what a tolerant reader makes of a file can be written again, and what is written
then is read by a strict reader as the same definitions. -/

namespace Patchbay.Stream

namespace RawDefinition

variable {raw : RawDefinition} {node : RawNode} {place slot : Nat} {rate : Rate}

/-- A row gives the same rate to an owned parameter before and after both are counted among the
owned ones. -/
theorem rateAt?_rebased (listed : node ∈ raw.nodes) (owned : raw.rateAt? place = some rate) :
    (raw.rebased node).rateAt? (raw.rebase place) = node.rateAt? place := by
  cases control : isControlOp node.op with
  | false => simp [RawNode.rateAt?, rebased, control]
  | true =>
    have start : (raw.rebased node).special = raw.rebase node.special := by
      simp [rebased, placeOf, control]
    have shifted : ∀ k ≤ node.outputs.size, raw.rebase (node.special + k) =
        raw.rebase node.special + k :=
      fun _ inside => raw.rebase_add listed control inside
    simp only [RawNode.rateAt?, start]
    simp only [rebased, control, true_and]
    rcases Nat.lt_or_ge place node.special with before | after
    · -- In front of the node's parameters an owned one stays in front of them.
      have less := raw.rebase_lt owned before
      rw [if_neg (by omega), if_neg (by omega)]
    · rw [if_pos (raw.rebase_mono after), if_pos after]
      rcases Nat.lt_or_ge place (node.special + node.outputs.size) with inside | behind
      · -- The node's own parameters keep their distance from the first of them.
        have same := shifted (place - node.special) (by omega)
        rw [show node.special + (place - node.special) = place by omega] at same
        rw [same, Nat.add_sub_cancel_left]
      · -- Behind the node's parameters there is no output left, before or after.
        have far := raw.rebase_mono behind
        rw [shifted _ (Nat.le_refl _)] at far
        rw [Array.getElem?_eq_none (by omega), Array.getElem?_eq_none (by omega)]

/-- A parameter has the same owner's rate in the file that is written for a resolved definition. -/
theorem resolve_raw_rateAt? (fits : raw.Fits) (owned : raw.rateAt? place = some rate) :
    raw.resolve.raw.rateAt? (raw.rebase place) = some rate := by
  -- The rows in front of the owner give the parameter no rate, before and after they are rebased.
  obtain ⟨front, node, behind, rows, given, none⟩ := List.findSome?_eq_some_iff.mp owned
  have listed : ∀ other ∈ front ++ node :: behind, other ∈ raw.nodes := by
    intro other member
    rwa [← rows, Array.mem_toList_iff] at member
  refine List.findSome?_eq_some_iff.mpr
    ⟨front.map raw.rebased, raw.rebased node, behind.map raw.rebased, ?_, ?_, ?_⟩
  · rw [resolve_raw_nodes fits, Array.toList_map, rows, List.map_append, List.map_cons]
  · rw [rateAt?_rebased (listed node (by simp)) owned, given]
  · intro other member
    obtain ⟨known, earlier, rfl⟩ := List.mem_map.mp member
    rw [rateAt?_rebased (listed known (List.mem_append_left _ earlier)) owned, none known earlier]

/-- Every control of a resolved definition is an owned parameter of the file. -/
theorem exists_parameter {descriptor : Descriptor}
    (here : raw.resolve.controls[slot]? = some descriptor) :
    ∃ place rate, raw.rateAt? place = some rate ∧ raw.rebase place = slot ∧
      descriptor = raw.parameter place rate := by
  -- The slot is the new number of some place that has a rate.
  have inside : slot < raw.rebase raw.defaults.size :=
    raw.length_controls ▸ (List.getElem?_eq_some_iff.mp here).1
  obtain ⟨place, bound, rate, owned, rfl⟩ := raw.exists_rebase_eq inside
  refine ⟨place, rate, owned, rfl, Option.some.inj ?_⟩
  rw [← here]
  exact raw.controls_get bound owned

/-- Every control of a resolved definition is covered by a control node. -/
theorem resolve_covered (fits : raw.Fits) : raw.resolve.Covered := by
  intro slot inside
  obtain ⟨place, rate, owned, rfl, _⟩ := exists_parameter (List.getElem?_eq_getElem inside)
  -- The row that owns the parameter covers it once both are counted among the owned ones.
  obtain ⟨node, member, given⟩ := List.exists_of_findSome?_eq_some owned
  obtain ⟨row, here⟩ := Array.mem_iff_getElem?.mp (Array.mem_toList_iff.mp member)
  rw [← rateAt?_rebased (Array.mem_of_getElem? here) owned, RawNode.rateAt?] at given
  split at given
  · rename_i holds
    obtain ⟨op, _, _, outputs⟩ := resolve_node here
    have bound := (Array.getElem?_eq_some_iff.mp given).1
    have there := resolve_nodes_get fits row
    rw [here, Option.map_some] at there
    refine ⟨⟨row, raw.placeOf node⟩, List.mem_of_getElem? there, ?_, ?_, ?_⟩
    · rw [op]
      exact holds.1
    · simpa [rebased] using holds.2
    · simp only [rebased] at holds bound
      rw [outputs]
      show (raw.rebase place : Int) < (raw.placeOf node : Int) + node.outputs.size
      omega
  · cases given

/-- A resolved definition is what the file that is written for it comes from. -/
theorem resolve_transcribes (fits : raw.Fits) : Transcribes false raw.resolve raw.resolve.raw := by
  -- It can be written, its parameters are all owned, and it has no offsets.
  have writable : raw.resolve.Writable false :=
    resolve_writable fits fun isStrict => by cases isStrict
  exact ⟨writable, resolve_covered fits, writable.raw_fits, raw.resolve.raw_unlocated⟩

/-- The controls of a resolved definition are the same after it was written and read. -/
theorem resolve_again_controls (fits : raw.Fits) :
    raw.resolve.raw.resolve.controls = raw.resolve.controls := by
  have written := resolve_transcribes fits
  apply List.ext_getElem?
  intro slot
  cases here : raw.resolve.controls[slot]? with
  | none =>
    -- Both tables have the same length.
    rw [List.getElem?_eq_none_iff] at here ⊢
    rwa [written.length_controls]
  | some descriptor =>
    -- The name and the default are written and read, and the rate is that of the same owner.
    obtain ⟨place, rate, owned, rfl, rfl⟩ := exists_parameter here
    obtain ⟨found, covered, there⟩ := written.controls_get here
    have same := resolve_raw_rateAt? fits owned
    rw [written.rateAt?_eq, covered, Option.some.injEq] at same
    rw [there, same]
    rfl

/-- A row in a file and its rebased form stand for the same node in the same row. -/
theorem resolve_rebased (fits : raw.Fits) {row : Nat} (here : raw.nodes[row]? = some node)
    (table : Array Descriptor) :
    (raw.rebased node).resolve row (ownedBefore raw.resolve.raw.owners) table =
      node.resolve row (ownedBefore raw.owners) table := by
  have written := resolve_transcribes fits
  have again : raw.resolve.raw.nodes[row]? = some (raw.rebased node) := by
    rw [resolve_raw_nodes fits, Array.getElem?_map, here, Option.map_some]
  have fixed := written.tidy.placeOf_eq written.fits again
  have control : isControlOp (raw.rebased node).op = isControlOp node.op := rfl
  simp only [RawNode.resolve, control]
  split
  · -- A control node is counted among the owned parameters once, and all of them are owned in what
    -- is written.
    rename_i isControl
    have first : (ownedBefore raw.owners)[node.special]? = some (raw.placeOf node) := by
      have inside := (fits.nodes row node here).parameters isControl
      rw [placeOf, if_pos isControl]
      exact raw.ownedBefore_get (by omega)
    have second : (ownedBefore raw.resolve.raw.owners)[(raw.rebased node).special]? =
        some (raw.placeOf node) := by
      have inside := (written.fits.nodes row _ again).parameters isControl
      rw [raw.resolve.raw.ownedBefore_get (by omega)]
      rw [placeOf, control, if_pos isControl] at fixed
      rw [fixed]
      rfl
    simp only [first, second]
    rfl
  · -- Any other row keeps its special index.
    rename_i other
    simp only [rebased, placeOf, other]
    rfl

/-- The nodes and the rows of the node table that a definition in a file stands for. -/
def resolvedRows (raw : RawDefinition) : List (Node × Placed) :=
  raw.nodes.toList.zipIdx.map fun item =>
    item.1.resolve item.2 (ownedBefore raw.owners) (raw.controls raw.owners).toArray

/-- Each row of the file is resolved with its number. -/
theorem resolvedRows_get (raw : RawDefinition) (row : Nat) : raw.resolvedRows[row]? =
    raw.nodes[row]?.map fun node =>
      node.resolve row (ownedBefore raw.owners) (raw.controls raw.owners).toArray := by
  -- The rows are numbered in their order.
  simp only [resolvedRows, List.getElem?_map, List.getElem?_zipIdx, Array.getElem?_toList,
    Nat.zero_add, Option.map_map]
  rfl

/-- A resolved definition is put together from its rows, its constants and its controls. -/
theorem resolve_eq (raw : RawDefinition) : raw.resolve =
    ⟨raw.name, ⟨(raw.resolvedRows.map Prod.fst).toArray, raw.constants⟩,
      raw.resolvedRows.map Prod.snd,
      List.range raw.constants.size, raw.controls raw.owners, .identity⟩ := rfl

/-- A resolved definition is the same after it was written and read. -/
theorem resolve_again (fits : raw.Fits) : raw.resolve.raw.resolve = raw.resolve := by
  have controls : raw.resolve.raw.controls raw.resolve.raw.owners = raw.controls raw.owners :=
    resolve_again_controls fits
  have constants : raw.resolve.raw.constants = raw.constants := by
    show (raw.resolve.constants.map raw.resolve.graph.constant).toArray = raw.constants
    rw [resolve_constants]
  have rows : raw.resolve.raw.resolvedRows = raw.resolvedRows := by
    -- Row by row, the rebased form stands for the same node.
    apply List.ext_getElem?
    intro row
    rw [resolvedRows_get, resolvedRows_get, controls, resolve_raw_nodes fits, Array.getElem?_map,
      Option.map_map]
    cases here : raw.nodes[row]? with
    | none => rw [Option.map_none, Option.map_none]
    | some node =>
      rw [Option.map_some, Option.map_some, Function.comp_apply, resolve_rebased fits here]
  rw [resolve_eq raw.resolve.raw, rows, constants, controls]
  rfl

/-- A name table that lists names which are not empty at strictly increasing indices. -/
structure NamesAscend (raw : RawDefinition) : Prop where
  named : ∀ entry ∈ raw.entries, entry.name ≠ []
  increasing : raw.entries.toList.Pairwise fun a b => a.index < b.index

/-- A definition is tidy when there is nothing wrong with it and its names ascend. -/
theorem tidy_iff : raw.Tidy ↔ raw.diagnostics = [] ∧ raw.NamesAscend :=
  -- The two conditions are the three fields of a tidy definition.
  ⟨fun ⟨quiet, named, increasing⟩ => ⟨quiet, named, increasing⟩,
    fun ⟨quiet, named, increasing⟩ => ⟨quiet, named, increasing⟩⟩

/-- What a definition in a file stands for is written as the definition itself exactly when that is
tidy. -/
theorem resolve_raw_eq_iff (fits : raw.Fits) : raw.resolve.raw = raw.unlocated ↔ raw.Tidy := by
  constructor
  · -- What is written for a resolved definition is tidy, since all its controls are covered.
    intro same
    have written := resolve_transcribes fits
    have transcribes : Transcribes false raw.resolve raw :=
      ⟨written.writable, written.covered, fits, same.symm⟩
    exact transcribes.tidy
  · intro tidy
    exact tidy.resolve_raw fits

end RawDefinition

namespace Grammatical

variable {raws : List RawDefinition}

/-- The files that are written for definitions are in the grammar. -/
theorem of_writable {strict : Bool} {definitions : List Definition}
    (few : definitions.length ≤ maxCount)
    (writable : ∀ definition ∈ definitions, definition.Writable strict) :
    Grammatical (definitions.map Definition.raw) where
  -- What is written for a definition fits the format and has no offsets.
  count := by rwa [List.length_map]
  fits := List.forall_mem_map.mpr fun definition member => (writable definition member).raw_fits
  plain := List.forall_mem_map.mpr fun definition _ => definition.raw_unlocated

/-- What a file in the grammar stands for can be written. -/
theorem resolve_writable (grammatical : Grammatical raws) :
    ∀ definition ∈ raws.map RawDefinition.resolve, definition.Writable false :=
  -- Each definition of the file is resolved on its own.
  List.forall_mem_map.mpr fun _ member =>
    (RawDefinition.resolve_transcribes (grammatical.fits _ member)).writable

/-- What is written for a file in the grammar is in the grammar. -/
theorem normal (grammatical : Grammatical raws) :
    Grammatical ((raws.map RawDefinition.resolve).map Definition.raw) :=
  -- What the file stands for can be written.
  of_writable (by rw [List.length_map]; exact grammatical.count) grammatical.resolve_writable

/-- What a file in the grammar stands for is written as its tables stand. -/
theorem encode_resolve (grammatical : Grammatical raws) :
    encode false (raws.map RawDefinition.resolve) =
      .ok (fileBytes ((raws.map RawDefinition.resolve).map Definition.raw)) :=
  -- The number of definitions is that of the file.
  encode_eq_ok_iff.mpr
    ⟨by rw [List.length_map]; exact grammatical.count, grammatical.resolve_writable, rfl⟩

/-- There is nothing wrong with what is written for a file in the grammar. -/
theorem normal_quiet (grammatical : Grammatical raws) :
    ∀ raw ∈ (raws.map RawDefinition.resolve).map Definition.raw, raw.diagnostics = [] := by
  -- What is written for a resolved definition is tidy.
  rw [List.map_map]
  exact List.forall_mem_map.mpr fun raw member =>
    (RawDefinition.resolve_transcribes (grammatical.fits raw member)).tidy.quiet

/-- What is written for a file in the grammar stands for the same definitions. -/
theorem normal_resolve (grammatical : Grammatical raws) :
    ((raws.map RawDefinition.resolve).map Definition.raw).map RawDefinition.resolve =
      raws.map RawDefinition.resolve := by
  -- Each definition is resolved to itself again.
  rw [List.map_map, List.map_map]
  exact List.map_congr_left fun raw member =>
    RawDefinition.resolve_again (grammatical.fits raw member)

/-- A file in the grammar is written again as the same bytes exactly when all its definitions are
tidy. -/
theorem normal_bytes_iff (grammatical : Grammatical raws) :
    fileBytes ((raws.map RawDefinition.resolve).map Definition.raw) = fileBytes raws ↔
      ∀ raw ∈ raws, raw.Tidy := by
  calc fileBytes ((raws.map RawDefinition.resolve).map Definition.raw) = fileBytes raws
      ↔ (raws.map RawDefinition.resolve).map Definition.raw = raws.map id := by
        -- Both files are in the grammar, where the bytes tell files apart.
        rw [List.map_id]
        exact ⟨grammatical.normal.eq_of_bytes grammatical, fun same => by rw [same]⟩
    _ ↔ ∀ raw ∈ raws, raw.resolve.raw = raw := by
        rw [List.map_map, List.map_inj_left]
        rfl
    _ ↔ ∀ raw ∈ raws, raw.Tidy := by
        refine forall₂_congr fun raw member => ?_
        rw [← RawDefinition.resolve_raw_eq_iff (grammatical.fits raw member),
          grammatical.plain raw member]

end Grammatical

/-- What a tolerant reader reads has a normal form. Every definition passes the check, and together
they are written as a file that any reader, also a strict one, reads as the same definitions: their
names, constants, controls, rows, special indices and the descriptors of each node are all the same.
So they are written as the same file again. -/
theorem decode_normal_form {data : Bytes} {definitions : List Definition}
    (read : decode false data = .ok definitions) :
    (∀ definition ∈ definitions, definition.check = .ok ()) ∧
      ∃ normal, encode false definitions = .ok normal ∧
        ∃ again, (∀ mode, decode mode normal = .ok again) ∧ again = definitions ∧
          encode false again = .ok normal := by
  -- What was read stands for a file in the grammar, whatever is wrong with its names and
  -- parameters.
  obtain ⟨raws, grammatical, _, rfl⟩ := exists_grammatical read
  refine ⟨fun definition member => (grammatical.resolve_writable definition member).checked, _,
    grammatical.encode_resolve, _, fun mode => ?_, rfl, grammatical.encode_resolve⟩
  -- There is nothing to drop from what is written, and it stands for the same definitions.
  rw [grammatical.normal.decode_eq fun _ => grammatical.normal_quiet, grammatical.normal_resolve]

/-- The tangled definition has a normal form. Its rows and the three parameters that a control node
owns are there, with the first name of each. -/
theorem tangled_normal_form :
    tangled.resolve.nodes = [⟨0, 0⟩, ⟨1, 1⟩, ⟨2, 7⟩] ∧
      tangled.resolve.controls = [⟨utf8 "freq", .control, ⟨0x3F800000⟩, .zero⟩,
        ⟨[], .control, ⟨0x40000000⟩, .zero⟩, ⟨utf8 "pan", .audio, ⟨0x80000000⟩, .zero⟩] ∧
      decode false (fileBytes [tangled]) = .ok [tangled.resolve] ∧
      ∃ normal, encode false [tangled.resolve] = .ok normal ∧
        ∃ again, (∀ mode, decode mode normal = .ok again) ∧ again = [tangled.resolve] ∧
          encode false again = .ok normal :=
  -- The tangled definition is in the grammar, and its tables are small enough to compute.
  ⟨by decide, by decide, tangled_grammatical.decode_tolerant,
    (decode_normal_form tangled_grammatical.decode_tolerant).2⟩

end Patchbay.Stream
