import Mathlib.Data.List.Sort
import Patchbay.Proofs.Stream.Ownership
import Patchbay.Proofs.Stream.Written

/-! Resolved definitions: a definition that is read from a file passes the check and can be written
again, and where nothing was dropped it is written as it was read. -/

namespace Patchbay.Stream.RawDefinition

variable {raw : RawDefinition} {row : Nat} {node : RawNode}

/-- The special index of a row in the resolved definition: for a control node, counted among the
owned parameters. -/
def placeOf (raw : RawDefinition) (node : RawNode) : Nat :=
  if isControlOp node.op then raw.rebase node.special else node.special

/-- The rows of a resolved definition are numbered in order. -/
theorem resolve_nodes_get (fits : raw.Fits) (row : Nat) :
    raw.resolve.nodes[row]? = raw.nodes[row]?.map fun node => ⟨row, raw.placeOf node⟩ := by
  simp only [resolve, List.map_map, List.getElem?_map, List.getElem?_zipIdx, Array.getElem?_toList,
    Nat.zero_add, Option.map_map]
  cases here : raw.nodes[row]? with
  | none => rfl
  | some node =>
    -- A control node starts at a parameter or right behind the last one, and all these places have
    -- a count.
    have inside := (fits.nodes row node here).parameters
    simp only [Option.map_some, Function.comp_apply, RawNode.resolve, placeOf]
    cases control : isControlOp node.op with
    | false => rfl
    | true =>
      have bound : node.special ≤ raw.defaults.size := by
        have all := inside control
        omega
      simp [raw.ownedBefore_get bound]

/-- The node of a row of a resolved definition is the row in the file with its inputs as they
stand. -/
theorem resolve_node (here : raw.nodes[row]? = some node) :
    (raw.resolve.graph.node row).op = node.op ∧ (raw.resolve.graph.node row).rate = node.rate ∧
      (raw.resolve.graph.node row).inputs = node.inputs.toList.map RawInput.source ∧
      (raw.resolve.graph.node row).outputs = node.outputs := by
  -- The rows are numbered in their order, so that the node of a row is that row resolved.
  simp only [resolve, Graph.node, List.map_map, List.getElem?_toArray, List.getElem?_map,
    List.getElem?_zipIdx, Array.getElem?_toList, here, Option.map_some, Option.getD_some,
    Function.comp_apply, RawNode.resolve]
  split <;> exact ⟨rfl, rfl, rfl, rfl⟩

/-- A row of a resolved definition is the row of its own number. -/
theorem resolve_rows (fits : raw.Fits) (inside : row < raw.nodes.size) :
    raw.resolve.rows[row]? = some row := by
  -- The recorded row is one where the node stands, and it stands in the row of its number only.
  have own : ∀ (i : Nat) (placed : Placed), raw.resolve.nodes[i]? = some placed →
      placed.node = i := by
    intro i placed found
    rw [resolve_nodes_get fits, Option.map_eq_some_iff] at found
    obtain ⟨_, _, rfl⟩ := found
    rfl
  have here : raw.resolve.nodes[row]? = some ⟨row, raw.placeOf raw.nodes[row]⟩ := by
    rw [resolve_nodes_get fits, Array.getElem?_eq_getElem inside, Option.map_some]
  obtain ⟨other, found⟩ := Definition.rows_complete (List.mem_of_getElem? here)
  obtain ⟨placed, there, same⟩ := Definition.rows_sound found
  rw [found, ← own other placed there, same]

/-- A constant of a resolved definition has the slot of its own number. -/
theorem resolve_slots {constant : Nat} (inside : constant < raw.constants.size) :
    raw.resolve.slots[raw.resolve.keyOf constant]? = some constant := by
  have listed : constant ∈ raw.resolve.constants := List.mem_range.mpr inside
  obtain ⟨slot, found⟩ := raw.resolve.slots_complete listed
  obtain ⟨other, there, same⟩ := Definition.slots_sound found
  -- Constants are told apart by their numbers, which are also their slots.
  have equal : other = constant := ConstantKey.number.inj same
  have own : slot = other := by
    obtain ⟨_, value⟩ := List.getElem?_eq_some_iff.mp there
    simpa [resolve] using value
  rw [found, own, equal]

/-- A sound input of a row refers in the resolved definition to what it refers to in the file. -/
theorem resolve_input (fits : raw.Fits) {input : RawInput}
    (sound : input.Sound raw.constants.size (raw.nodes.toList.take row).toArray) :
    raw.resolve.Resolves row input.source ∧ raw.resolve.rawInput input.source = input ∧
      raw.resolve.InputFits input.source := by
  cases input with
  | constant slot =>
    -- A constant is looked up by its number, and found in the slot of that number.
    have found := resolve_slots sound.1
    refine ⟨⟨slot, found⟩, ?_, trivial⟩
    simp only [RawInput.source, Definition.rawInput, Std.HashMap.getD_eq_getD_getElem?, found,
      Option.getD_some]
  | output other slot =>
    -- A row is found under its own number, and what it refers to is an earlier one.
    obtain ⟨low, small, producer, there, inside⟩ := sound
    rw [List.getElem?_toArray, List.getElem?_take, Array.getElem?_toList] at there
    split at there
    · rename_i before
      have found := resolve_rows fits (Array.getElem?_eq_some_iff.mp there).1
      refine ⟨⟨⟨other, before, found⟩, by omega, ?_⟩, ?_, ?_⟩
      · rw [(resolve_node there).2.2.2]
        omega
      · simp only [RawInput.source, Definition.rawInput, Std.HashMap.getD_eq_getD_getElem?, found,
          Option.getD_some, Int.toNat_natCast]
      · simp only [RawInput.source, Definition.InputFits, Std.HashMap.getD_eq_getD_getElem?, found,
          Option.getD_some]
        omega
    · cases there

/-- A row of a resolved definition is written as the row in the file, with its special index in the
resolved definition. -/
theorem resolve_rawNode (fits : raw.Fits) (here : raw.nodes[row]? = some node) :
    raw.resolve.rawNode ⟨row, raw.placeOf node⟩ = { node with special := raw.placeOf node } := by
  obtain ⟨op, rate, inputs, outputs⟩ := resolve_node here
  -- Every input is written as it was read.
  have same : (node.inputs.toList.map RawInput.source).map raw.resolve.rawInput =
      node.inputs.toList := by
    rw [List.map_map]
    refine (List.map_congr_left fun input listed => ?_).trans (List.map_id _)
    exact (resolve_input fits
      ((fits.nodes row node here).inputs input (Array.mem_toList_iff.mp listed))).2.1
  simp only [Definition.rawNode, op, rate, inputs, outputs, same, Int.toNat_natCast,
    Array.toArray_toList]

/-- A row in a file with the special index that it has in the resolved definition. -/
def rebased (raw : RawDefinition) (node : RawNode) : RawNode :=
  { node with special := raw.placeOf node }

/-- A resolved definition is written with the rows in the file, each with its special index in the
resolved definition. -/
theorem resolve_raw_nodes (fits : raw.Fits) :
    raw.resolve.raw.nodes = raw.nodes.map raw.rebased := by
  -- Both tables have the same row at each place.
  apply Array.ext_getElem?
  intro row
  rw [Definition.raw_nodes_get, resolve_nodes_get fits, Array.getElem?_map, Option.map_map]
  cases here : raw.nodes[row]? with
  | none => rfl
  | some node =>
    rw [Option.map_some, Option.map_some, Function.comp_apply, resolve_rawNode fits here, rebased]

/-- The constants of a resolved definition are those in the file. -/
theorem resolve_constants (raw : RawDefinition) :
    raw.resolve.constants.map raw.resolve.graph.constant = raw.constants.toList := by
  -- The constants are listed by their numbers.
  apply List.ext_getElem?
  intro i
  by_cases inside : i < raw.constants.size
  · simp [resolve, Graph.constant, inside]
  · simp [resolve, inside]

/-- The parameters of a control node lie among the owned ones. -/
theorem placeOf_add_le (fits : raw.Fits) (here : raw.nodes[row]? = some node)
    (control : isControlOp node.op = true) :
    raw.placeOf node + node.outputs.size ≤ (raw.controls raw.owners).length := by
  -- All parameters of the node are owned, and they end where those of the file end at the latest.
  have inside := (fits.nodes row node here).parameters control
  rw [placeOf, if_pos control, raw.length_controls,
    ← raw.rebase_add (Array.mem_of_getElem? here) control (Nat.le_refl _)]
  exact raw.rebase_mono inside

/-- The special index in the resolved definition is not larger than in the file. -/
theorem placeOf_le (raw : RawDefinition) (node : RawNode) : raw.placeOf node ≤ node.special := by
  -- A control node moves to the front at most, and no other node moves.
  unfold placeOf
  split
  · exact raw.rebase_le node.special
  · exact Nat.le_refl _

/-- Every row of a resolved definition is sound. -/
theorem resolve_rowSound (fits : raw.Fits) {placed : Placed}
    (there : raw.resolve.nodes[row]? = some placed) :
    raw.resolve.RowSound row placed := by
  rw [resolve_nodes_get fits, Option.map_eq_some_iff] at there
  obtain ⟨node, here, rfl⟩ := there
  obtain ⟨op, rate, inputs, outputs⟩ := resolve_node here
  have sound := fits.nodes row node here
  refine ⟨by rw [rate]; exact sound.rate, by rw [outputs]; exact sound.outputs, ?_, ?_⟩
  · intro source member
    rw [inputs, List.mem_map] at member
    obtain ⟨input, listed, rfl⟩ := member
    exact (resolve_input fits (sound.inputs input (Array.mem_toList_iff.mp listed))).1
  · -- The parameters lie among the owned ones, and wrapping does not move them out.
    intro control
    rw [op] at control
    have bound := placeOf_add_le fits here control
    have less := wrapWord_le (raw.placeOf node + node.outputs.size)
    rw [outputs]
    refine ⟨Int.natCast_nonneg _, ?_⟩
    show wrapWord ((raw.placeOf node : Int) + node.outputs.size) ≤ (raw.controls raw.owners).length
    rw [← Int.natCast_add]
    omega

/-- A name that the entries give to a parameter fits the format. -/
theorem length_nameAt_le (fits : raw.Fits) (place : Nat) :
    (nameAt raw.entries.toList place).length ≤ maxName := by
  -- The name is that of an entry, or empty.
  unfold nameAt
  cases found : raw.entries.toList.find? fun entry => entry.index = place ∧ entry.name ≠ [] with
  | none => exact Nat.zero_le _
  | some entry =>
    exact (fits.entries entry (Array.mem_toList_iff.mp (List.mem_of_find?_eq_some found))).name

/-- The controls of a resolved definition are parameters with the rates that their owners give
them. -/
theorem mem_controls_iff {descriptor : Descriptor} : descriptor ∈ raw.controls raw.owners ↔
    ∃ place < raw.defaults.size, ∃ rate, raw.rateAt? place = some rate ∧
      raw.parameter place rate = descriptor := by
  -- The controls are made place by place.
  simp only [controls_eq, List.mem_filterMap, List.mem_range, Option.map_eq_some_iff]

/-- A resolved definition can be written, and strictly when its parameters all have names. -/
theorem resolve_writable (fits : raw.Fits) {strict : Bool}
    (allNamed : strict = true → ∀ descriptor ∈ raw.controls raw.owners, descriptor.named = true) :
    raw.resolve.Writable strict where
  name := fits.name
  constantCount := by simpa [resolve] using fits.constants
  controlCount := by
    -- Parameters may be dropped, but none is added.
    show (raw.controls raw.owners).length ≤ maxCount
    rw [length_controls]
    exact Nat.le_trans (raw.rebase_le _) fits.defaults
  nodeCount := by simpa [resolve] using fits.nodeCount
  checked := (Definition.check_eq_ok_iff _).mpr fun row placed there => resolve_rowSound fits there
  allNamed := allNamed
  controlNames := by
    intro descriptor member
    obtain ⟨place, _, rate, _, rfl⟩ := mem_controls_iff.mp member
    exact length_nameAt_le fits place
  rows := by
    intro placed member
    obtain ⟨row, there⟩ := List.mem_iff_getElem?.mp member
    rw [resolve_nodes_get fits, Option.map_eq_some_iff] at there
    obtain ⟨node, here, rfl⟩ := there
    obtain ⟨op, _, inputs, outputs⟩ := resolve_node here
    have sound := fits.nodes row node here
    have less := raw.placeOf_le node
    have held := sound.special
    refine ⟨by rw [op]; exact sound.op, ?_, by rw [outputs]; exact sound.outputCount, ?_, ?_⟩
    · rw [inputs, List.length_map, Array.length_toList]
      exact sound.inputCount
    · simp only
      omega
    · intro source listed
      rw [inputs, List.mem_map] at listed
      obtain ⟨input, given, rfl⟩ := listed
      exact (resolve_input fits (sound.inputs input (Array.mem_toList_iff.mp given))).2.2

/-- A definition from which nothing is dropped and whose name table is in the order in which it is
written. -/
structure Tidy (raw : RawDefinition) : Prop where
  quiet : raw.diagnostics = []
  named : ∀ entry ∈ raw.entries, entry.name ≠ []
  increasing : raw.entries.toList.Pairwise fun a b => a.index < b.index

namespace Tidy

/-- All parameters of a tidy definition are owned. -/
theorem owned (tidy : raw.Tidy) :
    ∀ place < raw.defaults.size, ∃ rate, raw.rateAt? place = some rate :=
  -- A parameter without an owner would be told of.
  (raw.diagnostics_eq_nil_iff.mp tidy.quiet).1

/-- An entry of a tidy definition names a parameter. -/
theorem index_lt (tidy : raw.Tidy) {entry : NameEntry} (member : entry ∈ raw.entries) :
    entry.index < raw.defaults.size := by
  -- An index outside of the table would be told of.
  obtain ⟨i, here⟩ := Array.mem_iff_getElem?.mp member
  exact ((raw.diagnostics_eq_nil_iff.mp tidy.quiet).2 i entry here).1

/-- The controls of a tidy definition are its parameters. -/
theorem controls_get (tidy : raw.Tidy) {place : Nat} {rate : Rate}
    (owned : raw.rateAt? place = some rate) (inside : place < raw.defaults.size) :
    (raw.controls raw.owners)[place]? = some (raw.parameter place rate) := by
  -- No parameter moves.
  have here := raw.controls_get inside owned
  rwa [raw.rebase_eq tidy.owned (Nat.le_of_lt inside)] at here

/-- A tidy definition keeps the number of its parameters. -/
theorem length_controls (tidy : raw.Tidy) :
    (raw.controls raw.owners).length = raw.defaults.size := by
  -- All parameters count.
  rw [raw.length_controls, raw.rebase_eq tidy.owned (Nat.le_refl _)]

/-- The name table of a tidy definition is the one that is written for its controls. -/
theorem namedEntries_controls (tidy : raw.Tidy) : namedEntries (raw.controls raw.owners) =
    raw.entries.toList.map fun entry => (entry.name, entry.index) := by
  have asymm : Std.Antisymm fun a b : Bytes × Nat => a.2 < b.2 :=
    ⟨fun _ _ low high => absurd high (Nat.lt_asymm low)⟩
  have irrefl : Std.Irrefl fun a b : Bytes × Nat => a.2 < b.2 := ⟨fun _ => Nat.lt_irrefl _⟩
  -- Both tables are in order of their places, so that it is enough to compare their entries.
  refine List.Pairwise.eq_of_mem_iff (namedEntries_increasing _)
    (List.pairwise_map.mpr tidy.increasing) ?_
  rintro ⟨text, place⟩
  rw [mem_namedEntries_iff, List.mem_map]
  constructor
  · -- The name of a control is one that some entry gives to its place.
    rintro ⟨given, descriptor, here, rfl⟩
    have inside : place < raw.defaults.size :=
      tidy.length_controls ▸ (List.getElem?_eq_some_iff.mp here).1
    obtain ⟨rate, owned⟩ := tidy.owned place inside
    rw [tidy.controls_get owned inside, Option.some.injEq] at here
    subst here
    obtain ⟨entry, member, index, name⟩ := (nameAt_eq_iff tidy.increasing given).mp rfl
    exact ⟨entry, member, by rw [index, name]⟩
  · -- An entry gives its name to an owned parameter, which is the control at its place.
    rintro ⟨entry, member, same⟩
    obtain ⟨rfl, rfl⟩ := Prod.mk.inj same
    have inside := tidy.index_lt (Array.mem_toList_iff.mp member)
    have given := tidy.named entry (Array.mem_toList_iff.mp member)
    obtain ⟨rate, owned⟩ := tidy.owned entry.index inside
    exact ⟨given, _, tidy.controls_get owned inside,
      (nameAt_eq_iff tidy.increasing given).mpr ⟨entry, member, rfl, rfl⟩⟩

/-- In a tidy definition, no special index changes. -/
theorem placeOf_eq (tidy : raw.Tidy) (fits : raw.Fits) (here : raw.nodes[row]? = some node) :
    raw.placeOf node = node.special := by
  -- A control node starts in the table, where no parameter moves.
  unfold placeOf
  split
  · rename_i control
    have inside := (fits.nodes row node here).parameters control
    exact raw.rebase_eq tidy.owned (by omega)
  · rfl

/-- A tidy definition is written as it was read. -/
theorem resolve_raw (tidy : raw.Tidy) (fits : raw.Fits) : raw.resolve.raw = raw.unlocated := by
  -- The tables are compared one by one.
  have constants : (raw.resolve.constants.map raw.resolve.graph.constant).toArray =
      raw.constants := by
    rw [resolve_constants]
  have defaults : ((raw.controls raw.owners).map Descriptor.default).toArray = raw.defaults := by
    apply Array.ext_getElem?
    intro place
    by_cases inside : place < raw.defaults.size
    · obtain ⟨rate, owned⟩ := tidy.owned place inside
      simp [tidy.controls_get owned inside, parameter, inside]
    · simp [tidy.length_controls, inside]
  have entries : ((namedEntries (raw.controls raw.owners)).map fun entry =>
      (⟨entry.1, entry.2, 0⟩ : NameEntry)).toArray = raw.entries.map (NameEntry.located 0) := by
    rw [tidy.namedEntries_controls, List.map_map]
    apply Array.toList_inj.mp
    rw [Array.toList_map]
    rfl
  have nodes : (raw.resolve.nodes.map raw.resolve.rawNode).toArray = raw.nodes := by
    apply Array.ext_getElem?
    intro row
    have here := congrArg (fun nodes => nodes[row]?) (resolve_raw_nodes fits)
    simp only [Definition.raw, Array.getElem?_map] at here
    rw [here]
    cases there : raw.nodes[row]? with
    | none => rfl
    | some node => rw [Option.map_some, rebased, tidy.placeOf_eq fits there]
  show RawDefinition.mk raw.name _ 0 _ _ _ = RawDefinition.mk raw.name _ 0 _ _ _
  rw [constants, nodes]
  exact congrArg₂ (fun d e => RawDefinition.mk raw.name raw.constants 0 d e raw.nodes) defaults
    entries

end Tidy

end Patchbay.Stream.RawDefinition
