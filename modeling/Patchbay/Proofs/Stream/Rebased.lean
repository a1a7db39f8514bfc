import Patchbay.Proofs.Stream.Grammar

/-! Rebased parameters: a parameter that no control node covers is dropped, the others move
together, and every output of a control node stays on its own parameter. -/

namespace Patchbay.Stream

section Filtering

variable {α β : Type}

/-- What is made of some items, beside the items that something is made of. -/
theorem forall₂_filterMap (make : α → Option β) (items : List α) :
    List.Forall₂ (fun item made => item ∈ items ∧ make item = some made)
      (items.filter fun item => (make item).isSome) (items.filterMap make) := by
  -- Something is made of an item or nothing, and the two lists go on together.
  induction items with
  | nil => exact .nil
  | cons item items ih =>
    have later := ih.imp fun _ _ both => And.imp_left (List.mem_cons_of_mem item) both
    cases made : make item with
    | none => simpa [made] using later
    | some result => simpa [made] using later

/-- An item that passes a test stands behind as many as pass it in front. -/
theorem getElem?_filter_range (test : Nat → Bool) {count place : Nat} (inside : place < count)
    (passes : test place = true) :
    ((List.range count).filter test)[(List.range place).countP test]? = some place := by
  -- The places fall into those in front of this one, this one and those behind it.
  have parts := (List.take_append_drop place (List.range count)).symm
  rw [List.drop_eq_getElem_cons (by simpa using inside), List.take_range,
    Nat.min_eq_left (Nat.le_of_lt inside), List.getElem_range] at parts
  rw [parts, List.filter_append, List.countP_eq_length_filter,
    List.getElem?_append_right (Nat.le_refl _), Nat.sub_self, List.filter_cons_of_pos passes]
  rfl

end Filtering

/-- A control node covers a slot of the parameter table: one of its outputs stands for it. -/
def RawNode.Covers (node : RawNode) (slot : Nat) : Prop :=
  isControlOp node.op = true ∧ node.special ≤ slot ∧ slot < node.special + node.outputs.size

instance (node : RawNode) (slot : Nat) : Decidable (node.Covers slot) :=
  inferInstanceAs (Decidable (_ ∧ _ ∧ _))

/-- A node gives a slot a rate exactly when it covers the slot. -/
theorem RawNode.rateAt?_isSome_iff {node : RawNode} {slot : Nat} :
    (node.rateAt? slot).isSome = true ↔ node.Covers slot := by
  -- A control node covers its slots from its special index on.
  unfold rateAt? Covers
  split
  · rename_i control
    simp only [Option.isSome_iff_ne_none, ne_eq, Array.getElem?_eq_none_iff, control.1, control.2,
      true_and]
    omega
  · rename_i other
    simp only [Option.isSome_none, Bool.false_eq_true, false_iff]
    exact fun covers => other ⟨covers.1, covers.2.1⟩

namespace RawDefinition

/-- The slots of the parameter table that some control node covers, in order. -/
def keptSlots (raw : RawDefinition) : List Nat :=
  (List.range raw.defaults.size).filter fun slot => ∃ node ∈ raw.nodes.toList, node.Covers slot

/-- The entry of the control table that is kept for a slot: it has the default of the slot, the
first name that the name table gives it, if that gives it one, and the rate of the output that
stands for it at the first control node in the table that covers it. -/
structure KeptFor (raw : RawDefinition) (slot : Nat) (entry : Descriptor) : Prop where
  default : raw.defaults[slot]? = some entry.default
  name : entry.name = nameAt raw.entries.toList slot
  rate : ∃ (row : Nat) (node : RawNode), raw.nodes[row]? = some node ∧ node.Covers slot ∧
    (∀ earlier < row, ∀ other, raw.nodes[earlier]? = some other → ¬ other.Covers slot) ∧
    node.outputs[slot - node.special]? = some entry.rate
  lag : entry.lag = .zero

/-- A definition that was rebased from a definition in a file. -/
structure Rebases (raw : RawDefinition) (definition : Definition) : Prop where
  /-- The controls are the entries for the slots that are covered, in the order of the slots. -/
  controls : List.Forall₂ raw.KeptFor raw.keptSlots definition.controls
  /-- A control node is moved so that its output stands for the same slot as before, and it
  describes its output as the entry that is kept for this slot, at the rate of the output itself. -/
  nodes : ∀ (row : Nat) (node : RawNode), raw.nodes[row]? = some node → isControlOp node.op = true →
    ∃ (place : Nat) (descriptors : List Descriptor), definition.nodes[row]? = some ⟨row, place⟩ ∧
      (definition.graph.node row).controls = some descriptors ∧
      descriptors.length = node.outputs.size ∧
      ∀ (k : Nat) (rate : Rate), node.outputs[k]? = some rate →
        place + k < definition.controls.length ∧
        raw.keptSlots[place + k]? = some (node.special + k) ∧
          ∃ entry, definition.controls[place + k]? = some entry ∧
            raw.KeptFor (node.special + k) entry ∧
            descriptors[k]? = some { entry with rate := rate }

variable {raw : RawDefinition}

/-- A definition gives a slot a rate exactly when some control node covers the slot. -/
theorem rateAt?_isSome_iff {slot : Nat} :
    (raw.rateAt? slot).isSome = true ↔ ∃ node ∈ raw.nodes.toList, node.Covers slot := by
  -- The first node that gives a rate is one that covers the slot.
  rw [rateAt?, List.findSome?_isSome_iff]
  simp only [RawNode.rateAt?_isSome_iff]

/-- The slots that are kept are those that have a rate. -/
theorem keptSlots_eq (raw : RawDefinition) :
    raw.keptSlots = (List.range raw.defaults.size).filter fun slot =>
      (raw.rateAt? slot).isSome := by
  -- Both ask for a node that covers the slot.
  refine List.filter_congr fun slot _ => ?_
  rw [Bool.eq_iff_iff, decide_eq_true_iff, rateAt?_isSome_iff]

/-- A slot that is covered stands behind the covered ones in front of it. -/
theorem keptSlots_get {slot : Nat} {rate : Rate} (inside : slot < raw.defaults.size)
    (owned : raw.rateAt? slot = some rate) : raw.keptSlots[raw.rebase slot]? = some slot := by
  -- The slot is kept, behind as many as have a rate in front of it.
  rw [keptSlots_eq, rebase]
  exact getElem?_filter_range _ inside (by rw [owned]; rfl)

/-- The rate of a slot is that of the first control node in the table that covers it. -/
theorem exists_first {slot : Nat} {rate : Rate} (owned : raw.rateAt? slot = some rate) :
    ∃ (row : Nat) (node : RawNode), raw.nodes[row]? = some node ∧ node.Covers slot ∧
      (∀ earlier < row, ∀ other, raw.nodes[earlier]? = some other → ¬ other.Covers slot) ∧
      node.outputs[slot - node.special]? = some rate := by
  obtain ⟨before, node, after, table, given, free⟩ := List.findSome?_eq_some_iff.mp owned
  have covers : node.Covers slot := RawNode.rateAt?_isSome_iff.mp (by rw [given]; rfl)
  refine ⟨before.length, node, ?_, covers, ?_, ?_⟩
  · rw [← Array.getElem?_toList, table, List.getElem?_append_right (Nat.le_refl _), Nat.sub_self]
    rfl
  · -- The nodes in front of it do not give the slot a rate.
    intro earlier before_row other there covered
    rw [← Array.getElem?_toList, table, List.getElem?_append_left before_row] at there
    have given := RawNode.rateAt?_isSome_iff.mpr covered
    rw [free other (List.mem_of_getElem? there)] at given
    cases given
  · rwa [RawNode.rateAt?, if_pos ⟨covers.1, covers.2.1⟩] at given

/-- The parameter at a slot that has a rate is the entry that is kept for it. -/
theorem keptFor_parameter {slot : Nat} {rate : Rate} (inside : slot < raw.defaults.size)
    (owned : raw.rateAt? slot = some rate) : raw.KeptFor slot (raw.parameter slot rate) where
  -- The rate is that of the first node that covers the slot.
  default := by simp [parameter, inside]
  name := rfl
  rate := exists_first owned
  lag := rfl

/-- The descriptors of a control node are taken from the controls from its place on, each at the
rate of its output. -/
theorem resolve_descriptors (fits : raw.Fits) {row : Nat} {node : RawNode}
    (here : raw.nodes[row]? = some node) (control : isControlOp node.op = true) :
    (raw.resolve.graph.node row).controls = some (node.outputs.toList.zipIdx.map fun output =>
      { raw.resolve.controls[raw.rebase node.special + output.2]?.getD .blank with
        rate := output.1 }) := by
  -- The count in front of the special index is known, and the row is resolved with it.
  have bound : node.special ≤ raw.defaults.size := by
    have all := (fits.nodes row node here).parameters control
    omega
  simp only [resolve, Graph.node, List.map_map, List.getElem?_toArray, List.getElem?_map,
    List.getElem?_zipIdx, Array.getElem?_toList, here, Option.map_some, Option.getD_some,
    Function.comp_apply, RawNode.resolve, control, if_true, raw.ownedBefore_get bound, Nat.zero_add]

/-- An output of a control node stands for a slot that has a rate. -/
theorem exists_rate_of_output (fits : raw.Fits) {row : Nat} {node : RawNode}
    (here : raw.nodes[row]? = some node)
    (control : isControlOp node.op = true) {k : Nat} (output : k < node.outputs.size) :
    node.special + k < raw.defaults.size ∧ ∃ rate, raw.rateAt? (node.special + k) = some rate := by
  -- The node covers the slot itself.
  have inside := (fits.nodes row node here).parameters control
  have listed : node ∈ raw.nodes.toList := Array.mem_toList_iff.mpr (Array.mem_of_getElem? here)
  refine ⟨by omega, Option.isSome_iff_exists.mp
    (rateAt?_isSome_iff.mpr ⟨node, listed, control, ?_, ?_⟩)⟩
  · omega
  · omega

/-- What a definition in a file stands for is rebased from it. -/
theorem resolve_rebases (fits : raw.Fits) : raw.Rebases raw.resolve where
  controls := by
    show List.Forall₂ raw.KeptFor raw.keptSlots (raw.controls raw.owners)
    -- Something is made of a slot exactly when it has a rate.
    have made := forall₂_filterMap (fun slot => (raw.rateAt? slot).map (raw.parameter slot))
      (List.range raw.defaults.size)
    simp only [Option.isSome_map] at made
    rw [controls_eq, keptSlots_eq]
    refine made.imp ?_
    rintro slot entry ⟨member, given⟩
    obtain ⟨rate, owned, rfl⟩ := Option.map_eq_some_iff.mp given
    exact keptFor_parameter (List.mem_range.mp member) owned
  nodes := by
    intro row node here control
    have placed : raw.resolve.nodes[row]? = some ⟨row, raw.rebase node.special⟩ := by
      rw [resolve_nodes_get fits, here, Option.map_some, placeOf, if_pos control]
    refine ⟨raw.rebase node.special, _, placed, resolve_descriptors fits here control, by simp, ?_⟩
    intro k rate output
    have bound : k < node.outputs.size := (Array.getElem?_eq_some_iff.mp output).1
    obtain ⟨inside, kept, owned⟩ := exists_rate_of_output fits here control bound
    -- The slots of a node are all covered, by this node at least, and so they stay side by side.
    have moved : raw.rebase node.special + k = raw.rebase (node.special + k) :=
      (raw.rebase_add (Array.mem_of_getElem? here) control (Nat.le_of_lt bound)).symm
    have entry : raw.resolve.controls[raw.rebase (node.special + k)]? =
        some (raw.parameter (node.special + k) kept) :=
      raw.controls_get inside owned
    rw [moved]
    refine ⟨(List.getElem?_eq_some_iff.mp entry).1, keptSlots_get inside owned, _, entry,
      keptFor_parameter inside owned, ?_⟩
    rw [List.getElem?_map, List.getElem?_zipIdx, Array.getElem?_toList, output]
    simp only [Option.map_some, Nat.zero_add, moved, entry, Option.getD_some]

end RawDefinition

/-- Rebasing keeps every control output on its own parameter, in every file that a tolerant reader
accepts, however the control nodes of its definitions overlap. The controls of a definition are the
entries for the slots that some control node covers, in the order of the slots. For every output of
a control node, the place that the node is moved to leads to the entry for the slot that the output
had in the file, and the node describes the output by this entry at its own rate. -/
theorem decode_rebases {data : Bytes} {definitions : List Definition}
    (read : decode false data = .ok definitions) :
    ∃ raws, Grammatical raws ∧ fileBytes raws = data ∧
      List.Forall₂ RawDefinition.Rebases raws definitions := by
  -- Each definition of the file is rebased on its own.
  obtain ⟨raws, grammatical, written, rfl⟩ := exists_grammatical read
  refine ⟨raws, grammatical, written, ?_⟩
  rw [List.forall₂_map_right_iff, List.forall₂_same]
  exact fun raw member => RawDefinition.resolve_rebases (grammatical.fits raw member)

/-- The tangled definition is rebased: two of its parameters are dropped, and of its two overlapping
control nodes the second one moves along with its first. -/
theorem tangled_rebases :
    tangled.keptSlots = [1, 2, 3] ∧ decode false (fileBytes [tangled]) = .ok [tangled.resolve] ∧
      ∃ raws, Grammatical raws ∧ fileBytes raws = fileBytes [tangled] ∧
        List.Forall₂ RawDefinition.Rebases raws [tangled.resolve] :=
  -- The tangled definition is in the grammar.
  ⟨by decide, tangled_grammatical.decode_tolerant,
    decode_rebases tangled_grammatical.decode_tolerant⟩

end Patchbay.Stream
