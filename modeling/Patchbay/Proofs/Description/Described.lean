import Patchbay.Proofs.Definition.Compile
import Patchbay.Proofs.Description.Build

/-! The nodes of a built graph: each is sound, with valid rates, short names and inputs that
exist. -/

namespace Patchbay

/-- A member of the second of two related lists is related to a member of the first. -/
theorem exists_related {α β : Type} {R : α → β → Prop} {xs : List α} {ys : List β}
    (related : List.Forall₂ R xs ys) {y : β} (member : y ∈ ys) : ∃ x ∈ xs, R x y := by
  -- The member is the first of its list, or it is further behind.
  induction related with
  | nil => cases member
  | cons here _ ih =>
    rcases List.mem_cons.mp member with rfl | later
    · exact ⟨_, List.mem_cons_self, here⟩
    · obtain ⟨x, listed, there⟩ := ih later
      exact ⟨x, List.mem_cons_of_mem _ listed, there⟩

/-- What is read as a rate is valid, and so is what stands in when there is none. -/
theorem Rate.valid_parse (text : Bytes) : ((Rate.parse? text).getD .scalar).valid = true := by
  unfold parse?
  -- Each of the four names gives one of the four rates.
  split
  · rfl
  · split
    · rfl
    · split
      · rfl
      · split <;> rfl

/-- The parameters of a group have a valid rate. -/
theorem GroupEntry.valid_commonRate (entry : GroupEntry) : entry.commonRate.valid = true := by
  -- A rate that was not given is one of two, and any other was read.
  unfold commonRate
  split
  · rfl
  · split
    · rfl
    · exact Rate.valid_parse _

/-- The operator of a group is one of the control operators. -/
theorem GroupEntry.isControlOp_operator {entry : GroupEntry} (valid : entry.Valid) :
    isControlOp entry.operator = true := by
  -- The operator was not given and is one of two, or it was checked.
  unfold operator
  split
  · split <;> decide
  · rename_i named
    exact valid.op.resolve_left named

/-- The node of a group has the parameters that the group lists. -/
theorem GroupEntry.parameters_node (entry : GroupEntry) :
    entry.node.parameters = entry.members.map entry.descriptor := by
  -- There are as many descriptors as outputs, so that the descriptors are taken as they are.
  have paired : entry.node.descriptors.length = entry.node.outputs.size := by
    simp [node_eq, Node.holding, Node.descriptors]
  rw [Node.parameters_eq_descriptors paired, descriptors_node]

/-- A unit node was not made to hold parameters. Even with a control operator, those that it is
given have no name. -/
theorem NodeEntry.unnamed {entry : NodeEntry} {descriptor : Descriptor}
    (member : descriptor ∈ entry.node.parameters) :
    descriptor.name = [] := by
  -- Where the descriptors do not fit the outputs, blank ones are made up.
  have none : entry.node.descriptors = [] := rfl
  simp only [Node.parameters, none] at member
  split at member
  · cases member
  · obtain ⟨item, -, rfl⟩ := List.mem_map.mp member
    simp [Descriptor.blank]

/-- Control operators are short. -/
theorem short_of_isControlOp {op : Bytes} (control : isControlOp op = true) : ShortName op := by
  -- The control operators are few, and each is short.
  have each : ∀ known ∈ controlOps, known.length ≤ nameLimit := by decide
  exact each op (List.contains_iff_mem.mp control)

namespace Description

variable {description : Description} {built : Built}

/-- The parts of a valid description have valid rates, and an operator that the format holds. -/
theorem part_valid (valid : description.Valid) {part : Part} (listed : part ∈ description.parts) :
    part.node.rate.valid = true ∧ (∀ rate ∈ part.node.outputs, rate.valid = true) ∧
    ShortName part.node.op := by
  -- The rates of a part are all made of the same one, and its operator was checked.
  cases part with
  | group entry =>
    have declared : entry ∈ description.controls := by simpa [parts] using listed
    simp only [Part.node, GroupEntry.node_eq, Node.holding, Array.mem_replicate]
    exact ⟨entry.valid_commonRate, fun rate same => same.2 ▸ entry.valid_commonRate,
      short_of_isControlOp (GroupEntry.isControlOp_operator (valid.groups entry declared))⟩
  | unit entry =>
    have declared : entry ∈ description.nodes := by simpa [parts] using listed
    simp only [Part.node, NodeEntry.node, Node.uniform, Array.mem_replicate]
    exact ⟨Rate.valid_parse _, fun rate same => same.2 ▸ Rate.valid_parse _,
      (valid.nodes entry declared).op.2⟩

/-- The parameters of the parts of a valid description have short names. -/
theorem part_short (valid : description.Valid) {part : Part} (listed : part ∈ description.parts) :
    ∀ descriptor ∈ part.node.parameters, ShortName descriptor.name := by
  -- The names in a group were checked, and a unit node has none.
  intro descriptor member
  cases part with
  | group entry =>
    have declared : entry ∈ description.controls := by simpa [parts] using listed
    rw [Part.node, GroupEntry.parameters_node] at member
    obtain ⟨parameter, known, rfl⟩ := List.mem_map.mp member
    exact ((valid.groups entry declared).each parameter known).short
  | unit entry => simp [ShortName, NodeEntry.unnamed member]

namespace Describes

/-- There is a node for each part. -/
theorem size (describes : description.Describes built) :
    built.graph.nodes.size = description.parts.length := by
  -- The two lists go together one by one.
  rw [← Array.length_toList, describes.nodes.length_eq]

/-- A number of the graph is that of a part. -/
theorem exists_part (describes : description.Describes built) {n : Nat}
    (inside : n < built.graph.nodes.size) :
    ∃ part, description.parts[n]? = some part :=
  -- There are as many parts as nodes.
  ⟨_, List.getElem?_eq_getElem (describes.size ▸ inside)⟩

/-- The node of a part has the inputs that its texts mean. -/
theorem node (describes : description.Describes built) {n : Nat} {part : Part}
    (declared : description.parts[n]? = some part) :
    ∃ elements, List.Forall₂ (description.Means built.graph.constants) part.inputs elements ∧
      built.graph.node n =
        { part.node with inputs := Element.inputs description.unwired elements } := by
  -- The node and the part at one place go together.
  obtain ⟨inside, rfl⟩ := List.getElem?_eq_some_iff.mp declared
  have bound : n < built.graph.nodes.toList.length := describes.nodes.length_eq ▸ inside
  obtain ⟨elements, meanings, same⟩ := describes.nodes.get inside bound
  refine ⟨elements, meanings, ?_⟩
  rw [Graph.node, Array.getElem?_eq_getElem bound, Option.getD_some]
  exact same

/-- The outputs are those that the parts declare. -/
theorem outputs (describes : description.Describes built) (n : Nat) :
    (built.graph.node n).outputs = (description.unwired.node n).outputs := by
  cases declared : description.parts[n]? with
  | some part =>
    obtain ⟨elements, -, same⟩ := describes.node declared
    rw [same, unwired_node declared]
  | none =>
    -- A number without a part stands for the same blank node in both graphs.
    have outside := List.getElem?_eq_none_iff.mp declared
    rw [← describes.size] at outside
    simp [Graph.node, unwired, declared, Array.getElem?_eq_none outside]

end Describes

/-- What a reference denotes has the outputs that it is taken apart into. -/
theorem Denotes.provides {constants : Array Single} {reference : Reference} {element : Element}
    (denotes : description.Denotes constants reference element) :
    ∀ leaf ∈ element.leaves description.unwired, description.unwired.Provides leaf.source := by
  intro leaf member
  cases denotes with
  | constant given =>
    rw [List.mem_singleton.mp member]
    trivial
  | @control group parameter n slot declared listed =>
    rw [List.mem_singleton.mp member]
    have inside := (List.getElem?_eq_some_iff.mp listed).1
    refine ⟨Int.natCast_nonneg slot, ?_⟩
    rw [unwired_node declared]
    simpa [Part.node, GroupEntry.node_eq, Node.holding] using inside
  | @node entry n declared =>
    simp only [Element.leaves] at member
    split at member
    · -- A node with one output stands for this output.
      rename_i one
      rw [List.mem_singleton.mp member]
      exact ⟨Int.le_refl 0, by rw [one]; decide⟩
    · obtain ⟨slot, inside, rfl⟩ := List.mem_map.mp member
      exact ⟨Int.natCast_nonneg slot, Int.ofNat_lt.mpr (List.mem_range.mp inside)⟩
  | @output entry n slot declared inside =>
    rw [List.mem_singleton.mp member]
    refine ⟨Int.natCast_nonneg slot, ?_⟩
    rw [unwired_node declared]
    simp only [Part.node, NodeEntry.node, Node.uniform, Array.size_replicate]
    exact Int.ofNat_lt.mpr inside

namespace Describes

/-- Every node of the graph of a valid description is sound. -/
theorem nodeSound (describes : description.Describes built) (valid : description.Valid) {n : Nat}
    (inside : n < built.graph.nodes.size) : built.graph.NodeSound n := by
  obtain ⟨part, declared⟩ := describes.exists_part inside
  obtain ⟨elements, meanings, same⟩ := describes.node declared
  obtain ⟨rate, outputs, -⟩ := part_valid valid (List.mem_of_getElem? declared)
  refine ⟨same ▸ rate, same ▸ outputs, fun source member => ?_⟩
  -- Each input comes from an element that some text of the part means.
  rw [same, Element.inputs, List.mem_flatMap] at member
  obtain ⟨element, listed, taken⟩ := member
  obtain ⟨leaf, part, rfl⟩ := List.mem_map.mp taken
  obtain ⟨text, -, reference, -, denotes⟩ := exists_related meanings listed
  have provides := denotes.provides leaf part
  cases whole : leaf.source with
  | constant index => trivial
  | output producer slot =>
    rw [whole] at provides
    exact ⟨provides.1, describes.outputs producer ▸ provides.2⟩

/-- Every node of the graph of a valid description has an operator and parameters with short
names. -/
theorem short (describes : description.Describes built) (valid : description.Valid) {n : Nat}
    (inside : n < built.graph.nodes.size) :
    ShortName (built.graph.node n).op ∧
      ∀ descriptor ∈ (built.graph.node n).parameters, ShortName descriptor.name := by
  -- A node has the operator and the parameters of its part.
  obtain ⟨part, declared⟩ := describes.exists_part inside
  obtain ⟨elements, -, same⟩ := describes.node declared
  have listed := List.mem_of_getElem? declared
  rw [same]
  exact ⟨(part_valid valid listed).2.2, part_short valid listed⟩

/-- Inputs only come from nodes of the graph. -/
theorem linked (describes : description.Describes built) (valid : description.Valid) :
    built.graph.Linked := by
  -- An input is sound, so that it comes from an output that is there.
  intro node listed producer feeds
  obtain ⟨n, inside, same⟩ := Array.mem_iff_getElem.mp listed
  have here : built.graph.node n = node := by
    rw [Graph.node, Array.getElem?_eq_getElem inside, same, Option.getD_some]
  rw [← here] at feeds
  obtain ⟨slot, member⟩ := Graph.feeds_iff.mp feeds
  exact Graph.lt_size_of_provides ((describes.nodeSound valid inside).inputs _ member)

/-- Roots only name nodes of the graph. -/
theorem rooted (describes : description.Describes built) {n : Nat}
    (named : n ∈ built.roots.filterMap Element.node?) :
    n < built.graph.nodes.size := by
  obtain ⟨root, listed, names⟩ := List.mem_filterMap.mp named
  obtain ⟨text, -, reference, -, denotes⟩ := exists_related describes.roots listed
  rw [describes.size]
  -- Whatever is denoted under a number is declared under it, and a constant names no node.
  cases denotes with
  | constant given => cases names
  | control declared _ =>
    cases names
    exact (List.getElem?_eq_some_iff.mp declared).1
  | node declared =>
    cases names
    exact (List.getElem?_eq_some_iff.mp declared).1
  | output declared _ =>
    cases names
    exact (List.getElem?_eq_some_iff.mp declared).1

end Describes

namespace Sound

/-- A name belongs to the parameters of one group only. -/
theorem group_unique (sound : description.Sound) {one two : GroupEntry}
    (first : one ∈ description.controls)
    (second : two ∈ description.controls) {a b : ParameterEntry} (here : a ∈ one.members)
    (there : b ∈ two.members) (same : a.name = b.name) : one = two := by
  -- Different groups would share a name, and the names of all groups are listed without repeats.
  by_contra different
  obtain ⟨-, apart⟩ := List.nodup_flatMap.mp sound.controls
  have symmetric : Std.Symm (Function.onFun List.Disjoint fun group : GroupEntry =>
      group.members.map ParameterEntry.name) := ⟨fun _ _ disjoint _ a b => disjoint b a⟩
  refine apart.forall first second different (List.mem_map_of_mem here) ?_
  rw [same]
  exact List.mem_map_of_mem there

/-- A name belongs to one parameter only. -/
theorem parameter_unique (sound : description.Sound) {one two : GroupEntry}
    (first : one ∈ description.controls)
    (second : two ∈ description.controls) {a b : ParameterEntry} (here : a ∈ one.members)
    (there : b ∈ two.members) (same : a.name = b.name) : one = two ∧ a = b := by
  -- The groups are the same, and inside a group no name is there twice.
  obtain rfl := sound.group_unique first second here there same
  exact ⟨rfl, List.inj_on_of_nodup_map
    ((List.nodup_flatMap.mp sound.controls).1 one first) here there same⟩

/-- A name belongs to one parameter of a group only. -/
theorem slot_unique (sound : description.Sound) {group : GroupEntry}
    (declared : group ∈ description.controls)
    {i j : Nat} {a b : ParameterEntry} (here : group.members[i]? = some a)
    (there : group.members[j]? = some b) (same : a.name = b.name) : i = j := by
  -- Inside a group no name is there twice.
  have distinct := (List.nodup_flatMap.mp sound.controls).1 group declared
  have inside : i < (group.members.map ParameterEntry.name).length := by
    rw [List.length_map]
    exact (List.getElem?_eq_some_iff.mp here).1
  refine (List.getElem?_inj inside distinct).mp ?_
  rw [List.getElem?_map, List.getElem?_map, here, there, Option.map_some, Option.map_some, same]

/-- No part is declared twice. -/
theorem parts_nodup (sound : description.Sound) : description.parts.Nodup := by
  -- A group has a parameter, whose name would be declared twice as well.
  have groups : description.controls.Nodup := by
    obtain ⟨-, apart⟩ := List.nodup_flatMap.mp sound.controls
    refine apart.imp_of_mem fun {one two} first _ disjoint same => ?_
    obtain ⟨members, given, some⟩ := (sound.valid.groups one first).parameters
    obtain ⟨parameter, listed⟩ := List.exists_mem_of_ne_nil members some
    have known : parameter.name ∈ one.members.map ParameterEntry.name := by
      rw [GroupEntry.members, given]
      exact List.mem_map_of_mem listed
    exact disjoint known (same ▸ known)
  refine List.nodup_append.mpr ⟨groups.map fun _ _ => Part.group.inj, ?_, ?_⟩
  · exact (List.Nodup.of_map _ sound.ids).map fun _ _ => Part.unit.inj
  · intro part group other unit same
    obtain ⟨entry, -, rfl⟩ := List.mem_map.mp group
    obtain ⟨_, -, rfl⟩ := List.mem_map.mp unit
    cases same

end Sound

end Description

/-- The definition of the oscillator and the envelope. -/
def voiceDefinition : Definition :=
  defined voiceBuilt.graph voiceBuilt.roots .value (utf8 "voice") [0, 3, 1, 4, 2]

/-- The nodes are collected from the output on, each behind what feeds it. -/
theorem voice_reached : reached voiceBuilt.graph voiceBuilt.roots = [0, 3, 1, 4, 2] := by cbv

/-- The graph of the oscillator and the envelope compiles to its definition. -/
theorem voice_compiled :
    compile voiceBuilt.graph voiceBuilt.roots .value (utf8 "voice") = .ok voiceDefinition := by
  -- The nodes are in sequence as they were collected, and a graph that was built is sound.
  have sequenced : sequence voiceBuilt.graph [0, 3, 1, 4, 2] = .ok [0, 3, 1, 4, 2] := by cbv
  have arranged : arrange voiceBuilt.graph voiceBuilt.roots .value (utf8 "voice") =
      .ok voiceDefinition := by
    rw [arrange_eq, voice_reached, sequenced]
    rfl
  obtain ⟨sound, describes⟩ := Description.of_build voice_built
  refine compile_eq_ok_iff.mpr
    ⟨arranged, (arrange_arranged arranged).check_iff.mpr fun n reaches => ?_⟩
  exact describes.nodeSound sound.valid reaches.1

end Patchbay
