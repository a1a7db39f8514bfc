import Patchbay.Proofs.Control.Registration
import Patchbay.Proofs.Description.Outcome
import Patchbay.Proofs.Stream.RoundTrip

/-! Named parameters: what refers to a parameter in a description still refers to it, by its name
and with its default, in the definition that is read back from the written file. -/

namespace Patchbay

namespace Definition

variable {definition decoded : Definition}

/-- A row that was written is read back in its place. -/
theorem Agrees.row (agrees : definition.Agrees decoded) {row : Nat} {placed : Placed}
    (here : definition.nodes[row]? = some placed) :
    ∃ kept, decoded.nodes[row]? = some kept ∧ definition.RowAgrees decoded placed kept := by
  -- The two node tables agree place by place.
  obtain ⟨inside, rfl⟩ := List.getElem?_eq_some_iff.mp here
  have bound : row < decoded.nodes.length := agrees.nodes.length_eq ▸ inside
  exact ⟨decoded.nodes[row], List.getElem?_eq_getElem bound, agrees.nodes.get inside bound⟩

/-- An input from an output of a row is read back as an input from the same output of the row in the
same place. -/
theorem Agrees.output (agrees : definition.Agrees decoded) {placed kept : Placed}
    (same : definition.RowAgrees decoded placed kept) {place producer : Nat} {slot : Int}
    (input : (definition.graph.node placed.node).inputs[place]? = some (.output producer slot)) :
    ∃ feeder twin, feeder ∈ definition.nodes ∧ feeder.node = producer ∧ twin ∈ decoded.nodes ∧
      definition.RowAgrees decoded feeder twin ∧
      (decoded.graph.node kept.node).inputs[place]? = some (.output twin.node slot) := by
  -- Both inputs are written as the same row and the same output.
  have wires := congrArg (fun wires => wires[place]?) same.inputs
  simp only [List.getElem?_map, input, Option.map_some] at wires
  obtain ⟨wire, written⟩ := same.wired _ (List.mem_of_getElem? input)
  rw [written, Option.map_eq_some_iff] at wires
  obtain ⟨source, there, read⟩ := wires
  simp only [wire?, Option.map_eq_some_iff] at written
  obtain ⟨row, found, rfl⟩ := written
  obtain ⟨feeder, listed, rfl⟩ := rows_sound found
  cases source with
  | constant index => simp [wire?] at read
  | output other number =>
    simp only [wire?, Option.map_eq_some_iff, Source.output.injEq] at read
    obtain ⟨_, known, rfl, rfl⟩ := read
    obtain ⟨twin, kept, rfl⟩ := rows_sound known
    obtain ⟨alike, again, agree⟩ := agrees.row listed
    rw [kept, Option.some.injEq] at again
    subst again
    exact ⟨feeder, twin, List.mem_of_getElem? listed, rfl, List.mem_of_getElem? kept, agree, there⟩

end Definition

/-- A definition that was written by itself is read back in both modes. -/
theorem exists_decoded {strict : Bool} {definition : Definition} {data : Bytes}
    (covered : definition.Covered) (written : Stream.encode strict [definition] = .ok data) :
    ∃ decoded, (∀ mode, Stream.decode mode data = .ok [decoded]) ∧ definition.Agrees decoded := by
  -- What was written is read back, and that it is written again as it was is left out here.
  obtain ⟨decoded, read, agrees, -⟩ := exists_rewritten covered written
  exact ⟨decoded, read, agrees⟩

namespace Description

variable {description : Description} {built : Built}

/-- The number of signals that an input stands for: all outputs of a node that is named as a whole,
one otherwise. -/
def width (description : Description) (text : Bytes) : Nat :=
  match Reference.read text with
  | .ok (.node id none) =>
    ((description.nodes.find? fun entry => entry.id == id).map fun entry =>
      entry.outputCount.toNat).getD 0
  | _ => 1

/-- The number of signals that inputs stand for together. -/
def signals (description : Description) : List Bytes → Nat
  | [] => 0
  | text :: rest => description.width text + description.signals rest

/-- An input is taken apart into as many signals as it stands for. -/
theorem length_leaves (ids : (description.nodes.map NodeEntry.id).Nodup) {constants : Array Single}
    {text : Bytes} {element : Element} (means : description.Means constants text element) :
    (element.leaves description.unwired).length = description.width text := by
  obtain ⟨reference, read, denotes⟩ := means
  rw [width, read]
  cases denotes with
  | constant given => rfl
  | control declared listed => rfl
  | output declared inside => rfl
  | @node entry n declared =>
    have listed : entry ∈ description.nodes :=
      List.mem_of_getElem? (getElem?_parts_unit.mp declared).2
    -- The search by name finds this entry, as it is the only one with the name.
    have found : (description.nodes.find? fun other => other.id == entry.id) = some entry := by
      have known : (description.nodes.find? fun other => other.id == entry.id).isSome = true :=
        List.find?_isSome.mpr ⟨entry, listed, by simp⟩
      obtain ⟨other, here⟩ := Option.isSome_iff_exists.mp known
      have same : other.id = entry.id := by simpa using List.find?_some here
      rw [here, List.inj_on_of_nodup_map ids (List.mem_of_find?_eq_some here) listed same]
    have count : (description.unwired.node n).outputs.size = entry.outputCount.toNat := by
      rw [unwired_node declared]
      simp [Part.node, NodeEntry.node, Node.uniform]
    simp only [found, Element.leaves, count, Option.map_some, Option.getD_some]
    split
    · rename_i one
      rw [one]
      rfl
    · simp

/-- An input that names a parameter stands at the place behind the signals of the inputs in front of
it. -/
theorem control_input (ids : (description.nodes.map NodeEntry.id).Nodup) {constants : Array Single}
    {texts : List Bytes} {elements : List Element}
    (meanings : List.Forall₂ (description.Means constants) texts elements) {place : Nat}
    {text name : Bytes}
    (here : texts[place]? = some text) (read : Reference.read text = .ok (.control name)) :
    ∃ n group slot parameter, description.parts[n]? = some (.group group) ∧
      group.members[slot]? = some parameter ∧
      parameter.name = name ∧
      (Element.inputs description.unwired elements)[description.signals (texts.take place)]? =
        some (.output n (slot : Nat)) := by
  induction meanings generalizing place with
  | nil => simp at here
  | @cons first element rest others means _ ih =>
    have whole : Element.inputs description.unwired (element :: others) =
        (element.leaves description.unwired).map Element.source ++
          Element.inputs description.unwired others := rfl
    cases place with
    | zero =>
      -- The name means a parameter of some group, and this is a single signal.
      rw [List.getElem?_cons_zero, Option.some.injEq] at here
      obtain ⟨reference, again, denotes⟩ := means
      rw [here, read, Except.ok.injEq] at again
      subst again
      cases denotes with
      | @control group parameter n slot declared listed =>
        exact ⟨n, group, slot, parameter, declared, listed, rfl, by rw [whole]; rfl⟩
    | succ place =>
      rw [List.getElem?_cons_succ] at here
      obtain ⟨n, group, slot, parameter, declared, listed, named, there⟩ := ih here
      refine ⟨n, group, slot, parameter, declared, listed, named, ?_⟩
      rw [whole, List.take_succ_cons, signals, ← length_leaves ids means, ← there,
        List.getElem?_append_right (by simp), List.length_map, Nat.add_sub_cancel_left]

/-- A parameter is found by its name as the channel of its place. -/
theorem lookup_channelTable (sound : description.Sound) {n slot : Nat} {group : GroupEntry}
    {parameter : ParameterEntry} (declared : description.parts[n]? = some (.group group))
    (listed : group.members[slot]? = some parameter) :
    (channelTable description.controls).lookup parameter.name = some (.channel n slot) := by
  have here := getElem?_parts_group.mp declared
  refine lookup_eq_of_unique
    (mem_channelTable_iff.mpr ⟨n, group, slot, parameter, here, listed, rfl, rfl⟩) ?_
  -- Whatever is listed under the name is the same parameter of the same group.
  rintro _ other
  obtain ⟨m, holder, place, twin, there, also, same, rfl⟩ := mem_channelTable_iff.mp other
  obtain rfl := sound.group_unique (List.mem_of_getElem? there) (List.mem_of_getElem? here)
    (List.mem_of_getElem? also) (List.mem_of_getElem? listed) same
  obtain rfl := sound.slot_unique (List.mem_of_getElem? here) also listed same
  have inside := (List.getElem?_eq_some_iff.mp declared).1
  have number : n = m := (List.getElem?_inj inside sound.parts_nodup).mp
    (declared.trans (getElem?_parts_group.mpr there).symm)
  rw [number]

/-- A parameter of a group as it is read back: it has lost its lag. -/
def restored (group : GroupEntry) (parameter : ParameterEntry) : Descriptor :=
  ⟨parameter.name, group.commonRate, parameter.default, .zero⟩

section Restored

variable {rule : Dedup} {name : Bytes} {definition decoded : Definition}

/-- A row that covers a named parameter is that of a group, which lists the parameter, and covers it
at the rate of the group. -/
theorem covers_named (describes : description.Describes built)
    (compiled : compile built.graph built.roots rule name = .ok definition) {placed : Placed}
    (listed : placed ∈ definition.nodes) {slot : Nat} (covers : definition.Covers placed slot)
    {descriptor : Descriptor} (here : definition.controls[slot]? = some descriptor)
    (named : descriptor.name ≠ []) {rate : Rate}
    (output : (definition.graph.node placed.node).outputs[((slot : Int) - placed.special).toNat]? =
      some rate) :
    ∃ group parameter, description.parts[placed.node]? = some (.group group) ∧
      parameter ∈ group.members ∧
      descriptor = group.descriptor parameter ∧ rate = group.commonRate := by
  have arranged := compile_arranged compiled
  obtain ⟨control, low, high⟩ := covers
  obtain ⟨part, declared⟩ :=
    describes.exists_part (arranged.mem_nodes_iff.mp (List.mem_map_of_mem listed)).1
  obtain ⟨elements, -, same⟩ := describes.node declared
  rw [arranged.graph_eq] at control high output
  -- The parameter is one of those that the node brings into the control table.
  have owned :=
    arranged.getElem?_controls listed control (k := ((slot : Int) - placed.special).toNat)
      (by omega)
  have number : (placed.special + (((slot : Int) - placed.special).toNat : Nat)).toNat = slot := by
    omega
  rw [number, here, same] at owned
  have member : descriptor ∈ part.node.parameters := List.mem_of_getElem? owned.symm
  cases part with
  | unit entry => exact absurd (NodeEntry.unnamed member) named
  | group group =>
    rw [Part.node, GroupEntry.parameters_node] at member
    obtain ⟨parameter, known, rfl⟩ := List.mem_map.mp member
    refine ⟨group, parameter, declared, known, rfl, ?_⟩
    rw [same] at output
    simp only [Part.node, GroupEntry.node_eq, Node.holding] at output
    exact (Array.mem_replicate.mp (Array.mem_of_getElem? output)).2

/-- Every named parameter that is read back is one of a group whose node the roots reach. -/
theorem named_restored (describes : description.Describes built)
    (compiled : compile built.graph built.roots rule name = .ok definition)
    (agrees : definition.Agrees decoded)
    {slot : Nat} {descriptor : Descriptor} (here : decoded.controls[slot]? = some descriptor)
    (named : descriptor.name ≠ []) :
    ∃ n group parameter, description.parts[n]? = some (.group group) ∧
      built.graph.Reaches built.roots n ∧
      parameter ∈ group.members ∧ descriptor = restored group parameter := by
  have inside : slot < definition.controls.length :=
    agrees.controlCount ▸ (List.getElem?_eq_some_iff.mp here).1
  obtain ⟨rate, first, there⟩ := agrees.controls slot _ (List.getElem?_eq_getElem inside)
  rw [here, Option.some.injEq] at there
  subst there
  -- Its rate was taken from the first row that covers it.
  obtain ⟨placed, listed, found⟩ := List.exists_of_findSome?_eq_some first
  split at found
  · rename_i covers
    obtain ⟨group, parameter, declared, member, same, common⟩ :=
      covers_named describes compiled listed covers (List.getElem?_eq_getElem inside) named found
    refine ⟨placed.node, group, parameter, declared, ?_, member, ?_⟩
    · exact (compile_arranged compiled).mem_nodes_iff.mp (List.mem_map_of_mem listed)
    · rw [same, common]
      rfl
  · cases found

/-- The parameters of a group are read back from the special index of its row on. -/
theorem group_restored (describes : description.Describes built) (sound : description.Sound)
    (compiled : compile built.graph built.roots rule name = .ok definition)
    (agrees : definition.Agrees decoded)
    {placed : Placed} (listed : placed ∈ definition.nodes) {group : GroupEntry}
    (declared : description.parts[placed.node]? = some (.group group)) {k : Nat}
    {parameter : ParameterEntry} (member : group.members[k]? = some parameter) :
    isControlOp (definition.graph.node placed.node).op = true ∧
      k < (definition.graph.node placed.node).outputs.size ∧
      decoded.controls[(placed.special + k).toNat]? = some (restored group parameter) := by
  have arranged := compile_arranged compiled
  have known := List.mem_of_getElem? (getElem?_parts_group.mp declared)
  obtain ⟨elements, -, same⟩ := describes.node declared
  have inside := (List.getElem?_eq_some_iff.mp member).1
  rw [arranged.graph_eq]
  have control : isControlOp (built.graph.node placed.node).op = true := by
    rw [same]
    simpa [Part.node, GroupEntry.node_eq, Node.holding] using
      GroupEntry.isControlOp_operator (sound.valid.groups group known)
  have few : k < (built.graph.node placed.node).outputs.size := by
    rw [same]
    simpa [Part.node, GroupEntry.node_eq, Node.holding] using inside
  refine ⟨control, few, ?_⟩
  have written : definition.controls[(placed.special + k).toNat]? =
      some (group.descriptor parameter) := by
    rw [arranged.getElem?_controls listed control few, same]
    change group.node.parameters[k]? = _
    rw [GroupEntry.parameters_node, List.getElem?_map, member, Option.map_some]
  -- What is read back there has the same name, which belongs to this parameter only.
  have named : parameter.name ≠ [] :=
    ((sound.valid.groups group known).each parameter (List.mem_of_getElem? member)).present
  obtain ⟨rate, -, read⟩ := agrees.controls _ _ written
  obtain ⟨m, other, twin, there, -, also, alike⟩ :=
    named_restored describes compiled agrees read named
  have name : parameter.name = twin.name := congrArg Descriptor.name alike
  obtain ⟨rfl, rfl⟩ :=
    sound.parameter_unique known (List.mem_of_getElem? (getElem?_parts_group.mp there))
      (List.mem_of_getElem? member) also name
  rw [read, alike]

end Restored

end Description

/-- The built description offers a parameter when the roots reach the node that holds it. -/
def Built.Offers (built : Built) (parameter : ParameterEntry) : Prop :=
  ∃ n slot, built.channels.lookup parameter.name = some (.channel n slot) ∧
    built.graph.Reaches built.roots n

namespace Description

variable {description : Description} {built : Built} {rule : Dedup} {name : Bytes}
  {definition decoded : Definition}

/-- The description offers the parameters of the groups whose nodes the roots reach. -/
theorem offers_iff (describes : description.Describes built) (sound : description.Sound) {n : Nat}
    {group : GroupEntry}
    (declared : description.parts[n]? = some (.group group)) {parameter : ParameterEntry}
    (member : parameter ∈ group.members) :
    built.Offers parameter ↔ built.graph.Reaches built.roots n := by
  obtain ⟨slot, listed⟩ := List.mem_iff_getElem?.mp member
  -- Under the name of the parameter there is the channel of its group and nothing else.
  have found := lookup_channelTable sound declared listed
  unfold Built.Offers
  rw [describes.channels, found]
  constructor
  · rintro ⟨m, place, same, reaches⟩
    cases same
    exact reaches
  · exact fun reaches => ⟨n, slot, rfl, reaches⟩

/-- An input that names a parameter is read back as the output for this parameter. -/
theorem control_restored (describes : description.Describes built) (sound : description.Sound)
    (compiled : compile built.graph built.roots rule name = .ok definition)
    (writable : definition.Writable false)
    (agrees : definition.Agrees decoded) {placed kept : Placed} {entry : NodeEntry}
    (declared : description.parts[placed.node]? = some (.unit entry))
    (rows : definition.RowAgrees decoded placed kept) {place : Nat} {text p : Bytes}
    (here : entry.inputs[place]? = some text) (read : Reference.read text = .ok (.control p)) :
    ∃ group ∈ description.controls, ∃ parameter ∈ group.members, parameter.name = p ∧
      ∃ control ∈ decoded.nodes, ∃ start k : Nat,
        (decoded.graph.node kept.node).inputs[description.signals (entry.inputs.take place)]? =
          some (.output control.node k) ∧
        isControlOp (decoded.graph.node control.node).op = true ∧
        k < (decoded.graph.node control.node).outputs.size ∧ control.special = start ∧
        ∃ descriptor, decoded.controls[start + k]? = some descriptor ∧ descriptor.name = p ∧
          descriptor.default = parameter.default := by
  obtain ⟨elements, meanings, node⟩ := describes.node declared
  obtain ⟨m, group, k, parameter, holder, known, label, source⟩ :=
    control_input sound.ids meanings here read
  have wired :
      (definition.graph.node placed.node).inputs[description.signals (entry.inputs.take place)]? =
        some (.output m k) := by
    rw [(compile_arranged compiled).graph_eq, node]
    exact source
  -- The producer is read back in its row, with its operator, its outputs and its special index.
  obtain ⟨feeder, twin, listed, rfl, member, twins, input⟩ := agrees.output rows wired
  obtain ⟨op, inside, found⟩ := group_restored describes sound compiled agrees listed holder known
  have low := (writable.rows feeder listed).special.1
  have sum : (feeder.special + k).toNat = feeder.special.toNat + k := by omega
  refine ⟨group, List.mem_of_getElem? (getElem?_parts_group.mp holder), parameter,
    List.mem_of_getElem? known, label, twin, member, feeder.special.toNat, k, input, twins.op ▸ op,
    twins.outputs ▸ inside, ?_, _, sum ▸ found, label, rfl⟩
  rw [twins.special, Int.toNat_of_nonneg low]

/-- A parameter that is offered is found by its name, with its default and at the rate of its
group. -/
theorem control?_restored (describes : description.Describes built) (sound : description.Sound)
    (compiled : compile built.graph built.roots rule name = .ok definition)
    (agrees : definition.Agrees decoded)
    {group : GroupEntry} (known : group ∈ description.controls) {parameter : ParameterEntry}
    (member : parameter ∈ group.members) (offers : built.Offers parameter) :
    ∃ slot, decoded.control? parameter.name = some (restored group parameter, slot) := by
  obtain ⟨n, here⟩ := List.mem_iff_getElem?.mp known
  have declared := getElem?_parts_group.mpr here
  have reaches := (offers_iff describes sound declared member).mp offers
  obtain ⟨k, listed⟩ := List.mem_iff_getElem?.mp member
  have named : parameter.name ≠ [] :=
    ((sound.valid.groups group known).each parameter member).present
  -- The row of the group holds the parameter, so something is found under its name.
  obtain ⟨placed, row, rfl⟩ :=
    List.mem_map.mp ((compile_arranged compiled).mem_nodes_iff.mpr reaches)
  obtain ⟨-, -, read⟩ := group_restored describes sound compiled agrees row declared listed
  obtain ⟨⟨descriptor, slot⟩, found⟩ := Definition.control?_complete read named
  -- What is found has the name, and the name belongs to this parameter only.
  obtain ⟨there, same⟩ := Definition.control?_sound found
  have given : descriptor.name ≠ [] := same ▸ named
  obtain ⟨m, other, twin, elsewhere, -, also, rfl⟩ :=
    named_restored describes compiled agrees there given
  have alike : twin.name = parameter.name := same
  obtain ⟨rfl, rfl⟩ :=
    sound.parameter_unique (List.mem_of_getElem? (getElem?_parts_group.mp elsewhere)) known also
    member alike
  exact ⟨slot, found⟩

end Description

/-- Named parameters keep their meaning. When a description that builds is compiled and written, the
file is read back as a definition with these properties. An input that names a parameter is, at the
place behind the signals of the inputs in front of it, an output of a control node, and the control
table has the parameter of this name with its default at the place of this output. A name is found
in the control table exactly when it is that of a parameter whose node the roots reach, and then
with the default of the parameter and the rate of its group. -/
theorem parameters_kept (description : Description) (built : Built) (rule : Dedup) (name : Bytes)
    (definition : Definition) (data : Bytes) (success : description.build = .ok built)
    (compiled : compile built.graph built.roots rule name = .ok definition)
    (written : Stream.encode false [definition] = .ok data) :
    ∃ decoded : Definition, (∀ mode, Stream.decode mode data = .ok [decoded]) ∧
      (∀ entry ∈ description.nodes, ∀ n, built.nodes.lookup entry.id = some n →
        built.graph.Reaches built.roots n →
        ∃ (row : Nat) (placed kept : Placed), definition.nodes[row]? = some placed ∧
          placed.node = n ∧
          decoded.nodes[row]? = some kept ∧ (decoded.graph.node kept.node).op = entry.op ∧
          ∀ (place : Nat) (text p : Bytes), entry.inputs[place]? = some text →
            Reference.read text = .ok (.control p) →
            ∃ group ∈ description.controls, ∃ parameter ∈ group.members, parameter.name = p ∧
              ∃ control ∈ decoded.nodes, ∃ start k : Nat,
                (decoded.graph.node kept.node).inputs[description.signals
                  (entry.inputs.take place)]? =
                  some (.output control.node k) ∧
                isControlOp (decoded.graph.node control.node).op = true ∧
                k < (decoded.graph.node control.node).outputs.size ∧ control.special = start ∧
                ∃ descriptor, decoded.controls[start + k]? = some descriptor ∧ descriptor.name = p ∧
                  descriptor.default = parameter.default) ∧
      (∀ p : Bytes, p ≠ [] → ((∃ found, decoded.control? p = some found) ↔
        ∃ group ∈ description.controls, ∃ parameter ∈ group.members, parameter.name = p ∧
          built.Offers parameter)) ∧
      ∀ group ∈ description.controls, ∀ parameter ∈ group.members, built.Offers parameter →
        ∃ descriptor slot, decoded.control? parameter.name = some (descriptor, slot) ∧
          descriptor.default = parameter.default ∧ descriptor.rate = group.commonRate := by
  obtain ⟨sound, describes⟩ := Description.of_build success
  have arranged := compile_arranged compiled
  have writable := (Stream.encode_eq_ok_iff.mp written).2.1 definition List.mem_cons_self
  obtain ⟨decoded, read, agrees⟩ := exists_decoded (Definition.covered_of_compile compiled) written
  refine ⟨decoded, read, fun entry listed n found reaches => ?_, fun p named => ⟨?_, ?_⟩, ?_⟩
  · -- The node stands in a row, which is read back in its place.
    rw [describes.ids] at found
    obtain ⟨other, declared, same⟩ := Description.mem_nodeTable_iff.mp (mem_of_lookup found)
    have unit : other ∈ description.nodes :=
      List.mem_of_getElem? (Description.getElem?_parts_unit.mp declared).2
    obtain rfl := List.inj_on_of_nodup_map sound.ids unit listed same
    obtain ⟨elements, -, node⟩ := describes.node declared
    obtain ⟨placed, member, rfl⟩ := List.mem_map.mp (arranged.mem_nodes_iff.mpr reaches)
    obtain ⟨row, here⟩ := List.mem_iff_getElem?.mp member
    obtain ⟨kept, there, rows⟩ := agrees.row here
    refine ⟨row, placed, kept, here, rfl, there, ?_, fun place text p input control => ?_⟩
    · rw [rows.op, arranged.graph_eq, node]
      rfl
    · exact Description.control_restored describes sound compiled writable agrees declared rows
        input control
  · -- What is found under a name is a parameter of a group that the roots reach.
    rintro ⟨⟨descriptor, slot⟩, found⟩
    obtain ⟨here, rfl⟩ := Definition.control?_sound found
    obtain ⟨n, group, parameter, declared, reaches, member, rfl⟩ :=
      Description.named_restored describes compiled agrees here named
    exact ⟨group, List.mem_of_getElem? (Description.getElem?_parts_group.mp declared), parameter,
      member, rfl, (Description.offers_iff describes sound declared member).mpr reaches⟩
  · rintro ⟨group, known, parameter, member, rfl, offers⟩
    obtain ⟨slot, found⟩ :=
      Description.control?_restored describes sound compiled agrees known member offers
    exact ⟨_, found⟩
  · intro group known parameter member offers
    obtain ⟨slot, found⟩ :=
      Description.control?_restored describes sound compiled agrees known member offers
    exact ⟨_, slot, found, rfl, rfl⟩

/-- The oscillator and the envelope keep their parameters. The last input of the output is the
level, the trigger is found with its default, and a name that is not declared is not found. -/
theorem voice_parameters_kept :
    ∃ (data : Bytes) (decoded : Definition), Stream.encode false [voiceDefinition] = .ok data ∧
      (∀ mode, Stream.decode mode data = .ok [decoded]) ∧
      (∃ kept ∈ decoded.nodes, ∃ control ∈ decoded.nodes, ∃ start k : Nat,
        (decoded.graph.node kept.node).op = utf8 "Out" ∧
        (decoded.graph.node kept.node).inputs[3]? = some (.output control.node k) ∧
        control.special = start ∧
        ∃ descriptor, decoded.controls[start + k]? = some descriptor ∧
          descriptor.name = utf8 "amp" ∧
          descriptor.default = ⟨0x3f000000⟩) ∧
      (∃ descriptor slot, decoded.control? (utf8 "gate") = some (descriptor, slot) ∧
        descriptor.default = ⟨0x3f800000⟩ ∧ descriptor.rate = .control) ∧
      ¬∃ found, decoded.control? (utf8 "pan") = some found := by
  have written : Stream.encode false [voiceDefinition] =
      .ok (Stream.fileBytes [voiceDefinition.raw]) := by
    refine Stream.encode_eq_ok_iff.mpr ⟨by decide, fun definition member => ?_, rfl⟩
    rw [List.mem_singleton.mp member]
    exact voice_writable
  have reaches : ∀ n ∈ [0, 3, 1, 4, 2], voiceBuilt.graph.Reaches voiceBuilt.roots n :=
    fun n member =>
    mem_reached_iff.mp (voice_reached ▸ member)
  obtain ⟨decoded, read, inputs, found, values⟩ :=
    parameters_kept voice voiceBuilt .value
      (utf8 "voice") voiceDefinition _ voice_built voice_compiled written
  refine ⟨_, decoded, written, read, ?_, ?_, ?_⟩
  · obtain ⟨row, placed, kept, -, -, listed, op, each⟩ :=
      inputs (voice.nodes[0]) (by decide) 2 (by decide)
        (reaches 2 (by decide))
    -- Three single signals stand in front of the level.
    obtain ⟨group, known, parameter, member, label, control, among, start, k, input, -, -, special,
      descriptor, here, named, default⟩ :=
        each 3 (utf8 "@amp") (utf8 "amp") (by decide) (by decide +kernel)
    have front : voice.signals ((voice.nodes[0]).inputs.take 3) = 3 := by decide +kernel
    have only : ∀ group ∈ voice.controls, ∀ parameter ∈ group.members, parameter.name = utf8 "amp" →
        parameter.default = ⟨0x3f000000⟩ := by decide
    rw [front] at input
    exact ⟨kept, List.mem_of_getElem? listed, control, among, start, k, op, input, special,
      descriptor, here, named, default.trans (only group known parameter member label)⟩
  · have offers : voiceBuilt.Offers ⟨utf8 "gate", ⟨0x3f800000⟩, .zero⟩ :=
      ⟨1, 0, by decide, reaches 1 (by decide)⟩
    exact values (voice.controls[1]) (by decide) ⟨utf8 "gate", ⟨0x3f800000⟩, .zero⟩
      (by decide) offers
  · rw [found (utf8 "pan") (by decide)]
    rintro ⟨group, known, parameter, member, label, -⟩
    have none : ∀ group ∈ voice.controls, ∀ parameter ∈ group.members, parameter.name ≠
        utf8 "pan" := by decide
    exact none group known parameter member label

end Patchbay
