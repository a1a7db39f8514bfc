import Patchbay.Proofs.Description.Declared

/-! Built graphs: a description builds exactly when its entries are valid, its names are distinct
and its references lead somewhere. Each of its parts then stands in the graph under its place in the
description. -/

namespace Patchbay

/-- The constant that an element is. -/
def Element.constant? : Element → Option Nat
  | .constant index => some index
  | _ => none

/-- The constants among the inputs of a node, in input order and with repeats. -/
def Node.constants (node : Node) : List Nat := node.inputs.filterMap Source.constant?

/-- Taking elements apart neither adds constants nor loses any. -/
theorem Element.constants_inputs (graph : Graph) (elements : List Element) :
    (Element.inputs graph elements).filterMap Source.constant? =
      elements.filterMap Element.constant? := by
  -- The outputs of a node are no constants, and every other element is its own single signal.
  induction elements with
  | nil => rfl
  | cons element rest ih =>
    have single : ((element.leaves graph).map source).filterMap Source.constant? =
        element.constant?.toList := by
      cases element with
      | node n =>
        simp only [leaves, constant?]
        split <;> simp [source, Source.constant?, List.filterMap_map]
      | output n slot => rfl
      | constant index => rfl
      | channel n slot => rfl
    rw [inputs, List.flatMap_cons, List.filterMap_append, single, ← inputs, ih, List.filterMap_cons]
    cases element.constant? <;> rfl

/-- Only the number of outputs of each node decides how elements are taken apart. -/
theorem Element.inputs_congr {one two : Graph}
    (same : ∀ n, (one.node n).outputs = (two.node n).outputs)
    (elements : List Element) : Element.inputs one elements = Element.inputs two elements := by
  -- An element that stands for a whole node takes as many leaves as that has outputs.
  unfold inputs
  refine List.flatMap_congr fun element _ => ?_
  cases element <;> simp [leaves, same]

/-- The constants among elements are new ones, which follow the earlier constants in order. -/
def Grows (old new : Array Single) (elements : List Element) : Prop :=
  ∃ added : Array Single, new = old ++ added ∧
    elements.filterMap Element.constant? = List.range' old.size added.size

namespace Grows

variable {old between new : Array Single} {elements others : List Element}

/-- Constants grow twice as they grow at once. -/
theorem append (one : Grows old between elements) (two : Grows between new others) :
    Grows old new (elements ++ others) := by
  -- The numbers of the second growth go on behind those of the first.
  obtain ⟨first, rfl, numbers⟩ := one
  obtain ⟨second, rfl, rest⟩ := two
  refine ⟨first ++ second, Array.append_assoc, ?_⟩
  rw [List.filterMap_append, numbers, rest, Array.size_append, Array.size_append,
    ← List.range'_append, Nat.one_mul]

/-- The earlier constants stay. -/
theorem getElem? (grows : Grows old new elements) {index : Nat} {value : Single}
    (given : old[index]? = some value) :
    new[index]? = some value := by
  -- The new constants stand behind the old ones.
  obtain ⟨added, rfl, -⟩ := grows
  rw [Array.getElem?_append_left (Array.getElem?_eq_some_iff.mp given).1, given]

end Grows

namespace Description

variable {description : Description} {constants old new : Array Single} {elements : List Element}

/-- What a text means stays its meaning when constants are added. -/
theorem Means.grow (grows : Grows old new elements) {text : Bytes} {element : Element}
    (means : description.Means old text element) : description.Means new text element := by
  obtain ⟨reference, read, denotes⟩ := means
  refine ⟨reference, read, ?_⟩
  -- Only a reference to a constant looks at the constants at all.
  cases denotes with
  | constant given => exact .constant (grows.getElem? given)
  | control declared listed => exact .control declared listed
  | node declared => exact .node declared
  | output declared inside => exact .output declared inside

/-- The node that a part becomes: its inputs are those that its texts mean. -/
def Stands (description : Description) (constants : Array Single) (part : Part) (node : Node) :
    Prop :=
  ∃ elements, List.Forall₂ (description.Means constants) part.inputs elements ∧
    node = { part.node with inputs := Element.inputs description.unwired elements }

/-- The names and the outputs of the nodes are those of the description. -/
structure Names (description : Description) (built : Built) : Prop where
  nodes : built.nodes = nodeTable description.controls.length description.nodes
  channels : built.channels = channelTable description.controls
  outputs : ∀ n, (built.graph.node n).outputs = (description.unwired.node n).outputs

/-- The node of a part before its wires are laid. -/
theorem unwired_node {n : Nat} {part : Part} (declared : description.parts[n]? = some part) :
    description.unwired.node n = part.node := by
  -- The unwired graph lists the nodes of the parts.
  simp [unwired, Graph.node, declared]

/-- A reference leads somewhere exactly when the description declares what it refers to. -/
theorem resolve_yields {built : Built} (names : description.Names built)
    (ids : (description.nodes.map NodeEntry.id).Nodup) (reference : Reference) :
    Yields (description.Declares reference)
      (fun found => found.1.nodes = built.graph.nodes ∧
        Grows built.graph.constants found.1.constants [found.2] ∧
        description.Denotes found.1.constants reference found.2)
      (built.resolve reference) := by
  -- Whatever is no constant leaves the constants as they are.
  have unchanged : ∀ element : Element, element.constant? = none →
      Grows built.graph.constants built.graph.constants [element] :=
    fun element other => ⟨#[], by simp, by simp [other]⟩
  cases reference with
  | constant value =>
    -- A constant is new each time, and takes the next number.
    refine .ok trivial ⟨rfl, ⟨#[value], rfl, rfl⟩, .constant ?_⟩
    simp
  | control name =>
    simp only [Built.resolve, names.channels]
    split
    · rename_i channel found
      obtain ⟨n, group, slot, parameter, declared, listed, rfl, rfl⟩ :=
        mem_channelTable_iff.mp (mem_of_lookup found)
      exact .ok ⟨group, List.mem_of_getElem? declared, parameter, List.mem_of_getElem? listed, rfl⟩
        ⟨rfl, unchanged _ rfl, .control (getElem?_parts_group.mpr declared) listed⟩
    · rename_i missing
      refine .error fun ⟨group, declared, parameter, listed, same⟩ => ?_
      have known : name ∈ (channelTable description.controls).map Prod.fst := by
        rw [map_fst_channelTable]
        exact List.mem_flatMap.mpr ⟨group, declared, List.mem_map.mpr ⟨parameter, listed, same⟩⟩
      rw [← isSome_lookup_iff, missing] at known
      cases known
  | node id slot? =>
    simp only [Built.resolve, names.nodes]
    split
    · rename_i missing
      refine .error fun ⟨entry, declared, same, _⟩ => ?_
      have known : id ∈ (nodeTable description.controls.length description.nodes).map Prod.fst := by
        rw [map_fst_nodeTable]
        exact List.mem_map.mpr ⟨entry, declared, same⟩
      rw [← isSome_lookup_iff, missing] at known
      cases known
    · rename_i n found
      obtain ⟨entry, declared, rfl⟩ := mem_nodeTable_iff.mp (mem_of_lookup found)
      have listed : entry ∈ description.nodes :=
        List.mem_of_getElem? (getElem?_parts_unit.mp declared).2
      have count : (built.graph.node n).outputs.size = entry.outputCount.toNat := by
        rw [names.outputs, unwired_node declared]
        simp [Part.node, NodeEntry.node, Node.uniform]
      cases slot? with
      | none => exact .ok ⟨entry, listed, rfl, by simp⟩ ⟨rfl, unchanged _ rfl, .node declared⟩
      | some slot =>
        simp only [count]
        split
        · rename_i inside
          exact .ok ⟨entry, listed, rfl, by simpa using inside⟩
            ⟨rfl, unchanged _ rfl, .output declared inside⟩
        · -- The name is that of no other node, so nothing has the output that is asked for.
          rename_i outside
          refine .error fun ⟨other, known, same, each⟩ => outside ?_
          rw [← List.inj_on_of_nodup_map ids known listed same]
          exact each slot rfl

/-- The names stay when constants are added. -/
theorem Names.grow {built : Built} (names : description.Names built) {graph : Graph}
    (same : graph.nodes = built.graph.nodes) : description.Names { built with graph := graph } where
  -- Names tell node numbers, and outputs are looked up among the nodes alone.
  nodes := names.nodes
  channels := names.channels
  outputs n := by rw [← names.outputs n, Graph.node, Graph.node, same]

/-- Inputs lead somewhere exactly when each of their texts does. -/
theorem resolveInputs_yields {built : Built} (names : description.Names built)
    (ids : (description.nodes.map NodeEntry.id).Nodup) (id : Bytes) (place : Nat)
    (texts : List Bytes) (done : List Element) :
    Yields (∀ text ∈ texts, description.Resolves text)
      (fun found => ∃ elements, found.2 = done.reverse ++ elements ∧
        found.1.nodes = built.graph.nodes ∧
        Grows built.graph.constants found.1.constants elements ∧
        List.Forall₂ (description.Means found.1.constants) texts elements)
      (Built.resolveInputs id built place texts done) := by
  induction texts generalizing built place done with
  | nil => exact .ok (by simp) ⟨[], by simp, rfl, ⟨#[], by simp⟩, .nil⟩
  | cons text rest ih =>
    simp only [Built.resolveInputs, List.forall_mem_cons]
    split
    · -- A text that is no reference refers to nothing.
      rename_i malformed
      refine .error fun ⟨⟨reference, read, _⟩, _⟩ => ?_
      rw [malformed] at read
      cases read
    · rename_i reference read
      have first := resolve_yields names ids reference
      generalize built.resolve reference = result at first
      cases first with
      | error unmet =>
        refine .error fun ⟨⟨other, same, known⟩, _⟩ => unmet ?_
        rw [read, Except.ok.injEq] at same
        exact same ▸ known
      | @ok found met holds =>
        -- The rest is resolved with the constants that the first text may have added.
        obtain ⟨graph, element⟩ := found
        obtain ⟨same, grows, denotes⟩ := holds
        have others := ih (names.grow same) (place + 1) (element :: done)
        dsimp only
        generalize Built.resolveInputs _ _ _ _ _ = result at others
        cases others with
        | error unmet => exact .error fun ⟨_, known⟩ => unmet known
        | @ok found known holds =>
          obtain ⟨elements, all, nodes, more, meanings⟩ := holds
          refine .ok ⟨⟨reference, read, met⟩, known⟩
            ⟨element :: elements, ?_, nodes.trans same, grows.append more, ?_⟩
          · rw [all, List.reverse_cons, List.append_assoc, List.singleton_append]
          · exact .cons (Means.grow more ⟨reference, read, denotes⟩) meanings

/-- What holds while wires are laid: the first parts are wired and the others are not, and the
constants in use are numbered in order. -/
structure Wired (description : Description) (count : Nat) (built : Built) : Prop where
  name : built.name = description.name
  names : description.Names built
  nodes : ∃ wired, built.graph.nodes.toList = wired ++
    (description.parts.drop count).map Part.node ∧
    List.Forall₂ (description.Stands built.graph.constants) (description.parts.take count) wired ∧
    wired.flatMap Node.constants = List.range built.graph.constants.size
  roots : built.roots = []

/-- A name belongs to one unit node only. -/
theorem unit_unique (ids : (description.nodes.map NodeEntry.id).Nodup) {m n : Nat}
    {one two : NodeEntry}
    (first : description.parts[m]? = some (.unit one))
    (second : description.parts[n]? = some (.unit two)) (same : one.id = two.id) : m = n := by
  obtain ⟨low, here⟩ := getElem?_parts_unit.mp first
  obtain ⟨bound, there⟩ := getElem?_parts_unit.mp second
  have inside : m - description.controls.length < (description.nodes.map NodeEntry.id).length := by
    rw [List.length_map]
    exact (List.getElem?_eq_some_iff.mp here).1
  -- The same name stands at both places of a list without repeats.
  have alike : (description.nodes.map NodeEntry.id)[m - description.controls.length]? =
      (description.nodes.map NodeEntry.id)[n - description.controls.length]? := by
    rw [List.getElem?_map, List.getElem?_map, here, there, Option.map_some, Option.map_some, same]
  have places := (List.getElem?_inj inside ids).mp alike
  omega

/-- A unit node is found by its name. -/
theorem lookup_nodeTable (ids : (description.nodes.map NodeEntry.id).Nodup) {n : Nat}
    {entry : NodeEntry} (declared : description.parts[n]? = some (.unit entry)) :
    (nodeTable description.controls.length description.nodes).lookup entry.id = some n := by
  -- No other unit node has the name.
  refine lookup_eq_of_unique (mem_nodeTable_iff.mpr ⟨entry, declared, rfl⟩) fun m there => ?_
  obtain ⟨other, here, same⟩ := mem_nodeTable_iff.mp there
  exact unit_unique ids here declared same

/-- A part stands for the same node when constants are added. -/
theorem Stands.grow (grows : Grows old new elements) {part : Part} {node : Node}
    (stands : description.Stands old part node) : description.Stands new part node := by
  -- Each text means the same with more constants.
  obtain ⟨elements, meanings, same⟩ := stands
  exact ⟨elements, meanings.imp fun _ _ => Means.grow grows, same⟩

/-- The node of a unit entry is wired exactly when all its inputs lead somewhere. -/
theorem wire_yields (ids : (description.nodes.map NodeEntry.id).Nodup) {n : Nat} {entry : NodeEntry}
    (declared : description.parts[n]? = some (.unit entry)) {built : Built}
    (wired : description.Wired n built) :
    Yields (∀ text ∈ entry.inputs, description.Resolves text) (description.Wired (n + 1))
      (built.wire entry) := by
  have resolved := resolveInputs_yields wired.names ids entry.id 0 entry.inputs []
  unfold Built.wire
  generalize Built.resolveInputs entry.id built 0 entry.inputs [] = result at resolved
  cases resolved with
  | error unmet => exact .error unmet
  | @ok found met holds =>
    obtain ⟨graph, elements⟩ := found
    obtain ⟨_, rfl, same, grows, meanings⟩ := holds
    dsimp only at same grows meanings
    have flat : Element.inputs graph elements = Element.inputs description.unwired elements :=
      Element.inputs_congr (wired.names.grow same).outputs elements
    have number : (built.nodes.lookup entry.id).getD 0 = n := by
      rw [wired.names.nodes, lookup_nodeTable ids declared, Option.getD_some]
    simp only [number]
    refine .ok met
      ⟨wired.name, ⟨wired.names.nodes, wired.names.channels, fun m => ?_⟩, ?_, wired.roots⟩
    · -- Inputs are laid, and the outputs of all nodes stay.
      rw [← wired.names.outputs m, Graph.node, Graph.node, Array.getElem?_modify, same]
      split
      · cases built.graph.nodes[m]? <;> rfl
      · rfl
    · -- The node goes over from those without wires to those with wires.
      obtain ⟨front, split, stand, numbers⟩ := wired.nodes
      obtain ⟨inside, here⟩ := List.getElem?_eq_some_iff.mp declared
      have length : front.length = n := by
        rw [← stand.length_eq, List.length_take_of_le (Nat.le_of_lt inside)]
      rw [List.drop_eq_getElem_cons inside, here, List.map_cons] at split
      refine ⟨front ++ [{ entry.node with inputs := Element.inputs graph elements }], ?_, ?_, ?_⟩
      · rw [Array.toList_modify, same, split, ← length, List.modify_eq_take_drop]
        simp [Part.node]
      · rw [List.take_add_one, declared]
        refine List.rel_append (stand.imp fun _ _ => Stands.grow grows)
          (.cons ⟨elements, meanings, ?_⟩ .nil)
        rw [flat]
        rfl
      · obtain ⟨added, rest, more⟩ := grows
        rw [List.flatMap_append, numbers, List.flatMap_singleton, Node.constants,
          Element.constants_inputs, more, rest, Array.size_append, List.range_eq_range',
          List.range_eq_range', ← List.range'_append]
        simp

/-- Groups take no inputs, so they are wired from the start. -/
theorem wired_start (description : Description) :
    description.Wired description.controls.length
      (.ofEntries description.name description.controls description.nodes) where
  -- The first nodes are those of the groups, with no elements to take inputs from.
  name := rfl
  names :=
    ⟨rfl, rfl, fun n => by simp [Built.ofEntries, unwired, parts, Part.node, Function.comp_def]⟩
  nodes := by
    refine ⟨description.controls.map GroupEntry.node, ?_, ?_, ?_⟩
    · simp [Built.ofEntries, parts, Part.node, Function.comp_def]
    · rw [parts, List.take_left' (List.length_map _), List.forall₂_map_left_iff,
        List.forall₂_map_right_iff, List.forall₂_same]
      intro group _
      exact ⟨[], .nil, by simp [Part.node, GroupEntry.node_eq, Node.holding, Element.inputs]⟩
    · simp [Built.ofEntries, List.flatMap_map, GroupEntry.node_eq, Node.holding, Node.constants]
  roots := rfl

/-- All unit nodes are wired exactly when all their inputs lead somewhere. -/
theorem wireAll_yields (ids : (description.nodes.map NodeEntry.id).Nodup) :
    Yields (∀ entry ∈ description.nodes, ∀ text ∈ entry.inputs, description.Resolves text)
      (description.Wired description.parts.length)
      (Built.addAll Built.wire (.ofEntries description.name description.controls description.nodes)
        description.nodes) := by
  have run := Built.addAll_yields Built.wire description.nodes
    (fun done => ∀ entry ∈ done, ∀ text ∈ entry.inputs, description.Resolves text)
    (fun done => description.Wired (description.controls.length + done.length)) ?_ ?_
    (List.nil_append description.nodes).symm (by simp) description.wired_start
  · simpa [parts] using run
  · -- The next unit node is the first part that is not wired yet.
    intro done entry later split built good wired
    have declared : description.parts[description.controls.length + done.length]? =
        some (.unit entry) := by
      rw [getElem?_parts_unit]
      exact ⟨Nat.le_add_right _ _, by simp [split]⟩
    rw [List.length_append, List.length_singleton]
    exact (wire_yields ids declared wired).imp
      (by simpa [or_imp, forall_and] using fun _ => good) fun _ => id
  · exact fun done later whole entry listed => whole entry (List.mem_append_left _ listed)

/-- What is not a constant denotes the same whatever the constants are. -/
theorem Denotes.of_ne_constant {reference : Reference} {element : Element}
    (denotes : description.Denotes old reference element)
    (other : ∀ value, reference ≠ .constant value)
    (new : Array Single) : description.Denotes new reference element := by
  -- Only a constant is looked up among the constants.
  cases denotes with
  | constant given => exact absurd rfl (other _)
  | control declared listed => exact .control declared listed
  | node declared => exact .node declared
  | output declared inside => exact .output declared inside

/-- A root is added exactly when its text names one. -/
theorem addRoot_yields {built : Built} (names : description.Names built)
    (ids : (description.nodes.map NodeEntry.id).Nodup) (root : Bytes × Nat) :
    Yields (description.Roots root.1)
      (fun next => ∃ element, description.Means built.graph.constants root.1 element ∧
        next = { built with roots := built.roots ++ [element] })
      (built.addRoot root) := by
  unfold Built.addRoot
  split
  · -- A text that is no reference names no root.
    rename_i malformed
    refine .error fun ⟨reference, read, _⟩ => ?_
    rw [malformed] at read
    cases read
  · -- Neither does a constant.
    rename_i value read
    refine .error fun ⟨reference, same, _, other⟩ => other value ?_
    rw [read, Except.ok.injEq] at same
    exact same.symm
  · -- Any other reference is resolved, and this adds no constant.
    rename_i reference other read
    have found := resolve_yields names ids reference
    generalize built.resolve reference = result at found
    cases found with
    | error unmet =>
      refine .error fun ⟨known, same, declared, _⟩ => unmet ?_
      rw [read, Except.ok.injEq] at same
      exact same ▸ declared
    | ok met holds =>
      exact .ok ⟨reference, read, met, other⟩
        ⟨_, ⟨reference, read, holds.2.2.of_ne_constant other _⟩, rfl⟩

/-- The graph that a description stands for. -/
structure Describes (description : Description) (built : Built) : Prop where
  name : built.name = description.name
  ids : built.nodes = nodeTable description.controls.length description.nodes
  channels : built.channels = channelTable description.controls
  nodes :
    List.Forall₂ (description.Stands built.graph.constants) description.parts
      built.graph.nodes.toList
  constants : built.graph.nodes.toList.flatMap Node.constants =
    List.range built.graph.constants.size
  roots : List.Forall₂ (description.Means built.graph.constants)
    (description.roots.getD []) built.roots

/-- All roots are added exactly when their texts name some. -/
theorem addRoots_yields (ids : (description.nodes.map NodeEntry.id).Nodup) {built : Built}
    (wired : description.Wired description.parts.length built) :
    Yields (∀ text ∈ description.roots.getD [], description.Roots text) description.Describes
      (Built.addAll Built.addRoot built (description.roots.getD []).zipIdx) := by
  have run := Built.addAll_yields Built.addRoot (description.roots.getD []).zipIdx
    (fun done => ∀ root ∈ done, description.Roots root.1)
    (fun done next => ∃ elements, next = { built with roots := elements } ∧
      List.Forall₂ (description.Means built.graph.constants) (done.map Prod.fst) elements) ?_ ?_
    (List.nil_append _).symm (by simp) ⟨[], by rw [← wired.roots], .nil⟩
  · -- The places of the roots only serve for complaints.
    have texts : ∀ P : Bytes → Prop, (∀ root ∈ (description.roots.getD []).zipIdx, P root.1) ↔
        ∀ text ∈ description.roots.getD [], P text := by
      intro P
      conv_rhs => rw [← List.zipIdx_map_fst 0 (description.roots.getD [])]
      exact List.forall_mem_map.symm
    refine run.imp (texts _) fun _ => ?_
    rintro ⟨elements, rfl, meanings⟩
    obtain ⟨nodes, split, stand, numbers⟩ := wired.nodes
    rw [List.drop_length, List.map_nil, List.append_nil] at split
    rw [List.take_length] at stand
    rw [List.zipIdx_map_fst] at meanings
    exact ⟨wired.name, wired.names.nodes, wired.names.channels, split ▸ stand, split ▸ numbers,
      meanings⟩
  · rintro done root later - _ good ⟨elements, rfl, meanings⟩
    have names : description.Names { built with roots := elements } :=
      ⟨wired.names.nodes, wired.names.channels, wired.names.outputs⟩
    refine (addRoot_yields names ids root).imp
      (by simpa [or_imp, forall_and] using fun _ => good) fun _ => ?_
    rintro ⟨element, means, rfl⟩
    refine ⟨elements ++ [element], rfl, ?_⟩
    rw [List.map_append]
    exact List.rel_append meanings (.cons means .nil)
  · exact fun done later whole root listed => whole root (List.mem_append_left _ listed)

/-- A description builds exactly when it is sound, and the graph is then the one that it
describes. -/
theorem build_yields (description : Description) :
    Yields description.Sound description.Describes description.build := by
  unfold build
  cases broken : description.check with
  | some violation =>
    refine .error fun sound => ?_
    rw [(check_eq_none_iff description).mpr sound.valid] at broken
    cases broken
  | none =>
    have valid := (check_eq_none_iff description).mp broken
    have channels := map_fst_channelTable description.controls
    -- Each stage fails for one reason, and what it leaves behind is what the next one starts from.
    refine (Built.addGroups_yields description.name description.controls).bind
      (fun sound => by rw [channels]; exact sound.controls) ?_
    rintro _ controls rfl
    refine (Built.addNodes_yields description.name description.controls description.nodes).bind
      (fun sound => sound.ids) ?_
    rintro _ ids rfl
    refine (wireAll_yields ids).bind (fun sound => sound.inputs) ?_
    intro wired inputs holds
    refine (addRoots_yields ids holds).imp ⟨fun roots => ?_, fun sound => sound.roots⟩ fun _ => id
    exact ⟨valid, channels ▸ controls, ids, inputs, roots⟩

/-- What is built is the graph of a sound description. -/
theorem of_build {description : Description} {built : Built}
    (success : description.build = .ok built) :
    description.Sound ∧ description.Describes built := by
  -- Building tells when it succeeds, and what holds then.
  have yields := description.build_yields
  rw [success] at yields
  exact yields.holds

end Description

/-- A description of an oscillator and an envelope, with a group of parameters for each. The output
is declared before what it takes its signals from. -/
def voice : Description where
  name := utf8 "voice"
  controls := [
    ⟨[], [], some [⟨utf8 "freq", ⟨0x43dc0000⟩, .zero⟩, ⟨utf8 "amp", ⟨0x3f000000⟩, .zero⟩]⟩,
    ⟨[], utf8 "TrigControl", some [⟨utf8 "gate", ⟨0x3f800000⟩, .zero⟩]⟩]
  nodes := [
    ⟨utf8 "out", utf8 "Out", utf8 "audio", some 0, 0,
      [utf8 "0", utf8 "osc", utf8 "decay:0", utf8 "@amp"]⟩,
    ⟨utf8 "osc", utf8 "SinOsc", utf8 "audio", none, 0, [utf8 "@freq", utf8 "0"]⟩,
    ⟨utf8 "decay", utf8 "Decay", utf8 "control", none, 0, [utf8 "@gate", utf8 "0.5"]⟩]
  roots := some [utf8 "out"]

/-- The graph of the oscillator and the envelope. -/
def voiceBuilt : Built where
  name := utf8 "voice"
  graph :=
    ⟨#[⟨utf8 "Control", .control, [], #[.control, .control], 0,
        some [⟨utf8 "freq", .control, ⟨0x43dc0000⟩, .zero⟩,
          ⟨utf8 "amp", .control, ⟨0x3f000000⟩, .zero⟩]⟩,
      ⟨utf8 "TrigControl", .control, [], #[.control], 0,
        some [⟨utf8 "gate", .control, ⟨0x3f800000⟩, .zero⟩]⟩,
      ⟨utf8 "Out", .audio, [.constant 0, .output 3 0, .output 4 0, .output 0 1], #[], 0, none⟩,
      ⟨utf8 "SinOsc", .audio, [.output 0 0, .constant 1], #[.audio], 0, none⟩,
      ⟨utf8 "Decay", .control, [.output 1 0, .constant 2], #[.control], 0, none⟩],
    #[.zero, .zero, ⟨0x3f000000⟩]⟩
  nodes := [(utf8 "out", 2), (utf8 "osc", 3), (utf8 "decay", 4)]
  channels := [(utf8 "freq", .channel 0 0), (utf8 "amp", .channel 0 1), (utf8 "gate", .channel 1 0)]
  roots := [.node 2]

/-- The description builds its graph. -/
theorem voice_built : voice.build = .ok voiceBuilt := by decide +kernel

end Patchbay
