import Mathlib.Data.List.Forall2
import Mathlib.Data.List.Induction
import Mathlib.Data.List.Nodup
import Patchbay.Description.Build
import Patchbay.Proofs.Description.Check

/-! Declared parts: groups and nodes are added to a graph exactly when their names are distinct.
Each then has its number and is found under its names, and a reference stands for what is declared
under the name in it. -/

namespace Patchbay

/-- A result that is given exactly under a condition, and what then holds of it. -/
inductive Yields {ε α : Type} (Condition : Prop) (Holds : α → Prop) : Except ε α → Prop where
  | ok {value : α} (met : Condition) (holds : Holds value) : Yields Condition Holds (.ok value)
  | error {error : ε} (unmet : ¬Condition) : Yields Condition Holds (.error error)

namespace Yields

variable {ε α β : Type} {Condition : Prop} {Holds : α → Prop} {result : Except ε α}

/-- The result is given exactly under the condition. -/
theorem exists_ok_iff (yields : Yields Condition Holds result) :
    (∃ value, result = .ok value) ↔ Condition := by
  -- Either way of yielding tells whether the condition holds.
  cases yields with
  | ok met holds => simp [met]
  | error unmet => simp [unmet]

/-- What holds of a result that is given. -/
theorem holds {value : α} (yields : Yields Condition Holds (.ok value : Except ε α)) :
    Condition ∧ Holds value := by
  -- A result that is given is no failure.
  cases yields with
  | ok met holds => exact ⟨met, holds⟩

/-- The same result under another form of its condition, with less said of it. -/
theorem imp {Other : Prop} {Then : α → Prop} (yields : Yields Condition Holds result)
    (same : Condition ↔ Other)
    (keeps : ∀ value, Holds value → Then value) : Yields Other Then result := by
  -- Each way of yielding carries over.
  cases yields with
  | ok met holds => exact .ok (same.mp met) (keeps _ holds)
  | error unmet => exact .error fun other => unmet (same.mpr other)

/-- A result that is used by a further step. -/
theorem bind {Next : Prop} {Then : β → Prop} {step : α → Except ε β}
    (yields : Yields Condition Holds result) (needs : Next → Condition)
    (further : ∀ value, Condition → Holds value → Yields Next Then (step value)) :
    Yields Next Then (result >>= step) := by
  -- A failure stops there, and the condition of the further step needs that of the first.
  cases yields with
  | ok met holds => exact further _ met holds
  | error unmet => exact .error fun next => unmet (needs next)

end Yields

namespace Built

/-- Entries that are added one after another: what each step needs and keeps is needed and kept by
all. -/
theorem addAll_yields {α : Type} (add : Built → α → Except BuildError Built) (all : List α)
    (Good : List α → Prop) (Holds : List α → Built → Prop)
    (step : ∀ done entry later, all = done ++ entry :: later → ∀ built, Good done →
      Holds done built →
      Yields (Good (done ++ [entry])) (Holds (done ++ [entry])) (add built entry))
    (closed : ∀ done later, Good (done ++ later) → Good done) {done later : List α}
    (split : all = done ++ later) {built : Built} (good : Good done) (holds : Holds done built) :
    Yields (Good all) (Holds all) (addAll add built later) := by
  -- The entries that are done grow while those to come get fewer.
  induction later generalizing done built with
  | nil =>
    rw [split, List.append_nil]
    exact .ok good holds
  | cons entry later ih =>
    have next := step done entry later split built good holds
    have regrouped : all = (done ++ [entry]) ++ later := by
      rw [split, List.append_assoc, List.singleton_append]
    unfold addAll
    generalize add built entry = result at next
    cases next with
    | ok met kept => exact ih regrouped met kept
    | error unmet => exact .error fun whole => unmet (closed _ later (regrouped ▸ whole))

end Built

/-- A part of a description: a group of parameters or a unit node. -/
inductive Part where
  | group (entry : GroupEntry)
  | unit (entry : NodeEntry)
  deriving DecidableEq

namespace Part

/-- The node of a part, without inputs. -/
def node : Part → Node
  | .group entry => entry.node
  | .unit entry => entry.node

/-- The texts of the inputs of a part. -/
def inputs : Part → List Bytes
  | .group _ => []
  | .unit entry => entry.inputs

end Part

/-- The parameters of a group. -/
def GroupEntry.members (entry : GroupEntry) : List ParameterEntry := entry.parameters.getD []

/-- The names under which the parameters of a group are found. -/
def GroupEntry.channels (entry : GroupEntry) (n : Nat) : List (Bytes × Element) :=
  entry.node.descriptors.zipIdx.map fun item => (item.1.name, .channel n item.2)

/-- The names under which the parameters of groups are found. -/
def channelTable (groups : List GroupEntry) : List (Bytes × Element) :=
  groups.zipIdx.flatMap fun item => item.1.channels item.2

/-- The names under which unit nodes are found, numbered from a start. -/
def nodeTable (start : Nat) (entries : List NodeEntry) : List (Bytes × Nat) :=
  (entries.zipIdx start).map fun item => (item.1.id, item.2)

/-- The rate of the parameters of a group. -/
def GroupEntry.commonRate (entry : GroupEntry) : Rate :=
  if entry.op = utf8 "TrigControl" then .control
  else if entry.rate = [] then .control
  else (Rate.parse? entry.rate).getD .scalar

/-- The operator of the node of a group. -/
def GroupEntry.operator (entry : GroupEntry) : Bytes :=
  if entry.op = [] then (if entry.commonRate = .audio then "AudioControl" else "Control")
  else entry.op

/-- The node of a group holds its parameters at their common rate. -/
theorem GroupEntry.node_eq (entry : GroupEntry) :
    entry.node = .holding entry.operator entry.commonRate
      (entry.members.map fun parameter =>
        ⟨parameter.name, .scalar, parameter.default, parameter.lag⟩) := by
  -- A group without an operator takes the control node for its rate, and a trigger group ignores
  -- its rate.
  have trigger : utf8 "TrigControl" ≠ [] := by decide
  unfold node operator commonRate
  by_cases unnamed : entry.op = []
  · simp [unnamed, trigger.symm, Node.control, members]
  · by_cases same : entry.op = utf8 "TrigControl"
    · simp [same, trigger, Node.trigger, members]
    · simp [unnamed, same, members]

/-- The descriptor of a parameter of a group. -/
def GroupEntry.descriptor (entry : GroupEntry) (parameter : ParameterEntry) : Descriptor :=
  ⟨parameter.name, entry.commonRate, parameter.default, parameter.lag⟩

/-- The node of a group has the descriptors of its parameters. -/
theorem GroupEntry.descriptors_node (entry : GroupEntry) :
    entry.node.descriptors = entry.members.map entry.descriptor := by
  -- A group is a node that holds its members.
  simp [node_eq, Node.holding, Node.descriptors, descriptor]

/-- The names of a group, in its own order. -/
theorem GroupEntry.map_fst_channels (entry : GroupEntry) (n : Nat) :
    (entry.channels n).map Prod.fst = entry.members.map ParameterEntry.name := by
  -- The channels number the members without moving them.
  conv_rhs => rw [← List.zipIdx_map_fst 0 entry.members, List.map_map]
  rw [channels, List.map_map, descriptors_node, List.zipIdx_map, List.map_map]
  rfl

/-- A parameter of a group is found as the channel of its place. -/
theorem GroupEntry.mem_channels_iff {entry : GroupEntry} {n : Nat} {name : Bytes}
    {element : Element} :
    (name, element) ∈ entry.channels n ↔
      ∃ (slot : Nat) (parameter : ParameterEntry), entry.members[slot]? = some parameter ∧
        parameter.name = name ∧
        .channel n slot = element := by
  -- A channel is a member with its number.
  simp only [channels, descriptors_node, List.zipIdx_map, List.map_map, List.mem_map,
    List.mem_zipIdx_iff_getElem?, Prod.exists, Function.comp_apply, Prod.map, Prod.mk.injEq, id_eq,
    descriptor]
  rw [exists_comm]

/-- The parameters of groups are found as the channels of their places. -/
theorem mem_channelTable_iff {groups : List GroupEntry} {name : Bytes} {element : Element} :
    (name, element) ∈ channelTable groups ↔
      ∃ (n : Nat) (group : GroupEntry) (slot : Nat) (parameter : ParameterEntry),
        groups[n]? = some group ∧ group.members[slot]? = some parameter ∧
          parameter.name = name ∧ .channel n slot = element := by
  -- The table goes through the groups with their numbers, and each gives its channels.
  simp only [channelTable, List.mem_flatMap, List.mem_zipIdx_iff_getElem?, Prod.exists,
    GroupEntry.mem_channels_iff]
  constructor
  · rintro ⟨group, n, here, slot, parameter, found⟩
    exact ⟨n, group, slot, parameter, here, found⟩
  · rintro ⟨n, group, slot, parameter, here, found⟩
    exact ⟨group, n, here, slot, parameter, found⟩

/-- The names of the last group come behind those of the others. -/
theorem channelTable_concat (groups : List GroupEntry) (entry : GroupEntry) :
    channelTable (groups ++ [entry]) = channelTable groups ++ entry.channels groups.length := by
  -- Numbering a longer list numbers the list and then the last.
  simp [channelTable, List.zipIdx_append]

/-- The name of the last node comes behind those of the others. -/
theorem nodeTable_concat (start : Nat) (entries : List NodeEntry) (entry : NodeEntry) :
    nodeTable start (entries ++ [entry]) = nodeTable start entries ++
      [(entry.id, start + entries.length)] := by
  -- Numbering a longer list numbers the list and then the last.
  simp [nodeTable, List.zipIdx_append]

/-- The names of the parameters of all groups. -/
theorem map_fst_channelTable (groups : List GroupEntry) :
    (channelTable groups).map Prod.fst =
      groups.flatMap fun entry => entry.members.map ParameterEntry.name := by
  -- The table grows by the last group.
  induction groups using List.reverseRecOn with
  | nil => rfl
  | append_singleton groups entry ih =>
    rw [channelTable_concat, List.map_append, ih, GroupEntry.map_fst_channels]
    simp

/-- The names of all nodes. -/
theorem map_fst_nodeTable (start : Nat) (entries : List NodeEntry) :
    (nodeTable start entries).map Prod.fst = entries.map NodeEntry.id := by
  -- The table grows by the last node.
  induction entries using List.reverseRecOn with
  | nil => rfl
  | append_singleton entries entry ih => rw [nodeTable_concat, List.map_append, ih]; simp

/-- A value that is found in a table is listed there. -/
theorem mem_of_lookup {κ α : Type} [BEq κ] [LawfulBEq κ] {table : List (κ × α)} {key : κ}
    {value : α} (found : table.lookup key = some value) : (key, value) ∈ table := by
  -- What is found splits the table where it stands.
  obtain ⟨front, back, split, -⟩ := List.lookup_eq_some_iff.mp found
  simp [split]

/-- A value that is listed in a table is found there, when it is the only one with its key. -/
theorem lookup_eq_of_unique {κ α : Type} [BEq κ] [LawfulBEq κ] {table : List (κ × α)} {key : κ}
    {value : α}
    (listed : (key, value) ∈ table) (unique : ∀ other, (key, other) ∈ table → other = value) :
    table.lookup key = some value := by
  -- Something is found under the key, and it is the only value there is.
  have known : (table.lookup key).isSome = true := List.lookup_isSome_iff.mpr ⟨_, listed, by simp⟩
  obtain ⟨other, found⟩ := Option.isSome_iff_exists.mp known
  rw [found, unique other (mem_of_lookup found)]

/-- A name has an entry in a table exactly when it is one of its keys. -/
theorem isSome_lookup_iff {α : Type} {name : Bytes} {table : List (Bytes × α)} :
    (table.lookup name).isSome = true ↔ name ∈ table.map Prod.fst := by
  -- Looking up compares with the keys and nothing else.
  rw [List.lookup_isSome_iff, List.mem_map]
  simp only [beq_iff_eq]
  exact exists_congr fun item => and_congr_right fun _ => eq_comm

namespace Built

/-- A table of names without repeats takes one more exactly when that is not there yet. -/
theorem nodup_concat_iff {α : Type} {table : List (Bytes × α)}
    (distinct : (table.map Prod.fst).Nodup)
    (item : Bytes × α) : ((table ++ [item]).map Prod.fst).Nodup ↔
      (table.lookup item.1).isSome = false := by
  -- The name of the new item is looked for among the names before it.
  rw [← Bool.not_eq_true, isSome_lookup_iff, List.map_append, List.map_singleton,
    (List.perm_append_singleton _ _).nodup_iff, List.nodup_cons, and_iff_left distinct]

/-- Parameters are given their names exactly when all names stay distinct. -/
theorem addChannels_yields (built : Built) (n : Nat) (items : List (Descriptor × Nat))
    (distinct : (built.channels.map Prod.fst).Nodup) :
    Yields
      ((built.channels ++ items.map fun item => (item.1.name, Element.channel n item.2)).map
        Prod.fst).Nodup
      (fun given => given = { built with
        channels := built.channels ++ items.map fun item => (item.1.name, .channel n item.2) })
      (built.addChannels n items) := by
  induction items generalizing built with
  | nil => exact .ok (by simpa using distinct) (by simp)
  | cons item rest ih =>
    have taken := nodup_concat_iff distinct (item.1.name, Element.channel n item.2)
    simp only [addChannels]
    split
    · -- A name that is there already is a repeat, whatever follows.
      rename_i known
      refine .error fun whole => ?_
      rw [List.map_cons, ← List.singleton_append, ← List.append_assoc, List.map_append] at whole
      exact absurd (taken.mp (List.nodup_append.mp whole).1) (by simp [known])
    · rename_i fresh
      have next :=
        ih { built with channels := built.channels ++ [(item.1.name, .channel n item.2)] }
          (taken.mpr (eq_false_of_ne_true fresh))
      simpa [List.append_assoc] using next

/-- What there is after groups have been added. -/
def ofGroups (name : Bytes) (groups : List GroupEntry) : Built :=
  ⟨name, ⟨(groups.map GroupEntry.node).toArray, #[]⟩, [], channelTable groups, []⟩

/-- Groups are added exactly when their parameters have distinct names. -/
theorem addGroups_yields (name : Bytes) (groups : List GroupEntry) :
    Yields ((channelTable groups).map Prod.fst).Nodup (fun built => built = ofGroups name groups)
      (addAll addGroup (start name) groups) := by
  refine addAll_yields addGroup groups (fun groups => ((channelTable groups).map Prod.fst).Nodup)
    (fun groups built => built = ofGroups name groups) ?_ ?_
      (List.nil_append groups).symm List.nodup_nil rfl
  · -- One more group brings one more node and the names of its parameters.
    rintro done entry - - built distinct rfl
    have named := addChannels_yields
      { ofGroups name done with graph := ((ofGroups name done).graph.addNode entry.node).1 }
        done.length
      entry.node.descriptors.zipIdx distinct
    rw [channelTable_concat]
    simpa [addGroup, ofGroups, Graph.addNode, channelTable_concat, GroupEntry.channels] using named
  · intro done later whole
    rw [channelTable, List.zipIdx_append, List.flatMap_append, List.map_append] at whole
    exact (List.nodup_append.mp whole).1

/-- What there is after nodes have been added behind groups. -/
def ofEntries (name : Bytes) (groups : List GroupEntry) (entries : List NodeEntry) : Built :=
  ⟨name, ⟨(groups.map GroupEntry.node ++ entries.map NodeEntry.node).toArray, #[]⟩,
    nodeTable groups.length entries, channelTable groups, []⟩

/-- Nodes are added exactly when they have distinct names. -/
theorem addNodes_yields (name : Bytes) (groups : List GroupEntry) (entries : List NodeEntry) :
    Yields (entries.map NodeEntry.id).Nodup (fun built => built = ofEntries name groups entries)
      (addAll addNode (ofGroups name groups) entries) := by
  refine addAll_yields addNode entries (fun entries => (entries.map NodeEntry.id).Nodup)
    (fun entries built => built = ofEntries name groups entries) ?_ ?_
      (List.nil_append entries).symm
    List.nodup_nil (by simp [ofGroups, ofEntries, nodeTable])
  · -- One more node takes the next number, unless its name is there already.
    rintro done entry - - built distinct rfl
    rw [← map_fst_nodeTable groups.length, nodeTable_concat,
      nodup_concat_iff (by rwa [map_fst_nodeTable])]
    simp only [addNode]
    split
    · rename_i known
      exact .error fun fresh => Bool.false_ne_true (fresh.symm.trans known)
    · rename_i fresh
      refine .ok (eq_false_of_ne_true fresh) ?_
      simp [ofEntries, Graph.addNode, nodeTable_concat]
  · intro done later whole
    rw [List.map_append] at whole
    exact (List.nodup_append.mp whole).1

end Built

namespace Description

/-- The parts of a description, in the order of their numbers. -/
def parts (description : Description) : List Part :=
  description.controls.map .group ++ description.nodes.map .unit

/-- The graph of the parts before any wire is laid. -/
def unwired (description : Description) : Graph := ⟨(description.parts.map Part.node).toArray, #[]⟩

/-- What a reference stands for, given the constants of the graph. -/
inductive Denotes (description : Description) (constants : Array Single) :
    Reference → Element → Prop where
  | constant {value : Single} {index : Nat} (given : constants[index]? = some value) :
    Denotes description constants (.constant value) (.constant index)
  | control {group : GroupEntry} {parameter : ParameterEntry} {n slot : Nat}
    (declared : description.parts[n]? = some (.group group))
      (listed : group.members[slot]? = some parameter) :
    Denotes description constants (.control parameter.name) (.channel n slot)
  | node {entry : NodeEntry} {n : Nat} (declared : description.parts[n]? = some (.unit entry)) :
    Denotes description constants (.node entry.id none) (.node n)
  | output {entry : NodeEntry} {n slot : Nat}
      (declared : description.parts[n]? = some (.unit entry))
    (inside : slot < entry.outputCount.toNat) :
    Denotes description constants (.node entry.id (some slot)) (.output n slot)

/-- What the text of an input or of a root stands for. -/
def Means (description : Description) (constants : Array Single) (text : Bytes)
    (element : Element) : Prop :=
  ∃ reference, Reference.read text = .ok reference ∧ description.Denotes constants reference element

/-- A reference to something that the description declares. -/
def Declares (description : Description) : Reference → Prop
  | .constant _ => True
  | .control name => ∃ group ∈ description.controls, ∃ parameter ∈ group.members, parameter.name =
      name
  | .node id slot => ∃ entry ∈ description.nodes, entry.id = id ∧
      ∀ k ∈ slot, k < entry.outputCount.toNat

/-- A text that refers to something that the description declares. -/
def Resolves (description : Description) (text : Bytes) : Prop :=
  ∃ reference, Reference.read text = .ok reference ∧ description.Declares reference

/-- A text that names a root: it refers to something other than a constant. -/
def Roots (description : Description) (text : Bytes) : Prop :=
  ∃ reference, Reference.read text = .ok reference ∧ description.Declares reference ∧
    ∀ value, reference ≠ .constant value

/-- A description that can be built. -/
structure Sound (description : Description) : Prop where
  valid : description.Valid
  controls : (description.controls.flatMap fun group => group.members.map ParameterEntry.name).Nodup
  ids : (description.nodes.map NodeEntry.id).Nodup
  inputs : ∀ entry ∈ description.nodes, ∀ text ∈ entry.inputs, description.Resolves text
  roots : ∀ text ∈ description.roots.getD [], description.Roots text

section Parts

variable {description : Description}

/-- The groups come first among the parts. -/
theorem getElem?_parts_group {n : Nat} {group : GroupEntry} :
    description.parts[n]? = some (.group group) ↔ description.controls[n]? = some group := by
  -- Behind the groups there are only unit nodes.
  rw [parts, List.getElem?_append]
  split
  · simp
  · rename_i outside
    rw [List.length_map] at outside
    simp [List.getElem?_eq_none (Nat.le_of_not_lt outside)]

/-- The unit nodes follow the groups. -/
theorem getElem?_parts_unit {n : Nat} {entry : NodeEntry} :
    description.parts[n]? = some (.unit entry) ↔
      description.controls.length ≤ n ∧
        description.nodes[n - description.controls.length]? = some entry := by
  -- In front of the unit nodes there are only groups.
  rw [parts, List.getElem?_append, List.length_map]
  split
  · rename_i inside
    simp [Nat.not_le_of_lt inside]
  · rename_i outside
    simp [Nat.le_of_not_lt outside]

/-- A unit node is found under its number. -/
theorem mem_nodeTable_iff {id : Bytes} {n : Nat} :
    (id, n) ∈ nodeTable description.controls.length description.nodes ↔
      ∃ entry, description.parts[n]? = some (.unit entry) ∧ entry.id = id := by
  -- The numbers of the table start behind the groups, as the places of the parts do.
  simp only [nodeTable, List.mem_map, Prod.exists, List.mem_zipIdx_iff_le_and_getElem?_sub,
    Prod.mk.injEq, getElem?_parts_unit]
  constructor
  · rintro ⟨entry, place, here, same, rfl⟩
    exact ⟨entry, here, same⟩
  · rintro ⟨entry, here, same⟩
    exact ⟨entry, n, here, same, rfl⟩

end Parts

end Description

end Patchbay
