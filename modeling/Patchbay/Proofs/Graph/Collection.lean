import Mathlib.Data.List.Induction
import Patchbay.Graph.Collect
import Patchbay.Proofs.Control.Table

/-! Collected tables: the control nodes share out the control table in segments, in the order of
their collection, every other node keeps its own special index, and each constant in use has its key
in the constant table. -/

namespace Patchbay

namespace Node

/-- A node has one parameter for each of its outputs. -/
@[simp] theorem length_parameters (node : Node) : node.parameters.length = node.outputs.size := by
  -- The descriptors are as many as the outputs, or there is one made for each.
  unfold parameters
  dsimp only
  split
  · assumption
  · simp

/-- With one descriptor for each output, the parameters are the descriptors themselves. -/
theorem parameters_eq_descriptors {node : Node}
    (paired : node.descriptors.length = node.outputs.size) :
    node.parameters = node.descriptors := by
  -- The two numbers are compared first.
  simp [parameters, paired]

/-- Otherwise a parameter is the descriptor in its place, or a blank one, with the rate of its
output. -/
theorem getElem?_parameters {node : Node} (unpaired : node.descriptors.length ≠ node.outputs.size)
    {k : Nat} {rate : Rate} (output : node.outputs[k]? = some rate) :
    node.parameters[k]? = some { node.descriptors[k]?.getD .blank with rate := rate } := by
  -- One is made for each output.
  simp [parameters, unpaired, output]

end Node

/-- The parameters that a node brings into the control table. -/
def Graph.owned (graph : Graph) (n : Nat) : List Descriptor :=
  if isControlOp (graph.node n).op then (graph.node n).parameters else []

/-- The number of parameters in front of those of the node at a place. -/
def segmentStart (graph : Graph) (nodes : List Nat) (place : Nat) : Nat :=
  ((nodes.take place).flatMap graph.owned).length

/-- The special index of the node at a place: the start of its segment for a control node. -/
def placedSpecial (graph : Graph) (nodes : List Nat) (place n : Nat) : Int :=
  if isControlOp (graph.node n).op then segmentStart graph nodes place else (graph.node n).special

section Placement

variable {graph : Graph} {nodes : List Nat}

/-- Placing one more node appends its special index and its parameters. -/
theorem placeParameters_concat (graph : Graph) (nodes : List Nat) (n : Nat) :
    (placeParameters graph (nodes ++ [n])).1 = (placeParameters graph nodes).1 ++
        [if isControlOp (graph.node n).op then ((placeParameters graph nodes).2.toList.length : Int)
          else (graph.node n).special] ∧
      (placeParameters graph (nodes ++ [n])).2.toList =
        (placeParameters graph nodes).2.toList ++ graph.owned n := by
  -- The last step of the fold either appends the parameters of a control node or leaves the table
  -- alone.
  simp only [placeParameters, List.foldl_append, List.foldl_cons, List.foldl_nil, Graph.owned]
  split
  · simp [ControlTable.toList_append, ControlTable.append_snd]
  · simp

/-- The control table holds the parameters of all nodes in order. -/
theorem placeParameters_table (graph : Graph) (nodes : List Nat) :
    (placeParameters graph nodes).2.toList = nodes.flatMap graph.owned := by
  -- The table grows by the parameters of the last node.
  induction nodes using List.reverseRecOn with
  | nil => rfl
  | append_singleton nodes n ih => rw [(placeParameters_concat graph nodes n).2, ih]; simp

/-- There is one special index for each node. -/
theorem placeParameters_length (graph : Graph) (nodes : List Nat) :
    (placeParameters graph nodes).1.length = nodes.length := by
  -- The list grows by one.
  induction nodes using List.reverseRecOn with
  | nil => rfl
  | append_singleton nodes n ih => rw [(placeParameters_concat graph nodes n).1]; simp [ih]

/-- Each node has its place in the control table, or its own special index. -/
theorem placeParameters_special (graph : Graph) {place n : Nat} (placed : nodes[place]? = some n) :
    (placeParameters graph nodes).1[place]? = some (placedSpecial graph nodes place n) := by
  -- The special index of a node depends on the nodes before it only.
  induction nodes using List.reverseRecOn with
  | nil => simp at placed
  | append_singleton nodes last ih =>
    rw [(placeParameters_concat graph nodes last).1]
    rcases Nat.lt_or_ge place nodes.length with before | after
    · -- An earlier place keeps the nodes in front of it.
      rw [List.getElem?_append_left before] at placed
      rw [List.getElem?_append_left (by rwa [placeParameters_length]), ih placed]
      simp [placedSpecial, segmentStart, List.take_append_of_le_length (Nat.le_of_lt before)]
    · -- The last place starts where the table of all the others ends.
      have same : place = nodes.length := by
        have short := (List.getElem?_eq_some_iff.mp placed).1
        simp only [List.length_append, List.length_singleton] at short
        omega
      subst same
      simp only [List.getElem?_concat_length, Option.some.injEq] at placed
      subst placed
      simp [← placeParameters_length graph nodes, placedSpecial, segmentStart,
        placeParameters_table]

/-- A later node starts behind the whole segment of an earlier one. -/
theorem segmentStart_add_le (graph : Graph) {i j n : Nat} (before : i < j)
    (placed : nodes[i]? = some n) :
    segmentStart graph nodes i + (graph.owned n).length ≤ segmentStart graph nodes j := by
  -- The nodes in front of the later one begin with those in front of the earlier one, and itself.
  have one : nodes.take (i + 1) = nodes.take i ++ [n] := by simp [List.take_add_one, placed]
  obtain ⟨between, front⟩ : nodes.take (i + 1) <+: nodes.take j := List.take_prefix_take_left before
  rw [segmentStart, segmentStart, ← front, one]
  simp only [List.flatMap_append, List.flatMap_singleton, List.length_append]
  omega

/-- The segments of two places are apart. -/
theorem segments_apart (graph : Graph) {i j a b : Nat} (different : i ≠ j)
    (first : nodes[i]? = some a) (second : nodes[j]? = some b) :
    segmentStart graph nodes i + (graph.owned a).length ≤ segmentStart graph nodes j ∨
      segmentStart graph nodes j + (graph.owned b).length ≤ segmentStart graph nodes i := by
  -- The segment of the earlier place ends before that of the later starts.
  rcases Nat.lt_or_gt_of_ne different with before | after
  · exact .inl (segmentStart_add_le graph before first)
  · exact .inr (segmentStart_add_le graph after second)

/-- A segment holds the parameters of its node. -/
theorem getElem?_segment {place n k : Nat} (placed : nodes[place]? = some n)
    (inside : k < (graph.owned n).length) :
    (nodes.flatMap graph.owned)[segmentStart graph nodes place + k]? = (graph.owned n)[k]? := by
  -- The table falls into what is in front of the segment, the segment itself and what is behind it.
  have parts : nodes.flatMap graph.owned = (nodes.take place).flatMap graph.owned ++
      (graph.owned n ++ (nodes.drop (place + 1)).flatMap graph.owned) := by
    obtain ⟨bound, here⟩ := List.getElem?_eq_some_iff.mp placed
    rw [← List.flatMap_cons, ← List.flatMap_append, ← here, ← List.drop_eq_getElem_cons bound,
      List.take_append_drop]
  rw [parts, segmentStart, List.getElem?_append_right (Nat.le_add_right _ _),
    Nat.add_sub_cancel_left, List.getElem?_append_left inside]

/-- Every place of the control table is in some segment. -/
theorem exists_segment {slot : Nat} (inside : slot < (nodes.flatMap graph.owned).length) :
    ∃ place n, nodes[place]? = some n ∧ segmentStart graph nodes place ≤ slot ∧
      slot < segmentStart graph nodes place + (graph.owned n).length := by
  -- The last node owns the end of the table, and the others share out the rest.
  induction nodes using List.reverseRecOn with
  | nil => simp at inside
  | append_singleton nodes last ih =>
    rcases Nat.lt_or_ge slot (nodes.flatMap graph.owned).length with before | after
    · obtain ⟨place, n, placed, low, high⟩ := ih before
      have bound := (List.getElem?_eq_some_iff.mp placed).1
      refine ⟨place, n, by rw [List.getElem?_append_left bound, placed], ?_⟩
      rw [segmentStart, List.take_append_of_le_length (Nat.le_of_lt bound)]
      exact ⟨low, high⟩
    · -- Behind all segments of the others there is only that of the last node.
      refine ⟨nodes.length, last, by simp, ?_⟩
      simp only [List.flatMap_append, List.length_append] at inside
      simp only [segmentStart, List.take_left]
      exact ⟨after, by simpa using inside⟩

end Placement

/-- Keeps a constant whose key was not seen before, and its key. -/
def keepNew (key : Nat → ConstantKey) (state : Std.HashSet ConstantKey × List Nat)
    (constant : Nat) :
    Std.HashSet ConstantKey × List Nat :=
  if state.1.contains (key constant) then state
  else (state.1.insert (key constant), constant :: state.2)

section Constants

variable {key : Nat → ConstantKey}

/-- The first constants by key are what is kept when all are looked at in order. -/
theorem firstByKey_eq (key : Nat → ConstantKey) (constants : List Nat) :
    firstByKey key constants = (constants.foldl (keepNew key) (∅, [])).2.reverse := rfl

/-- The keys seen in the end are the earlier ones and those of the constants looked at. -/
theorem mem_seen_iff (state : Std.HashSet ConstantKey × List Nat) (constants : List Nat)
    (k : ConstantKey) :
    k ∈ (constants.foldl (keepNew key) state).1 ↔ k ∈ state.1 ∨
    ∃ constant ∈ constants, key constant = k := by
  induction constants generalizing state with
  | nil => simp
  | cons first rest ih =>
    -- Whether or not the constant is kept, its key has been seen afterwards.
    have grown : k ∈ (keepNew key state first).1 ↔ k ∈ state.1 ∨ key first = k := by
      unfold keepNew
      split <;> grind
    rw [List.foldl_cons, ih, grown]
    grind

/-- One more constant is kept behind the others when its key is new. -/
theorem firstByKey_concat (key : Nat → ConstantKey) (constants : List Nat) (last : Nat) :
    firstByKey key (constants ++ [last]) =
      if key last ∈ constants.map key then firstByKey key constants else firstByKey key constants ++
        [last] := by
  -- The last step asks whether the key was seen, which is whether an earlier constant has it.
  have seen : (constants.foldl (keepNew key) (∅, [])).1.contains (key last) = true ↔
      key last ∈ constants.map key := by
    rw [Std.HashSet.contains_iff_mem, mem_seen_iff, List.mem_map]
    simp
  rw [firstByKey_eq, firstByKey_eq, List.foldl_append, List.foldl_cons, List.foldl_nil, keepNew,
    if_congr seen rfl rfl]
  split
  · rfl
  · rw [List.reverse_cons]

/-- The keys of the constants that are kept are all keys, each at the place of its first
occurrence. -/
theorem map_firstByKey (key : Nat → ConstantKey) (constants : List Nat) :
    (firstByKey key constants).map key = (constants.map key).eraseDups := by
  induction constants using List.reverseRecOn with
  | nil => rfl
  | append_singleton constants last ih =>
    rw [firstByKey_concat, List.map_append, List.map_singleton, List.eraseDups_append, ← ih]
    generalize constants.map key = keys
    split
    · -- A key that occurs before is erased.
      rename_i known
      simp [List.removeAll, known]
    · rename_i new
      simp [List.removeAll, new, List.eraseDups_cons]

/-- No more constants are kept than are looked at. -/
theorem length_firstByKey_le (key : Nat → ConstantKey) (constants : List Nat) :
    (firstByKey key constants).length ≤ constants.length := by
  -- Each constant that is looked at adds one or none.
  induction constants using List.reverseRecOn with
  | nil => exact Nat.le_refl _
  | append_singleton constants last ih =>
    rw [firstByKey_concat, List.length_append, List.length_singleton]
    split
    · omega
    · rw [List.length_append, List.length_singleton]
      omega

/-- Only constants that are looked at are kept. -/
theorem mem_of_mem_firstByKey {constants : List Nat} {constant : Nat}
    (member : constant ∈ firstByKey key constants) :
    constant ∈ constants := by
  induction constants using List.reverseRecOn with
  | nil => exact member
  | append_singleton constants last ih =>
    rw [firstByKey_concat] at member
    split at member
    · exact List.mem_append_left _ (ih member)
    · -- What is kept is the last constant or was kept before it.
      rcases List.mem_append.mp member with before | new
      · exact List.mem_append_left _ (ih before)
      · exact List.mem_append_right _ new

/-- Every constant shares its key with one that is kept. -/
theorem firstByKey_covers {constants : List Nat} {constant : Nat} (member : constant ∈ constants) :
    ∃ kept ∈ firstByKey key constants, key kept = key constant := by
  -- Its key is among all keys, and so among those of the constants that are kept.
  have listed : key constant ∈ (firstByKey key constants).map key := by
    rw [map_firstByKey, List.mem_eraseDups]
    exact List.mem_map_of_mem member
  exact List.mem_map.mp listed

end Constants

/-- The key of a constant that a collected node uses is that of a constant in the table. -/
theorem usedConstants_covers {graph : Graph} (rule : Dedup) {nodes : List Nat} {n constant : Nat}
    (collected : n ∈ nodes) (used : Source.constant constant ∈ (graph.node n).inputs) :
    ∃ kept ∈ usedConstants graph rule nodes, rule.key graph kept = rule.key graph constant := by
  -- The constant is among those that are looked at.
  apply firstByKey_covers
  exact List.mem_flatMap.mpr ⟨n, collected, List.mem_filterMap.mpr ⟨_, used, rfl⟩⟩

end Patchbay
