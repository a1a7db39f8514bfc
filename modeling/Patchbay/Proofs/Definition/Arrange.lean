import Mathlib.Data.List.Nodup
import Patchbay.Definition.Compile
import Patchbay.Proofs.Definition.Check
import Patchbay.Proofs.Graph.Collection
import Patchbay.Proofs.Graph.Sequence

/-! Arranged definitions: what collecting and sequencing give before the check, and why an arranged
definition fits its own tables. -/

namespace Patchbay

/-- How an arranged definition comes from its graph. Its rows are the collected nodes, rearranged so
that each comes after its producers. -/
structure Arranged (graph : Graph) (roots : List Element) (rule : Dedup) (name : Bytes)
    (definition : Definition) : Prop where
  graph_eq : definition.graph = graph
  dedup_eq : definition.dedup = rule
  name_eq : definition.name = name
  constants_eq : definition.constants = usedConstants graph rule (reached graph roots)
  controls_eq : definition.controls = (reached graph roots).flatMap graph.owned
  perm : (definition.nodes.map Placed.node).Perm (reached graph roots)
  after : ∀ {row n producer}, (definition.nodes.map Placed.node)[row]? = some n →
    graph.Feeds producer n → graph.Reaches roots producer →
    producer ∈ (definition.nodes.map Placed.node).take row
  special : ∀ placed ∈ definition.nodes, ∃ place, (reached graph roots)[place]? = some placed.node ∧
    placed.special = placedSpecial graph (reached graph roots) place placed.node

section Arrange

variable {graph : Graph} {roots : List Element} {rule : Dedup} {name : Bytes}
  {definition : Definition}

/-- The special index recorded for a collected node is the one of its place. -/
theorem specials_get {nodes : List Nat} {specials : List Int} (distinct : nodes.Nodup)
    {place n : Nat}
    {special : Int} (placed : nodes[place]? = some n) (given : specials[place]? = some special) :
    ((nodes.zip specials).foldl (fun m (n, s) => m.insert n s) (∅ : Std.HashMap Nat Int))[n]? =
      some special := by
  -- Distinct nodes determine their places, and so their special indices.
  refine ((indexes_insert (Prod.fst : Nat × Int → Nat) Prod.snd).get_eq_some_iff ?_).mpr
    ⟨(n, special), ?_, rfl, rfl⟩
  · intro a first b second same
    obtain ⟨i, here⟩ := List.mem_iff_getElem?.mp first
    obtain ⟨j, there⟩ := List.mem_iff_getElem?.mp second
    rw [List.getElem?_zip_eq_some] at here there
    have bound := (List.getElem?_eq_some_iff.mp here.1).1
    have equal : i = j :=
      (List.getElem?_inj bound distinct).mp (by rw [here.1, there.1, same])
    rw [equal, there.2, Option.some.injEq] at here
    exact here.2.symm
  · exact List.mem_iff_getElem?.mpr ⟨place, List.getElem?_zip_eq_some.mpr ⟨placed, given⟩⟩

/-- The definition of a sequence of collected nodes, with its tables written out. -/
def defined (graph : Graph) (roots : List Element) (rule : Dedup) (name : Bytes)
    (order : List Nat) :
    Definition where
  name := name
  graph := graph
  nodes := order.map fun n =>
    ⟨n, placedSpecial graph (reached graph roots) ((reached graph roots).idxOf n) n⟩
  constants := usedConstants graph rule (reached graph roots)
  controls := (reached graph roots).flatMap graph.owned
  dedup := rule

/-- Arranging gives the tables of the collected nodes in the order of their sequence. -/
theorem arrange_eq (graph : Graph) (roots : List Element) (rule : Dedup) (name : Bytes) :
    arrange graph roots rule name = match sequence graph (reached graph roots) with
      | .error fault => .error { fault with definition := name }
      | .ok order => .ok (defined graph roots rule name order) := by
  cases sequenced : sequence graph (reached graph roots) with
  | error fault => simp only [arrange, collect, sequenced]
  | ok order =>
    -- The recorded special index of a node is that of the place where it was collected.
    have special : ∀ n ∈ order,
        (((reached graph roots).zip (placeParameters graph (reached graph roots)).1).foldl
          (fun m (n, s) => m.insert n s) (∅ : Std.HashMap Nat Int)).getD n 0 =
          placedSpecial graph (reached graph roots) ((reached graph roots).idxOf n) n := by
      intro n listed
      have here := List.getElem?_idxOf ((sequence_perm sequenced).mem_iff.mp listed)
      have known := specials_get (reached_nodup graph roots) here
        (placeParameters_special graph here)
      rw [Std.HashMap.getD_eq_getD_getElem?, known, Option.getD_some]
    have rows : order.map (fun n => Placed.mk n
        ((((reached graph roots).zip (placeParameters graph (reached graph roots)).1).foldl
          (fun m (n, s) => m.insert n s) (∅ : Std.HashMap Nat Int)).getD n 0)) =
        (defined graph roots rule name order).nodes :=
      List.map_congr_left fun n listed => by rw [special n listed]
    simp only [arrange, collect, sequenced, Collection.define, placeParameters_table, rows]
    rfl

/-- An arrangement that succeeds is an arranged definition. -/
theorem arrange_arranged (arranged : arrange graph roots rule name = .ok definition) :
    Arranged graph roots rule name definition := by
  rw [arrange_eq] at arranged
  split at arranged
  · cases arranged
  · rename_i order sequenced
    have perm := sequence_perm sequenced
    have nodes : (defined graph roots rule name order).nodes.map Placed.node = order := by
      simp [defined, Function.comp_def]
    rw [← Except.ok.inj arranged]
    -- The tables are those written out, and the order is that of the sequence.
    refine ⟨rfl, rfl, rfl, rfl, rfl, (List.Perm.of_eq nodes).trans perm, ?_, ?_⟩
    · intro row n producer placed feeds reaches
      rw [nodes] at placed ⊢
      exact sequence_after_producer sequenced placed feeds (mem_reached_iff.mpr reaches)
    · intro placed member
      obtain ⟨n, listed, rfl⟩ := List.mem_map.mp member
      exact ⟨_, List.getElem?_idxOf (perm.mem_iff.mp listed), rfl⟩

/-- Arranging fails with the fault of sequencing, which then names the definition. -/
theorem arrange_eq_error {fault : Fault} (failed : arrange graph roots rule name = .error fault) :
    ∃ inner, sequence graph (reached graph roots) = .error inner ∧
      fault = { inner with definition := name } := by
  -- Only sequencing can fail.
  rw [arrange_eq] at failed
  split at failed
  · rename_i inner unsequenced
    exact ⟨inner, unsequenced, (Except.error.inj failed).symm⟩
  · cases failed

/-- The fault of arranging names a collected node by its place and operator, and that node is on a
cycle. -/
theorem arrange_fault {fault : Fault} (failed : arrange graph roots rule name = .error fault) :
    fault.cause = .cycle ∧ ∃ (place : Nat) (n : Nat), (reached graph roots)[place]? = some n ∧
      fault.node = place ∧ fault.nodeOp = (graph.node n).op ∧ graph.OnCycle n := by
  obtain ⟨inner, unsequenced, rfl⟩ := arrange_eq_error failed
  obtain ⟨cause, place, n, placed, node, op, producer, listed, feeds, late⟩ :=
    sequence_eq_error unsequenced (reached_nodup graph roots)
  refine ⟨cause, place, n, placed, node, op, ?_⟩
  -- Outside a cycle, the walk would have listed the producer in front of the node.
  by_contra acyclic
  exact late (reached_after_producer placed feeds (mem_reached_iff.mp listed).1 acyclic)

/-- The nodes that the roots reach contain a cycle exactly when arranging fails. -/
theorem arrange_fails_iff (graph : Graph) (roots : List Element) (rule : Dedup) (name : Bytes) :
    (∃ fault, arrange graph roots rule name = .error fault) ↔
      ∃ n, graph.Reaches roots n ∧ graph.OnCycle n := by
  constructor
  · -- The fault names a collected node that is on a cycle.
    rintro ⟨fault, failed⟩
    obtain ⟨_, place, n, placed, _, _, cycle⟩ := arrange_fault failed
    exact ⟨n, mem_reached_iff.mp (List.mem_of_getElem? placed), cycle⟩
  · rintro ⟨n, reaches, cycle⟩
    cases sequenced : sequence graph (reached graph roots) with
    | error fault => exact ⟨_, by rw [arrange_eq, sequenced]⟩
    | ok order =>
      -- A sequence of all that is reached leaves no room for a cycle.
      refine absurd cycle (sequence_acyclic sequenced ?_ (mem_reached_iff.mpr reaches))
      intro m listed producer inside feeds
      exact mem_reached_iff.mpr ((mem_reached_iff.mp listed).of_feeds feeds inside)

end Arrange

namespace Arranged

variable {graph : Graph} {roots : List Element} {rule : Dedup} {name : Bytes}
  {definition : Definition}
  {row : Nat} {placed : Placed}

/-- No node stands in two rows. -/
theorem distinct (arranged : Arranged graph roots rule name definition) :
    (definition.nodes.map Placed.node).Nodup :=
  -- The rows are the reached nodes in another order.
  arranged.perm.nodup_iff.mpr (reached_nodup graph roots)

/-- The rows hold exactly the nodes that the roots reach. -/
theorem mem_nodes_iff (arranged : Arranged graph roots rule name definition) {n : Nat} :
    n ∈ definition.nodes.map Placed.node ↔ graph.Reaches roots n :=
  -- The rows are the reached nodes in another order.
  arranged.perm.mem_iff.trans mem_reached_iff

/-- The node of a row is reached. -/
theorem reaches (arranged : Arranged graph roots rule name definition)
    (here : definition.nodes[row]? = some placed) : graph.Reaches roots placed.node :=
  -- The node is in the table.
  arranged.mem_nodes_iff.mp (List.mem_map_of_mem (List.mem_of_getElem? here))

/-- A reached producer of the node of a row stands in an earlier row. -/
theorem exists_row_lt (arranged : Arranged graph roots rule name definition)
    (here : definition.nodes[row]? = some placed) {producer : Nat}
    (feeds : graph.Feeds producer placed.node)
    (reaches : graph.Reaches roots producer) :
    ∃ other < row, definition.rows[producer]? = some other := by
  have earlier := arranged.after (by rw [List.getElem?_map, here]; rfl) feeds reaches
  obtain ⟨i, before, there⟩ := exists_place_of_mem_take earlier
  have bound := (List.getElem?_eq_some_iff.mp there).1
  -- The recorded row of the producer is a row where it stands.
  obtain ⟨first, listed, named⟩ := List.mem_map.mp (arranged.mem_nodes_iff.mpr reaches)
  obtain ⟨other, found⟩ := Definition.rows_complete listed
  rw [named] at found
  obtain ⟨second, known, same⟩ := Definition.rows_sound found
  have place : (definition.nodes.map Placed.node)[other]? = some producer := by
    rw [List.getElem?_map, known, Option.map_some, same]
  -- The producer stands in one row only, so that the recorded row is the earlier one.
  have unique : i = other := (List.getElem?_inj bound arranged.distinct).mp (there.trans place.symm)
  exact ⟨other, unique ▸ before, found⟩

/-- A constant that the node of a row uses has a slot in the constant table. -/
theorem exists_slot (arranged : Arranged graph roots rule name definition)
    (here : definition.nodes[row]? = some placed) {constant : Nat}
    (used : .constant constant ∈ (graph.node placed.node).inputs) :
    ∃ slot, definition.slots[definition.keyOf constant]? = some slot := by
  -- The table holds a constant with the same key, and the slots are looked up by key.
  obtain ⟨kept, listed, same⟩ :=
    usedConstants_covers rule (mem_reached_iff.mpr (arranged.reaches here)) used
  have slotted := definition.slots_complete (arranged.constants_eq ▸ listed)
  have key : ∀ c, definition.keyOf c = rule.key graph c := fun c => by
    rw [Definition.keyOf, arranged.graph_eq, arranged.dedup_eq]
  rwa [key, same, ← key] at slotted

/-- The segment of a control node ends inside the control table. -/
theorem segment_le (arranged : Arranged graph roots rule name definition) {place n : Nat}
    (collected : (reached graph roots)[place]? = some n) :
    segmentStart graph (reached graph roots) place + (graph.owned n).length ≤
      definition.controls.length := by
  -- Behind the last node there would start a segment at the end of the table.
  have inside := (List.getElem?_eq_some_iff.mp collected).1
  have last := segmentStart_add_le graph inside collected
  rw [arranged.controls_eq]
  simpa only [segmentStart, List.take_length] using last

/-- The parameters of a control node lie in the control table. -/
theorem parameters (arranged : Arranged graph roots rule name definition)
    (here : definition.nodes[row]? = some placed)
    (control : isControlOp (graph.node placed.node).op = true) :
    0 ≤ placed.special ∧
      wrapWord (placed.special + (graph.node placed.node).outputs.size) ≤
        definition.controls.length := by
  obtain ⟨place, collected, special⟩ := arranged.special placed (List.mem_of_getElem? here)
  have fits := arranged.segment_le collected
  rw [Graph.owned, if_pos control, Node.length_parameters] at fits
  rw [special, placedSpecial, if_pos control]
  -- The end of the segment is compared after it is wrapped, which can only lower it.
  have less := wrapWord_le (segmentStart graph (reached graph roots) place +
    (graph.node placed.node).outputs.size)
  rw [← Int.natCast_add]
  omega

end Arranged

end Patchbay
