import Mathlib.Data.List.Nodup
import Mathlib.Data.List.Permutation
import Patchbay.Proofs.Graph.Emit
import Patchbay.Proofs.Graph.Walk
import Patchbay.Proofs.Index

/-! Sequenced nodes: a sequence is a rearrangement of the listed nodes in which each comes after its
antecedents, and where there is none the fault names a node with an antecedent that does not come
before it. -/

namespace Patchbay

section Places

variable {nodes : List Nat} {n place : Nat}

/-- The place of a node is a place where it stands. -/
theorem placesOf_sound (found : (placesOf nodes)[n]? = some place) : nodes[place]? = some n := by
  -- The entry was made for some place where the node stands.
  obtain ⟨⟨node, i⟩, member, rfl, rfl⟩ :=
    (indexes_insert (Prod.fst : Nat × Nat → Nat) Prod.snd).exists_item found
  exact List.mem_zipIdx_iff_getElem?.mp member

/-- Every listed node has a place. -/
theorem placesOf_complete (member : n ∈ nodes) : ∃ place, (placesOf nodes)[n]? = some place := by
  -- An entry is made for each place.
  obtain ⟨i, found⟩ := List.mem_iff_getElem?.mp member
  exact (indexes_insert (Prod.fst : Nat × Nat → Nat) Prod.snd).exists_entry
    (n, i) (List.mem_zipIdx_iff_getElem?.mpr found)

end Places

section Antecedents

variable (graph : Graph) (nodes : List Nat)

/-- There is one list of antecedents for each listed node. -/
@[simp] theorem length_antecedentPlaces : (antecedentPlaces graph nodes).length = nodes.length := by
  -- A list is made for each node.
  simp [antecedentPlaces]

/-- The feeders of a place are the places of the listed nodes that feed the node there. -/
theorem mem_feedersOf_iff {graph : Graph} {nodes : List Nat} {i feeder n : Nat}
    (placed : nodes[i]? = some n) : feeder ∈ feedersOf (antecedentPlaces graph nodes) i ↔
      ∃ producer, graph.Feeds producer n ∧ (placesOf nodes)[producer]? = some feeder := by
  -- The list of the place is made from the antecedents of its node.
  simp [feedersOf, antecedentPlaces, placed, List.mem_filterMap, Graph.mem_antecedents_iff]

/-- The places of distinct antecedents are distinct places of the list. -/
theorem antecedentPlaces_placeable : Placeable (antecedentPlaces graph nodes) where
  distinct := by
    -- No two nodes share a place, since one node stands there.
    intro feeders member
    obtain ⟨n, _, rfl⟩ := List.mem_map.mp member
    refine List.Nodup.filterMap ?_ ?_
    · intro a b place first second
      have one := placesOf_sound first
      rw [placesOf_sound second] at one
      exact (Option.some.inj one).symm
    · exact eraseDups_nodup _
  inside := by
    -- A place that is looked up is a place of the list.
    intro feeders member feeder feeds
    obtain ⟨n, _, rfl⟩ := List.mem_map.mp member
    obtain ⟨producer, _, found⟩ := List.mem_filterMap.mp feeds
    rw [length_antecedentPlaces]
    exact (List.getElem?_eq_some_iff.mp (placesOf_sound found)).1

end Antecedents

/-- Marking listed numbers marks these numbers and no others. -/
theorem Marks.has_addAll (marks : Marks) (places : List Nat) (n : Nat) :
    (places.foldl Marks.add marks).has n = true ↔ n ∈ places ∨ marks.has n = true := by
  -- Each place of the list adds its own mark.
  induction places generalizing marks with
  | nil => simp
  | cons place rest ih =>
    rw [List.foldl_cons, ih, Marks.has_add, List.mem_cons]
    grind

section FirstMissing

variable {bound : Nat} {places : List Nat}

/-- Below the bound, the marks of a list are its members. -/
theorem has_marksOf (places : List Nat) {i : Nat} (inside : i < bound) :
    (places.foldl Marks.add (.none bound)).has i = true ↔ i ∈ places := by
  -- Nothing is marked at first, and only what is outside counts as such.
  rw [Marks.has_addAll, Marks.has_none]
  exact or_iff_left (Nat.not_le.mpr inside)

/-- Nothing is missing exactly when all places below the bound are listed. -/
theorem firstMissing_eq_none_iff :
    firstMissing bound places = none ↔ ∀ i < bound, i ∈ places := by
  -- The search looks for the first place below the bound that has no mark.
  simp only [firstMissing, List.find?_eq_none, List.mem_range]
  refine forall₂_congr fun i inside => ?_
  rw [← has_marksOf places inside]
  simp

/-- The first missing place is not listed, while all places before it are. -/
theorem firstMissing_eq_some {place : Nat} (missing : firstMissing bound places = some place) :
    place < bound ∧ place ∉ places ∧ ∀ i < place, i ∈ places := by
  -- The search looks for the first place without a mark.
  simp only [firstMissing, List.find?_range_eq_some, List.mem_range] at missing
  obtain ⟨unmarked, inside, before⟩ := missing
  refine ⟨inside, fun member => ?_, fun i earlier => ?_⟩
  · simp [(has_marksOf places inside).mpr member] at unmarked
  · exact (has_marksOf places (Nat.lt_trans earlier inside)).mp (by simpa using before i earlier)

end FirstMissing

section Sequence

variable {graph : Graph} {nodes order : List Nat}

/-- An order of places as an order of the nodes there. -/
def ordered (nodes places : List Nat) : List Nat := places.map fun place => nodes[place]?.getD 0

/-- A successful sequence lists the nodes at the emitted places, and every place is emitted. -/
theorem sequence_eq_ok (sequenced : sequence graph nodes = .ok order) :
    (emitted (antecedentPlaces graph nodes)).Perm (List.range nodes.length) ∧
      order = ordered nodes (emitted (antecedentPlaces graph nodes)) := by
  have placeable := antecedentPlaces_placeable graph nodes
  have inside : ∀ i ∈ emitted (antecedentPlaces graph nodes), i < nodes.length := fun i member => by
    simpa using lt_length_of_mem_emitted placeable member
  simp only [sequence] at sequenced
  split at sequenced
  · rename_i whole
    rw [firstMissing_eq_none_iff] at whole
    constructor
    · -- Distinct places below the bound, none of them missing, are all places in some order.
      rw [List.perm_ext_iff_of_nodup (emitted_nodup placeable) List.nodup_range]
      exact fun i => ⟨fun member => List.mem_range.mpr (inside i member),
        fun member => whole i (List.mem_range.mp member)⟩
    · -- Every emitted place holds a node, so that no look-up fails.
      rw [← Except.ok.inj sequenced, ordered, ← List.filterMap_eq_map]
      refine List.filterMap_congr fun i member => ?_
      simp [inside i member]
  · cases sequenced

/-- A sequence is a rearrangement of the listed nodes. -/
theorem sequence_perm (sequenced : sequence graph nodes = .ok order) : order.Perm nodes := by
  obtain ⟨all, rfl⟩ := sequence_eq_ok sequenced
  -- In their own order, the places give back the list.
  have listed : ordered nodes (List.range nodes.length) = nodes := by
    apply List.ext_getElem?
    intro i
    by_cases inside : i < nodes.length <;> simp [ordered, inside]
  exact (all.map _).trans (.of_eq listed)

/-- In a sequence each node comes after its listed producers. -/
theorem sequence_after_producer (sequenced : sequence graph nodes = .ok order)
    {rank n producer : Nat} (placed : order[rank]? = some n) (feeds : graph.Feeds producer n)
    (listed : producer ∈ nodes) : producer ∈ order.take rank := by
  have placeable := antecedentPlaces_placeable graph nodes
  obtain ⟨all, rfl⟩ := sequence_eq_ok sequenced
  -- The node stands at one emitted place, and its producer at another that was emitted earlier.
  obtain ⟨i, emission, here⟩ : ∃ i, (emitted (antecedentPlaces graph nodes))[rank]? = some i ∧
      nodes[i]?.getD 0 = n := by
    simpa [ordered] using placed
  have inside : i < nodes.length :=
    List.mem_range.mp (all.mem_iff.mp (List.mem_of_getElem? emission))
  have there : nodes[i]? = some n := by
    simp only [List.getElem?_eq_getElem inside, Option.getD_some] at here ⊢
    rw [here]
  obtain ⟨feeder, found⟩ := placesOf_complete listed
  have earlier := emitted_after_feeder placeable emission
    ((mem_feedersOf_iff there).mpr ⟨producer, feeds, found⟩)
  rw [ordered, ← List.map_take]
  exact List.mem_map.mpr ⟨feeder, earlier, by simp [placesOf_sound found]⟩

/-- A listed producer comes in a sequence at an earlier place than the nodes that it feeds. -/
theorem sequence_idxOf_lt (sequenced : sequence graph nodes = .ok order) {n producer : Nat}
    (feeds : graph.Feeds producer n) (consumer : n ∈ nodes) (listed : producer ∈ nodes) :
    order.idxOf producer < order.idxOf n := by
  -- The producer is among those that come before the node.
  have perm := sequence_perm sequenced
  have here := List.getElem?_idxOf (perm.mem_iff.mpr consumer)
  have earlier := sequence_after_producer sequenced here feeds listed
  exact (List.mem_take_iff_idxOf_lt (perm.mem_iff.mpr listed)).mp earlier

/-- A sequence of nodes together with all their producers has no cycle in it. -/
theorem sequence_acyclic (sequenced : sequence graph nodes = .ok order)
    (closed : ∀ n ∈ nodes, ∀ producer < graph.nodes.size, graph.Feeds producer n → producer ∈ nodes)
    {n : Nat} (listed : n ∈ nodes) : ¬ graph.OnCycle n := by
  -- Going round the cycle would bring the node before itself.
  intro cycle
  have before : ∀ m, Relation.TransGen graph.Feeds m n → m < graph.nodes.size →
      m ∈ nodes ∧ order.idxOf m < order.idxOf n := by
    intro m chain
    -- The chain is followed from its far end towards the node.
    induction chain using Relation.TransGen.head_induction_on with
    | single feeds =>
      intro inside
      have producer := closed n listed _ inside feeds
      exact ⟨producer, sequence_idxOf_lt sequenced feeds listed producer⟩
    | head feeds _ ih =>
      intro inside
      obtain ⟨consumer, less⟩ := ih (Graph.lt_size_of_feeds feeds)
      have producer := closed _ consumer _ inside feeds
      exact ⟨producer, Nat.lt_trans (sequence_idxOf_lt sequenced feeds consumer producer) less⟩
  exact Nat.lt_irrefl _ (before n cycle cycle.lt_size).2

/-- The fault of a sequence names a node that has a listed producer which does not come before
it. -/
theorem sequence_eq_error {fault : Fault} (failed : sequence graph nodes = .error fault)
    (distinct : nodes.Nodup) :
    fault.cause = .cycle ∧ ∃ (place : Nat) (n : Nat), nodes[place]? = some n ∧ fault.node = place ∧
      fault.nodeOp = (graph.node n).op ∧
      ∃ producer ∈ nodes, graph.Feeds producer n ∧ producer ∉ nodes.take place := by
  have placeable := antecedentPlaces_placeable graph nodes
  simp only [sequence] at failed
  split at failed
  · cases failed
  · rename_i place missing
    obtain ⟨inside, absent, before⟩ := firstMissing_eq_some missing
    -- The first missing place has a feeder that is missing too.
    have here : nodes[place]? = some nodes[place] := List.getElem?_eq_getElem inside
    obtain ⟨feeder, feeds, unlisted⟩ :=
      exists_feeder_of_not_mem_emitted placeable (by simpa using inside) absent
    obtain ⟨producer, fed, found⟩ := (mem_feedersOf_iff here).mp feeds
    have there := placesOf_sound found
    rw [← Except.error.inj failed]
    refine ⟨rfl, place, nodes[place], here, rfl, by simp [inside], producer,
      List.mem_of_getElem? there, fed, ?_⟩
    -- All places before the first missing one are emitted, and that of the producer is not.
    intro earlier
    obtain ⟨i, less, same⟩ := exists_place_of_mem_take earlier
    have one : i = feeder :=
      (List.getElem?_inj (Nat.lt_trans less inside) distinct).mp (same.trans there.symm)
    exact unlisted (one ▸ before i less)

end Sequence

end Patchbay
