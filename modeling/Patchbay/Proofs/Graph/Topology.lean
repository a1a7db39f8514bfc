import Mathlib.Data.Fintype.Card
import Mathlib.Data.Fintype.EquivFin
import Mathlib.Data.Fintype.Sets
import Patchbay.Proofs.Graph.Cycle

/-! Sequencing and the search for cycles agree: a list of nodes has a sequence exactly when no cycle
is found in it. -/

namespace Patchbay

section WellFounded

variable {graph : Graph} {nodes : List Nat}

/-- Without a cycle, going from listed nodes to their listed antecedents comes to an end. -/
theorem Graph.AcyclicAmong.wellFounded (acyclic : graph.AcyclicAmong nodes) :
    WellFounded fun producer n : { n // n ∈ nodes } => graph.FeedsAmong nodes producer n := by
  -- Chains of antecedents are transitive, and among finitely many nodes they then are well-founded.
  have transitive : IsTrans { n // n ∈ nodes } fun producer n =>
      Relation.TransGen (graph.FeedsAmong nodes) producer n :=
        ⟨fun _ _ _ => Relation.TransGen.trans⟩
  have irreflexive : Std.Irrefl fun producer n : { n // n ∈ nodes } =>
      Relation.TransGen (graph.FeedsAmong nodes) producer n := ⟨fun n => acyclic n⟩
  have chains : WellFounded fun producer n : { n // n ∈ nodes } =>
      Relation.TransGen (graph.FeedsAmong nodes) producer n :=
        Finite.wellFounded_of_trans_of_irrefl _
  exact Subrelation.wf (fun feeds => Relation.TransGen.single feeds) chains

/-- A place that is never emitted waits for the place of a listed antecedent, which is never emitted
either. -/
theorem exists_antecedent_of_not_mem_emitted {place n : Nat} (placed : nodes[place]? = some n)
    (missing : place ∉ emitted (antecedentPlaces graph nodes)) :
    ∃ producer feeder, graph.FeedsAmong nodes producer n ∧
      (placesOf nodes)[producer]? = some feeder ∧
      feeder ∉ emitted (antecedentPlaces graph nodes) := by
  -- The place has a feeder that is not emitted, and the node there is the antecedent.
  have inside : place < (antecedentPlaces graph nodes).length := by
    rw [length_antecedentPlaces]
    exact (List.getElem?_eq_some_iff.mp placed).1
  obtain ⟨feeder, feeds, unlisted⟩ :=
    exists_feeder_of_not_mem_emitted (antecedentPlaces_placeable graph nodes) inside missing
  obtain ⟨producer, fed, found⟩ := (mem_feedersOf_iff placed).mp feeds
  have listed : producer ∈ nodes := List.mem_of_getElem? (placesOf_sound found)
  exact ⟨producer, feeder, ⟨listed, List.mem_of_getElem? placed, fed⟩, found, unlisted⟩

/-- Without a cycle the place of every listed node is emitted. -/
theorem Graph.AcyclicAmong.mem_emitted (acyclic : graph.AcyclicAmong nodes)
    (node : { n // n ∈ nodes }) :
    ∀ place, (placesOf nodes)[node.1]? = some place →
      place ∈ emitted (antecedentPlaces graph nodes) := by
  -- The induction goes from a node to its antecedents, whose places are emitted before.
  induction node using acyclic.wellFounded.induction with
  | _ node ih =>
    intro place found
    by_contra missing
    obtain ⟨producer, feeder, feeds, earlier, unlisted⟩ :=
      exists_antecedent_of_not_mem_emitted (placesOf_sound found) missing
    exact unlisted (ih ⟨producer, feeds.1⟩ feeds feeder earlier)

/-- Without a cycle every place of the list is emitted, also that of a node which is listed again
further on. -/
theorem Graph.AcyclicAmong.emits_all (acyclic : graph.AcyclicAmong nodes) :
    ∀ place < nodes.length, place ∈ emitted (antecedentPlaces graph nodes) := by
  -- A place that is missing waits for another one, which is not missing without a cycle.
  intro place inside
  by_contra missing
  obtain ⟨producer, feeder, feeds, earlier, unlisted⟩ :=
    exists_antecedent_of_not_mem_emitted (List.getElem?_eq_getElem inside) missing
  exact unlisted (acyclic.mem_emitted ⟨producer, feeds.1⟩ feeder earlier)

end WellFounded

section Sequence

variable {graph : Graph} {nodes order : List Nat}

/-- A list that has a sequence has no cycle. -/
theorem acyclic_of_sequence (sequenced : sequence graph nodes = .ok order) :
    graph.AcyclicAmong nodes := by
  -- Along a chain of listed antecedents the places in the sequence go up.
  have rises : ∀ producer n, Relation.TransGen (graph.FeedsAmong nodes) producer n →
      order.idxOf producer < order.idxOf n := by
    intro producer n chain
    induction chain with
    | single feeds => exact sequence_idxOf_lt sequenced feeds.2.2 feeds.2.1 feeds.1
    | tail _ feeds ih =>
      exact Nat.lt_trans ih (sequence_idxOf_lt sequenced feeds.2.2 feeds.2.1 feeds.1)
  intro n cycle
  exact Nat.lt_irrefl _ (rises n n cycle)

/-- A list has a sequence exactly when there is no cycle in it. -/
theorem sequence_ok_iff :
    (∃ order, sequence graph nodes = .ok order) ↔ graph.AcyclicAmong nodes := by
  -- Without a cycle no place is missing, and sequencing fails for nothing else.
  constructor
  · intro ⟨order, sequenced⟩
    exact acyclic_of_sequence sequenced
  · intro acyclic
    have whole := firstMissing_eq_none_iff.mpr acyclic.emits_all
    simp only [sequence, whole]
    exact ⟨_, rfl⟩

/-- The fault of a list without a sequence is a cycle, and its words are those of the cycle that is
found. -/
theorem sequence_fault {fault : Fault} (failed : sequence graph nodes = .error fault) :
    fault.kind = .structural ∧ fault.cause = .cycle ∧
      ∃ cycle, findCycle graph nodes = some cycle ∧ fault.context = cycleText graph cycle := by
  -- There is a cycle, for otherwise there would be a sequence.
  have cyclic : findCycle graph nodes ≠ none := by
    intro nothing
    obtain ⟨order, sequenced⟩ := sequence_ok_iff.mpr (findCycle_eq_none_iff.mp nothing)
    rw [failed] at sequenced
    cases sequenced
  obtain ⟨cycle, found⟩ := Option.ne_none_iff_exists'.mp cyclic
  simp only [sequence, found] at failed
  split at failed
  · cases failed
  · cases failed
    exact ⟨rfl, rfl, cycle, found, rfl⟩

end Sequence

/-- Sequencing is a topological sort that agrees with the search for cycles. It fails exactly when a
cycle is found, and then for that cycle. Otherwise it emits each place of the list once, and in a
list without repeats each node comes after its listed antecedents. -/
theorem sequence_topological (graph : Graph) (nodes : List Nat) :
    ((∃ fault, sequence graph nodes = .error fault) ↔ findCycle graph nodes ≠ none) ∧
      (∀ fault, sequence graph nodes = .error fault → fault.kind = .structural ∧
        fault.cause = .cycle ∧
        ∃ cycle, findCycle graph nodes = some cycle ∧ fault.context = cycleText graph cycle) ∧
      ∀ order, sequence graph nodes = .ok order →
        (∃ places : List Nat, places.Perm (List.range nodes.length) ∧
          order.map some = places.map (nodes[·]?)) ∧
          order.Perm nodes ∧
          (nodes.Nodup → ∀ (earlier later antecedent n : Nat), order[earlier]? = some antecedent →
            order[later]? = some n → antecedent ∈ (graph.node n).antecedents →
            earlier < later) := by
  refine ⟨?_, fun fault failed => sequence_fault failed, ?_⟩
  · -- A list either has a sequence or a fault, and it has a sequence when no cycle is found.
    rw [Ne, findCycle_eq_none_iff, ← sequence_ok_iff]
    cases sequence graph nodes with
    | ok order => simp
    | error fault => simp
  · intro order sequenced
    obtain ⟨all, same⟩ := sequence_eq_ok sequenced
    have perm := sequence_perm sequenced
    refine ⟨⟨_, all, ?_⟩, perm, ?_⟩
    · -- Every emitted place is a place of the list, where some node stands.
      rw [same, ordered, List.map_map]
      apply List.map_congr_left
      intro place emission
      have inside : place < nodes.length := List.mem_range.mp (all.mem_iff.mp emission)
      simp [inside]
    · -- The antecedent is among those before the node, and without repeats it stands nowhere else.
      intro distinct earlier later antecedent n here there feeds
      have listed : antecedent ∈ nodes := perm.mem_iff.mp (List.mem_of_getElem? here)
      have before :=
        sequence_after_producer sequenced there (Graph.mem_antecedents_iff.mp feeds) listed
      obtain ⟨place, less, found⟩ := exists_place_of_mem_take before
      have inside : earlier < order.length := (List.getElem?_eq_some_iff.mp here).1
      have one : earlier = place :=
        (List.getElem?_inj inside (perm.nodup_iff.mpr distinct)).mp (here.trans found.symm)
      omega

/-- With the delay in the list the ring has no sequence. Without it, the low-pass filter comes after
the mixer and the mixer after the source, in whatever order they are listed. -/
theorem ring_topological :
    (∃ fault, sequence ring [4, 3, 2, 1] = .error fault ∧ fault.cause = .cycle) ∧
      sequence ring [4, 2, 1, 0] = .ok [4, 0, 1, 2] ∧ [4, 2, 1, 0].Nodup ∧
      ∀ (earlier later antecedent n : Nat), [4, 0, 1, 2][earlier]? = some antecedent →
        [4, 0, 1, 2][later]? = some n → antecedent ∈ (ring.node n).antecedents →
        earlier < later := by
  -- The two searches are short enough to compute.
  have found : findCycle ring [4, 3, 2, 1] = some [1, 2, 3] := by cbv
  have sequenced : sequence ring [4, 2, 1, 0] = .ok [4, 0, 1, 2] := by cbv
  have distinct : [4, 2, 1, 0].Nodup := by decide
  obtain ⟨fault, failed⟩ := (sequence_topological ring [4, 3, 2, 1]).1.mpr (by simp [found])
  have cause := ((sequence_topological ring [4, 3, 2, 1]).2.1 fault failed).2.1
  exact ⟨⟨fault, failed, cause⟩, sequenced, distinct,
    ((sequence_topological ring [4, 2, 1, 0]).2.2 _ sequenced).2.2 distinct⟩

end Patchbay
