import Mathlib.Data.List.Chain
import Mathlib.Data.List.Nodup
import Mathlib.Tactic.ByContra
import Patchbay.Graph.Collect
import Patchbay.Proofs.Graph.Reach

/-! Collected nodes: the walk from the roots lists every node that they reach, once, and each one
after its producers unless it lies on a cycle. -/

namespace Patchbay

namespace Marks

/-- Marking a number marks that number and no other. -/
theorem has_add (marks : Marks) (n m : Nat) :
    (marks.add n).has m = true ↔ m = n ∨ marks.has m = true := by
  -- Only the entry of the number changes, and a number without an entry counts as marked anyway.
  unfold has add
  rw [Array.getElem?_setIfInBounds]
  by_cases same : n = m
  · subst same
    by_cases inside : n < marks.size <;> simp [inside]
  · simp [same, Ne.symm same]

/-- Without a mark, only the numbers from the bound on count as marked. -/
theorem has_none (bound n : Nat) : (Marks.none bound).has n = true ↔ bound ≤ n := by
  -- The number is inside of the bound or not.
  unfold has Marks.none
  by_cases inside : n < bound
  · simp [inside]
  · simp [inside, Nat.le_of_not_lt inside]

end Marks

namespace Graph

/-- A node needs a producer that is a node of the graph, unless it lies on a cycle itself. -/
def Needs (graph : Graph) (producer n : Nat) : Prop :=
  producer < graph.nodes.size ∧ graph.Feeds producer n ∧ ¬ graph.OnCycle n

/-- The top of a chain of nodes, each of which feeds the next, leads to all of them. -/
theorem leads_of_chain {graph : Graph} {top : Nat} {below : List Nat}
    (chain : (top :: below).IsChain graph.Feeds) : ∀ n ∈ top :: below, graph.Leads top n := by
  -- Each step down the chain adds one input to the way from the top.
  induction below generalizing top with
  | nil =>
    intro n member
    rw [List.mem_singleton.mp member]
    exact Relation.ReflTransGen.refl
  | cons next below ih =>
    obtain ⟨feeds, rest⟩ := List.isChain_cons_cons.mp chain
    intro n member
    rcases List.mem_cons.mp member with same | member
    · rw [same]
      exact Relation.ReflTransGen.refl
    · exact Relation.ReflTransGen.head feeds (ih rest n member)

end Graph

/-- What holds at every moment of a walk. The marked nodes are those on the stack and those listed,
and the stack is a chain of nodes each of which feeds the one below. -/
structure Walked (graph : Graph) (roots : List Element) (stack : List Visit) (marks : Marks)
    (listed : List Nat) : Prop where
  marked : ∀ n, marks.has n = true ↔ graph.nodes.size ≤ n ∨ n ∈ stack.map Visit.node ++ listed
  distinct : (stack.map Visit.node ++ listed).Nodup
  sound : ∀ n ∈ stack.map Visit.node ++ listed, graph.Reaches roots n
  chained : (stack.map Visit.node).IsChain graph.Feeds
  owed : ∀ visit ∈ stack, ∀ producer ∈ visit.pending, graph.Feeds producer visit.node
  met : ∀ visit ∈ stack, ∀ producer, graph.Feeds producer visit.node →
    producer ∈ visit.pending ∨ marks.has producer = true
  closed : ∀ n ∈ listed, ∀ producer, graph.Feeds producer n → marks.has producer = true
  settled : Preceded graph.Needs listed

namespace Walked

variable {graph : Graph} {roots : List Element} {marks : Marks} {listed pending : List Nat}
  {below : List Visit} {node next : Nat}

/-- A visit with nothing pending can be finished: its node is listed. -/
theorem finish (walked : Walked graph roots (⟨node, []⟩ :: below) marks listed) :
    Walked graph roots below marks (node :: listed) := by
  -- The node moves from the stack to the list, so that both together stay the same.
  have moved : (below.map Visit.node ++ node :: listed).Perm
      ((⟨node, []⟩ :: below : List Visit).map Visit.node ++ listed) := List.perm_middle
  -- All producers of the node are marked, since none of them is pending.
  have met : ∀ producer, graph.Feeds producer node → marks.has producer = true := by
    intro producer feeds
    rcases walked.met _ List.mem_cons_self producer feeds with waiting | known
    · cases waiting
    · exact known
  refine ⟨?_, ?_, ?_, ?_, ?_, ?_, ?_, ?_, walked.settled⟩
  · intro n
    rw [walked.marked n, moved.mem_iff]
  · exact moved.nodup_iff.mpr walked.distinct
  · intro n member
    exact walked.sound n (moved.mem_iff.mp member)
  · exact walked.chained.tail
  · exact fun visit member => walked.owed visit (List.mem_cons_of_mem _ member)
  · exact fun visit member => walked.met visit (List.mem_cons_of_mem _ member)
  · intro n member producer feeds
    rcases List.mem_cons.mp member with rfl | member
    · exact met producer feeds
    · exact walked.closed n member producer feeds
  · -- A producer that is not listed yet is on the stack, and the node leads back to it.
    rintro producer ⟨inside, feeds, acyclic⟩
    rcases (walked.marked producer).mp (met producer feeds) with outside | member
    · omega
    · rcases List.mem_append.mp member with stacked | done
      · exact absurd (.of_leads feeds (Graph.leads_of_chain walked.chained producer stacked))
          acyclic
      · exact done

/-- A pending producer without a mark can be entered: it goes on top of the stack. -/
theorem enter (walked : Walked graph roots (⟨node, next :: pending⟩ :: below) marks listed)
    (fresh : marks.has next = false) :
    Walked graph roots (⟨next, (graph.node next).producers⟩ :: ⟨node, pending⟩ :: below)
      (marks.add next) listed := by
  have feeds : graph.Feeds next node :=
    walked.owed _ List.mem_cons_self next List.mem_cons_self
  -- A node without a mark is in the graph and neither stacked nor listed.
  have unmarked : ¬ (graph.nodes.size ≤ next ∨
      next ∈ (⟨node, next :: pending⟩ :: below : List Visit).map Visit.node ++ listed) := by
    rw [← walked.marked next, fresh]
    exact Bool.false_ne_true
  obtain ⟨inside, new⟩ := not_or.mp unmarked
  have kept : ∀ producer, marks.has producer = true → (marks.add next).has producer = true :=
    fun producer known => (Marks.has_add marks next producer).mpr (.inr known)
  refine ⟨?_, ?_, ?_, ?_, ?_, ?_, ?_, walked.settled⟩
  · -- The marks and the stack gain the same node.
    intro n
    rw [Marks.has_add, walked.marked n]
    simp only [List.map_cons, List.cons_append, List.mem_cons]
    grind
  · exact List.nodup_cons.mpr ⟨new, walked.distinct⟩
  · -- The node below is reached, and with it what feeds it.
    intro n member
    rcases List.mem_cons.mp member with rfl | member
    · exact (walked.sound node List.mem_cons_self).of_feeds feeds (Nat.lt_of_not_le inside)
    · exact walked.sound n member
  · exact List.isChain_cons_cons.mpr ⟨feeds, walked.chained⟩
  · intro visit member producer waiting
    rcases List.mem_cons.mp member with rfl | member
    · exact waiting
    · rcases List.mem_cons.mp member with rfl | member
      · exact walked.owed _ List.mem_cons_self producer (List.mem_cons_of_mem _ waiting)
      · exact walked.owed visit (List.mem_cons_of_mem _ member) producer waiting
  · intro visit member producer produced
    rcases List.mem_cons.mp member with rfl | member
    · exact .inl produced
    · rcases List.mem_cons.mp member with rfl | member
      · -- The entered node has left the pending ones, and it now bears a mark.
        rcases walked.met _ List.mem_cons_self producer produced with waiting | known
        · rcases List.mem_cons.mp waiting with rfl | waiting
          · exact .inr ((Marks.has_add marks producer producer).mpr (.inl rfl))
          · exact .inl waiting
        · exact .inr (kept producer known)
      · exact (walked.met visit (List.mem_cons_of_mem _ member) producer produced).imp_right
          (kept producer)
  · exact fun n member producer produced => kept producer (walked.closed n member producer produced)

/-- A pending producer with a mark can be left out. -/
theorem skip (walked : Walked graph roots (⟨node, next :: pending⟩ :: below) marks listed)
    (known : marks.has next = true) :
    Walked graph roots (⟨node, pending⟩ :: below) marks listed := by
  -- Only the list of pending producers changes, by one that is marked.
  refine ⟨walked.marked, walked.distinct, walked.sound, walked.chained, ?_, ?_, walked.closed,
    walked.settled⟩
  · intro visit member producer waiting
    rcases List.mem_cons.mp member with rfl | member
    · exact walked.owed _ List.mem_cons_self producer (List.mem_cons_of_mem _ waiting)
    · exact walked.owed visit (List.mem_cons_of_mem _ member) producer waiting
  · intro visit member producer produced
    rcases List.mem_cons.mp member with rfl | member
    · rcases walked.met _ List.mem_cons_self producer produced with waiting | marked
      · rcases List.mem_cons.mp waiting with rfl | waiting
        · exact .inr known
        · exact .inl waiting
      · exact .inr marked
    · exact walked.met visit (List.mem_cons_of_mem _ member) producer produced

/-- A root without a mark can be entered when nothing is on the stack. -/
theorem start (walked : Walked graph roots [] marks listed) (fresh : marks.has node = false)
    (reached : graph.Reaches roots node) :
    Walked graph roots [⟨node, (graph.node node).producers⟩] (marks.add node) listed := by
  -- A root without a mark was not listed before.
  have unmarked :
      ¬ (graph.nodes.size ≤ node ∨ node ∈ ([] : List Visit).map Visit.node ++ listed) := by
    rw [← walked.marked node, fresh]
    exact Bool.false_ne_true
  obtain ⟨_, new⟩ := not_or.mp unmarked
  refine ⟨?_, List.nodup_cons.mpr ⟨new, walked.distinct⟩, ?_, List.isChain_singleton _, ?_, ?_, ?_,
    walked.settled⟩
  · intro n
    rw [Marks.has_add, walked.marked n]
    simp only [List.map_cons, List.map_nil, List.cons_append, List.nil_append, List.mem_cons]
    grind
  · intro n member
    rcases List.mem_cons.mp member with rfl | member
    · exact reached
    · exact walked.sound n member
  · intro visit member producer waiting
    rw [List.mem_singleton.mp member] at waiting ⊢
    exact waiting
  · intro visit member producer produced
    rw [List.mem_singleton.mp member] at produced ⊢
    exact .inl produced
  · exact fun n member producer produced =>
      (Marks.has_add marks node producer).mpr (.inr (walked.closed n member producer produced))

end Walked

/-- A walk that starts well ends well, with nothing left on the stack. -/
theorem walk_walked {graph : Graph} {roots : List Element} {stack : List Visit} {marks : Marks}
    {listed : List Nat} (walked : Walked graph roots stack marks listed) :
    Walked graph roots [] (walk graph stack marks listed).1 (walk graph stack marks listed).2 := by
  -- The induction follows the walk, and each of its steps keeps what holds at every moment.
  fun_induction walk graph stack marks listed with
  | case1 marks listed => exact walked
  | case2 marks listed node below ih => exact ih walked.finish
  | case3 marks listed node next pending below fresh ih => exact ih (walked.enter fresh)
  | case4 marks listed node next pending below known ih =>
    exact ih (walked.skip (by simpa using known))

/-- A walk never takes a mark away. -/
theorem walk_has {graph : Graph} {stack : List Visit} {marks : Marks} {listed : List Nat} {n : Nat}
    (known : marks.has n = true) : (walk graph stack marks listed).1.has n = true := by
  -- A step either keeps the marks or adds one to them.
  fun_induction walk graph stack marks listed with
  | case1 marks listed => exact known
  | case2 marks listed node below ih => exact ih known
  | case3 marks listed node next pending below fresh ih =>
    exact ih ((Marks.has_add marks next n).mpr (.inr known))
  | case4 marks listed node next pending below marked ih => exact ih known

/-- A walk from one root keeps earlier marks and marks the root. -/
theorem walkRoot_has {graph : Graph} {state : Marks × List Nat} {root n : Nat}
    (known : n = root ∨ state.1.has n = true) : (walkRoot graph state root).1.has n = true := by
  -- A root is walked from only when it has no mark yet.
  unfold walkRoot
  split
  · rename_i marked
    rcases known with rfl | known
    · exact marked
    · exact known
  · exact walk_has ((Marks.has_add state.1 root n).mpr known)

/-- A walk from one root that the roots name ends well. -/
theorem walkRoot_walked {graph : Graph} {roots : List Element} {state : Marks × List Nat}
    {root : Nat}
    (walked : Walked graph roots [] state.1 state.2)
    (named : root ∈ roots.filterMap Element.node?) :
    Walked graph roots [] (walkRoot graph state root).1 (walkRoot graph state root).2 := by
  unfold walkRoot
  split
  · exact walked
  · rename_i unmarked
    have fresh : state.1.has root = false := by simpa using unmarked
    obtain ⟨element, member, names⟩ := List.mem_filterMap.mp named
    -- Numbers outside the graph count as marked.
    have inside : root < graph.nodes.size := by
      by_contra outside
      exact unmarked ((walked.marked root).mpr (.inl (Nat.le_of_not_lt outside)))
    exact walk_walked
      (walked.start fresh ⟨inside, element, member, root, names, Relation.ReflTransGen.refl⟩)

/-- Walks from several roots end well, keep earlier marks and mark every root. -/
theorem walkRoots_walked {graph : Graph} {roots : List Element} (named : List Nat)
    (state : Marks × List Nat) (walked : Walked graph roots [] state.1 state.2)
    (all : ∀ n ∈ named, n ∈ roots.filterMap Element.node?) :
    let final := named.foldl (walkRoot graph) state
    Walked graph roots [] final.1 final.2 ∧
      ∀ n, n ∈ named ∨ state.1.has n = true → final.1.has n = true := by
  -- The marks only grow, so that a root stays marked while the later ones are walked.
  induction named generalizing state with
  | nil => exact ⟨walked, fun n known => by simpa using known⟩
  | cons root rest ih =>
    obtain ⟨ends, grows⟩ := ih (walkRoot graph state root)
      (walkRoot_walked walked (all root List.mem_cons_self))
      (fun n member => all n (List.mem_cons_of_mem _ member))
    refine ⟨ends, fun n known => grows n ?_⟩
    -- The first root is marked by its own walk, and the others later.
    rcases known with member | known
    · rcases List.mem_cons.mp member with same | member
      · exact .inr (walkRoot_has (.inl same))
      · exact .inl member
    · exact .inr (walkRoot_has (.inr known))

/-- Before the first step nothing is marked, stacked or listed. -/
theorem walked_nothing (graph : Graph) (roots : List Element) :
    Walked graph roots [] (.none graph.nodes.size) [] where
  -- All fields are about nodes that are marked, stacked or listed.
  marked n := by simp [Marks.has_none]
  distinct := List.nodup_nil
  sound := by simp
  chained := List.isChain_nil
  owed := by simp
  met := by simp
  closed := by simp
  settled := trivial

/-- The whole collection ends well, and every root that is a node of the graph is listed. -/
theorem reached_walked (graph : Graph) (roots : List Element) :
    ∃ marks, Walked graph roots [] marks (reached graph roots).reverse ∧
      ∀ n ∈ roots.filterMap Element.node?, marks.has n = true := by
  -- The walks from the roots start with nothing marked.
  obtain ⟨ends, grows⟩ :=
    walkRoots_walked (roots.filterMap Element.node?) (.none graph.nodes.size, [])
      (walked_nothing graph roots) (fun _ member => member)
  refine ⟨_, ?_, fun n member => grows n (.inl member)⟩
  simpa only [reached, List.reverse_reverse] using ends

/-- No node is collected twice. -/
theorem reached_nodup (graph : Graph) (roots : List Element) : (reached graph roots).Nodup := by
  -- What the walks list is distinct.
  obtain ⟨marks, walked, _⟩ := reached_walked graph roots
  simpa using walked.distinct

/-- The collected nodes are exactly the nodes of the graph that the roots reach. -/
theorem mem_reached_iff {graph : Graph} {roots : List Element} {n : Nat} :
    n ∈ reached graph roots ↔ graph.Reaches roots n := by
  obtain ⟨marks, walked, rooted⟩ := reached_walked graph roots
  -- With nothing left on the stack, a marked node is a listed one.
  have listed : ∀ m, m < graph.nodes.size → marks.has m = true → m ∈ reached graph roots := by
    intro m inside known
    rcases (walked.marked m).mp known with outside | member
    · omega
    · simpa using member
  constructor
  · intro member
    exact walked.sound n (by simpa using member)
  · -- A chain of inputs from a root goes through listed nodes only.
    rintro ⟨inside, root, member, named, names, leads⟩
    induction leads using Relation.ReflTransGen.head_induction_on with
    | refl =>
      -- The node is named by the root itself.
      exact listed named inside (rooted named (List.mem_filterMap.mpr ⟨root, member, names⟩))
    | @head producer m feeds leads ih =>
      -- The next node of the chain is listed, and all that feeds a listed node is marked.
      have consumer := ih (Graph.lt_size_of_feeds feeds)
      exact listed producer inside (walked.closed m (by simpa using consumer) producer feeds)

/-- A collected node comes after each of its producers, unless it lies on a cycle. -/
theorem reached_after_producer {graph : Graph} {roots : List Element} {place n producer : Nat}
    (placed : (reached graph roots)[place]? = some n) (feeds : graph.Feeds producer n)
    (inside : producer < graph.nodes.size) (acyclic : ¬ graph.OnCycle n) :
    producer ∈ (reached graph roots).take place := by
  -- The list of the walk is kept in reverse, with what a node needs behind it.
  obtain ⟨marks, walked, _⟩ := reached_walked graph roots
  simpa using walked.settled.mem_take (by simpa using placed) ⟨inside, feeds, acyclic⟩

end Patchbay
