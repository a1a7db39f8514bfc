import Patchbay.Proofs.Graph.Sequence
import Patchbay.Proofs.Graph.Steps

/-! The recursive walk: it visits the producers of a node one by one and then lists the node. The
walk with a stack lists the same nodes in the same order. -/

namespace Patchbay

/-- Visits nodes one after another. A node without a mark is marked, its producers are visited, and
then it is listed behind them. The result comes with the fact that no mark was taken away, by which
the recursion ends. -/
def visitAll (graph : Graph) (nodes : List Nat) (state : Marks × List Nat) :
    { final : Marks × List Nat // final.1.left ≤ state.1.left } :=
  match nodes with
  | [] => ⟨state, Nat.le_refl _⟩
  | n :: rest =>
    if fresh : state.1.has n = false then
      let below := visitAll graph (graph.node n).producers (state.1.add n, state.2)
      have fewer : below.1.1.left < state.1.left :=
        Nat.lt_of_le_of_lt below.2 (Marks.left_add_lt fresh)
      let after := visitAll graph rest (below.1.1, below.1.2 ++ [n])
      ⟨after.1, Nat.le_trans after.2 (Nat.le_of_lt fewer)⟩
    else visitAll graph rest state
termination_by (state.1.left, nodes.length)
decreasing_by
  · exact Prod.Lex.left _ _ (Marks.left_add_lt fresh)
  · exact Prod.Lex.left _ _ fewer
  · exact Prod.Lex.right _ (Nat.lt_succ_self _)

/-- Visits one node. -/
def visit (graph : Graph) (state : Marks × List Nat) (n : Nat) : Marks × List Nat :=
  (visitAll graph [n] state).1

section Visit

variable {graph : Graph} {state : Marks × List Nat} {n : Nat}

/-- When there is nothing to visit, nothing changes. -/
theorem visitAll_nil (graph : Graph) (state : Marks × List Nat) :
    (visitAll graph [] state).1 = state := by
  -- The visit looks at the list first.
  rw [visitAll]

/-- A marked node is passed over. -/
theorem visitAll_of_marked (marked : state.1.has n = true) (rest : List Nat) :
    (visitAll graph (n :: rest) state).1 = (visitAll graph rest state).1 := by
  -- The visit looks at the mark first.
  rw [visitAll, dif_neg (by simp [marked])]

/-- A node without a mark is marked, and listed behind its producers. -/
theorem visitAll_of_fresh (fresh : state.1.has n = false) (rest : List Nat) :
    (visitAll graph (n :: rest) state).1 =
      (visitAll graph rest
        ((visitAll graph (graph.node n).producers (state.1.add n, state.2)).1.1,
          (visitAll graph (graph.node n).producers (state.1.add n, state.2)).1.2 ++ [n])).1 := by
  -- The visit looks at the mark first.
  rw [visitAll, dif_pos fresh]

/-- Nodes are visited one by one. -/
theorem visitAll_eq_foldl (nodes : List Nat) :
    (visitAll graph nodes state).1 = nodes.foldl (visit graph) state := by
  -- The first node is passed over or visited, and the others go on from there.
  induction nodes generalizing state with
  | nil => exact visitAll_nil graph state
  | cons n rest ih =>
    rw [List.foldl_cons, visit]
    cases known : state.1.has n with
    | true => rw [visitAll_of_marked known, visitAll_of_marked known, visitAll_nil, ih]
    | false => rw [visitAll_of_fresh known, visitAll_of_fresh known, visitAll_nil, ih]

/-- The recursive walk: a marked node is passed over. Any other one is marked, its producers are
visited in input order, and then it is listed. -/
theorem visit_eq (graph : Graph) (state : Marks × List Nat) (n : Nat) :
    visit graph state n =
      if state.1.has n then state
      else
        let below :=
  -- One node is visited as a list of one, and its producers are visited one by one.
  (graph.node n).producers.foldl (visit graph) (state.1.add n, state.2)
        (below.1, below.2 ++ [n]) := by
  rw [visit]
  cases known : state.1.has n with
  | true => rw [visitAll_of_marked known, visitAll_nil, if_pos rfl]
  | false =>
    rw [visitAll_of_fresh known, visitAll_nil, if_neg Bool.false_ne_true, ← visitAll_eq_foldl]

end Visit

/-- Working off the visit at the top of the stack comes to the same as visiting what is pending
there, and listing the node of the visit. -/
theorem walk_cons (graph : Graph) (node : Nat) (pending : List Nat) (below : List Visit)
    (state : Marks × List Nat) :
    walk graph (⟨node, pending⟩ :: below) state.1 state.2.reverse =
      walk graph below (pending.foldl (visit graph) state).1
        (node :: (pending.foldl (visit graph) state).2.reverse) := by
  rw [← visitAll_eq_foldl]
  -- The induction follows the recursive walk, whose visits below a node are those above it on the
  -- stack.
  fun_induction visitAll graph pending state generalizing node below with
  | case1 state => rw [walk]
  | case2 state n rest fresh visited fewer after first second =>
    have listed : n :: visited.1.2.reverse = (visited.1.2 ++ [n]).reverse := by simp
    rw [walk, dif_pos fresh, first n (⟨node, rest⟩ :: below), listed, second]
  | case3 state n rest marked ih => rw [walk, dif_neg marked, ih]

/-- A walk from one root is the recursive visit of that root. -/
theorem walkRoot_eq_visit (graph : Graph) (marks : Marks) (order : List Nat) (root : Nat) :
    walkRoot graph (marks, order.reverse) root =
      ((visit graph (marks, order) root).1, (visit graph (marks, order) root).2.reverse) := by
  -- A marked root is passed over. Any other starts a walk with an empty stack below it.
  rw [walkRoot, visit_eq]
  cases known : marks.has root with
  | true => simp
  | false =>
    have walked := walk_cons graph root (graph.node root).producers [] (marks.add root, order)
    rw [walk] at walked
    simpa using walked

/-- The collected nodes are those that the recursive walk lists, in its order. -/
theorem reached_eq_visit (graph : Graph) (roots : List Element) :
    reached graph roots =
      ((roots.filterMap Element.node?).foldl (visit graph) (.none graph.nodes.size, [])).2 := by
  -- After each root both walks have the same marks, and lists of which one is the reverse of the
  -- other.
  have agree : ∀ (named : List Nat) (marks : Marks) (order : List Nat),
      named.foldl (walkRoot graph) (marks, order.reverse) =
        ((named.foldl (visit graph) (marks, order)).1,
          (named.foldl (visit graph) (marks, order)).2.reverse) := by
    intro named
    induction named with
    | nil => exact fun _ _ => rfl
    | cons root rest ih =>
      intro marks order
      rw [List.foldl_cons, List.foldl_cons, walkRoot_eq_visit, ih]
  have whole := agree (roots.filterMap Element.node?) (.none graph.nodes.size) []
  simp only [List.reverse_nil] at whole
  simp only [reached, whole, List.reverse_reverse]

/-- Collection is the recursive walk from the nodes that the roots name, in their order. The loop of
the walk with a stack ends from every stack, within one step for each node that it can still enter
and each input that it can still look at. No node is collected twice, and where the roots reach no
cycle each node comes after all its antecedents. -/
theorem collect_recursive (graph : Graph) (roots : List Element) (rule : Dedup) :
    (∀ (stack : List Visit) (marks : Marks) (listed : List Nat),
      stepped (walkStep graph) (Visit.work stack + graph.walkLeft marks + 1)
        (stack, marks, listed) =
        some (walk graph stack marks listed)) ∧
      (∀ state n, visit graph state n =
        if state.1.has n then state
        else
          let below := (graph.node n).producers.foldl (visit graph) (state.1.add n, state.2)
          (below.1, below.2 ++ [n])) ∧
      (collect graph roots rule).nodes =
        ((roots.filterMap Element.node?).foldl (visit graph) (.none graph.nodes.size, [])).2 ∧
      (collect graph roots rule).nodes.Nodup ∧
      ((∀ n, graph.Reaches roots n → ¬ graph.OnCycle n) →
        ∀ (place n : Nat), (collect graph roots rule).nodes[place]? = some n →
          ∀ antecedent ∈ (graph.node n).antecedents, antecedent < graph.nodes.size →
            antecedent ∈ (collect graph roots rule).nodes.take place) := by
  -- The loop, the recursion and the order were shown one by one.
  refine ⟨?_, visit_eq graph, reached_eq_visit graph roots, reached_nodup graph roots, ?_⟩
  · intro stack marks listed
    exact walk_within (Nat.lt_succ_self _)
  · intro acyclic place n placed antecedent feeds inside
    have reaches := mem_reached_iff.mp (List.mem_of_getElem? placed)
    exact reached_after_producer placed (Graph.mem_antecedents_iff.mp feeds) inside
      (acyclic n reaches)

/-- A graph with a node that two others share, and with a node that feeds itself. -/
def looped : Graph where
  nodes := #[⟨utf8 "Impulse", .audio, [], #[.audio], 0, none⟩,
    ⟨utf8 "LPF", .audio, [.output 0 0], #[.audio], 0, none⟩,
    ⟨utf8 "Mix", .audio, [.output 1 0, .output 0 0], #[.audio], 0, none⟩,
    ⟨utf8 "Delay", .audio, [.output 3 0, .constant 0, .output 2 0], #[.audio], 0, none⟩]
  constants := #[.zero]

/-- The mixer reaches no cycle, and each node that it reaches is collected behind its antecedents.
The delay is collected last, although it feeds itself. -/
theorem looped_collected :
    (collect looped [.output 2 0, .node 2] .value).nodes = [0, 1, 2] ∧
      (collect looped [.node 3] .value).nodes = [0, 1, 2, 3] ∧
      (∀ n, looped.Reaches [.output 2 0, .node 2] n → ¬ looped.OnCycle n) ∧
      ∀ (place n : Nat), (collect looped [.output 2 0, .node 2] .value).nodes[place]? = some n →
        ∀ antecedent ∈ (looped.node n).antecedents, antecedent < looped.nodes.size →
          antecedent ∈ (collect looped [.output 2 0, .node 2] .value).nodes.take place := by
  -- The walks are short enough to compute, and a list that has a sequence has no cycle.
  have gathered : reached looped [.output 2 0, .node 2] = [0, 1, 2] := by cbv
  have further : reached looped [.node 3] = [0, 1, 2, 3] := by cbv
  have sequenced : sequence looped [0, 1, 2] = .ok [0, 1, 2] := by cbv
  have closed : ∀ n ∈ [0, 1, 2], ∀ producer < looped.nodes.size,
      producer ∈ (looped.node n).producers → producer ∈ [0, 1, 2] := by decide
  have acyclic : ∀ n, looped.Reaches [.output 2 0, .node 2] n → ¬ looped.OnCycle n := by
    intro n reaches
    have listed : n ∈ [0, 1, 2] := gathered ▸ mem_reached_iff.mpr reaches
    exact sequence_acyclic sequenced closed listed
  exact ⟨gathered, further, acyclic,
    (collect_recursive looped [.output 2 0, .node 2] .value).2.2.2.2 acyclic⟩

end Patchbay
