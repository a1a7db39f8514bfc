import Patchbay.Proofs.Definition.Compile
import Patchbay.Stream.Write

/-! Redundant roots: a root that is a constant, or that names a node which the roots before it
reach, can be left out. The collection, the definition or fault that it compiles to and the bytes
are the same without it. -/

namespace Patchbay

/-- A root is redundant behind other roots when they reach the node that it names, if it names
one. -/
def Graph.Redundant (graph : Graph) (roots : List Element) (root : Element) : Prop :=
  -- A constant names no node, and a number outside the graph is that of none.
  ∀ n, root.node? = some n → n < graph.nodes.size → graph.Reaches roots n

/-- The marks that the walks from a list of roots leave, and the nodes that they list, in
reverse. -/
def walkedFrom (graph : Graph) (roots : List Element) : Marks × List Nat :=
  (roots.filterMap Element.node?).foldl (walkRoot graph) (.none graph.nodes.size, [])

section Walks

variable {graph : Graph} {roots : List Element} {root : Element} {n : Nat}

/-- The collected nodes are those that the walks list. -/
theorem reached_eq_walkedFrom (graph : Graph) (roots : List Element) :
    reached graph roots = (walkedFrom graph roots).2.reverse := rfl

/-- The walks from later roots go on where those from the first ones ended. -/
theorem walkedFrom_append (graph : Graph) (roots later : List Element) :
    walkedFrom graph (roots ++ later) =
      (later.filterMap Element.node?).foldl (walkRoot graph) (walkedFrom graph roots) := by
  -- The walks are made in the order of the roots.
  rw [walkedFrom, List.filterMap_append, List.foldl_append]
  rfl

/-- The walks from a list of roots mark exactly the nodes that the roots reach. -/
theorem walkedFrom_has : (walkedFrom graph roots).1.has n = true ↔ graph.nodes.size ≤ n ∨
    graph.Reaches roots n := by
  -- After the last walk nothing is on the stack, so that what is marked has been listed.
  obtain ⟨ends, _⟩ := walkRoots_walked (roots.filterMap Element.node?) (.none graph.nodes.size, [])
    (walked_nothing graph roots) (fun _ member => member)
  refine (ends.marked n).trans (or_congr_right ?_)
  rw [← mem_reached_iff, reached_eq_walkedFrom, List.mem_reverse]
  rfl

/-- The walk from a redundant root changes nothing. -/
theorem walkedFrom_redundant (redundant : graph.Redundant roots root) :
    walkedFrom graph (roots ++ [root]) = walkedFrom graph roots := by
  rw [walkedFrom_append]
  cases named : root.node? with
  | none =>
    -- There is no node to walk from.
    rw [List.filterMap_cons_none named, List.filterMap_nil, List.foldl_nil]
  | some n =>
    -- The walk stops at once, since the node is marked.
    have marked : (walkedFrom graph roots).1.has n = true := by
      rcases Nat.lt_or_ge n graph.nodes.size with inside | outside
      · exact walkedFrom_has.mpr (.inr (redundant n named inside))
      · exact walkedFrom_has.mpr (.inl outside)
    rw [List.filterMap_cons_some named, List.filterMap_nil, List.foldl_cons, List.foldl_nil,
      walkRoot, if_pos marked]

/-- A redundant root can be left out of the roots without a change to what they collect. -/
theorem reached_redundant (redundant : graph.Redundant roots root) (later : List Element) :
    reached graph (roots ++ root :: later) = reached graph (roots ++ later) := by
  -- The later roots find the marks and the list as they were without it.
  rw [reached_eq_walkedFrom, reached_eq_walkedFrom, List.append_cons,
    walkedFrom_append graph (roots ++ [root]), walkedFrom_redundant redundant, ← walkedFrom_append]

/-- A root at the end that changes nothing is redundant. -/
theorem redundant_of_reached (same : reached graph (roots ++ [root]) = reached graph roots) :
    graph.Redundant roots root := by
  intro n named inside
  -- The root reaches the node that it names, which is then collected without the root as well.
  have reaches : graph.Reaches (roots ++ [root]) n :=
    ⟨inside, root, by simp, n, named, Relation.ReflTransGen.refl⟩
  rw [← mem_reached_iff, same] at reaches
  exact mem_reached_iff.mp reaches

end Walks

section Same

variable {graph : Graph} {one two : List Element}

/-- Roots matter to the collection only by the nodes that they collect. -/
theorem collect_eq_iff {rule : Dedup} :
    collect graph one rule = collect graph two rule ↔ reached graph one = reached graph two := by
  constructor
  · exact fun same => congrArg Collection.nodes same
  · -- The special indices, the constants and the controls are computed from the nodes.
    intro same
    rw [collect, collect, same]

/-- Roots matter to the compilation only by what they collect. -/
theorem compile_congr {rule : Dedup} (same : collect graph one rule = collect graph two rule)
    (name : Bytes) :
    compile graph one rule name = compile graph two rule name := by
  -- Sequencing starts from the collection, and the check from the sequence.
  have arranged : arrange graph one rule name = arrange graph two rule name := by
    rw [arrange, arrange, same]
  rw [compile, compile, arranged]

end Same

/-- A root changes nothing at the end of a list of roots exactly when it is redundant there. In
front of any later roots a redundant root can be left out: the collection is the same under every
rule, the compilation gives the same definition or the same fault, and the bytes are the same. -/
theorem collect_redundant_root (graph : Graph) (roots : List Element) (root : Element)
    (rule : Dedup) :
    (collect graph (roots ++ [root]) rule = collect graph roots rule ↔ graph.Redundant roots root) ∧
      (graph.Redundant roots root → ∀ later : List Element,
        collect graph (roots ++ root :: later) rule = collect graph (roots ++ later) rule ∧
        ∀ name, compile graph (roots ++ root :: later) rule name =
          compile graph (roots ++ later) rule name ∧
          ∀ strict,
            (compile graph (roots ++ root :: later) rule name >>= fun definition =>
              Stream.encode strict [definition]) =
              (compile graph (roots ++ later) rule name >>= fun definition =>
                Stream.encode strict [definition])) := by
  refine ⟨⟨fun same => redundant_of_reached (collect_eq_iff.mp same), fun redundant => ?_⟩,
    fun redundant later => ?_⟩
  · -- At the end of the list no roots are left to come.
    have last := reached_redundant redundant []
    rw [List.append_nil] at last
    exact collect_eq_iff.mpr last
  · -- All else is computed from the collection.
    have collected : collect graph (roots ++ root :: later) rule =
        collect graph (roots ++ later) rule :=
      collect_eq_iff.mpr (reached_redundant redundant later)
    have compiled := compile_congr collected
    exact ⟨collected, fun name => ⟨compiled name, fun strict => by rw [compiled name]⟩⟩

/-- The diamond compiles to its definition also when an output inside it and a constant are named as
roots. The nodes of the feedback graph reach each other, and so one of them is enough. -/
theorem diamond_redundant :
    diamond.Redundant diamondRoots (.output 1 0) ∧
      compile diamond (diamondRoots ++ [.output 1 0, .constant 1]) .value (utf8 "diamond") =
        .ok diamondDefinition ∧
      feedback.Redundant [.node 0] (.channel 1 0) ∧
      collect feedback [.node 0, .channel 1 0] .identity =
        collect feedback [.node 0] .identity := by
  have inner : diamond.Redundant diamondRoots (.output 1 0) := by
    rintro n named _
    obtain rfl := Option.some.inj named
    exact mem_reached_iff.mp (by rw [diamond_reached]; decide)
  have constant : diamond.Redundant diamondRoots (.constant 1) := by
    intro n named
    cases named
  have back : feedback.Redundant [.node 0] (.channel 1 0) := by
    rintro n named inside
    obtain rfl := Option.some.inj named
    -- The second node feeds the first one, which is the root.
    exact ⟨inside, .node 0, by simp, 0, rfl, .single (Graph.feeds_iff.mpr ⟨0, by decide⟩)⟩
  refine ⟨inner, ?_, back,
    (collect_redundant_root feedback [.node 0] (.channel 1 0) .identity).1.mpr back⟩
  -- First the output is left out, and then the constant.
  have first :=
    (collect_redundant_root diamond diamondRoots (.output 1 0) .value).2 inner [.constant 1]
  have second := (collect_redundant_root diamond diamondRoots (.constant 1) .value).2 constant []
  rw [(first.2 _).1, (second.2 _).1, List.append_nil, diamond_compiled]

end Patchbay
