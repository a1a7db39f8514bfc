import Patchbay.Graph.Collect

/-! Cycles: a walk along antecedents that comes back to a node it has not finished. -/

namespace Patchbay

/-- The nodes of a path from its top down to the first visit of a node. -/
def closeAt (node : Nat) : List Visit → List Nat
  | [] => []
  | visit :: below => if visit.node = node then [visit.node] else visit.node :: closeAt node below

/-- How far a search has come: the nodes that it entered, and those of them that it finished. -/
structure Progress where
  entered : Marks
  finished : Marks

/-- Follows antecedents from the visits on the path. A node that was entered and not finished is on
the path, so that meeting it again closes a cycle. -/
def followCycle (graph : Graph) (member : Nat → Bool) (path : List Visit) (seen : Progress) :
    Except (List Nat) Progress :=
  match path with
  | [] => .ok seen
  | ⟨node, []⟩ :: below =>
    followCycle graph member below { seen with finished := seen.finished.add node }
  | ⟨node, next :: pending⟩ :: below =>
    if !member next then followCycle graph member (⟨node, pending⟩ :: below) seen
    else if _fresh : seen.entered.has next = false then
      followCycle graph member
        (⟨next, (graph.node next).antecedents⟩ :: ⟨node, pending⟩ :: below)
        { seen with entered := seen.entered.add next }
    else if seen.finished.has next then followCycle graph member (⟨node, pending⟩ :: below) seen
    else .error (closeAt next (⟨node, pending⟩ :: below))
termination_by (seen.entered.left, Visit.work path)
decreasing_by
  · simp only [Visit.work, List.length_nil]
    exact Prod.Lex.right _ (by omega)
  · simp only [Visit.work, List.length_cons]
    exact Prod.Lex.right _ (by omega)
  · exact Prod.Lex.left _ _ (Marks.left_add_lt _fresh)
  · simp only [Visit.work, List.length_cons]
    exact Prod.Lex.right _ (by omega)

/-- Starts a search at a node, unless it was entered. -/
def searchFrom (graph : Graph) (member : Nat → Bool) (seen : Progress) (start : Nat) :
    Except (List Nat) Progress :=
  if seen.entered.has start then .ok seen
  else
    followCycle graph member [⟨start, (graph.node start).antecedents⟩]
      { seen with entered := seen.entered.add start }

/-- A cycle among the listed nodes, each an antecedent of the next and the last one of the first. -/
def findCycle (graph : Graph) (nodes : List Nat) : Option (List Nat) :=
  let members := nodes.foldl Marks.add (.none graph.nodes.size)
  let start : Progress := ⟨.none graph.nodes.size, .none graph.nodes.size⟩
  match nodes.foldlM (searchFrom graph members.has) start with
  | .ok _ => none
  | .error cycle => some cycle

/-- A cycle in words: its operators, ending with the first one again. -/
def cycleText (graph : Graph) (cycle : List Nat) : Bytes :=
  let ops := cycle.map fun n => (graph.node n).op
  "cycle " ++ Bytes.join " -> " (ops ++ ops.take 1)

end Patchbay
