import Patchbay.Fault.Basic
import Patchbay.Graph.Cycle

/-! Sequencing: an order of listed nodes in which each comes after its antecedents. -/

namespace Patchbay

/-- The place of each node in a list; of a repeated node, its last place. -/
def placesOf (nodes : List Nat) : Std.HashMap Nat Nat :=
  nodes.zipIdx.foldl (fun places (node, place) => places.insert node place) ∅

/-- The places of the listed antecedents of each listed node. -/
def antecedentPlaces (graph : Graph) (nodes : List Nat) : List (List Nat) :=
  let places := placesOf nodes
  nodes.map fun n => (graph.node n).antecedents.filterMap (places[·]?)

/-- For each place, the places that wait for it, in ascending order. -/
def descendantPlaces (antecedents : List (List Nat)) : Array (List Nat) :=
  antecedents.zipIdx.foldr
    (fun (feeders, place) table => feeders.foldl (fun table j => table.modify j (place :: ·)) table)
    (Array.replicate antecedents.length [])

/-- How many places still wait for something. -/
def waitingCount (waiting : Array Nat) : Nat := waiting.countP (0 < ·)

/-- Tells the listed places that one thing they waited for is done. Those that wait for nothing more
go on top of the stack. -/
def release : List Nat → Array Nat → List Nat → Array Nat × List Nat
  | [], waiting, stack => (waiting, stack)
  | place :: rest, waiting, stack =>
    if inside : place < waiting.size then
      match waiting[place] with
      | 0 => release rest waiting stack
      | 1 => release rest (waiting.set place 0) (place :: stack)
      | count + 2 => release rest (waiting.set place (count + 1)) stack
    else release rest waiting stack

/-- Each place that `release` puts on the stack stops waiting. -/
theorem release_balance (places : List Nat) (waiting : Array Nat) (stack : List Nat) :
    (release places waiting stack).2.length + waitingCount (release places waiting stack).1 ≤
      stack.length + waitingCount waiting := by
  -- Setting one count moves the number of waiting places by at most that one place.
  induction places generalizing waiting stack with
  | nil => simp [release]
  | cons place rest ih =>
    unfold release
    split
    · rename_i inside
      split
      · exact ih waiting stack
      · rename_i one
        refine Nat.le_trans (ih _ _) ?_
        have positive : 1 ≤ waiting.countP (0 < ·) :=
          Array.countP_pos_iff.mpr ⟨waiting[place], Array.getElem_mem inside, by simp [one]⟩
        simp [waitingCount, Array.countP_set, one]
        omega
      · rename_i count two
        refine Nat.le_trans (ih _ _) ?_
        have positive : 1 ≤ waiting.countP (0 < ·) :=
          Array.countP_pos_iff.mpr ⟨waiting[place], Array.getElem_mem inside, by simp [two]⟩
        have kept : (waiting.countP (0 < ·) - 1) + 1 = waiting.countP (0 < ·) :=
          Nat.sub_add_cancel positive
        simp only [waitingCount, Array.countP_set, two]
        simpa using Nat.le_of_eq kept
    · exact ih waiting stack

/-- Takes places from the stack, releasing those that wait for them, and lists them in reverse. -/
def emit (descendants : Array (List Nat)) (waiting : Array Nat) (stack listed : List Nat) :
    List Nat :=
  match stack with
  | [] => listed
  | place :: below =>
    let next := release (descendants[place]?.getD []) waiting below
    emit descendants next.1 next.2 (place :: listed)
termination_by stack.length + waitingCount waiting
decreasing_by
  have balance := release_balance (descendants[place]?.getD []) waiting below
  simp only [List.length_cons]
  omega

/-- The places of a list in the order in which they are emitted. It starts with the first free
place, and of the places that one emission frees the last goes on first. -/
def emitted (antecedents : List (List Nat)) : List Nat :=
  let waiting := (antecedents.map List.length).toArray
  let free := antecedents.zipIdx.filterMap fun (feeders, place) =>
    if feeders.isEmpty then some place else none
  (emit (descendantPlaces antecedents) waiting free []).reverse

/-- The first place below a bound that is not listed. -/
def firstMissing (bound : Nat) (places : List Nat) : Option Nat :=
  let marks := places.foldl Marks.add (.none bound)
  (List.range bound).find? fun place => !marks.has place

/-- Orders listed nodes so that each comes after its listed antecedents. On a cycle, the fault names
the first place that cannot be ordered. -/
def sequence (graph : Graph) (nodes : List Nat) : Except Fault (List Nat) :=
  let order := emitted (antecedentPlaces graph nodes)
  let table := nodes.toArray
  match firstMissing nodes.length order with
  | none => .ok (order.filterMap (table[·]?))
  | some place =>
    let context := match findCycle graph nodes with
      | some cycle => cycleText graph cycle
      | none => []
    .error { Fault.structural "sequence" .cycle with
      node := place
      nodeOp := (graph.node (table[place]?.getD 0)).op
      context := context }

/-- Whether each listed node comes after its listed antecedents. -/
def isSequenced (graph : Graph) (nodes : List Nat) : Bool :=
  (antecedentPlaces graph nodes).zipIdx.all fun (feeders, place) => feeders.all (· < place)

end Patchbay
