import Patchbay.Control.Table
import Patchbay.Graph.Element
import Patchbay.Graph.Marks
import Std.Data.HashSet

/-! Collection: the nodes that the roots reach, antecedents first, with their parameters and
constants. -/

namespace Patchbay

/-- Which constants are one and the same in a definition: those with the same number, or those with
the same bits. Any other rule behaves like the first. -/
inductive Dedup where
  | identity
  | value
  | other (code : Int)
  deriving DecidableEq, Repr

/-- What tells two constants apart under a rule. -/
inductive ConstantKey where
  | number (n : Nat)
  | bits (bits : UInt32)
  deriving DecidableEq, Repr, Hashable

namespace Dedup

/-- The name of a rule. -/
def name : Dedup → Bytes
  | .identity => "identity"
  | .value => "value"
  | .other code => "policy(" ++ intText code ++ ")"

/-- Reads a rule by its name; no name stands for identity. -/
def parse? (text : Bytes) : Option Dedup :=
  if text = utf8 "identity" || text.isEmpty then some .identity
  else if text = utf8 "value" then some .value
  else none

/-- The complaint about a text that is no rule. -/
def unknownText (text : Bytes) : Bytes := "unknown constant dedup policy " ++ Text.quote text

/-- The key of a constant under a rule. -/
def key (rule : Dedup) (graph : Graph) (constant : Nat) : ConstantKey :=
  match rule with
  | .value => .bits (graph.constant constant).bits
  | _ => .number constant

end Dedup

/-- A node on the way down, with the nodes that feed it and were not looked at yet. -/
structure Visit where
  node : Nat
  pending : List Nat

/-- The work that a stack of visits still holds. -/
def Visit.work : List Visit → Nat
  | [] => 0
  | visit :: below => visit.pending.length + 1 + work below

/-- Walks down from the visits on the stack, marking each node before going below it and listing it
after all that feeds it. The list is in reverse. -/
def walk (graph : Graph) (stack : List Visit) (marks : Marks) (listed : List Nat) :
    Marks × List Nat :=
  match stack with
  | [] => (marks, listed)
  | ⟨node, []⟩ :: below => walk graph below marks (node :: listed)
  | ⟨node, next :: pending⟩ :: below =>
    if _fresh : marks.has next = false then
      walk graph (⟨next, (graph.node next).producers⟩ :: ⟨node, pending⟩ :: below)
        (marks.add next) listed
    else walk graph (⟨node, pending⟩ :: below) marks listed
termination_by (marks.left, Visit.work stack)
decreasing_by
  · simp only [Visit.work, List.length_nil]
    exact Prod.Lex.right _ (by omega)
  · exact Prod.Lex.left _ _ (Marks.left_add_lt _fresh)
  · simp only [Visit.work, List.length_cons]
    exact Prod.Lex.right _ (by omega)

/-- Walks down from one root, unless it is marked. -/
def walkRoot (graph : Graph) (state : Marks × List Nat) (root : Nat) : Marks × List Nat :=
  if state.1.has root then state
  else walk graph [⟨root, (graph.node root).producers⟩] (state.1.add root) state.2

/-- The nodes that the roots reach, each once and listed after all that feeds it outside a loop. -/
def reached (graph : Graph) (roots : List Element) : List Nat :=
  let start : Marks × List Nat := (.none graph.nodes.size, [])
  ((roots.filterMap Element.node?).foldl (walkRoot graph) start).2.reverse

/-- The special index of each node in turn: a control node gets the place of its parameters, which
are added to the table; any other node keeps its own. -/
def placeParameters (graph : Graph) (nodes : List Nat) : List Int × ControlTable :=
  let (specials, table) := nodes.foldl
    (fun (specials, table) n =>
      let node := graph.node n
      if isControlOp node.op then
        let (table, place) := ControlTable.append table node.parameters
        ((place : Int) :: specials, table)
      else (node.special :: specials, table))
    (([] : List Int), ControlTable.empty)
  (specials.reverse, table)

/-- The members of a list whose key did not occur before. -/
def firstByKey (key : Nat → ConstantKey) (constants : List Nat) : List Nat :=
  let (_, kept) := constants.foldl
    (fun (seen, kept) constant =>
      let k := key constant
      if seen.contains k then (seen, kept) else (seen.insert k, constant :: kept))
    ((∅ : Std.HashSet ConstantKey), ([] : List Nat))
  kept.reverse

/-- The constants that nodes use, in order of use and one for each key. -/
def usedConstants (graph : Graph) (rule : Dedup) (nodes : List Nat) : List Nat :=
  firstByKey (rule.key graph)
    (nodes.flatMap fun n => (graph.node n).inputs.filterMap Source.constant?)

/-- What a walk from the roots gathers. -/
structure Collection where
  nodes : List Nat
  specials : List Int
  constants : List Nat
  controls : ControlTable

/-- Gathers the nodes that the roots reach, with their special indices, constants and parameters. -/
def collect (graph : Graph) (roots : List Element) (rule : Dedup) : Collection :=
  let nodes := reached graph roots
  let (specials, controls) := placeParameters graph nodes
  ⟨nodes, specials, usedConstants graph rule nodes, controls⟩

end Patchbay
