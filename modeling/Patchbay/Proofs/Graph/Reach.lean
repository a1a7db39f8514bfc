import Mathlib.Logic.Relation
import Patchbay.Graph.Element

/-! Reachability: which nodes feed others through chains of inputs, which lie on a cycle, and which
of them a list of roots reaches. -/

namespace Patchbay

/-- Nothing is left twice when repeats are erased. -/
theorem eraseDups_nodup {α : Type} [BEq α] [LawfulBEq α] (items : List α) :
    items.eraseDups.Nodup := by
  -- The head is filtered out of the rest, which is no longer than before.
  induction size : items.length using Nat.strongRecOn generalizing items with
  | ind length ih =>
    cases items with
    | nil => simp
    | cons n rest =>
      rw [List.eraseDups_cons, List.nodup_cons]
      have shorter : (rest.filter fun m => !m == n).length < length := by
        have filtered := List.length_filter_le (fun m => !m == n) rest
        rw [List.length_cons] at size
        omega
      exact ⟨by simp, ih _ shorter _ rfl⟩

namespace Graph

/-- One node is the producer of an input of another. -/
def Feeds (graph : Graph) (producer node : Nat) : Prop := producer ∈ (graph.node node).producers

/-- A chain of inputs, perhaps an empty one, leads from one node to another. -/
def Leads (graph : Graph) : Nat → Nat → Prop := Relation.ReflTransGen graph.Feeds

/-- A node feeds itself through a chain of inputs. -/
def OnCycle (graph : Graph) (n : Nat) : Prop := Relation.TransGen graph.Feeds n n

/-- The roots reach a node of the graph when it leads to a node that one of them names. -/
def Reaches (graph : Graph) (roots : List Element) (n : Nat) : Prop :=
  n < graph.nodes.size ∧ ∃ root ∈ roots, ∃ named, root.node? = some named ∧ graph.Leads n named

/-- Every producer that a node of the graph names is a node of the graph. -/
def Linked (graph : Graph) : Prop :=
  ∀ node ∈ graph.nodes, ∀ producer ∈ node.producers, producer < graph.nodes.size

instance (graph : Graph) : Decidable graph.Linked :=
  inferInstanceAs
    (Decidable (∀ node ∈ graph.nodes, ∀ producer ∈ node.producers, producer < graph.nodes.size))

/-- A producer is what some input of the node takes its signal from. -/
theorem feeds_iff {graph : Graph} {producer n : Nat} :
    graph.Feeds producer n ↔ ∃ slot, Source.output producer slot ∈ (graph.node n).inputs := by
  -- Only an output source names a node at all.
  unfold Feeds Node.producers
  rw [List.mem_filterMap]
  constructor
  · rintro ⟨source, member, named⟩
    cases source with
    | output other slot =>
      simp only [Source.node?, Option.some.injEq] at named
      subst named
      exact ⟨slot, member⟩
    | constant index => simp [Source.node?] at named
  · rintro ⟨slot, member⟩
    exact ⟨_, member, rfl⟩

/-- The distinct antecedents of a node are exactly its producers. -/
theorem mem_antecedents_iff {graph : Graph} {producer n : Nat} :
    producer ∈ (graph.node n).antecedents ↔ graph.Feeds producer n := by
  -- Leaving out repeats leaves out no producer.
  simp [Node.antecedents, Feeds]

/-- A number that names no node of the graph has no producers. -/
theorem lt_size_of_feeds {graph : Graph} {producer n : Nat} (feeds : graph.Feeds producer n) :
    n < graph.nodes.size := by
  -- Outside the graph stands the blank node, which has no inputs.
  rcases Nat.lt_or_ge n graph.nodes.size with inside | outside
  · exact inside
  · have blank : graph.node n = .blank := by simp [node, Array.getElem?_eq_none outside]
    simp [Feeds, blank, Node.producers, Node.blank] at feeds

/-- In a linked graph a producer is always a node of the graph. -/
theorem Linked.lt_size {graph : Graph} (linked : graph.Linked) {producer n : Nat}
    (feeds : graph.Feeds producer n) : producer < graph.nodes.size := by
  -- The consumer is a node of the graph, and so the link applies to its producers.
  have inside := lt_size_of_feeds feeds
  have found : graph.node n = graph.nodes[n] := by simp [node, inside]
  rw [Feeds, found] at feeds
  exact linked _ (Array.getElem_mem inside) _ feeds

/-- Whatever a reached node takes an input from is reached as well. -/
theorem Reaches.of_feeds {graph : Graph} {roots : List Element} {producer n : Nat}
    (reached : graph.Reaches roots n) (feeds : graph.Feeds producer n)
    (inside : producer < graph.nodes.size) : graph.Reaches roots producer := by
  -- One more input is put in front of the chain that leads to the root.
  obtain ⟨_, root, member, named, names, leads⟩ := reached
  exact ⟨inside, root, member, named, names, Relation.ReflTransGen.head feeds leads⟩

/-- A node on a cycle is a node of the graph. -/
theorem OnCycle.lt_size {graph : Graph} {n : Nat} (cycle : graph.OnCycle n) :
    n < graph.nodes.size := by
  -- The last step of the chain is an input of the node itself.
  obtain ⟨_, _, feeds⟩ := (Relation.TransGen.tail'_iff).mp cycle
  exact lt_size_of_feeds feeds

/-- A node closes a cycle when its producer is fed by the node itself. -/
theorem OnCycle.of_leads {graph : Graph} {producer n : Nat} (feeds : graph.Feeds producer n)
    (back : graph.Leads n producer) : graph.OnCycle n :=
  -- One more step goes on from the way back.
  Relation.TransGen.tail' back feeds

end Graph

/-- In a list that starts with its last member, all that a member needs comes before it. -/
def Preceded (needs : Nat → Nat → Prop) : List Nat → Prop
  | [] => True
  | n :: earlier => (∀ m, needs m n → m ∈ earlier) ∧ Preceded needs earlier

/-- Read from its first member on, such a list has what a member needs in front of it. -/
theorem Preceded.mem_take {needs : Nat → Nat → Prop} {listed : List Nat}
    (preceded : Preceded needs listed)
    {place n m : Nat} (placed : listed.reverse[place]? = some n) (needed : needs m n) :
    m ∈ listed.reverse.take place := by
  -- The last member is the head of the list, where the recursion looks.
  induction listed with
  | nil => simp at placed
  | cons last earlier ih =>
    rw [List.reverse_cons] at placed ⊢
    rcases Nat.lt_or_ge place earlier.reverse.length with before | after
    · rw [List.getElem?_append_left before] at placed
      rw [List.take_append_of_le_length (Nat.le_of_lt before)]
      exact ih preceded.2 placed
    · rw [List.getElem?_append_right after] at placed
      have same : place = earlier.reverse.length := by
        have short := (List.getElem?_eq_some_iff.mp placed).1
        simp only [List.length_singleton] at short
        omega
      subst same
      simp only [Nat.sub_self, List.getElem?_cons_zero, Option.some.injEq] at placed
      subst placed
      simpa using preceded.1 m needed

end Patchbay
