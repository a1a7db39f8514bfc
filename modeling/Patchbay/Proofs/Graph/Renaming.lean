import Mathlib.Data.Set.Function
import Patchbay.Proofs.Graph.Sequence

/-! Renamed graphs: when the part of a graph that its roots refer to stands in another graph under
other numbers, both are collected and sequenced alike. -/

namespace Patchbay

/-- A source under other numbers. -/
def Source.rename (node constant : Nat → Nat) : Source → Source
  | .output n slot => .output (node n) slot
  | .constant index => .constant (constant index)

/-- An element under other numbers. -/
def Element.rename (node constant : Nat → Nat) : Element → Element
  | .node n => .node (node n)
  | .output n slot => .output (node n) slot
  | .constant index => .constant (constant index)
  | .channel n slot => .channel (node n) slot

/-- A visit under other numbers. -/
def Visit.rename (node : Nat → Nat) (visit : Visit) : Visit :=
  ⟨node visit.node, visit.pending.map node⟩

/-- A node that stands in another graph under other numbers. -/
structure Node.Renamed (node constant : Nat → Nat) (one two : Node) : Prop where
  op : two.op = one.op
  rate : two.rate = one.rate
  outputs : two.outputs = one.outputs
  special : two.special = one.special
  descriptors : two.descriptors = one.descriptors
  inputs : two.inputs = one.inputs.map (Source.rename node constant)

instance (node constant : Nat → Nat) (one two : Node) : Decidable (one.Renamed node constant two) :=
  decidable_of_iff (two.op = one.op ∧ two.rate = one.rate ∧ two.outputs = one.outputs ∧
    two.special = one.special ∧
      two.descriptors = one.descriptors ∧ two.inputs = one.inputs.map (Source.rename node constant))
    ⟨fun ⟨op, rate, outputs, special, descriptors, inputs⟩ =>
      ⟨op, rate, outputs, special, descriptors, inputs⟩,
      fun ⟨op, rate, outputs, special, descriptors, inputs⟩ =>
        ⟨op, rate, outputs, special, descriptors, inputs⟩⟩

namespace Graph

/-- The roots refer to a number when a chain of inputs leads from it to a node that one of them
names. Unlike a number that they reach, it need not be that of a node of the graph. -/
def Refers (graph : Graph) (roots : List Element) (n : Nat) : Prop :=
  ∃ root ∈ roots, ∃ named, root.node? = some named ∧ graph.Leads n named

/-- What the roots refer to takes an input from a constant. -/
def Uses (graph : Graph) (roots : List Element) (constant : Nat) : Prop :=
  ∃ n, graph.Refers roots n ∧ .constant constant ∈ (graph.node n).inputs

/-- Whatever feeds a node that the roots refer to is referred to as well. -/
theorem Refers.of_feeds {graph : Graph} {roots : List Element} {producer n : Nat}
    (refers : graph.Refers roots n)
    (feeds : graph.Feeds producer n) : graph.Refers roots producer := by
  -- The path to the node is one step longer.
  obtain ⟨root, member, named, names, leads⟩ := refers
  exact ⟨root, member, named, names, Relation.ReflTransGen.head feeds leads⟩

/-- The roots refer to the nodes that they name. -/
theorem refers_of_mem {graph : Graph} {roots : List Element} {n : Nat}
    (named : n ∈ roots.filterMap Element.node?) :
    graph.Refers roots n := by
  -- A node is reached from itself.
  obtain ⟨root, member, names⟩ := List.mem_filterMap.mp named
  exact ⟨root, member, n, names, Relation.ReflTransGen.refl⟩

/-- In a linked graph, roots that name nodes of the graph refer to nodes of the graph only. -/
theorem Linked.lt_of_refers {graph : Graph} (linked : graph.Linked) {roots : List Element}
    (rooted : ∀ n ∈ roots.filterMap Element.node?, n < graph.nodes.size) {n : Nat}
    (refers : graph.Refers roots n) :
    n < graph.nodes.size := by
  -- The node is named by a root itself, or it is the producer of some input.
  obtain ⟨root, member, named, names, leads⟩ := refers
  cases leads using Relation.ReflTransGen.head_induction_on with
  | refl => exact rooted _ (List.mem_filterMap.mpr ⟨root, member, names⟩)
  | head feeds _ => exact linked.lt_size feeds

end Graph

/-- The part of one graph that its roots refer to is found in another graph under other numbers. No
two numbers of this part become one, and all that is said of its nodes and constants stays, with the
order and kind of inputs and roots. -/
structure Renames (node constant : Nat → Nat) (one : Graph) (first : List Element) (two : Graph)
    (second : List Element) : Prop where
  apart : Set.InjOn node {n | one.Refers first n}
  constantsApart : Set.InjOn constant {index | one.Uses first index}
  present : ∀ n, one.Refers first n → (node n < two.nodes.size ↔ n < one.nodes.size)
  kept : ∀ n, one.Refers first n → (one.node n).Renamed node constant (two.node (node n))
  value : ∀ index, one.Uses first index → two.constant (constant index) = one.constant index
  roots : second = first.map (Element.rename node constant)

/-- Erasing repeats and changing numbers can be done in either order, as long as different numbers
stay different. -/
theorem eraseDups_map {rename : Nat → Nat} {numbers : List Nat}
    (apart : Set.InjOn rename {n | n ∈ numbers}) :
    (numbers.map rename).eraseDups = numbers.eraseDups.map rename := by
  -- The head is filtered out of the rest, which is no longer than before.
  induction size : numbers.length using Nat.strongRecOn generalizing numbers with
  | ind length ih =>
    cases numbers with
    | nil => rfl
    | cons n rest =>
      have shorter : (rest.filter fun m => !m == n).length < length := by
        have filtered := List.length_filter_le (fun m => !m == n) rest
        rw [List.length_cons] at size
        omega
      have others : (rest.map rename).filter (fun m => !m == rename n) =
          (rest.filter fun m => !m == n).map rename := by
        rw [List.filter_map]
        refine congrArg _ (List.filter_congr fun m member => ?_)
        have same : rename m = rename n ↔ m = n :=
          apart.eq_iff (List.mem_cons_of_mem _ member) List.mem_cons_self
        simp only [Function.comp_apply, Bool.beq_eq_decide_eq, same]
      rw [List.map_cons, List.eraseDups_cons, List.eraseDups_cons, List.map_cons, others,
        ih _ shorter ?_ rfl]
      exact apart.mono fun m member => List.mem_cons_of_mem _ (List.mem_filter.mp member).1

namespace Marks

/-- Two sets of marks that agree on some numbers and on what these become. -/
def Agree (rename : Nat → Nat) (known : Nat → Prop) (one two : Marks) : Prop :=
  ∀ n, known n → two.has (rename n) = one.has n

/-- Marks that agree still do so when the same number is marked in both. -/
theorem Agree.add {rename : Nat → Nat} {known : Nat → Prop} {one two : Marks}
    (agree : Agree rename known one two)
    (apart : Set.InjOn rename {n | known n}) {m : Nat} (refers : known m) :
    Agree rename known (one.add m) (two.add (rename m)) := by
  -- Different known numbers stay different, so that the new mark is the same one in both.
  intro n here
  rw [Bool.eq_iff_iff, has_add, has_add, agree n here, apart.eq_iff here refers]

end Marks

namespace Renames

variable {node constant : Nat → Nat} {one two : Graph} {first second : List Element}

/-- Marks on both graphs agree as long as no number is marked. -/
theorem agree_none (renames : Renames node constant one first two second) :
    Marks.Agree node (one.Refers first) (.none one.nodes.size) (.none two.nodes.size) := by
  -- Without marks only the bounds of the graphs count, and these agree.
  intro n refers
  rw [Bool.eq_iff_iff, Marks.has_none, Marks.has_none, ← Nat.not_lt, ← Nat.not_lt,
    renames.present n refers]

/-- The producers of a node are those of its other number under their other numbers. -/
theorem producers (renames : Renames node constant one first two second) {n : Nat}
    (refers : one.Refers first n) :
    (two.node (node n)).producers = (one.node n).producers.map node := by
  -- The inputs are renamed one by one, and a constant has no producer in either graph.
  rw [Node.producers, Node.producers, (renames.kept n refers).inputs, List.filterMap_map,
    List.map_filterMap]
  refine List.filterMap_congr fun source _ => ?_
  cases source <;> rfl

/-- The antecedents of a node are those of its other number under their other numbers. -/
theorem antecedents (renames : Renames node constant one first two second) {n : Nat}
    (refers : one.Refers first n) :
    (two.node (node n)).antecedents = (one.node n).antecedents.map node := by
  -- Removing repeats goes the same way, because producers that differ stay different.
  rw [Node.antecedents, Node.antecedents, renames.producers refers]
  exact eraseDups_map (renames.apart.mono fun producer feeds => refers.of_feeds feeds)

/-- The nodes of visits and what is pending there are referred to. -/
def Known (graph : Graph) (roots : List Element) (stack : List Visit) : Prop :=
  ∀ visit ∈ stack, graph.Refers roots visit.node ∧
    ∀ producer ∈ visit.pending, graph.Refers roots producer

/-- What a visit of a node that is referred to starts with is referred to. -/
theorem known_producers {graph : Graph} {roots : List Element} {n : Nat}
    (refers : graph.Refers roots n) :
    Known graph roots [⟨n, (graph.node n).producers⟩] :=
  -- The node is referred to, and so are the producers that feed it.
  List.forall_mem_singleton.mpr ⟨refers, fun _ feeds => refers.of_feeds feeds⟩

/-- Taking one producer from what is pending leaves only numbers that are referred to. -/
theorem Known.skip {graph : Graph} {roots : List Element} {n next : Nat} {pending : List Nat}
    {below : List Visit} (known : Known graph roots (⟨n, next :: pending⟩ :: below)) :
    graph.Refers roots next ∧ Known graph roots (⟨n, pending⟩ :: below) := by
  -- The next producer is one of those that wait.
  obtain ⟨⟨here, waiting⟩, later⟩ := List.forall_mem_cons.mp known
  obtain ⟨refers, rest⟩ := List.forall_mem_cons.mp waiting
  exact ⟨refers, List.forall_mem_cons.mpr ⟨⟨here, rest⟩, later⟩⟩

/-- Both graphs are walked in the same way. -/
theorem walk_rename (renames : Renames node constant one first two second) {stack : List Visit}
    {marks others : Marks}
    (agree : Marks.Agree node (one.Refers first) marks others) (known : Known one first stack)
    (listed : List Nat) :
    Marks.Agree node (one.Refers first) (walk one stack marks listed).1
        (walk two (stack.map (Visit.rename node)) others (listed.map node)).1 ∧
      (walk two (stack.map (Visit.rename node)) others (listed.map node)).2 =
        (walk one stack marks listed).2.map node := by
  -- The induction follows the walk of the first graph, and the other one makes the same step each
  -- time.
  fun_induction walk one stack marks listed generalizing others with
  | case1 marks listed =>
    rw [List.map_nil, walk]
    exact ⟨agree, rfl⟩
  | case2 marks listed n below ih =>
    rw [List.map_cons, Visit.rename, List.map_nil, walk]
    exact ih agree fun visit member => known visit (List.mem_cons_of_mem _ member)
  | case3 marks listed n next pending below fresh ih =>
    obtain ⟨refers, rest⟩ := known.skip
    have same : others.has (node next) = false := by rw [agree next refers, fresh]
    rw [List.map_cons, Visit.rename, List.map_cons, walk, dif_pos same, renames.producers refers]
    exact ih (agree.add renames.apart refers)
      (List.forall_mem_append.mpr ⟨known_producers refers, rest⟩)
  | case4 marks listed n next pending below marked ih =>
    obtain ⟨refers, rest⟩ := known.skip
    have same : ¬ others.has (node next) = false := by rwa [agree next refers]
    rw [List.map_cons, Visit.rename, List.map_cons, walk, dif_neg same]
    exact ih agree rest

/-- Two walks that have come equally far. -/
def Abreast (node : Nat → Nat) (known : Nat → Prop) (state other : Marks × List Nat) : Prop :=
  Marks.Agree node known state.1 other.1 ∧ other.2 = state.2.map node

/-- Walking from a root leaves both graphs equally far. -/
theorem walkRoot_rename (renames : Renames node constant one first two second)
    {state other : Marks × List Nat}
    (abreast : Abreast node (one.Refers first) state other) {root : Nat}
    (refers : one.Refers first root) :
    Abreast node (one.Refers first) (walkRoot one state root) (walkRoot two other (node root)) := by
  -- A root that is marked is skipped in both graphs, and any other is walked from in both.
  obtain ⟨agree, lists⟩ := abreast
  unfold walkRoot
  rw [agree root refers, renames.producers refers, lists]
  split
  · exact ⟨agree, lists⟩
  · exact renames.walk_rename (agree.add renames.apart refers) (known_producers refers) state.2

/-- Walking from one root after another leaves both graphs equally far. -/
theorem walkRoots_rename (renames : Renames node constant one first two second)
    {state other : Marks × List Nat}
    (abreast : Abreast node (one.Refers first) state other) (named : List Nat)
    (refers : ∀ n ∈ named, one.Refers first n) :
    Abreast node (one.Refers first) (named.foldl (walkRoot one) state)
      ((named.map node).foldl (walkRoot two) other) := by
  -- The roots are walked from in turn, each in both graphs.
  induction named generalizing state other with
  | nil => exact abreast
  | cons root rest ih =>
    obtain ⟨here, later⟩ := List.forall_mem_cons.mp refers
    exact ih (renames.walkRoot_rename abreast here) later

/-- The nodes that the roots name are named under their other numbers. -/
theorem named (renames : Renames node constant one first two second) :
    second.filterMap Element.node? = (first.filterMap Element.node?).map node := by
  -- An element names a node in one graph exactly when it names its other number in the other.
  rw [renames.roots, List.filterMap_map, List.map_filterMap]
  refine List.filterMap_congr fun element _ => ?_
  cases element <;> rfl

/-- The same nodes are collected from both graphs, in the same order. -/
theorem reached_rename (renames : Renames node constant one first two second) :
    reached two second = (reached one first).map node := by
  -- Both walks start without marks and visit the named roots in turn.
  have start : Abreast node (one.Refers first) (.none one.nodes.size, [])
      (.none two.nodes.size, []) :=
    ⟨renames.agree_none, rfl⟩
  obtain ⟨_, lists⟩ :=
    renames.walkRoots_rename start (first.filterMap Element.node?) fun n => Graph.refers_of_mem
  rw [reached, reached, renames.named, List.map_reverse]
  exact congrArg List.reverse lists

/-- Under other numbers, listed nodes have the places that they had. -/
theorem placesOf_rename {known : Nat → Prop} (apart : Set.InjOn node {n | known n})
    {nodes : List Nat} (listed : ∀ n ∈ nodes, known n) {n : Nat} (here : known n) :
    (placesOf (nodes.map node))[node n]? = (placesOf nodes)[n]? := by
  -- The table of places is filled from both lists in the same order.
  rw [placesOf, placesOf, List.zipIdx_map, List.foldl_map]
  refine (fills_insert (fun item : Nat × Nat => item.1) Prod.snd).rename
    (fills_insert (fun item : Nat × Nat => node item.1) Prod.snd) (fun _ _ => rfl) apart
      (fun item member => ?_) here
  exact listed _ (List.mem_of_getElem? (List.mem_zipIdx_iff_getElem?.mp member))

/-- The antecedents of listed nodes have the same places in both graphs. -/
theorem antecedentPlaces_rename (renames : Renames node constant one first two second)
    {nodes : List Nat} (listed : ∀ n ∈ nodes, one.Refers first n) :
    antecedentPlaces two (nodes.map node) = antecedentPlaces one nodes := by
  -- Each node has the antecedents of its other number, at the same places.
  simp only [antecedentPlaces, List.map_map]
  refine List.map_congr_left fun n member => ?_
  have refers := listed n member
  rw [Function.comp_apply, renames.antecedents refers, List.filterMap_map]
  exact List.filterMap_congr fun producer feeds =>
    placesOf_rename renames.apart listed (refers.of_feeds (Graph.mem_antecedents_iff.mp feeds))

/-- A path is closed at the same visit under other numbers. -/
theorem closeAt_rename {known : Nat → Prop} (apart : Set.InjOn node {n | known n}) {n : Nat}
    (here : known n) {path : List Visit} (visited : ∀ visit ∈ path, known visit.node) :
    closeAt (node n) (path.map (Visit.rename node)) = (closeAt n path).map node := by
  -- The search goes up the path, and compares numbers that stay different.
  induction path with
  | nil => rfl
  | cons visit below ih =>
    obtain ⟨top, later⟩ := List.forall_mem_cons.mp visited
    rw [List.map_cons, closeAt, closeAt, ih later]
    have same : (visit.rename node).node = node n ↔ visit.node = n := apart.eq_iff top here
    simp only [same]
    split <;> rfl

/-- Only nodes of the path are on the cycle that it is closed to. -/
theorem mem_closeAt {n m : Nat} {path : List Visit} (member : m ∈ closeAt n path) :
    ∃ visit ∈ path, visit.node = m := by
  -- The cycle is the part of the path up to where it closes.
  induction path with
  | nil => cases member
  | cons visit below ih =>
    unfold closeAt at member
    split at member
    · exact ⟨visit, List.mem_cons_self, (List.mem_singleton.mp member).symm⟩
    · rcases List.mem_cons.mp member with same | member
      · exact ⟨visit, List.mem_cons_self, same.symm⟩
      · obtain ⟨other, listed, same⟩ := ih member
        exact ⟨other, List.mem_cons_of_mem _ listed, same⟩

/-- Two searches for a cycle that have entered and finished the same nodes. -/
structure Level (node : Nat → Nat) (known : Nat → Prop) (seen other : Progress) : Prop where
  entered : Marks.Agree node known seen.entered other.entered
  finished : Marks.Agree node known seen.finished other.finished

/-- Two searches for a cycle that have come equally far, or that have found the same cycle. -/
inductive Searched (node : Nat → Nat) (known : Nat → Prop) :
    Except (List Nat) Progress → Except (List Nat) Progress → Prop
  /-- Both go on. -/
  | going {seen other : Progress} :
      Level node known seen other → Searched node known (.ok seen) (.ok other)
  /-- Both have closed the same cycle. -/
  | closed {cycle : List Nat} :
      (∀ n ∈ cycle, known n) → Searched node known (.error cycle) (.error (cycle.map node))

/-- Both graphs are searched for a cycle in the same way. -/
theorem followCycle_rename (renames : Renames node constant one first two second)
    {member other : Nat → Bool}
    (members : ∀ n, one.Refers first n → other (node n) = member n) {path : List Visit}
    {seen reached : Progress}
    (level : Level node (one.Refers first) seen reached) (known : Known one first path) :
    Searched node (one.Refers first) (followCycle one member path seen)
      (followCycle two other (path.map (Visit.rename node)) reached) := by
  -- As for the walk, the other graph makes the same step each time.
  fun_induction followCycle one member path seen generalizing reached with
  | case1 seen =>
    rw [List.map_nil, followCycle]
    exact .going level
  | case2 seen n below ih =>
    obtain ⟨⟨here, _⟩, later⟩ := List.forall_mem_cons.mp known
    rw [List.map_cons, Visit.rename, List.map_nil, followCycle]
    exact ih ⟨level.entered, level.finished.add renames.apart here⟩ later
  | case3 seen n next pending below absent ih =>
    obtain ⟨refers, rest⟩ := known.skip
    have same : (!other (node next)) = true := by rw [members next refers, absent]
    rw [List.map_cons, Visit.rename, List.map_cons, followCycle, if_pos same]
    exact ih level rest
  | case4 seen n next pending below present fresh ih =>
    obtain ⟨refers, rest⟩ := known.skip
    have same : ¬ (!other (node next)) = true := by rwa [members next refers]
    have new : reached.entered.has (node next) = false := by rw [level.entered next refers, fresh]
    rw [List.map_cons, Visit.rename, List.map_cons, followCycle, if_neg same, dif_pos new,
      renames.antecedents refers]
    refine ih ⟨level.entered.add renames.apart refers, level.finished⟩
      (List.forall_mem_cons.mpr ⟨⟨refers, ?_⟩, rest⟩)
    exact fun producer feeds => refers.of_feeds (Graph.mem_antecedents_iff.mp feeds)
  | case5 seen n next pending below present old done ih =>
    obtain ⟨refers, rest⟩ := known.skip
    have same : ¬ (!other (node next)) = true := by rwa [members next refers]
    have met : ¬ reached.entered.has (node next) = false := by rwa [level.entered next refers]
    have left : reached.finished.has (node next) = true := by rw [level.finished next refers, done]
    rw [List.map_cons, Visit.rename, List.map_cons, followCycle, if_neg same, dif_neg met,
      if_pos left]
    exact ih level rest
  | case6 seen n next pending below present old open_ =>
    obtain ⟨refers, rest⟩ := known.skip
    have same : ¬ (!other (node next)) = true := by rwa [members next refers]
    have met : ¬ reached.entered.has (node next) = false := by rwa [level.entered next refers]
    have undone : ¬ reached.finished.has (node next) = true := by rwa [level.finished next refers]
    rw [List.map_cons, Visit.rename, List.map_cons, followCycle, if_neg same, dif_neg met,
      if_neg undone]
    -- The node met again is on the path, and both paths are closed there.
    have visited : ∀ visit ∈ (⟨n, pending⟩ :: below : List Visit), one.Refers first visit.node :=
      fun visit listed => (rest visit listed).1
    have closes := closeAt_rename renames.apart refers visited
    rw [List.map_cons, Visit.rename] at closes
    rw [closes]
    refine .closed fun m listed => ?_
    obtain ⟨visit, on, rfl⟩ := mem_closeAt listed
    exact visited visit on

/-- A search that starts at a node goes the same way in both graphs. -/
theorem searchFrom_rename (renames : Renames node constant one first two second)
    {member other : Nat → Bool}
    (members : ∀ n, one.Refers first n → other (node n) = member n) {seen reached : Progress}
    (level : Level node (one.Refers first) seen reached) {n : Nat} (refers : one.Refers first n) :
    Searched node (one.Refers first) (searchFrom one member seen n)
      (searchFrom two other reached (node n)) := by
  -- A node that was entered is passed over in both graphs, and any other starts a search.
  unfold searchFrom
  rw [level.entered n refers, renames.antecedents refers]
  split
  · exact .going level
  · refine renames.followCycle_rename members
      ⟨level.entered.add renames.apart refers, level.finished⟩
      (List.forall_mem_singleton.mpr ⟨refers, ?_⟩)
    exact fun producer feeds => refers.of_feeds (Graph.mem_antecedents_iff.mp feeds)

/-- A search over listed nodes goes the same way in both graphs. -/
theorem searchAll_rename (renames : Renames node constant one first two second)
    {member other : Nat → Bool}
    (members : ∀ n, one.Refers first n → other (node n) = member n) {nodes : List Nat}
    (listed : ∀ n ∈ nodes, one.Refers first n) {seen reached : Progress}
    (level : Level node (one.Refers first) seen reached) :
    Searched node (one.Refers first) (nodes.foldlM (searchFrom one member) seen)
      ((nodes.map node).foldlM (searchFrom two other) reached) := by
  induction nodes generalizing seen reached with
  | nil => exact .going level
  | cons n rest ih =>
    obtain ⟨here, later⟩ := List.forall_mem_cons.mp listed
    rw [List.map_cons, List.foldlM_cons, List.foldlM_cons]
    -- The search goes on with the next node unless a cycle was found.
    have step := renames.searchFrom_rename members level here
    generalize searchFrom one member seen n = result at step
    generalize searchFrom two other reached (node n) = otherResult at step
    cases step with
    | going level => exact ih later level
    | closed known => exact .closed known

/-- The same cycle is found among listed nodes of both graphs. -/
theorem findCycle_rename (renames : Renames node constant one first two second) {nodes : List Nat}
    (listed : ∀ n ∈ nodes, one.Refers first n) :
    (findCycle one nodes = none ∧ findCycle two (nodes.map node) = none) ∨
      ∃ cycle, findCycle one nodes = some cycle ∧
        findCycle two (nodes.map node) = some (cycle.map node) ∧
        ∀ n ∈ cycle, one.Refers first n := by
  -- The members are marked first, one by one.
  have members : ∀ n, one.Refers first n →
      ((nodes.map node).foldl Marks.add (.none two.nodes.size)).has (node n) =
        (nodes.foldl Marks.add (.none one.nodes.size)).has n := by
    intro n refers
    rw [Bool.eq_iff_iff, Marks.has_addAll, Marks.has_addAll, renames.agree_none n refers]
    refine or_congr_left ?_
    rw [List.mem_map]
    constructor
    · rintro ⟨m, member, same⟩
      rwa [← renames.apart (listed m member) refers same]
    · exact fun member => ⟨n, member, rfl⟩
  have start : Level node (one.Refers first) ⟨.none one.nodes.size, .none one.nodes.size⟩
      ⟨.none two.nodes.size, .none two.nodes.size⟩ := ⟨renames.agree_none, renames.agree_none⟩
  have search := renames.searchAll_rename members listed start
  simp only [findCycle]
  revert search
  generalize List.foldlM (m := Except (List Nat)) _ _ nodes = result
  generalize List.foldlM (m := Except (List Nat)) _ _ (nodes.map node) = other
  intro search
  cases search with
  | going level => exact .inl ⟨rfl, rfl⟩
  | closed known => exact .inr ⟨_, rfl, rfl, known⟩

/-- The same cycle has the same text in both graphs. -/
theorem cycleText_rename (renames : Renames node constant one first two second) {cycle : List Nat}
    (known : ∀ n ∈ cycle, one.Refers first n) :
    cycleText two (cycle.map node) = cycleText one cycle := by
  -- The text is made of the operators, which are kept.
  have ops : (cycle.map node).map (fun n => (two.node n).op) =
      cycle.map fun n => (one.node n).op := by
    rw [List.map_map]
    exact List.map_congr_left fun n member => (renames.kept n (known n member)).op
  simp only [cycleText, ops]

/-- Listed nodes of both graphs are sequenced in the same way, or fail with the same fault. -/
theorem sequence_rename (renames : Renames node constant one first two second) {nodes : List Nat}
    (listed : ∀ n ∈ nodes, one.Refers first n) :
    sequence two (nodes.map node) = (sequence one nodes).map (List.map node) := by
  have places := renames.antecedentPlaces_rename listed
  simp only [sequence, places, List.length_map]
  split
  · -- The places are the same, and at each of them stands the node under its other number.
    rw [Except.map, List.map_filterMap]
    exact congrArg Except.ok (List.filterMap_congr fun place _ => by simp)
  · rename_i place missing
    have inside := (firstMissing_eq_some missing).1
    have refers := listed _ (List.getElem_mem inside)
    have op : (two.node ((nodes.map node).toArray[place]?.getD 0)).op =
        (one.node (nodes.toArray[place]?.getD 0)).op := by
      simp [inside, (renames.kept _ refers).op]
    -- The fault differs by the text of the cycle at most, and that is the same too.
    rcases renames.findCycle_rename listed with ⟨none, other⟩ | ⟨cycle, found, other, known⟩
    · rw [none, other, op]
      rfl
    · rw [found, other, op]
      simp only [renames.cycleText_rename known]
      rfl

end Renames

end Patchbay
