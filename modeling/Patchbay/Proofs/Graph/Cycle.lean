import Mathlib.Data.List.Chain
import Patchbay.Proofs.Graph.Sequence
import Patchbay.Proofs.Graph.Steps

/-! Cycles among listed nodes: the search along antecedents finds one exactly when there is one, and
what it finds goes round once. -/

namespace Patchbay

namespace Graph

/-- One listed node is an antecedent of another. -/
def FeedsAmong (graph : Graph) (nodes : List Nat) (producer n : Nat) : Prop :=
  producer ∈ nodes ∧ n ∈ nodes ∧ graph.Feeds producer n

/-- No chain of listed antecedents leads from a node back to itself. -/
def AcyclicAmong (graph : Graph) (nodes : List Nat) : Prop :=
  ∀ n, ¬ Relation.TransGen (graph.FeedsAmong nodes) n n

/-- A cycle written out: distinct listed nodes, each an antecedent of the next and the last one of
the first. -/
structure CycleAmong (graph : Graph) (nodes cycle : List Nat) : Prop where
  nonempty : cycle ≠ []
  distinct : cycle.Nodup
  listed : ∀ n ∈ cycle, n ∈ nodes
  chained : cycle.IsChain graph.Feeds
  closed : ∀ first ∈ cycle.head?, ∀ last ∈ cycle.getLast?, graph.Feeds last first

/-- A cycle that is written out leads from its first node back to it. -/
theorem CycleAmong.exists_transGen {graph : Graph} {nodes cycle : List Nat}
    (round : graph.CycleAmong nodes cycle) :
    ∃ n, Relation.TransGen (graph.FeedsAmong nodes) n n := by
  -- All nodes of the cycle are listed, so that its links are links among listed nodes.
  have linked : cycle.IsChain (graph.FeedsAmong nodes) :=
    List.IsChain.imp_of_mem_imp
      (fun producer n here there feeds => ⟨round.listed producer here, round.listed n there, feeds⟩)
        round.chained
  have leads := List.relationReflTransGen_of_exists_isChain cycle linked round.nonempty
  -- The chain from the first node to the last is closed by the link from the last to the first.
  have back : graph.FeedsAmong nodes (cycle.getLast round.nonempty)
      (cycle.head round.nonempty) := by
    refine ⟨round.listed _ (List.getLast_mem _), round.listed _ (List.head_mem _), ?_⟩
    exact round.closed _ (List.head_mem_head? _) _ (List.getLast_mem_getLast? _)
  exact ⟨_, Relation.TransGen.tail' leads back⟩

end Graph

/-- Whatever listed node feeds a node of a path is pending there, finished, or the next node above
it. -/
def Met (graph : Graph) (nodes : List Nat) (finished : Marks) : Option Nat → List Visit → Prop
  | _, [] => True
  | above, visit :: below =>
    (∀ producer ∈ nodes, graph.Feeds producer visit.node →
      producer ∈ visit.pending ∨ finished.has producer = true ∨ above = some producer) ∧
    Met graph nodes finished (some visit.node) below

namespace Met

variable {graph : Graph} {nodes : List Nat} {finished : Marks} {above : Option Nat}
  {path : List Visit} {n : Nat}

/-- One more finished node takes nothing away. -/
theorem add (met : Met graph nodes finished above path) :
    Met graph nodes (finished.add n) above path := by
  -- What was finished stays so.
  induction path generalizing above with
  | nil => trivial
  | cons visit below ih =>
    obtain ⟨here, further⟩ := met
    refine ⟨?_, ih further⟩
    intro producer listed feeds
    have kept : finished.has producer = true → (finished.add n).has producer = true := by
      intro done
      exact (Marks.has_add finished n producer).mpr (.inr done)
    exact (here producer listed feeds).imp_right (Or.imp_left kept)

/-- Once the node above a path is finished, nothing needs to stand above it. -/
theorem finish (met : Met graph nodes finished (some n) path) :
    Met graph nodes (finished.add n) none path := by
  -- Only the first visit of the path looks at the node above.
  cases path with
  | nil => trivial
  | cons visit below =>
    obtain ⟨here, further⟩ := met
    refine ⟨?_, further.add⟩
    intro producer listed feeds
    rcases here producer listed feeds with pending | done | same
    · exact .inl pending
    · exact .inr (.inl ((Marks.has_add finished n producer).mpr (.inr done)))
    · have same : producer = n := (Option.some.inj same).symm
      exact .inr (.inl ((Marks.has_add finished n producer).mpr (.inl same)))

end Met

/-- What holds at every moment of a search. The entered nodes are those on the path and the finished
ones. The listed antecedents of a finished node are finished, and no finished node is on a cycle. -/
structure Searching (graph : Graph) (nodes : List Nat) (path : List Visit) (seen : Progress) :
    Prop where
  entered : ∀ n, seen.entered.has n = true ↔ n ∈ path.map Visit.node ∨ seen.finished.has n = true
  outside : ∀ n, graph.nodes.size ≤ n → seen.finished.has n = true
  unfinished : ∀ n ∈ path.map Visit.node, seen.finished.has n = false
  distinct : (path.map Visit.node).Nodup
  listed : ∀ n ∈ path.map Visit.node, n ∈ nodes
  chained : (path.map Visit.node).IsChain graph.Feeds
  owed : ∀ visit ∈ path, ∀ producer ∈ visit.pending, graph.Feeds producer visit.node
  met : Met graph nodes seen.finished none path
  closed : ∀ n, seen.finished.has n = true → ∀ producer ∈ nodes, graph.Feeds producer n →
    seen.finished.has producer = true
  clear : ∀ n, seen.finished.has n = true → ¬ Relation.TransGen (graph.FeedsAmong nodes) n n

namespace Searching

variable {graph : Graph} {nodes pending : List Nat} {path below : List Visit} {seen : Progress}
  {node next : Nat}

/-- Whatever leads to a finished node through listed nodes is finished. -/
theorem finished_of_leads (searching : Searching graph nodes path seen) {m n : Nat}
    (leads : Relation.ReflTransGen (graph.FeedsAmong nodes) m n)
    (done : seen.finished.has n = true) :
    seen.finished.has m = true := by
  -- The chain is followed from the finished node back to its antecedents.
  induction leads using Relation.ReflTransGen.head_induction_on with
  | refl => exact done
  | head feeds _ ih => exact searching.closed _ ih _ feeds.1 feeds.2.2

/-- A node that is neither finished nor outside the graph was not entered, unless it is on the
path. -/
theorem fresh_of_not_entered (searching : Searching graph nodes path seen)
    (fresh : seen.entered.has next = false) :
    next ∉ path.map Visit.node ∧ seen.finished.has next = false ∧ next < graph.nodes.size := by
  -- What was entered is on the path or finished, and outside the graph all is finished.
  have unknown : ¬ (next ∈ path.map Visit.node ∨ seen.finished.has next = true) := by
    rw [← searching.entered next, fresh]
    exact Bool.false_ne_true
  obtain ⟨new, unfinished⟩ := not_or.mp unknown
  refine ⟨new, eq_false_of_ne_true unfinished, Nat.lt_of_not_le ?_⟩
  intro outside
  exact unfinished (searching.outside next outside)

/-- A visit with nothing pending can be finished. -/
theorem finish (searching : Searching graph nodes (⟨node, []⟩ :: below) seen) :
    Searching graph nodes below { seen with finished := seen.finished.add node } := by
  have added : ∀ n, (seen.finished.add node).has n = true ↔ n = node ∨ seen.finished.has n = true :=
    Marks.has_add seen.finished node
  obtain ⟨new, distinct⟩ := List.nodup_cons.mp searching.distinct
  -- Nothing is pending and nothing is above, so that all listed antecedents of the node are
  -- finished.
  have antecedents : ∀ producer ∈ nodes, graph.Feeds producer node →
      seen.finished.has producer = true := by
    intro producer listed feeds
    rcases searching.met.1 producer listed feeds with pending | done | above
    · cases pending
    · exact done
    · cases above
  refine ⟨?_, ?_, ?_, distinct, ?_, searching.chained.tail, ?_, searching.met.2.finish, ?_, ?_⟩
  · -- The node goes over from the path to the finished ones.
    intro n
    rw [searching.entered n, added n]
    simp only [List.map_cons, List.mem_cons]
    grind
  · intro n outside
    exact (added n).mpr (.inr (searching.outside n outside))
  · intro n member
    have other : n ≠ node := fun same => new (same ▸ member)
    have before := searching.unfinished n (List.mem_cons_of_mem _ member)
    apply eq_false_of_ne_true
    intro done
    rcases (added n).mp done with same | done
    · exact other same
    · rw [before] at done
      cases done
  · intro n member
    exact searching.listed n (List.mem_cons_of_mem _ member)
  · intro visit member
    exact searching.owed visit (List.mem_cons_of_mem _ member)
  · intro n done producer listed feeds
    rw [added] at done ⊢
    rcases done with same | done
    · exact .inr (antecedents producer listed (same ▸ feeds))
    · exact .inr (searching.closed n done producer listed feeds)
  · -- A cycle through the node would run through a finished antecedent, and so the node would be
    -- finished.
    intro n done cycle
    rcases (added n).mp done with same | done
    · subst same
      obtain ⟨producer, leads, listed, _, feeds⟩ := Relation.TransGen.tail'_iff.mp cycle
      have known := searching.finished_of_leads leads (antecedents producer listed feeds)
      rw [searching.unfinished n List.mem_cons_self] at known
      cases known
    · exact searching.clear n done cycle

/-- What stays pending after the next node is taken still feeds the nodes of the path. -/
theorem owed_rest (searching : Searching graph nodes (⟨node, next :: pending⟩ :: below) seen) :
    ∀ visit ∈ (⟨node, pending⟩ :: below : List Visit), ∀ producer ∈ visit.pending,
      graph.Feeds producer visit.node := by
  -- Fewer producers wait, and each of them waited before.
  intro visit member producer waiting
  rcases List.mem_cons.mp member with same | member
  · subst same
    exact searching.owed _ List.mem_cons_self producer (List.mem_cons_of_mem _ waiting)
  · exact searching.owed visit (List.mem_cons_of_mem _ member) producer waiting

/-- A pending listed node that was not entered can be entered: it goes on top of the path. -/
theorem enter (searching : Searching graph nodes (⟨node, next :: pending⟩ :: below) seen)
    (listed : next ∈ nodes) (fresh : seen.entered.has next = false) :
    Searching graph nodes (⟨next, (graph.node next).antecedents⟩ :: ⟨node, pending⟩ :: below)
      { seen with entered := seen.entered.add next } := by
  obtain ⟨new, unfinished, _⟩ := searching.fresh_of_not_entered fresh
  have feeds : graph.Feeds next node := searching.owed _ List.mem_cons_self next List.mem_cons_self
  refine ⟨?_, searching.outside, ?_, List.nodup_cons.mpr ⟨new, searching.distinct⟩, ?_, ?_, ?_,
    ⟨?_, ?_, ?_⟩, searching.closed, searching.clear⟩
  · -- The entered nodes and the path gain the same node.
    intro n
    show (seen.entered.add next).has n = true ↔ _
    rw [Marks.has_add, searching.entered n]
    simp only [List.map_cons, List.mem_cons]
    grind
  · intro n member
    rcases List.mem_cons.mp member with same | member
    · exact same ▸ unfinished
    · exact searching.unfinished n member
  · intro n member
    rcases List.mem_cons.mp member with same | member
    · exact same ▸ listed
    · exact searching.listed n member
  · exact List.isChain_cons_cons.mpr ⟨feeds, searching.chained⟩
  · intro visit member producer waiting
    rcases List.mem_cons.mp member with same | member
    · subst same
      exact Graph.mem_antecedents_iff.mp waiting
    · exact searching.owed_rest visit member producer waiting
  · -- All antecedents of the entered node are pending.
    intro producer _ produced
    exact .inl (Graph.mem_antecedents_iff.mpr produced)
  · -- The entered node has left the pending ones of the node below, and stands above it.
    intro producer known produced
    rcases searching.met.1 producer known produced with waiting | done | above
    · rcases List.mem_cons.mp waiting with same | waiting
      · exact .inr (.inr (congrArg some same.symm))
      · exact .inl waiting
    · exact .inr (.inl done)
    · cases above
  · exact searching.met.2

/-- A pending node that is not listed, or that is finished, can be left out. -/
theorem skip (searching : Searching graph nodes (⟨node, next :: pending⟩ :: below) seen)
    (known : next ∉ nodes ∨ seen.finished.has next = true) :
    Searching graph nodes (⟨node, pending⟩ :: below) seen := by
  refine ⟨searching.entered, searching.outside, searching.unfinished, searching.distinct,
    searching.listed, searching.chained, searching.owed_rest, ⟨?_, searching.met.2⟩,
    searching.closed, searching.clear⟩
  intro producer listed produced
  rcases searching.met.1 producer listed produced with waiting | done | above
  · rcases List.mem_cons.mp waiting with same | waiting
    · -- The node left out is the producer, which is listed and hence finished.
      subst same
      exact .inr (.inl (known.resolve_left (not_not_intro listed)))
    · exact .inl waiting
  · exact .inr (.inl done)
  · cases above

/-- A listed node that was not entered can be entered when the path is empty. -/
theorem start (searching : Searching graph nodes [] seen) (listed : node ∈ nodes)
    (fresh : seen.entered.has node = false) :
    Searching graph nodes [⟨node, (graph.node node).antecedents⟩]
      { seen with entered := seen.entered.add node } := by
  -- The path is the node alone, with all its antecedents pending.
  obtain ⟨_, unfinished, _⟩ := searching.fresh_of_not_entered fresh
  refine ⟨?_, searching.outside, ?_, List.nodup_singleton _, ?_, List.isChain_singleton _, ?_,
    ⟨?_, trivial⟩, searching.closed, searching.clear⟩
  · intro n
    show (seen.entered.add node).has n = true ↔ _
    rw [Marks.has_add, searching.entered n]
    simp
  · intro n member
    rw [List.mem_singleton.mp member]
    exact unfinished
  · intro n member
    rw [List.mem_singleton.mp member]
    exact listed
  · intro visit member producer waiting
    rw [List.mem_singleton.mp member] at waiting ⊢
    exact Graph.mem_antecedents_iff.mp waiting
  · intro producer _ produced
    exact .inl (Graph.mem_antecedents_iff.mpr produced)

end Searching

/-- Closing a path at one of its nodes takes the part from the top down to that node. -/
theorem closeAt_eq {n : Nat} {path : List Visit} (stacked : n ∈ path.map Visit.node) :
    ∃ front back, closeAt n path = front ++ [n] ∧ path.map Visit.node = (front ++ [n]) ++ back := by
  -- The recursion goes down the path until it meets the node.
  induction path with
  | nil => simp at stacked
  | cons visit below ih =>
    by_cases same : visit.node = n
    · exact ⟨[], below.map Visit.node, by simp [closeAt, same], by simp [same]⟩
    · have further : n ∈ below.map Visit.node := by simpa [Ne.symm same] using stacked
      obtain ⟨front, back, closed, split⟩ := ih further
      exact ⟨visit.node :: front, back, by simp [closeAt, same, closed], by simp [split]⟩

/-- A pending node that is on the path closes a cycle. -/
theorem Searching.close {graph : Graph} {nodes pending : List Nat} {below : List Visit}
    {seen : Progress}
    {node next : Nat} (searching : Searching graph nodes (⟨node, next :: pending⟩ :: below) seen)
    (entered : seen.entered.has next = true) (unfinished : seen.finished.has next = false) :
    graph.CycleAmong nodes (closeAt next (⟨node, pending⟩ :: below)) := by
  have feeds : graph.Feeds next node := searching.owed _ List.mem_cons_self next List.mem_cons_self
  have stacked : next ∈ (⟨node, pending⟩ :: below : List Visit).map Visit.node := by
    rcases (searching.entered next).mp entered with stacked | done
    · exact stacked
    · rw [unfinished] at done
      cases done
  obtain ⟨front, back, closed, split⟩ := closeAt_eq stacked
  -- The cycle is the top of the path, from which it has its order.
  have top : (front ++ [next]) <+: (⟨node, pending⟩ :: below : List Visit).map Visit.node :=
    ⟨back, split.symm⟩
  rw [closed]
  refine ⟨by simp, searching.distinct.sublist top.sublist, ?_, searching.chained.prefix top, ?_⟩
  · intro n member
    exact searching.listed n (top.subset member)
  · -- It starts with the node at the top and ends with the one that was met again.
    intro first opens last ends
    have ends : last = next := by simpa using ends.symm
    have opens : first = node := by
      have head := congrArg List.head? split
      rw [List.head?_append_of_ne_nil _ (by simp), Option.mem_def.mp opens] at head
      simpa using head.symm
    rw [ends, opens]
    exact feeds

/-- How a search ends: with a cycle, or with an empty path after it has entered all that it had
to. -/
def SearchEnds (graph : Graph) (nodes : List Nat) (due : Nat → Prop) :
    Except (List Nat) Progress → Prop
  | .ok final => Searching graph nodes [] final ∧ ∀ n, due n → final.entered.has n = true
  | .error cycle => graph.CycleAmong nodes cycle

/-- A search that enters more than it has to. -/
theorem SearchEnds.imp {graph : Graph} {nodes : List Nat} {due other : Nat → Prop}
    {result : Except (List Nat) Progress} (ends : SearchEnds graph nodes due result)
    (fewer : ∀ n, other n → due n) : SearchEnds graph nodes other result := by
  -- Only what was entered is told differently.
  cases result with
  | ok final => exact ⟨ends.1, fun n known => ends.2 n (fewer n known)⟩
  | error cycle => exact ends

section Search

variable {graph : Graph} {nodes : List Nat} {member : Nat → Bool}

/-- A search from a path ends well, and it keeps the nodes that were entered before. -/
theorem followCycle_ends (members : ∀ n, member n = true ↔ n ∈ nodes ∨ graph.nodes.size ≤ n)
    {path : List Visit} {seen : Progress} (searching : Searching graph nodes path seen) :
    SearchEnds graph nodes (fun n => seen.entered.has n = true)
      (followCycle graph member path seen) := by
  -- The induction follows the search, and each of its steps keeps what holds at every moment.
  fun_induction followCycle graph member path seen with
  | case1 seen => exact ⟨searching, fun n known => known⟩
  | case2 seen node below ih => exact ih searching.finish
  | case3 seen node next pending below foreign ih =>
    have unlisted : next ∉ nodes := by
      intro listed
      simp [(members next).mpr (.inl listed)] at foreign
    exact ih (searching.skip (.inl unlisted))
  | case4 seen node next pending below belongs fresh ih =>
    -- What was not entered is a node of the graph, so that it is a member because it is listed.
    obtain ⟨_, _, inside⟩ := searching.fresh_of_not_entered fresh
    have either := (members next).mp (by simpa using belongs)
    have listed : next ∈ nodes := either.resolve_right (Nat.not_le.mpr inside)
    apply (ih (searching.enter listed fresh)).imp
    intro n known
    exact (Marks.has_add seen.entered next n).mpr (.inr known)
  | case5 seen node next pending below belongs entered done ih =>
    exact ih (searching.skip (.inr done))
  | case6 seen node next pending below belongs entered unfinished =>
    exact searching.close (by simpa using entered) (by simpa using unfinished)

/-- A search from a listed node ends well, and enters that node. -/
theorem searchFrom_ends (members : ∀ n, member n = true ↔ n ∈ nodes ∨ graph.nodes.size ≤ n)
    {seen : Progress}
    (searching : Searching graph nodes [] seen) {start : Nat} (listed : start ∈ nodes) :
    SearchEnds graph nodes (fun n => n = start ∨ seen.entered.has n = true)
      (searchFrom graph member seen start) := by
  unfold searchFrom
  split
  · -- A node that was entered before needs no search.
    rename_i known
    refine ⟨searching, ?_⟩
    intro n due
    rcases due with same | entered
    · exact same ▸ known
    · exact entered
  · rename_i unknown
    have fresh : seen.entered.has start = false := by simpa using unknown
    apply (followCycle_ends members (searching.start listed fresh)).imp
    intro n due
    exact (Marks.has_add seen.entered start n).mpr due

/-- Searches from several listed nodes end well, and enter all of them. -/
theorem searchAll_ends (members : ∀ n, member n = true ↔ n ∈ nodes ∨ graph.nodes.size ≤ n)
    {starts : List Nat}
    {seen : Progress} (searching : Searching graph nodes [] seen)
    (listed : ∀ n ∈ starts, n ∈ nodes) :
    SearchEnds graph nodes (fun n => n ∈ starts ∨ seen.entered.has n = true)
      (starts.foldlM (searchFrom graph member) seen) := by
  -- Each search goes on from where the one before it ended.
  induction starts generalizing seen with
  | nil => exact ⟨searching, fun n due => by simpa using due⟩
  | cons start rest ih =>
    have first := searchFrom_ends members searching (listed start List.mem_cons_self)
    rw [List.foldlM_cons]
    cases found : searchFrom graph member seen start with
    | error cycle =>
      rw [found] at first
      exact first
    | ok between =>
      rw [found] at first
      obtain ⟨settled, grows⟩ := first
      have others : ∀ n ∈ rest, n ∈ nodes := fun n later => listed n (List.mem_cons_of_mem _ later)
      apply (ih settled others).imp
      intro n due
      rcases due with member | entered
      · rcases List.mem_cons.mp member with same | later
        · exact .inr (grows n (.inl same))
        · exact .inl later
      · exact .inr (grows n (.inr entered))

end Search

section FindCycle

variable {graph : Graph} {nodes : List Nat}

/-- Before the first step nothing is entered or finished, and numbers outside the graph count as
both. -/
theorem searching_nothing (graph : Graph) (nodes : List Nat) :
    Searching graph nodes [] ⟨.none graph.nodes.size, .none graph.nodes.size⟩ where
  entered n := by simp
  outside n := (Marks.has_none graph.nodes.size n).mpr
  unfinished := by simp
  distinct := List.nodup_nil
  listed := by simp
  chained := List.isChain_nil
  owed := by simp
  met := trivial
  closed n done producer _ feeds := by
    -- A number outside the graph has no antecedents.
    have outside := (Marks.has_none graph.nodes.size n).mp done
    exact absurd (Graph.lt_size_of_feeds feeds) (Nat.not_lt.mpr outside)
  clear n done cycle := by
    have outside := (Marks.has_none graph.nodes.size n).mp done
    obtain ⟨_, _, _, _, feeds⟩ := Relation.TransGen.tail'_iff.mp cycle
    exact absurd (Graph.lt_size_of_feeds feeds) (Nat.not_lt.mpr outside)

/-- The search over a whole list ends well, and enters every listed node. -/
theorem findCycle_ends (graph : Graph) (nodes : List Nat) :
    SearchEnds graph nodes (fun n => n ∈ nodes)
      (nodes.foldlM (searchFrom graph (nodes.foldl Marks.add (.none graph.nodes.size)).has)
        ⟨.none graph.nodes.size, .none graph.nodes.size⟩) := by
  -- The marks tell the listed nodes, and the search starts with nothing entered.
  have members : ∀ n, (nodes.foldl Marks.add (.none graph.nodes.size)).has n = true ↔
      n ∈ nodes ∨ graph.nodes.size ≤ n := by
    intro n
    rw [Marks.has_addAll, Marks.has_none]
  apply (searchAll_ends members (searching_nothing graph nodes) fun n listed => listed).imp
  intro n listed
  exact .inl listed

/-- What the search finds is a cycle among the listed nodes. -/
theorem findCycle_sound {cycle : List Nat} (found : findCycle graph nodes = some cycle) :
    graph.CycleAmong nodes cycle := by
  -- A cycle is found only where the search broke off.
  have ends := findCycle_ends graph nodes
  unfold findCycle at found
  dsimp only at found
  split at found
  · cases found
  · rename_i other broken
    rw [broken] at ends
    cases found
    exact ends

/-- The search finds nothing exactly when there is no cycle among the listed nodes. -/
theorem findCycle_eq_none_iff : findCycle graph nodes = none ↔ graph.AcyclicAmong nodes := by
  constructor
  · -- All listed nodes were entered, and with an empty path they are all finished.
    intro nothing n cycle
    have ends := findCycle_ends graph nodes
    unfold findCycle at nothing
    dsimp only at nothing
    split at nothing
    · rename_i final whole
      rw [whole] at ends
      obtain ⟨settled, entered⟩ := ends
      obtain ⟨_, _, _, listed, _⟩ := Relation.TransGen.tail'_iff.mp cycle
      have done : final.finished.has n = true := by
        rcases (settled.entered n).mp (entered n listed) with stacked | done
        · cases stacked
        · exact done
      exact settled.clear n done cycle
    · cases nothing
  · intro acyclic
    cases found : findCycle graph nodes with
    | none => rfl
    | some cycle =>
      obtain ⟨n, round⟩ := (findCycle_sound found).exists_transGen
      exact absurd round (acyclic n)

end FindCycle

/-- The search for a cycle is right. Its loop comes to an end from every path, within one step for
each node that it can still enter and each antecedent that it can still look at. A cycle that it
finds is one, and it finds none exactly when no chain of listed antecedents leads from a node back
to itself. -/
theorem findCycle_correct (graph : Graph) (nodes : List Nat) :
    (∀ (member : Nat → Bool) (path : List Visit) (seen : Progress),
      stepped (searchStep graph member) (Visit.work path + graph.searchLeft seen.entered + 1)
        (path, seen) =
        some (followCycle graph member path seen)) ∧
      (∀ cycle, findCycle graph nodes = some cycle → graph.CycleAmong nodes cycle) ∧
      (findCycle graph nodes = none ↔ graph.AcyclicAmong nodes) := by
  -- The loop, what it finds and what it does not find were shown one by one.
  refine ⟨?_, ?_, findCycle_eq_none_iff⟩
  · intro member path seen
    exact followCycle_within (Nat.lt_succ_self _)
  · intro cycle found
    exact findCycle_sound found

/-- A graph with a ring of three nodes. A source feeds the ring, and the ring feeds an output. -/
def ring : Graph where
  nodes := #[⟨utf8 "Impulse", .audio, [], #[.audio], 0, none⟩,
    ⟨utf8 "Mix", .audio, [.output 0 0, .output 3 0], #[.audio], 0, none⟩,
    ⟨utf8 "LPF", .audio, [.output 1 0], #[.audio], 0, none⟩,
    ⟨utf8 "Delay", .audio, [.output 2 0, .constant 0], #[.audio], 0, none⟩,
    ⟨utf8 "Out", .audio, [.output 3 0, .output 3 0], #[], 0, none⟩]
  constants := #[.zero]

/-- The search that starts behind the ring passes over the source, which is not listed, and finds
the ring. Without the delay there is nothing to find. -/
theorem ring_cycle :
    findCycle ring [4, 3, 2, 1] = some [1, 2, 3] ∧ ring.CycleAmong [4, 3, 2, 1] [1, 2, 3] ∧
      findCycle ring [4, 2, 1, 0, 1] = none ∧ ring.AcyclicAmong [4, 2, 1, 0, 1] := by
  -- The two searches are short enough to compute.
  have found : findCycle ring [4, 3, 2, 1] = some [1, 2, 3] := by cbv
  have nothing : findCycle ring [4, 2, 1, 0, 1] = none := by cbv
  exact ⟨found, (findCycle_correct ring [4, 3, 2, 1]).2.1 _ found, nothing,
    (findCycle_correct ring [4, 2, 1, 0, 1]).2.2.mp nothing⟩

end Patchbay
