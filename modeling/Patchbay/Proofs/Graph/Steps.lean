import Mathlib.Algebra.BigOperators.Group.Finset.Basic
import Patchbay.Graph.Cycle
import Patchbay.Proofs.Graph.Walk

/-! Steps of a walk and of a search for cycles: both loops come to their result after at most one
step for each node that they enter and one for each input that they look at. -/

namespace Patchbay

/-- Takes steps until one of them gives a result, but no more than a limit. -/
def stepped {σ ρ : Type} (step : σ → σ ⊕ ρ) : Nat → σ → Option ρ
  | 0, _ => none
  | limit + 1, state =>
    match step state with
    | .inl next => stepped step limit next
    | .inr result => some result

section Stepped

variable {σ ρ : Type} {step : σ → σ ⊕ ρ} {state next : σ} {result : ρ} {count limit : Nat}

/-- A step that moves on leaves at least one step less to the rest of the loop. -/
theorem stepped_move (moves : step state = .inl next) (enough : count < limit)
    (rest : ∀ left, count ≤ left → stepped step left next = some result) :
    stepped step limit state = some result := by
  -- The limit leaves room for this step.
  cases limit with
  | zero => exact absurd enough (Nat.not_lt_zero count)
  | succ left =>
    have within : count ≤ left := Nat.le_of_lt_succ enough
    simp only [stepped, moves]
    exact rest left within

/-- A step that gives a result ends the loop. -/
theorem stepped_end (ends : step state = .inr result) (enough : count < limit) :
    stepped step limit state = some result := by
  -- The limit leaves room for this step.
  cases limit with
  | zero => exact absurd enough (Nat.not_lt_zero count)
  | succ left => simp only [stepped, ends]

end Stepped

namespace Marks

/-- The weights of all numbers without a mark together. -/
def unread (weight : Nat → Nat) (marks : Marks) : Nat :=
  Finset.sum ((Finset.range marks.size).filter fun n => marks.has n = false) weight

/-- Marking a number that had no mark takes its weight away. -/
theorem unread_add {marks : Marks} {n : Nat} (weight : Nat → Nat) (fresh : marks.has n = false) :
    (marks.add n).unread weight + weight n = marks.unread weight := by
  -- Numbers from the bound on count as marked, so this one lies below it.
  have inside : n < marks.size := by
    by_contra outside
    simp [has, Nat.le_of_not_lt outside] at fresh
  have counted : n ∈ (Finset.range marks.size).filter fun n => marks.has n = false := by
    simp [inside, fresh]
  -- What is left without a mark is the same as before, less this number.
  have rest : ((Finset.range (marks.add n).size).filter fun m => (marks.add n).has m = false) =
      ((Finset.range marks.size).filter fun n => marks.has n = false).erase n := by
    ext m
    have added := has_add marks n m
    rw [Finset.mem_erase, Finset.mem_filter, Finset.mem_filter, ← Bool.not_eq_true,
      ← Bool.not_eq_true, added]
    simp only [add, Array.size_setIfInBounds, not_or]
    tauto
  unfold unread
  rw [rest, Finset.sum_erase_add _ _ counted]

end Marks

/-- One step of a walk: it finishes the visit at the top, or looks at the next pending node and
enters it when it has no mark. With an empty stack the walk is over. -/
def walkStep (graph : Graph) :
    List Visit × Marks × List Nat → (List Visit × Marks × List Nat) ⊕ (Marks × List Nat)
  | ([], marks, listed) => .inr (marks, listed)
  | (⟨node, []⟩ :: below, marks, listed) => .inl (below, marks, node :: listed)
  | (⟨node, next :: pending⟩ :: below, marks, listed) =>
    if marks.has next then .inl (⟨node, pending⟩ :: below, marks, listed)
    else .inl
      (⟨next, (graph.node next).producers⟩ :: ⟨node, pending⟩ :: below, marks.add next, listed)

/-- What the unmarked nodes can add to the work of a walk: each of them once, with all its
producers. -/
def Graph.walkLeft (graph : Graph) (marks : Marks) : Nat :=
  marks.unread fun n => (graph.node n).producers.length + 1

/-- A walk ends within as many steps as the stack holds work and the unmarked nodes can add to
it. -/
theorem walk_within {graph : Graph} {stack : List Visit} {marks : Marks} {listed : List Nat}
    {limit : Nat} (enough : Visit.work stack + graph.walkLeft marks < limit) :
    stepped (walkStep graph) limit (stack, marks, listed) =
      some (walk graph stack marks listed) := by
  -- The induction follows the walk, and each of its steps takes one from the sum.
  fun_induction walk graph stack marks listed generalizing limit with
  | case1 marks listed => exact stepped_end rfl enough
  | case2 marks listed node below ih =>
    refine stepped_move rfl enough fun left within => ?_
    apply ih
    simp only [Visit.work, List.length_nil] at within
    omega
  | case3 marks listed node next pending below fresh ih =>
    refine stepped_move (if_neg (by simp [fresh])) enough fun left within => ?_
    apply ih
    -- What the entered node puts on the stack was counted among what the unmarked nodes can add.
    have moved : graph.walkLeft (marks.add next) + ((graph.node next).producers.length + 1) =
        graph.walkLeft marks :=
      Marks.unread_add _ fresh
    simp only [Visit.work, List.length_cons] at within ⊢
    omega
  | case4 marks listed node next pending below known ih =>
    have known : marks.has next = true := by simpa using known
    refine stepped_move (if_pos known) enough fun left within => ?_
    apply ih
    simp only [Visit.work, List.length_cons] at within ⊢
    omega

/-- One step of a search for a cycle: it finishes the visit at the top, or looks at the next pending
node. A member that was not entered is entered, and one that was entered and is not finished closes
a cycle. -/
def searchStep (graph : Graph) (member : Nat → Bool) :
    List Visit × Progress → (List Visit × Progress) ⊕ Except (List Nat) Progress
  | ([], seen) => .inr (.ok seen)
  | (⟨node, []⟩ :: below, seen) => .inl (below, { seen with finished := seen.finished.add node })
  | (⟨node, next :: pending⟩ :: below, seen) =>
    if member next = false then .inl (⟨node, pending⟩ :: below, seen)
    else if seen.entered.has next = false then
      .inl (⟨next, (graph.node next).antecedents⟩ :: ⟨node, pending⟩ :: below,
        { seen with entered := seen.entered.add next })
    else if seen.finished.has next then .inl (⟨node, pending⟩ :: below, seen)
    else .inr (.error (closeAt next (⟨node, pending⟩ :: below)))

/-- What the nodes that were not entered can add to the work of a search: each of them once, with
all its antecedents. -/
def Graph.searchLeft (graph : Graph) (entered : Marks) : Nat :=
  entered.unread fun n => (graph.node n).antecedents.length + 1

/-- A search ends within as many steps as the path holds work and the nodes not entered can add to
it. -/
theorem followCycle_within {graph : Graph} {member : Nat → Bool} {path : List Visit}
    {seen : Progress} {limit : Nat}
    (enough : Visit.work path + graph.searchLeft seen.entered < limit) :
    stepped (searchStep graph member) limit (path, seen) =
      some (followCycle graph member path seen) := by
  -- Each case of the search is one step, which takes at least one from the work that is left.
  fun_induction followCycle graph member path seen generalizing limit with
  | case1 seen => exact stepped_end rfl enough
  | case2 seen node below ih =>
    refine stepped_move rfl enough fun left within => ?_
    apply ih
    simp only [Visit.work, List.length_nil] at within ⊢
    omega
  | case3 seen node next pending below foreign ih =>
    refine stepped_move (if_pos (by simpa using foreign)) enough fun left within => ?_
    apply ih
    simp only [Visit.work, List.length_cons] at within ⊢
    omega
  | case4 seen node next pending below belongs fresh ih =>
    refine stepped_move ((if_neg (by simpa using belongs)).trans (if_pos fresh)) enough
      fun left within => ?_
    apply ih
    have moved :
        graph.searchLeft (seen.entered.add next) + ((graph.node next).antecedents.length + 1) =
          graph.searchLeft seen.entered := Marks.unread_add _ fresh
    simp only [Visit.work, List.length_cons] at within ⊢
    omega
  | case5 seen node next pending below belongs entered done ih =>
    refine stepped_move
      ((if_neg (by simpa using belongs)).trans ((if_neg entered).trans (if_pos done))) enough
      fun left within => ?_
    apply ih
    simp only [Visit.work, List.length_cons] at within ⊢
    omega
  | case6 seen node next pending below belongs entered unfinished =>
    exact stepped_end
      ((if_neg (by simpa using belongs)).trans ((if_neg entered).trans (if_neg unfinished))) enough

end Patchbay
