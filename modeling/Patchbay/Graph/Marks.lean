/-! Marks on numbered things, and the number of things that are not marked yet. -/

namespace Patchbay

/-- Which of the numbers below a bound are marked; every number from the bound on counts as
marked. -/
abbrev Marks := Array Bool

namespace Marks

/-- No mark on any of the numbers below a bound. -/
def none (bound : Nat) : Marks := Array.replicate bound false

/-- Whether a number is marked. -/
def has (marks : Marks) (n : Nat) : Bool := marks[n]?.getD true

/-- Marks a number. -/
def add (marks : Marks) (n : Nat) : Marks := marks.setIfInBounds n true

/-- How many numbers are not marked. -/
def left (marks : Marks) : Nat := marks.count false

/-- Marking a number that was not marked leaves fewer unmarked. -/
theorem left_add_lt {marks : Marks} {n : Nat} (fresh : marks.has n = false) :
    (marks.add n).left < marks.left := by
  -- Only the mark of `n` changes, and it was not there before.
  unfold has at fresh
  by_cases inside : n < marks.size
  · have unmarked : marks[n] = false := by simpa [inside] using fresh
    have positive : 0 < marks.count false :=
      Array.count_pos_iff.mpr (unmarked ▸ Array.getElem_mem inside)
    have counted := @Array.count_set _ _ marks n true false inside
    simp [unmarked] at counted
    simp only [add, left, Array.setIfInBounds, inside, ↓reduceDIte, counted]
    omega
  · simp [inside] at fresh

end Marks

end Patchbay
