import Mathlib.Tactic.Common
import Patchbay.Quicksort

/-! Sorting by exchanges. All that is ever done to the entries is to exchange two of a range, so
that they stay the same entries and those outside the range stay where they are. Insertion is the
first of the ways to bring a range in order. -/

namespace Patchbay.Quicksort

variable {α : Type} {before : α → α → Bool} {entries later : Array α} {first last : Nat}

/-- A relation that orders entries, where different ones may rank the same. -/
structure Ranks (before : α → α → Bool) : Prop where
  asymm : ∀ a b, before a b = true → before b a = false
  trans : ∀ a b c, before b a = false → before c b = false → before c a = false

/-- The entry at the second place does not go before that at the first. -/
def Below (before : α → α → Bool) (entries : Array α) (i j : Nat) : Prop :=
  goesBefore before entries j i = false

/-- The entries of a range are in order. -/
def Sorted (before : α → α → Bool) (first last : Nat) (entries : Array α) : Prop :=
  ∀ i j, first ≤ i → i < j → j < last → Below before entries i j

/-- No entry of a range goes before the one in front of the range. -/
def Floor (before : α → α → Bool) (first last : Nat) (entries : Array α) : Prop :=
  ∀ i j, i + 1 = first → first ≤ j → j < last → Below before entries i j

section Order

/-- Which of two entries goes before the other is told by the entries alone. -/
theorem goesBefore_congr {i j k l : Nat} (left : later[i]? = entries[k]?)
    (right : later[j]? = entries[l]?) :
    goesBefore before later i j = goesBefore before entries k l := by
  -- The places are only looked up.
  unfold goesBefore
  rw [left, right]

/-- Entries that stay where they are keep their order. -/
theorem Below.congr {i j k l : Nat} (below : Below before entries k l)
    (left : later[i]? = entries[k]?) (right : later[j]? = entries[l]?) :
    Below before later i j :=
  -- The order asks for the two entries alone.
  (goesBefore_congr right left).trans below

/-- Where an entry that goes to a place in an exchange comes from. -/
def exchange (a b k : Nat) : Nat := if k = a then b else if k = b then a else k

@[simp]
theorem exchange_left (a b : Nat) : exchange a b a = b := if_pos rfl

@[simp]
theorem exchange_right (a b : Nat) : exchange a b b = a := by
  -- The two places may be one.
  unfold exchange
  split
  next same => exact same
  · exact if_pos rfl

theorem exchange_other {a b k : Nat} (left : k ≠ a) (right : k ≠ b) : exchange a b k = k := by
  -- The place is neither of the two.
  rw [exchange, if_neg left, if_neg right]

/-- In an exchange of two places of a range, what goes to a place of the range comes from there. -/
theorem exchange_inside {a b k : Nat} (lowA : first ≤ a) (highA : a < last) (lowB : first ≤ b)
    (highB : b < last) (low : first ≤ k) (high : k < last) :
    first ≤ exchange a b k ∧ exchange a b k < last := by
  -- It comes from one of the two or stays.
  unfold exchange
  split
  · exact ⟨lowB, highB⟩
  split
  · exact ⟨lowA, highA⟩
  · exact ⟨low, high⟩

/-- After an exchange every place has the entry of the place that it comes from. -/
theorem getElem?_exchanged {a b : Nat} (left : a < entries.size) (right : b < entries.size)
    (k : Nat) :
    (entries.swapIfInBounds a b)[k]? = entries[exchange a b k]? := by
  -- The two places are inside, so that the exchange takes place.
  rw [Array.swapIfInBounds, dif_pos left, dif_pos right, Array.getElem?_swap, exchange]
  by_cases atB : k = b
  · subst atB
    by_cases atA : k = a
    · subst atA
      simp [left]
    · simp [atA, left]
  · by_cases atA : k = a
    · subst atA
      simp [Ne.symm atB, right]
    · simp [atA, atB, Ne.symm atA, Ne.symm atB]

/-- An exchange with a place that is not there changes nothing. -/
theorem exchanged_missing {a b : Nat} (missing : ¬ (a < entries.size ∧ b < entries.size)) :
    entries.swapIfInBounds a b = entries := by
  -- Both places are looked for first.
  unfold Array.swapIfInBounds
  split
  next left =>
    split
    next right => exact absurd ⟨left, right⟩ missing
    · rfl
  · rfl

/-- Two entries are in order after an exchange if they were at the places that they come from. -/
theorem below_exchanged {a b i j : Nat} (left : a < entries.size) (right : b < entries.size)
    (below : Below before entries (exchange a b i) (exchange a b j)) :
    Below before (entries.swapIfInBounds a b) i j :=
  -- Each entry comes from where the exchange has it from.
  below.congr (getElem?_exchanged left right i) (getElem?_exchanged left right j)

variable (ranks : Ranks before)

include ranks

/-- An entry that goes before another is below it. -/
theorem Ranks.below_of_goesBefore {i j : Nat} (less : goesBefore before entries i j = true) :
    Below before entries i j := by
  -- Only two entries that are there go before one another.
  unfold Below
  unfold goesBefore at less ⊢
  split at less
  next a b left right =>
    rw [left, right]
    exact ranks.asymm a b less
  · cases less

/-- No entry goes before itself. -/
theorem Ranks.below_self (i : Nat) : Below before entries i i := by
  -- One that did would be below itself all the same.
  cases less : goesBefore before entries i i with
  | false => exact less
  | true => exact ranks.below_of_goesBefore less

/-- What is below an entry is below all that the entry is below. -/
theorem Ranks.below_trans {i j k : Nat} (inside : j < entries.size)
    (one : Below before entries i j) (two : Below before entries j k) :
    Below before entries i k := by
  -- The entry in the middle is there to compare with; without one of the others there is nothing to
  -- show.
  unfold Below goesBefore at *
  rw [Array.getElem?_eq_getElem inside] at one two
  cases left : entries[i]? with
  | none => cases entries[k]? <;> rfl
  | some a =>
    cases right : entries[k]? with
    | none => rfl
    | some c =>
      rw [left] at one
      rw [right] at two
      exact ranks.trans a _ c one two

end Order

/-- A range that is in order on both sides of a place, with the left side below the right, is in
order. -/
theorem Sorted.join {middle : Nat} (left : Sorted before first middle entries)
    (right : Sorted before middle last entries)
    (across : ∀ i j, first ≤ i → i < middle → middle ≤ j → j < last → Below before entries i j) :
    Sorted before first last entries := by
  -- Two places are on one side, or one on each.
  intro i j low less high
  by_cases leftSide : j < middle
  · exact left i j low less leftSide
  by_cases rightSide : middle ≤ i
  · exact right i j rightSide less high
  · exact across i j low (by omega) (by omega) high

/-- Of entries that stay where they are, a range stays in order. -/
theorem Sorted.congr (sorted : Sorted before first last entries)
    (same : ∀ k, first ≤ k → k < last → later[k]? = entries[k]?) :
    Sorted before first last later := by
  -- Any two entries of the range stay where they are.
  intro i j low less high
  exact (sorted i j low less high).congr (same i low (by omega)) (same j (by omega) high)

/-- What comes of exchanging entries of a range, two at a time. -/
inductive Exchanges (first last : Nat) (entries : Array α) : Array α → Prop
  | refl : Exchanges first last entries entries
  | swap {later : Array α} (i j : Nat) : Exchanges first last entries later → first ≤ i → i < last →
    first ≤ j → j < last → Exchanges first last entries (later.swapIfInBounds i j)

namespace Exchanges

/-- An exchange of two entries. -/
theorem single {i j : Nat} (low : first ≤ i) (high : i < last) (low' : first ≤ j)
    (high' : j < last) :
    Exchanges first last entries (entries.swapIfInBounds i j) :=
  -- It comes behind no exchange at all.
  .swap i j .refl low high low' high'

/-- Exchanges can follow others. -/
theorem trans {middle : Array α} (one : Exchanges first last entries middle)
    (two : Exchanges first last middle later) : Exchanges first last entries later := by
  -- The later ones are made one by one after the earlier.
  induction two with
  | refl => exact one
  | swap i j _ low high low' high' ih => exact .swap i j ih low high low' high'

/-- Exchanges in a range are exchanges in a wider one. -/
theorem widen {start stop : Nat} (exchanges : Exchanges start stop entries later)
    (low : first ≤ start) (high : stop ≤ last) : Exchanges first last entries later := by
  -- Each place of the range is one of the wider range.
  induction exchanges with
  | refl => exact .refl
  | swap i j _ a b c d ih => exact .swap i j ih (by omega) (by omega) (by omega) (by omega)

/-- Exchanges that are made by the steps of a loop. -/
theorem foldl {β : Type} {step : Array α → β → Array α} :
    ∀ (inputs : List β) (entries : Array α),
      (∀ x ∈ inputs, ∀ entries, Exchanges first last entries (step entries x)) →
        Exchanges first last entries (inputs.foldl step entries)
  -- The steps are taken in turn, each behind those before it.
  | [], _, _ => .refl
  | x :: inputs, entries, each =>
    (each x List.mem_cons_self entries).trans
      (foldl inputs _ fun y among => each y (List.mem_cons_of_mem x among))

variable (exchanges : Exchanges first last entries later)

include exchanges

/-- The number of entries stays. -/
theorem size_eq : later.size = entries.size := by
  -- No exchange changes it.
  induction exchanges with
  | refl => rfl
  | swap i j _ _ _ _ _ ih => rw [Array.size_swapIfInBounds, ih]

/-- The entries stay the same. -/
theorem perm : later.Perm entries := by
  -- An exchange of two places that are there only moves them, and any other does nothing.
  induction exchanges with
  | refl => exact Array.Perm.refl _
  | @swap earlier i j _ _ _ _ _ ih =>
    refine Array.Perm.trans ?_ ih
    by_cases inside : i < earlier.size ∧ j < earlier.size
    · rw [Array.swapIfInBounds, dif_pos inside.1, dif_pos inside.2]
      exact Array.swap_perm _ _
    · rw [exchanged_missing inside]

/-- Outside the range every entry stays where it is. -/
theorem outside {k : Nat} (apart : k < first ∨ last ≤ k) : later[k]? = entries[k]? := by
  -- The place is neither of the two of any exchange.
  induction exchanges with
  | refl => rfl
  | @swap earlier i j _ low high low' high' ih =>
    rw [← ih]
    by_cases inside : i < earlier.size ∧ j < earlier.size
    · rw [getElem?_exchanged inside.1 inside.2, exchange_other (by omega) (by omega)]
    · rw [exchanged_missing inside]

/-- Every entry of the range comes from a place of the range. -/
theorem source {k : Nat} (low : first ≤ k) (high : k < last) :
    ∃ l, first ≤ l ∧ l < last ∧ later[k]? = entries[l]? := by
  -- The last exchange brings it from its own place or from the other, earlier ones to there.
  induction exchanges generalizing k with
  | refl => exact ⟨k, low, high, rfl⟩
  | @swap earlier i j _ lowI highI lowJ highJ ih =>
    by_cases inside : i < earlier.size ∧ j < earlier.size
    · rw [getElem?_exchanged inside.1 inside.2]
      have origin := exchange_inside lowI highI lowJ highJ low high
      exact ih origin.1 origin.2
    · rw [exchanged_missing inside]
      exact ih low high

/-- An entry outside the range that is below all of the range stays so. -/
theorem above {i : Nat} (apart : i < first ∨ last ≤ i)
    (below : ∀ k, first ≤ k → k < last → Below before entries i k) {k : Nat} (low : first ≤ k)
    (high : k < last) : Below before later i k := by
  -- It stays where it is, and the others are those that there were.
  obtain ⟨l, lowL, highL, same⟩ := exchanges.source low high
  exact (below l lowL highL).congr (exchanges.outside apart) same

/-- An entry outside the range that all of the range is below stays so. -/
theorem beneath {i : Nat} (apart : i < first ∨ last ≤ i)
    (below : ∀ k, first ≤ k → k < last → Below before entries k i) {k : Nat} (low : first ≤ k)
    (high : k < last) : Below before later k i := by
  -- The same the other way round.
  obtain ⟨l, lowL, highL, same⟩ := exchanges.source low high
  exact (below l lowL highL).congr same (exchanges.outside apart)

/-- The entries of a range stay above the one in front of it. -/
theorem floor (floor : Floor before first last entries) : Floor before first last later := by
  -- The one in front is outside.
  intro i j next low high
  exact exchanges.above (.inl (by omega)) (fun k => floor i k next) low high

end Exchanges

/-- Exchanges that bring a range in order. -/
structure Sorts (before : α → α → Bool) (first last : Nat) (entries later : Array α) : Prop where
  exchanges : Exchanges first last entries later
  sorted : Sorted before first last later

section Insertion

/-- Sinking moves only entries between the lowest place and where the entry comes from. -/
theorem sinkLeft_exchanges {lowest : Nat} :
    ∀ (j : Nat) (entries : Array α), lowest ≤ j → j < last →
      Exchanges lowest last entries (sinkLeft before lowest j entries)
  | 0, _, _, _ => .refl
  | j + 1, entries, _, high => by
    -- Each step exchanges two neighbours, the lower of which is not below the lowest place.
    unfold sinkLeft
    split
    next goes =>
      simp only [Bool.and_eq_true, decide_eq_true_eq] at goes
      exact (Exchanges.single (by omega) high goes.1 (by omega)).trans
        (sinkLeft_exchanges j _ goes.1 (by omega))
    · exact .refl

/-- A range is in order but for what stands in front of one place. -/
def SortedBut (before : α → α → Bool) (j first last : Nat) (entries : Array α) : Prop :=
  ∀ p q, first ≤ p → p < q → q < last → q ≠ j → Below before entries p q

/-- An entry that sinks as far as it can leaves the range in order. -/
theorem sinkLeft_sorted (ranks : Ranks before) {lowest : Nat} :
    ∀ (j : Nat) (entries : Array α), last ≤ entries.size → lowest ≤ j → j < last →
      SortedBut before j lowest last entries →
        Sorted before lowest last (sinkLeft before lowest j entries)
  | 0, entries, _, _, _, but => by
    intro p q low less high
    exact but p q low less high (by omega)
  | j + 1, entries, inside, low, high, but => by
    -- All but the entry that sinks are in order, so that one exchange moves the fault one place
    -- down.
    unfold sinkLeft
    split
    next goes =>
      simp only [Bool.and_eq_true, decide_eq_true_eq] at goes
      refine sinkLeft_sorted ranks j _ (by simpa using inside) goes.1 (by omega) ?_
      intro p q lowP less highQ other
      refine below_exchanged (by omega) (by omega) ?_
      by_cases raised : q = j + 1
      · -- What was in front of the fault is above the entry that sinks and all others before it.
        rw [raised, exchange_left]
        by_cases neighbour : p = j
        · rw [neighbour, exchange_right]
          exact ranks.below_of_goesBefore goes.2
        · rw [exchange_other (by omega) neighbour]
          exact but p j lowP (by omega) (by omega) (by omega)
      · -- Any other place is above the two that are exchanged, or is in front of both.
        rw [exchange_other raised other]
        by_cases upper : p = j + 1
        · rw [upper, exchange_left]
          exact but j q goes.1 (by omega) highQ raised
        by_cases lower : p = j
        · rw [lower, exchange_right]
          exact but (j + 1) q low (by omega) highQ raised
        · rw [exchange_other upper lower]
          exact but p q lowP less highQ raised
    next stays =>
      intro p q lowP less highQ
      by_cases fault : q = j + 1
      · subst fault
        simp only [Bool.and_eq_true, decide_eq_true_eq, not_and, Bool.not_eq_true] at stays
        have last : Below before entries j (j + 1) := stays (by omega)
        by_cases neighbour : p = j
        · exact neighbour ▸ last
        · exact ranks.below_trans (by omega) (but p j lowP (by omega) (by omega) (by omega)) last
      · exact but p q lowP less highQ fault

/-- Insertion from a place on, in front of which the range is in order, brings the range in
order. -/
theorem foldl_sinkLeft_sorted (ranks : Ranks before) :
    ∀ (room next : Nat) (entries : Array α), first < next → next + room ≤ entries.size →
      Sorted before first next entries →
        Sorted before first (next + room)
          ((List.range' next room).foldl (fun entries i => sinkLeft before first i entries) entries)
  | 0, _, _, _, _, sorted => sorted
  | room + 1, next, entries, low, inside, sorted => by
    -- The part in front grows by the entry that sinks into it.
    have longer : Sorted before first (next + 1) (sinkLeft before first next entries) := by
      refine sinkLeft_sorted ranks next entries (by omega) (by omega) (by omega) ?_
      intro p q lowP less highQ other
      exact sorted p q lowP less (by omega)
    have size : (sinkLeft before first next entries).size = entries.size :=
      (sinkLeft_exchanges next entries (Nat.le_of_lt low) (Nat.lt_succ_self next)).size_eq
    rw [List.range'_succ, List.foldl_cons, show next + (room + 1) = next + 1 + room by omega]
    exact foldl_sinkLeft_sorted ranks room (next + 1) _ (by omega) (by omega) longer

/-- Insertion sorts the range. -/
theorem insertAll_sorts (ranks : Ranks before) (inside : last ≤ entries.size) :
    Sorts before first last entries (insertAll before first last entries) := by
  constructor
  · -- Each entry sinks within the range.
    refine Exchanges.foldl _ _ fun i among entries => ?_
    rw [List.mem_range'_1] at among
    exact sinkLeft_exchanges i entries (by omega) (by omega)
  -- A range of one entry is in order, and a shorter one has nothing to sort.
  by_cases several : first + 1 ≤ last
  · have sorted : Sorted before first (first + 1) entries := by
      intro i j low less high
      omega
    have inserted := foldl_sinkLeft_sorted ranks (last - first - 1) (first + 1) entries (by omega)
      (by omega) sorted
    rwa [show first + 1 + (last - first - 1) = last by omega] at inserted
  · intro i j low less high
    omega

end Insertion

end Patchbay.Quicksort
