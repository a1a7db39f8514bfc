import Patchbay.Proofs.Quicksort.Exchange

/-! Partition: two places move towards each other and exchange the entries that are on the wrong
sides, until all that belong left are in front of the others. -/

namespace Patchbay.Quicksort

variable {α : Type} {before : α → α → Bool} {entries later : Array α} {first last middle : Nat}

section Scan

variable (test : Nat → Bool)

/-- Looking up passes only places that pass the test, and stops at one that does not unless the room
ends. -/
theorem scanUp_spec : ∀ (room i : Nat),
    i ≤ scanUp test room i ∧ scanUp test room i ≤ i + room ∧
      (∀ k, i ≤ k → k < scanUp test room i → test k = true) ∧
      (scanUp test room i < i + room → test (scanUp test room i) = false)
  | 0, i => by
    unfold scanUp
    exact ⟨Nat.le_refl _, Nat.le_refl _, fun k low high => by omega, fun less => by omega⟩
  | room + 1, i => by
    -- The first place passes, and the rest is looked through from the next on.
    unfold scanUp
    split
    next passes =>
      obtain ⟨low, high, passed, stop⟩ := scanUp_spec room (i + 1)
      refine ⟨by omega, by omega, fun k lowK highK => ?_, fun less => stop (by omega)⟩
      by_cases start : k = i
      · exact start ▸ passes
      · exact passed k (by omega) highK
    next fails =>
      exact ⟨Nat.le_refl _, by omega, fun k low high => by omega, fun _ => by simpa using fails⟩

/-- Looking down is the same the other way. -/
theorem scanDown_spec : ∀ (room j : Nat), room ≤ j →
    scanDown test room j ≤ j ∧ j ≤ scanDown test room j + room ∧
      (∀ k, scanDown test room j < k → k ≤ j → test k = true) ∧
      (j < scanDown test room j + room → test (scanDown test room j) = false)
  -- The places are looked at in turn, as long as there is room.
  | 0, j, _ => by
    unfold scanDown
    exact ⟨Nat.le_refl _, Nat.le_refl _, fun k low high => by omega, fun less => by omega⟩
  | room + 1, j, enough => by
    unfold scanDown
    split
    next passes =>
      obtain ⟨low, high, passed, stop⟩ := scanDown_spec room (j - 1) (by omega)
      refine ⟨by omega, by omega, fun k lowK highK => ?_, fun less => stop (by omega)⟩
      by_cases start : k = j
      · exact start ▸ passes
      · exact passed k lowK (by omega)
    next fails =>
      exact ⟨Nat.le_refl _, by omega, fun k low high => by omega, fun _ => by simpa using fails⟩

end Scan

section Divide

variable {left : Array α → Nat → Bool} {start : Nat}

/-- Whether an entry belongs left is not changed by an exchange from a place on. -/
def Steady (left : Array α → Nat → Bool) (start : Nat) : Prop :=
  ∀ entries a b k, start ≤ a → a < entries.size → start ≤ b → b < entries.size → start ≤ k →
    left (entries.swapIfInBounds a b) k = left entries (exchange a b k)

/-- A range whose entries that belong left are in front of a place and whose others are behind
it. -/
structure Divided (left : Array α → Nat → Bool) (start last : Nat) (entries later : Array α)
    (place : Nat) : Prop where
  exchanges : Exchanges start last entries later
  low : start ≤ place
  high : place ≤ last
  lefts : ∀ k, start ≤ k → k < place → left later k = true
  rights : ∀ k, place ≤ k → k < last → left later k = false

/-- Dividing a range of which both ends are divided already divides it. -/
theorem divide_divided (steady : Steady left start) (positive : 0 < start) :
    ∀ (fuel i j : Nat) (untouched : Bool) (entries : Array α), last ≤ entries.size → start ≤ i →
      i ≤ j + 1 → j < last → j + 1 ≤ i + fuel →
      (∀ k, start ≤ k → k < i → left entries k = true) →
      (∀ k, j < k → k < last → left entries k = false) →
        Divided left start last entries
          (divide left (fun entries k => !left entries k) fuel i j untouched entries).1
          (divide left (fun entries k => !left entries k) fuel i j untouched entries).2.1
  | 0, i, j, _, entries, _, low, meet, high, enough, lefts, rights => by
    show Divided left start last entries entries i
    exact ⟨.refl, low, by omega, lefts, fun k lowK => rights k (by omega)⟩
  | fuel + 1, i, j, untouched, entries, inside, low, meet, high, enough, lefts, rights => by
    unfold divide
    dsimp only
    -- The two places move on over all that stands right.
    obtain ⟨lowUp, highUp, passedUp, stopUp⟩ := scanUp_spec (left entries) (j + 1 - i) i
    generalize scanUp (left entries) (j + 1 - i) i = up at *
    obtain ⟨lowDown, highDown, passedDown, stopDown⟩ :=
      scanDown_spec (fun k => !left entries k) (j + 1 - up) j (by omega)
    generalize scanDown (fun k => !left entries k) (j + 1 - up) j = down at *
    have lefts' (k : Nat) (lowK : start ≤ k) (highK : k < up) : left entries k = true := by
      by_cases old : k < i
      · exact lefts k lowK old
      · exact passedUp k (by omega) highK
    have rights' (k : Nat) (lowK : down < k) (highK : k < last) : left entries k = false := by
      by_cases old : j < k
      · exact rights k old highK
      · simpa using passedDown k lowK (by omega)
    split
    · -- They have met.
      show Divided left start last entries entries up
      exact ⟨.refl, by omega, by omega, lefts', fun k lowK => rights' k (by omega)⟩
    next apart =>
      -- They stop at two entries that are both on the wrong side, and so at two places.
      have wrongUp : left entries up = false := stopUp (by omega)
      have wrongDown : left entries down = true := by simpa using stopDown (by omega)
      have distinct : up ≠ down := by
        intro same
        rw [same, wrongDown] at wrongUp
        cases wrongUp
      have exchanged (k : Nat) (lowK : start ≤ k) :=
        steady entries up down k (by omega) (by omega) (by omega) (by omega) lowK
      obtain ⟨exchanges, lowR, highR, leftsR, rightsR⟩ :=
        divide_divided steady positive fuel (up + 1) (down - 1) false
          (entries.swapIfInBounds up down) (by simpa using inside) (by omega) (by omega) (by omega)
          (by omega)
          (fun k lowK highK => by
            rw [exchanged k lowK]
            by_cases same : k = up
            · rw [same, exchange_left]
              exact wrongDown
            · rw [exchange_other same (by omega)]
              exact lefts' k lowK (by omega))
          (fun k lowK highK => by
            rw [exchanged k (by omega)]
            by_cases same : k = down
            · rw [same, exchange_right]
              exact wrongUp
            · rw [exchange_other (by omega) same]
              exact rights' k (by omega) highK)
      exact ⟨(Exchanges.single (by omega) (by omega) (by omega) (by omega)).trans exchanges, lowR,
        highR, leftsR, rightsR⟩

/-- Dividing the entries behind the first of a range divides them. -/
theorem divide_rest (steady : Steady left (first + 1)) (inside : last ≤ entries.size)
    (some : first < last) :
    Divided left (first + 1) last entries
      (divide left (fun entries k => !left entries k) (last - first) (first + 1) (last - 1) true
        entries).1
      (divide left (fun entries k => !left entries k) (last - first) (first + 1) (last - 1) true
        entries).2.1 :=
  -- At the start nothing has been passed, neither from below nor from above.
  divide_divided steady (Nat.succ_pos first) (last - first) (first + 1)
    (last - 1) true entries inside
    (Nat.le_refl _) (by omega) (by omega) (by omega) (fun k low high => by omega)
    (fun k low high => by omega)

end Divide

section Partition

/-- Whether an entry goes before that in front of the places of an exchange is not changed by it. -/
theorem steady_lesser (before : α → α → Bool) (first : Nat) :
    Steady (fun entries i => goesBefore before entries i first) (first + 1) := by
  -- The exchange is behind the first place, which keeps its entry.
  intro entries a b k lowA insideA lowB insideB lowK
  refine goesBefore_congr (getElem?_exchanged insideA insideB k) ?_
  rw [getElem?_exchanged insideA insideB, exchange_other (by omega) (by omega)]

/-- Nor is whether the one in front goes before it. -/
theorem steady_greater (before : α → α → Bool) (first : Nat) :
    Steady (fun entries i => !goesBefore before entries first i) (first + 1) := by
  -- The exchange is behind the first place, which keeps its entry.
  intro entries a b k lowA insideA lowB insideB lowK
  refine congrArg _ (goesBefore_congr ?_ (getElem?_exchanged insideA insideB k))
  rw [getElem?_exchanged insideA insideB, exchange_other (by omega) (by omega)]

/-- The entries of a range that are in front of a pivot are below it, and those behind it above. -/
structure Parted (before : α → α → Bool) (first last middle : Nat) (entries later : Array α) :
    Prop where
  exchanges : Exchanges first last entries later
  low : first ≤ middle
  high : middle < last
  lefts : ∀ k, first ≤ k → k < middle → Below before later k middle
  rights : ∀ k, middle < k → k < last → Below before later middle k

namespace Parted

variable {half : Array α}

/-- Exchanges in front of the pivot leave the range parted. -/
theorem exchange_left (parted : Parted before first last middle entries later)
    (exchanges : Exchanges first middle later half) :
    Parted before first last middle entries half := by
  -- The entries in front come from in front, and the others stay.
  obtain ⟨whole, low, high, lefts, rights⟩ := parted
  refine ⟨whole.trans (exchanges.widen (Nat.le_refl _) (by omega)), low, high, ?_, ?_⟩
  · intro k lowK highK
    exact exchanges.beneath (.inr (Nat.le_refl _)) lefts lowK highK
  · intro k lowK highK
    exact (rights k lowK highK).congr (exchanges.outside (.inr (Nat.le_refl _)))
      (exchanges.outside (.inr (by omega)))

/-- Exchanges behind the pivot leave the range parted. -/
theorem exchange_right (parted : Parted before first last middle entries later)
    (exchanges : Exchanges (middle + 1) last later half) :
    Parted before first last middle entries half := by
  -- The entries behind come from behind, and the others stay.
  obtain ⟨whole, low, high, lefts, rights⟩ := parted
  refine ⟨whole.trans (exchanges.widen (by omega) (Nat.le_refl _)), low, high, ?_, ?_⟩
  · intro k lowK highK
    exact (lefts k lowK highK).congr (exchanges.outside (.inl (by omega)))
      (exchanges.outside (.inl (by omega)))
  · intro k lowK highK
    exact exchanges.above (.inl (by omega)) rights lowK highK

/-- The pivot is below the entries behind it. -/
theorem floor (parted : Parted before first last middle entries later) :
    Floor before (middle + 1) last later := by
  -- The entry in front of the range is the pivot.
  intro i j next low high
  obtain rfl : i = middle := by omega
  exact parted.rights j low high

/-- A range that is parted and in order on both sides is in order. -/
theorem sorted (ranks : Ranks before) (inside : last ≤ entries.size)
    (parted : Parted before first last middle entries later)
    (left : Sorted before first middle later) (right : Sorted before (middle + 1) last later) :
    Sorted before first last later := by
  have size := parted.exchanges.size_eq
  obtain ⟨_, low, high, lefts, rights⟩ := parted
  -- The pivot belongs to the right side, where it is the first.
  have fromPivot : Sorted before middle last later := by
    intro i j lowI less highJ
    by_cases start : i = middle
    · exact start ▸ rights j (by omega) highJ
    · exact right i j (by omega) less highJ
  refine left.join fromPivot fun i j lowI highI lowJ highJ => ?_
  by_cases start : j = middle
  · exact start ▸ lefts i lowI highI
  · exact ranks.below_trans (by omega) (lefts i lowI highI) (rights j (by omega) highJ)

/-- Sorting what is in front of the pivot and then what is behind it sorts the range. -/
theorem sorts_left_right {done : Array α} (ranks : Ranks before) (inside : last ≤ entries.size)
    (parted : Parted before first last middle entries later)
    (left : Sorts before first middle later half)
    (right : Sorts before (middle + 1) last half done) :
    Sorts before first last entries done := by
  -- The left side stays as it is while the right is sorted.
  have both := (parted.exchange_left left.exchanges).exchange_right right.exchanges
  refine ⟨both.exchanges, both.sorted ranks inside ?_ right.sorted⟩
  exact left.sorted.congr fun k _ high => right.exchanges.outside (.inl (by omega))

/-- Sorting what is behind the pivot and then what is in front of it sorts the range. -/
theorem sorts_right_left {done : Array α} (ranks : Ranks before) (inside : last ≤ entries.size)
    (parted : Parted before first last middle entries later)
    (right : Sorts before (middle + 1) last later half)
    (left : Sorts before first middle half done) :
    Sorts before first last entries done := by
  -- The right side stays as it is while the left is sorted.
  have both := (parted.exchange_right right.exchanges).exchange_left left.exchanges
  refine ⟨both.exchanges, both.sorted ranks inside left.sorted ?_⟩
  exact right.sorted.congr fun k low _ => left.exchanges.outside (.inr (by omega))

end Parted

/-- A partition parts the range at its pivot. -/
theorem partition_parted (ranks : Ranks before) {pivot : Nat} (inside : last ≤ entries.size)
    (low : first ≤ pivot) (high : pivot < last) :
    Parted before first last (partition before first last pivot entries).2.1 entries
      (partition before first last pivot entries).1 := by
  -- The pivot stands in front while the others are divided, and is exchanged with the last of the
  -- left.
  have divided := divide_rest (steady_lesser before first)
    (show last ≤ (entries.swapIfInBounds first pivot).size by simpa using inside) (by omega)
  have inside' := divided.exchanges.size_eq
  rw [Array.size_swapIfInBounds] at inside'
  unfold partition
  dsimp only
  generalize divide _ _ _ _ _ _ (entries.swapIfInBounds first pivot) = result at *
  obtain ⟨halves, place, untouched⟩ := result
  obtain ⟨exchanges, lowI, highI, lefts, rights⟩ := divided
  dsimp only at *
  refine ⟨?_, by omega, by omega, fun k lowK highK => ?_, fun k lowK highK => ?_⟩
  · have front : Exchanges first last entries (entries.swapIfInBounds first pivot) :=
      .single (Nat.le_refl _) (by omega) low high
    exact .swap _ _ (front.trans (exchanges.widen (by omega) (Nat.le_refl _))) (by omega) (by omega)
      (Nat.le_refl _) (by omega)
  · refine below_exchanged (by omega) (by omega) ?_
    rw [exchange_left]
    by_cases start : k = first
    · rw [start, exchange_right]
      exact ranks.below_of_goesBefore (lefts _ (by omega) (by omega))
    · rw [exchange_other (by omega) start]
      exact ranks.below_of_goesBefore (lefts k (by omega) (by omega))
  · refine below_exchanged (by omega) (by omega) ?_
    rw [exchange_left, exchange_other (by omega) (by omega)]
    exact rights k (by omega) highK

/-- The entries of a range that are the same as a pivot are in order in front of those above it. -/
structure Levelled (before : α → α → Bool) (first last middle : Nat) (entries later : Array α) :
    Prop where
  exchanges : Exchanges first last entries later
  low : first < middle
  high : middle ≤ last
  level : Sorted before first middle later
  across : ∀ i j, first ≤ i → i < middle → middle ≤ j → j < last → Below before later i j

/-- The entries in front of those above the pivot are below them. -/
theorem Levelled.floor (levelled : Levelled before first last middle entries later) :
    Floor before middle last later := by
  -- The entry in front is one of those that are not above the pivot.
  intro i j next low high
  exact levelled.across i j (by have := levelled.low; omega) (by omega) low high

/-- Sorting those above the pivot sorts the range. -/
theorem Levelled.sorts {half : Array α}
    (levelled : Levelled before first last middle entries later)
    (right : Sorts before middle last later half) : Sorts before first last entries half := by
  -- The entries in front stay where they are, below the same entries.
  have low := levelled.low
  refine ⟨levelled.exchanges.trans (right.exchanges.widen (by omega) (Nat.le_refl _)), ?_⟩
  have left := levelled.level.congr fun k _ high => right.exchanges.outside (.inl high)
  refine left.join right.sorted fun i j lowI highI lowJ highJ => ?_
  exact right.exchanges.above (.inl highI) (fun k => levelled.across i k lowI highI) lowJ highJ

/-- A partition by a pivot that is not above the entry in front of the range puts all that are the
same in front. -/
theorem partitionEqual_levelled (ranks : Ranks before) {pivot : Nat} (inside : last ≤ entries.size)
    (low : first ≤ pivot) (high : pivot < last) (floor : Floor before first last entries)
    (positive : 0 < first) (level : Below before entries pivot (first - 1)) :
    Levelled before first last (partitionEqual before first last pivot entries).2 entries
      (partitionEqual before first last pivot entries).1 := by
  -- The pivot stands in front while the others are divided, and stays there.
  have divided : Divided (fun entries i => !goesBefore before entries first i) (first + 1) last
      (entries.swapIfInBounds first pivot) (partitionEqual before first last pivot entries).1
      (partitionEqual before first last pivot entries).2 := by
    have divided := divide_rest (steady_greater before first)
      (show last ≤ (entries.swapIfInBounds first pivot).size by simpa using inside) (by omega)
    simp only [Bool.not_not] at divided
    exact divided
  generalize partitionEqual before first last pivot entries = result at divided ⊢
  obtain ⟨halves, place⟩ := result
  obtain ⟨exchanges, lowI, highI, lefts, rights⟩ := divided
  dsimp only at *
  have front : Exchanges first last entries (entries.swapIfInBounds first pivot) :=
    .single (Nat.le_refl _) (by omega) low high
  have whole := front.trans (exchanges.widen (by omega) (Nat.le_refl _))
  have size := whole.size_eq
  -- The pivot is the same as the entry in front of the range, so that it is below all of the range.
  have pivot_level : Below before halves first (first - 1) := by
    refine Below.congr (level.congr ?_ ?_) (exchanges.outside (.inl (by omega)))
      (exchanges.outside (.inl (by omega)))
    · rw [getElem?_exchanged (by omega) (by omega), exchange_left]
    · rw [getElem?_exchanged (by omega) (by omega), exchange_other (by omega) (by omega)]
  have lefts_level (k : Nat) (lowK : first ≤ k) (highK : k < place) :
      Below before halves k first := by
    by_cases start : k = first
    · exact start ▸ ranks.below_self _
    · unfold Below
      simpa using lefts k (by omega) highK
  refine ⟨whole, by omega, highI, fun i j lowK less highK => ?_,
    fun i j lowK highK lowJ highJ => ?_⟩
  · have above := whole.floor floor (first - 1) j (by omega) (by omega) (by omega)
    exact ranks.below_trans (by omega) (lefts_level i lowK (by omega))
      (ranks.below_trans (by omega) pivot_level above)
  · refine ranks.below_trans (by omega) (lefts_level i lowK highK) ?_
    exact ranks.below_of_goesBefore (by simpa using rights j lowJ highJ)

end Partition

end Patchbay.Quicksort
