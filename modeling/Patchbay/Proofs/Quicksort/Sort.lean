import Patchbay.Proofs.Quicksort.Heap
import Patchbay.Proofs.Quicksort.Partition

/-! Sorting puts the entries in order and only moves them around, whatever the pivots, the patterns
that are broken and the runs that are mended on the way. -/

namespace Patchbay.Quicksort

variable {α : Type} {before : α → α → Bool} {entries : Array α} {first last : Nat}

section Mend

/-- Sinking to the right moves only entries from the one in front on. -/
theorem sinkRight_exchanges :
    ∀ (room j : Nat) (entries : Array α), first < j → j + room ≤ last →
      Exchanges first last entries (sinkRight before room j entries)
  | 0, _, _, _, _ => .refl
  | room + 1, j, entries, low, high => by
    -- Each step exchanges two neighbours.
    unfold sinkRight
    split
    · exact (Exchanges.single (by omega) (by omega) (by omega) (by omega)).trans
        (sinkRight_exchanges room (j + 1) _ (by omega) (by omega))
    · exact .refl

/-- No entry sinks below a range whose entries are above the one in front of it. -/
theorem sinkLeft_floor :
    ∀ (j : Nat) (entries : Array α), first ≤ j → j < last → Floor before first last entries →
      sinkLeft before 0 j entries = sinkLeft before first j entries
  | 0, _, _, _, _ => by
    unfold sinkLeft
    rfl
  | j + 1, entries, low, high, floor => by
    unfold sinkLeft
    by_cases inner : first ≤ j
    · -- Inside the range both go on in the same way.
      have swapped : Exchanges first last entries (entries.swapIfInBounds (j + 1) j) :=
        .single low high inner (by omega)
      rw [sinkLeft_floor j _ inner (by omega) (swapped.floor floor)]
      simp [inner]
    · -- At its start the one in front does not let the entry past.
      have rests : goesBefore before entries (j + 1) j = false :=
        floor j (j + 1) (by omega) (by omega) high
      simp [inner, rests]

/-- The place that a rising run ends at is in the range, and the run is in order. -/
theorem risingEnd_spec (ranks : Ranks before) (inside : last ≤ entries.size) :
    ∀ (room i : Nat), first < i → i + room ≤ last → Sorted before first i entries →
      i ≤ risingEnd before entries room i ∧ risingEnd before entries room i ≤ i + room ∧
        Sorted before first (risingEnd before entries room i) entries
  | 0, i, _, _, sorted => by
    unfold risingEnd
    exact ⟨Nat.le_refl _, Nat.le_refl _, sorted⟩
  | room + 1, i, low, high, sorted => by
    unfold risingEnd
    split
    · exact ⟨Nat.le_refl _, by omega, sorted⟩
    next rises =>
      -- The entry is above its neighbour, and so above all in front of it.
      have longer : Sorted before first (i + 1) entries := by
        refine sorted.join (fun p q lowP less highQ => by omega) fun p q lowP highP lowQ highQ => ?_
        obtain rfl : q = i := by omega
        have neighbour : Below before entries (q - 1) q := eq_false_of_ne_true rises
        by_cases same : p = q - 1
        · exact same ▸ neighbour
        · exact ranks.below_trans (by omega) (sorted p (q - 1) lowP (by omega) (by omega)) neighbour
      obtain ⟨lowR, highR, sortedR⟩ :=
        risingEnd_spec ranks inside room (i + 1) (by omega) (by omega) longer
      exact ⟨by omega, by omega, sortedR⟩

/-- Mending a place only exchanges entries of the range, and what is in front of the place stays in
order. -/
theorem mendAt_spec (ranks : Ranks before) {i : Nat} (inside : last ≤ entries.size)
    (low : first < i) (high : i < last) (floor : Floor before first last entries)
    (sorted : Sorted before first i entries) :
    Exchanges first last entries (mendAt before first last i entries) ∧
      Sorted before first i (mendAt before first last i entries) := by
  -- The exchange leaves only the entry that comes to the left in the wrong order.
  have swapped : Exchanges first last entries (entries.swapIfInBounds i (i - 1)) :=
    .single (by omega) high (by omega) (by omega)
  have but : SortedBut before (i - 1) first i (entries.swapIfInBounds i (i - 1)) := by
    intro p q lowP less highQ other
    refine below_exchanged (by omega) (by omega) ?_
    rw [exchange_other (by omega) (by omega), exchange_other (by omega) (by omega)]
    exact sorted p q lowP less highQ
  have sunk : Exchanges first last entries
        (if 2 ≤ i - first then sinkLeft before 0 (i - 1) (entries.swapIfInBounds i (i - 1))
          else entries.swapIfInBounds i (i - 1)) ∧
      Sorted before first i
        (if 2 ≤ i - first then sinkLeft before 0 (i - 1) (entries.swapIfInBounds i (i - 1))
          else entries.swapIfInBounds i (i - 1)) := by
    split
    · rw [sinkLeft_floor (i - 1) _ (by omega) (by omega) (swapped.floor floor)]
      exact ⟨swapped.trans (sinkLeft_exchanges (i - 1) _ (by omega) (by omega)),
        sinkLeft_sorted ranks (i - 1) _ (by rw [Array.size_swapIfInBounds]; omega) (by omega)
          (by omega) but⟩
    · exact ⟨swapped, fun p q lowP less highQ => by omega⟩
  unfold mendAt
  dsimp only
  generalize (if 2 ≤ i - first then sinkLeft before 0 (i - 1) (entries.swapIfInBounds i (i - 1))
    else entries.swapIfInBounds i (i - 1)) = left at *
  split
  · -- What comes to the right moves no entry in front of the place.
    have right : Exchanges i last left (sinkRight before (last - (i + 1)) (i + 1) left) :=
      sinkRight_exchanges _ _ _ (by omega) (by omega)
    exact ⟨sunk.1.trans (right.widen (by omega) (Nat.le_refl _)),
      sunk.2.congr fun k _ highK => right.outside (.inl highK)⟩
  · exact sunk

/-- Mending only exchanges entries of the range, and brings it in order where it says so. -/
theorem mend_spec (ranks : Ranks before) :
    ∀ (steps i : Nat) (entries : Array α), last ≤ entries.size → first < i → i ≤ last →
      Floor before first last entries → Sorted before first i entries →
        Exchanges first last entries (mend before first last steps i entries).1 ∧
          ((mend before first last steps i entries).2 = true →
            Sorted before first last (mend before first last steps i entries).1)
  | 0, _, _, _, _, _, _, _ => ⟨.refl, fun sorted => by cases sorted⟩
  | steps + 1, i, entries, inside, low, high, floor, sorted => by
    unfold mend
    dsimp only
    obtain ⟨lowR, highR, sortedR⟩ := risingEnd_spec ranks inside (last - i) i low (by omega) sorted
    generalize risingEnd before entries (last - i) i = stop at *
    split
    · -- The run goes on to the end.
      exact ⟨.refl, fun _ => by rwa [show last = stop by omega]⟩
    split
    · exact ⟨.refl, fun sorted => by cases sorted⟩
    · -- The next run starts where this one ended, and what is in front is in order again.
      obtain ⟨mended, sortedM⟩ := mendAt_spec ranks inside (by omega) (by omega) floor sortedR
      obtain ⟨exchanges, result⟩ :=
        mend_spec ranks steps stop (mendAt before first last stop entries)
          (by rw [mended.size_eq]; exact inside) (by omega) (by omega) (mended.floor floor) sortedM
      exact ⟨mended.trans exchanges, result⟩

end Mend

section Pivot

/-- Breaking a pattern at a place only exchanges entries of a range of more than twelve. -/
theorem breakAt_exchanges (long : 12 < last - first) (state : Array α × UInt64) {i : Nat}
    (few : i < 3) :
    Exchanges first last state.1 (breakAt first last state i).1 := by
  -- The number is below twice the size, so that it tells a place once the size is taken off.
  have near : (scatter state.2).toNat % (1 <<< ((last - first).log2 + 1)) < 2 * (last - first) :=
    calc (scatter state.2).toNat % (1 <<< ((last - first).log2 + 1))
        = (scatter state.2).toNat % 2 ^ ((last - first).log2 + 1) := by rw [Nat.one_shiftLeft]
      _ < 2 ^ ((last - first).log2 + 1) := Nat.mod_lt _ (Nat.two_pow_pos _)
      _ = 2 * 2 ^ (last - first).log2 := by rw [Nat.pow_succ, Nat.mul_comm]
      _ ≤ 2 * (last - first) := Nat.mul_le_mul_left 2 (Nat.log2_self_le (by omega))
  unfold breakAt
  dsimp only
  refine .single (by omega) (by omega) (by omega) ?_
  split <;> omega

/-- Breaking a pattern only exchanges entries of a range of more than twelve. -/
theorem breakPatterns_exchanges (long : 12 < last - first) :
    Exchanges first last entries (breakPatterns first last entries) := by
  -- It is broken at three places.
  have each (state : Array α × UInt64) (i : Nat) (few : i < 3) := breakAt_exchanges long state few
  exact ((each (entries, UInt64.ofNat (last - first)) 0 (by omega)).trans
    (each _ 1 (by omega))).trans (each _ 2 (by omega))

/-- The middle one of three places is one of them. -/
theorem median_eq (before : α → α → Bool) (entries : Array α) (i j k swaps : Nat) :
    (median before entries i j k swaps).1 = i ∨ (median before entries i j k swaps).1 = j ∨
      (median before entries i j k swaps).1 = k := by
  -- Bringing places in order only moves them around.
  unfold median order
  dsimp only
  grind

/-- The middle one of neighbours is next to the entry, and in a short range the entry itself. -/
theorem medianNear_near (before : α → α → Bool) (first last : Nat) (entries : Array α)
    (i swaps : Nat) :
    (medianNear before first last entries i swaps).1 = i ∨ 50 ≤ last - first ∧
      i ≤ (medianNear before first last entries i swaps).1 + 1 ∧
        (medianNear before first last entries i swaps).1 ≤ i + 1 := by
  -- In a long range it is one of the three, and else there is nothing to choose from.
  unfold medianNear
  split
  next long =>
    have := median_eq before entries (i - 1) i (i + 1) swaps
    exact .inr ⟨long, by omega, by omega⟩
  · exact .inl rfl

/-- The pivot of a range of more than twelve entries is in the range. -/
theorem choosePivot_inside (before : α → α → Bool) (entries : Array α) (long : 12 < last - first) :
    first ≤ (choosePivot before first last entries).1 ∧
      (choosePivot before first last entries).1 < last := by
  -- The three places are a quarter of the range away from its ends and each other.
  unfold choosePivot
  dsimp only
  have one := medianNear_near before first last entries (first + (last - first) / 4) 0
  generalize medianNear before first last entries (first + (last - first) / 4) 0 = i at *
  have two := medianNear_near before first last entries (first + (last - first) / 4 * 2) i.2
  generalize medianNear before first last entries (first + (last - first) / 4 * 2) i.2 = j at *
  have three := medianNear_near before first last entries (first + (last - first) / 4 * 3) j.2
  generalize medianNear before first last entries (first + (last - first) / 4 * 3) j.2 = k at *
  have chosen := median_eq before entries i.1 j.1 k.1 k.2
  omega

/-- Putting entries in the opposite order only exchanges them. -/
theorem reverse_exchanges : Exchanges first last entries (reverse first last entries) := by
  -- Each is exchanged with the one as far from the end.
  refine Exchanges.foldl _ _ fun i among entries => ?_
  rw [List.mem_range] at among
  exact .single (by omega) (by omega) (by omega) (by omega)

/-- What comes before a partition of a range of more than twelve entries only exchanges them, gives
a place of the range, and brings the range in order where it says so. -/
theorem prepare_spec (ranks : Ranks before) (balanced untouched : Bool)
    (inside : last ≤ entries.size)
    (long : 12 < last - first) (floor : Floor before first last entries) :
    Exchanges first last entries (prepare before first last balanced untouched entries).1 ∧
      first ≤ (prepare before first last balanced untouched entries).2.1 ∧
      (prepare before first last balanced untouched entries).2.1 < last ∧
      ((prepare before first last balanced untouched entries).2.2 = true →
        Sorted before first last (prepare before first last balanced untouched entries).1) := by
  unfold prepare
  dsimp only
  -- First a pattern may be broken.
  have broken : Exchanges first last entries
      (if balanced then entries else breakPatterns first last entries) := by
    split
    · exact .refl
    · exact breakPatterns_exchanges long
  generalize (if balanced then entries else breakPatterns first last entries) = one at *
  -- The pivot moves with the entries when they are put in the opposite order.
  have pivot := choosePivot_inside before one long
  generalize choosePivot before first last one = choice at *
  have turned : Exchanges first last one
        (if choice.2 = .falling then (reverse first last one, last - 1 - (choice.1 - first))
          else (one, choice.1)).1 ∧
      first ≤ (if choice.2 = .falling then (reverse first last one, last - 1 - (choice.1 - first))
          else (one, choice.1)).2 ∧
      (if choice.2 = .falling then (reverse first last one, last - 1 - (choice.1 - first))
          else (one, choice.1)).2 < last := by
    split
    · exact ⟨reverse_exchanges, by omega, by omega⟩
    · exact ⟨.refl, pivot⟩
  generalize (if choice.2 = .falling then (reverse first last one, last - 1 - (choice.1 - first))
    else (one, choice.1)) = two at *
  have exchanges := broken.trans turned.1
  split
  · -- A single entry is in order, and mending starts behind it.
    obtain ⟨mended, result⟩ := mend_spec ranks 5 (first + 1) two.1
      (by rw [exchanges.size_eq]; exact inside) (by omega) (by omega) (exchanges.floor floor)
      (fun i j low less high => by omega)
    exact ⟨exchanges.trans mended, turned.2.1, turned.2.2, result⟩
  · exact ⟨exchanges, turned.2.1, turned.2.2, fun sorted => by cases sorted⟩

end Pivot

section Sorting

/-- A range is sorted whatever is known of the partitions that it comes from. -/
theorem sortRange_sorts (ranks : Ranks before) :
    ∀ (fuel first last limit : Nat) (balanced untouched : Bool) (entries : Array α),
      last ≤ entries.size → last - first < fuel → Floor before first last entries →
        Sorts before first last entries
          (sortRange before fuel first last limit balanced untouched entries)
  | 0, _, _, _, _, _, _, _, enough, _ => by omega
  | fuel + 1, first, last, limit, balanced, untouched, entries, inside, enough, floor => by
    unfold sortRange
    split
    · exact insertAll_sorts ranks inside
    next long =>
    split
    · exact heapSort_sorts ranks inside (by omega)
    dsimp only
    obtain ⟨prepared, low, high, sorted⟩ :=
      prepare_spec ranks balanced untouched inside (by omega) floor
    generalize prepare before first last balanced untouched entries = ready at *
    generalize (if balanced then limit else limit - 1) = limit
    have inside' : last ≤ ready.1.size := by rwa [prepared.size_eq]
    have floor' := prepared.floor floor
    split
    next done => exact ⟨prepared, sorted done⟩
    -- The partitions leave shorter ranges, each above the entry in front of it.
    suffices sorts : Sorts before first last ready.1 _ from
      ⟨prepared.trans sorts.exchanges, sorts.sorted⟩
    split
    next equal =>
      simp only [Bool.and_eq_true, decide_eq_true_eq, Bool.not_eq_true'] at equal
      have levelled := partitionEqual_levelled ranks inside' low high floor' equal.1 equal.2
      have shorter := levelled.low
      refine levelled.sorts
        (sortRange_sorts ranks fuel _ last limit _ _ _ ?_ (by omega) levelled.floor)
      rwa [levelled.exchanges.size_eq]
    · have parted := partition_parted ranks inside' low high
      generalize partition before first last ready.2.1 ready.1 = parts at *
      have lowM := parted.low
      have highM := parted.high
      have size := parted.exchanges.size_eq
      have floorLeft : Floor before first parts.2.1 parts.1 := fun i j next lowJ highJ =>
        parted.exchanges.floor floor' i j next lowJ (by omega)
      split
      · have left := sortRange_sorts ranks fuel first parts.2.1 limit true true parts.1 (by omega)
          (by omega) floorLeft
        refine parted.sorts_left_right ranks inside' left
          (sortRange_sorts ranks fuel _ last limit _ _ _ ?_ (by omega)
            (parted.exchange_left left.exchanges).floor)
        rw [left.exchanges.size_eq]
        omega
      · have right :=
          sortRange_sorts ranks fuel (parts.2.1 + 1) last limit true true parts.1 (by omega)
            (by omega) parted.floor
        refine parted.sorts_right_left ranks inside' right
          (sortRange_sorts ranks fuel first _ limit _ _ _ ?_ (by omega) fun i j next lowJ highJ =>
            ?_)
        · rw [right.exchanges.size_eq]
          omega
        · exact (floorLeft i j next lowJ highJ).congr (right.exchanges.outside (.inl (by omega)))
            (right.exchanges.outside (.inl (by omega)))

/-- Sorting sorts all entries. -/
theorem sort_sorts (ranks : Ranks before) (entries : Array α) :
    Sorts before 0 entries.size entries (sort before entries) :=
  -- The range is all there is, so that nothing is in front of it.
  sortRange_sorts ranks (entries.size + 1) 0 entries.size _ true true entries (Nat.le_refl _)
    (by omega) (fun i j next => by omega)

/-- Sorting only moves entries around. -/
theorem sort_perm (ranks : Ranks before) (entries : Array α) :
    (sort before entries).Perm entries :=
  -- Sorting is made of exchanges.
  (sort_sorts ranks entries).exchanges.perm

/-- Sorted entries are in order. -/
theorem sort_pairwise (ranks : Ranks before) (entries : Array α) :
    (sort before entries).toList.Pairwise fun a b => before b a = false := by
  -- Each place has an entry, and the range is all places.
  obtain ⟨exchanges, sorted⟩ := sort_sorts ranks entries
  have size := exchanges.size_eq
  rw [List.pairwise_iff_getElem]
  intro i j lowI lowJ less
  rw [Array.length_toList] at lowI lowJ
  have below := sorted i j (Nat.zero_le _) less (by omega)
  unfold Below goesBefore at below
  rw [Array.getElem?_eq_getElem lowI, Array.getElem?_eq_getElem lowJ] at below
  exact below

end Sorting

end Patchbay.Quicksort
