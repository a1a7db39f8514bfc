import Patchbay.Proofs.Quicksort.Exchange

/-! Sorting by a heap: the entries of a range are a tree in which no entry goes before those below
it, so that the one at the root can be taken away as the last. -/

namespace Patchbay.Quicksort

variable {α : Type} {before : α → α → Bool} {entries : Array α} {first last size lowest : Nat}

/-- From a lowest node on, the first entries of a range are a heap: the child of a node is below
it. -/
def Heap (before : α → α → Bool) (first lowest size : Nat) (entries : Array α) : Prop :=
  ∀ child, 0 < child → child < size → lowest ≤ (child - 1) / 2 →
    Below before entries (first + child) (first + (child - 1) / 2)

/-- A heap but for the children of one node, which are below the parent of that node. -/
structure HeapBut (before : α → α → Bool) (first lowest size root : Nat) (entries : Array α) :
    Prop where
  elsewhere : ∀ child, 0 < child → child < size → lowest ≤ (child - 1) / 2 →
    (child - 1) / 2 ≠ root → Below before entries (first + child) (first + (child - 1) / 2)
  across : ∀ child, 0 < child → child < size → (child - 1) / 2 = root → 0 < root →
    lowest ≤ (root - 1) / 2 → Below before entries (first + child) (first + (root - 1) / 2)

section Sift

/-- The greater child is a child. -/
theorem greaterChild_child (before : α → α → Bool) (first : Nat) (entries : Array α) {root : Nat}
    (bounded : 2 * root + 1 < size) :
    let child := greaterChild before first size root entries
    0 < child ∧ child < size ∧ (child - 1) / 2 = root ∧ root < child := by
  -- It is the left one or, if there is one, the right.
  unfold greaterChild
  dsimp only
  split
  next right =>
    simp only [Bool.and_eq_true, decide_eq_true_eq] at right
    omega
  · omega

/-- Every child of a node is below its greater child. -/
theorem below_greaterChild (ranks : Ranks before) {root child : Nat} (positive : 0 < child)
    (inside : child < size) (parent : (child - 1) / 2 = root) :
    Below before entries (first + child) (first + greaterChild before first size root entries) := by
  -- There are two children at most, and the choice compared them.
  unfold greaterChild
  dsimp only
  split
  next right =>
    simp only [Bool.and_eq_true, decide_eq_true_eq] at right
    obtain rfl | rfl : child = 2 * root + 1 ∨ child = 2 * root + 1 + 1 := by omega
    · exact ranks.below_of_goesBefore right.2
    · exact ranks.below_self _
  next left =>
    simp only [Bool.and_eq_true, decide_eq_true_eq, not_and, Bool.not_eq_true] at left
    obtain rfl | rfl : child = 2 * root + 1 ∨ child = 2 * root + 1 + 1 := by omega
    · exact ranks.below_self _
    · exact left inside

/-- Sinking in a heap only exchanges entries of the heap. -/
theorem siftDown_exchanges : ∀ (fuel root : Nat) (entries : Array α),
    Exchanges first (first + size) entries (siftDown before first size fuel root entries)
  | 0, _, _ => .refl
  | fuel + 1, root, entries => by
    -- A step exchanges a node with its child.
    unfold siftDown
    dsimp only
    split
    · exact .refl
    next goes =>
      simp only [Bool.or_eq_true, decide_eq_true_eq, not_or, Nat.not_le] at goes
      obtain ⟨_, inside, _, behind⟩ := greaterChild_child before first entries goes.1
      exact (Exchanges.single (by omega) (by omega) (by omega) (by omega)).trans
        (siftDown_exchanges fuel _ _)

/-- An exchange of a node with its greater child, before which it goes, moves the fault to the
child. -/
theorem HeapBut.descend (ranks : Ranks before) {root : Nat} (inside : first + size ≤ entries.size)
    (reached : lowest ≤ root) (but : HeapBut before first lowest size root entries)
    (bounded : 2 * root + 1 < size)
    (goes : goesBefore before entries (first + root)
      (first + greaterChild before first size root entries) = true) :
    HeapBut before first lowest size (greaterChild before first size root entries)
      (entries.swapIfInBounds (first + root)
        (first + greaterChild before first size root entries)) := by
  obtain ⟨positive, bound, parent, behind⟩ := greaterChild_child before first entries bounded
  have greater (node : Nat) (positive : 0 < node) (bound : node < size)
      (parent : (node - 1) / 2 = root) : Below before entries (first + node)
        (first + greaterChild before first size root entries) :=
    below_greaterChild ranks positive bound parent
  generalize greaterChild before first size root entries = child at *
  constructor
  · intro node positiveNode boundNode low apart
    refine below_exchanged (by omega) (by omega) ?_
    by_cases sibling : (node - 1) / 2 = root
    · -- The root has the greater child now, and the other child and the old root are below it.
      rw [sibling, exchange_left]
      by_cases same : node = child
      · rw [same, exchange_right]
        exact ranks.below_of_goesBefore goes
      · rw [exchange_other (by omega) (by omega)]
        exact greater node positiveNode boundNode sibling
    rw [exchange_other (show first + (node - 1) / 2 ≠ first + root by omega) (by omega)]
    by_cases top : node = root
    · -- The greater child was below the parent of the root.
      rw [top, exchange_left]
      exact but.across child positive bound parent (by omega) (by omega)
    · rw [exchange_other (by omega) (by omega)]
      exact but.elsewhere node positiveNode boundNode low sibling
  · -- The children of the child were below it, which is the root now.
    intro node positiveNode boundNode ofChild _ low
    refine below_exchanged (by omega) (by omega) ?_
    rw [parent, exchange_left, exchange_other (by omega) (by omega)]
    have below := but.elsewhere node positiveNode boundNode (by omega) (by omega)
    rwa [ofChild] at below

/-- An entry that sinks as far as it can leaves a heap. -/
theorem siftDown_heap (ranks : Ranks before) :
    ∀ (fuel root : Nat) (entries : Array α), first + size ≤ entries.size → size ≤ root + fuel →
      lowest ≤ root → HeapBut before first lowest size root entries →
        Heap before first lowest size (siftDown before first size fuel root entries)
  | 0, root, entries, _, enough, _, but => by
    -- A node that is not in the heap has no child there.
    intro child positive bound low
    exact but.elsewhere child positive bound low (by omega)
  | fuel + 1, root, entries, inside, enough, reached, but => by
    unfold siftDown
    dsimp only
    split
    next rests =>
      -- The fault is none: there is no child, or the greater child is below the node.
      intro child positive bound low
      by_cases ofRoot : (child - 1) / 2 = root
      · simp only [Bool.or_eq_true, decide_eq_true_eq, Bool.not_eq_true'] at rests
        have below := rests.resolve_left (by omega)
        obtain ⟨_, boundGreater, _⟩ :=
          greaterChild_child before first entries (show 2 * root + 1 < size by omega)
        rw [ofRoot]
        exact ranks.below_trans (by omega) (below_greaterChild ranks positive bound ofRoot) below
      · exact but.elsewhere child positive bound low ofRoot
    next goes =>
      simp only [Bool.or_eq_true, decide_eq_true_eq, not_or, Nat.not_le, Bool.not_eq_true',
        Bool.not_eq_false] at goes
      obtain ⟨_, _, _, behind⟩ := greaterChild_child before first entries goes.1
      exact siftDown_heap ranks fuel _ _ (by simpa using inside) (by omega) (by omega)
        (but.descend ranks inside reached goes.1 goes.2)

end Sift

section Extraction

/-- No entry of a heap goes behind the one at its root. -/
theorem Heap.below_root (ranks : Ranks before) (inside : first + size ≤ entries.size)
    (heap : Heap before first 0 size entries) :
    ∀ node, node < size → Below before entries (first + node) first := by
  -- Up the tree every node is below its parent.
  intro node
  induction node using Nat.strongRecOn with
  | ind node ih =>
    intro bound
    by_cases top : node = 0
    · rw [top]
      exact ranks.below_self _
    · exact ranks.below_trans (by omega) (heap node (by omega) bound (Nat.zero_le _))
        (ih ((node - 1) / 2) (by omega) (by omega))

/-- Sinking the nodes one after another, the last first, makes a heap of the range. -/
theorem build_heap (ranks : Ranks before) :
    ∀ (lowest : Nat) (entries : Array α), first + size ≤ entries.size →
      Heap before first lowest size entries →
        Heap before first 0 size ((List.range lowest).reverse.foldl
          (fun entries root => siftDown before first size size root entries) entries)
  | 0, _, _, heap => heap
  | lowest + 1, entries, inside, heap => by
    -- All that is missing for a larger heap is that the next node be above its children.
    have but : HeapBut before first lowest size lowest entries :=
      { elsewhere := fun child positive bound low apart => heap child positive bound (by omega)
        across := fun child positive bound _ nonzero low => by omega }
    have larger := siftDown_heap ranks size lowest entries inside (by omega) (Nat.le_refl _) but
    have size_eq : (siftDown before first size size lowest entries).size = entries.size :=
      (siftDown_exchanges size lowest entries).size_eq
    rw [List.range_succ, List.reverse_append, List.reverse_singleton, List.singleton_append,
      List.foldl_cons]
    exact build_heap ranks lowest _ (by omega) larger

/-- Making a heap only exchanges its entries. -/
theorem build_exchanges (lowest : Nat) :
    Exchanges first (first + size) entries ((List.range lowest).reverse.foldl
      (fun entries root => siftDown before first size size root entries) entries) :=
  -- Each root is sifted down by exchanges.
  Exchanges.foldl _ _ fun root _ entries => siftDown_exchanges size root entries

/-- A heap in front of entries that are in order and above it. -/
structure Extracting (before : α → α → Bool) (first last size : Nat) (entries : Array α) :
    Prop where
  inside : last ≤ entries.size
  within : first + size ≤ last
  heap : Heap before first 0 size entries
  sorted : Sorted before (first + size) last entries
  across : ∀ i j, first ≤ i → i < first + size → first + size ≤ j → j < last →
    Below before entries i j

/-- The entry at the root moves behind the heap that is left of the others. -/
theorem Extracting.step (ranks : Ranks before) {fuel : Nat} (enough : size ≤ fuel)
    (extracting : Extracting before first last (size + 1) entries) :
    Extracting before first last size
      (siftDown before first size fuel 0 (entries.swapIfInBounds first (first + size))) := by
  obtain ⟨inside, within, heap, sorted, across⟩ := extracting
  -- With the exchange the root is the first of the entries behind, and only the new root is at
  -- fault.
  have but : HeapBut before first 0 size 0 (entries.swapIfInBounds first (first + size)) := by
    refine ⟨fun child positive bound low apart => ?_, fun _ _ _ _ nonzero => by omega⟩
    refine below_exchanged (by omega) (by omega) ?_
    rw [exchange_other (by omega) (by omega), exchange_other (by omega) (by omega)]
    exact heap child positive (by omega) low
  have top (i : Nat) (low : first ≤ i) (high : i < first + size) :
      Below before (entries.swapIfInBounds first (first + size)) i (first + size) := by
    refine below_exchanged (by omega) (by omega) ?_
    have root := heap.below_root ranks (by omega)
    rw [exchange_right]
    by_cases start : i = first
    · rw [start, exchange_left]
      exact root size (by omega)
    · rw [exchange_other start (by omega)]
      have below := root (i - first) (by omega)
      rwa [show first + (i - first) = i by omega] at below
  have behind (i j : Nat) (low : first ≤ i) (high : i < first + (size + 1))
      (above : first + (size + 1) ≤ j) (bound : j < last) :
      Below before (entries.swapIfInBounds first (first + size)) i j := by
    refine below_exchanged (by omega) (by omega) ?_
    rw [exchange_other (show j ≠ first by omega) (by omega)]
    have origin : first ≤ exchange first (first + size) i ∧
        exchange first (first + size) i < first + (size + 1) :=
      exchange_inside (by omega) (by omega) (by omega) (by omega) low high
    exact across _ j origin.1 origin.2 above bound
  -- Sinking the new root stays in front of them.
  have sift : Exchanges first (first + size) (entries.swapIfInBounds first (first + size))
      (siftDown before first size fuel 0 (entries.swapIfInBounds first (first + size))) :=
    siftDown_exchanges fuel 0 _
  have same (k : Nat) (apart : first + size ≤ k) := sift.outside (.inr apart)
  constructor
  · rw [sift.size_eq, Array.size_swapIfInBounds]
    exact inside
  · omega
  · exact siftDown_heap ranks fuel 0 _ (by rw [Array.size_swapIfInBounds]; omega) (by omega)
      (Nat.le_refl _) but
  · intro i j low less high
    by_cases start : i = first + size
    · exact (behind i j (by omega) (by omega) (by omega) high).congr (same i low)
        (same j (by omega))
    · refine ((sorted i j (by omega) less high).congr ?_ ?_).congr (same i low) (same j (by omega))
      · rw [getElem?_exchanged (by omega) (by omega), exchange_other (by omega) start]
      · rw [getElem?_exchanged (by omega) (by omega), exchange_other (by omega) (by omega)]
  · intro i j low high above bound
    refine sift.beneath (.inr above) (fun k lowK highK => ?_) low high
    by_cases start : j = first + size
    · exact start ▸ top k lowK highK
    · exact behind k j lowK (by omega) (by omega) bound

/-- Taking the root away as often as there are entries in the heap leaves the range in order. -/
theorem extract_sorted (ranks : Ranks before) {fuel : Nat} :
    ∀ (size : Nat) (entries : Array α), size ≤ fuel →
      Extracting before first last size entries →
        Sorted before first last ((List.range size).reverse.foldl
          (fun entries i =>
            siftDown before first i fuel 0 (entries.swapIfInBounds first (first + i))) entries)
  | 0, _, _, extracting => extracting.sorted
  | size + 1, entries, enough, extracting => by
    -- The last place of the heap is the next to be filled.
    rw [List.range_succ, List.reverse_append, List.reverse_singleton, List.singleton_append,
      List.foldl_cons]
    exact extract_sorted ranks size _ (by omega) (extracting.step ranks (by omega))

/-- A heap sorts the range. -/
theorem heapSort_sorts (ranks : Ranks before) (inside : last ≤ entries.size)
    (ordered : first ≤ last) :
    Sorts before first last entries (heapSort before first last entries) := by
  constructor
  · -- Both loops work on a heap inside the range.
    refine ((build_exchanges _).widen (Nat.le_refl _) (by omega)).trans
      (Exchanges.foldl _ _ fun i among entries => ?_)
    rw [List.mem_reverse, List.mem_range] at among
    exact (Exchanges.single (by omega) (by omega) (by omega) (by omega)).trans
      ((siftDown_exchanges _ _ _).widen (Nat.le_refl _) (by omega))
  -- No node from the middle on has a child.
  have leaves : Heap before first ((last - first - 1) / 2 + 1) (last - first) entries := by
    intro child positive bound low
    omega
  have heap := build_heap ranks _ entries (by omega) leaves
  refine extract_sorted ranks (last - first) _ (Nat.le_refl _) ⟨?_, by omega, heap, ?_, ?_⟩
  · rw [(build_exchanges _).size_eq]
    exact inside
  · intro i j low less high
    omega
  · intro i j _ _ low high
    omega

end Extraction

end Patchbay.Quicksort
