/-! Sorting in place by exchanges. Short runs are sorted by insertion, longer ones by partition
around a pivot, runs that look sorted are only mended, and partitions that stay lopsided end in a
heap. Equal entries do not keep their order, but the same entries always end in the same order. -/

namespace Patchbay.Quicksort

variable {α : Type} (before : α → α → Bool)

/-- Whether the entry at one place goes before that at another. -/
def goesBefore (entries : Array α) (i j : Nat) : Bool :=
  match entries[i]?, entries[j]? with
  | some a, some b => before a b
  | _, _ => false

/-- Moves the entry at a place to the left, past those that it goes before, as far as a lowest
place. -/
def sinkLeft (lowest : Nat) : Nat → Array α → Array α
  | 0, entries => entries
  | j + 1, entries =>
    if lowest ≤ j && goesBefore before entries (j + 1) j then
      sinkLeft lowest j (entries.swapIfInBounds (j + 1) j)
    else entries

/-- Moves the entry in front of a place to the right over at most some places, past those that go
before it. -/
def sinkRight : Nat → Nat → Array α → Array α
  | 0, _, entries => entries
  | room + 1, j, entries =>
    if goesBefore before entries j (j - 1) then
      sinkRight room (j + 1) (entries.swapIfInBounds j (j - 1))
    else entries

/-- Sorts the entries from one place up to another by insertion. -/
def insertAll (first last : Nat) (entries : Array α) : Array α :=
  (List.range' (first + 1) (last - first - 1)).foldl
    (fun entries i => sinkLeft before first i entries) entries

/-- The child of a node of the heap that starts at a place which the other child does not go
behind. -/
def greaterChild (first size root : Nat) (entries : Array α) : Nat :=
  let left := 2 * root + 1
  if left + 1 < size && goesBefore before entries (first + left) (first + left + 1) then left + 1
  else left

/-- Lets an entry of the heap that starts at a place sink below those that it goes before. -/
def siftDown (first size : Nat) : Nat → Nat → Array α → Array α
  | 0, _, entries => entries
  | fuel + 1, root, entries =>
    let child := greaterChild before first size root entries
    if size ≤ 2 * root + 1 || !goesBefore before entries (first + root) (first + child) then entries
    else siftDown first size fuel child (entries.swapIfInBounds (first + root) (first + child))

/-- Sorts entries by a heap. -/
def heapSort (first last : Nat) (entries : Array α) : Array α :=
  let size := last - first
  let heap := (List.range ((size - 1) / 2 + 1)).reverse.foldl
    (fun entries root => siftDown before first size size root entries) entries
  (List.range size).reverse.foldl
    (fun entries i => siftDown before first i size 0 (entries.swapIfInBounds first (first + i)))
      heap

/-- The next of a row of numbers without a pattern. -/
def scatter (seed : UInt64) : UInt64 :=
  let seed := seed ^^^ (seed <<< 13)
  let seed := seed ^^^ (seed >>> 7)
  seed ^^^ (seed <<< 17)

/-- Exchanges one of three entries in the middle with one that the next number tells. -/
def breakAt (first last : Nat) (state : Array α × UInt64) (i : Nat) : Array α × UInt64 :=
  let size := last - first
  let middle := first + size / 4 * 2 - 1
  let seed := scatter state.2
  let place := seed.toNat % (1 <<< (size.log2 + 1))
  let place := if size ≤ place then place - size else place
  (state.1.swapIfInBounds (middle - 1 + i) (first + place), seed)

/-- Exchanges three entries in the middle with others. -/
def breakPatterns (first last : Nat) (entries : Array α) : Array α :=
  ((List.range 3).foldl (breakAt first last) (entries, UInt64.ofNat (last - first))).1

/-- Two places in the order of their entries, and the number of exchanges so far that this took. -/
def order (entries : Array α) (i j swaps : Nat) : Nat × Nat × Nat :=
  if goesBefore before entries j i then (j, i, swaps + 1) else (i, j, swaps)

/-- The place of the middle one of three entries. -/
def median (entries : Array α) (i j k swaps : Nat) : Nat × Nat :=
  let (i, j, swaps) := order before entries i j swaps
  let (j, _, swaps) := order before entries j k swaps
  let (_, j, swaps) := order before entries i j swaps
  (j, swaps)

/-- What the look for a pivot says about the order of the entries. -/
inductive Hint where
  | unknown
  | rising
  | falling
  deriving DecidableEq

/-- The place of the middle one of an entry and its neighbours in a long range, or its own. -/
def medianNear (first last : Nat) (entries : Array α) (i swaps : Nat) : Nat × Nat :=
  if 50 ≤ last - first then median before entries (i - 1) i (i + 1) swaps else (i, swaps)

/-- The place of an entry to partition by: the median of three, or of three medians of
neighbours. -/
def choosePivot (first last : Nat) (entries : Array α) : Nat × Hint :=
  let quarter := (last - first) / 4
  let (i, swaps) := medianNear before first last entries (first + quarter) 0
  let (j, swaps) := medianNear before first last entries (first + quarter * 2) swaps
  let (k, swaps) := medianNear before first last entries (first + quarter * 3) swaps
  let (pivot, swaps) := median before entries i j k swaps
  (pivot, if swaps = 0 then .rising else if swaps = 12 then .falling else .unknown)

/-- Puts entries in the opposite order. -/
def reverse (first last : Nat) (entries : Array α) : Array α :=
  (List.range ((last - first) / 2)).foldl
    (fun entries i => entries.swapIfInBounds (first + i) (last - 1 - i)) entries

/-- The first place from one on, at most another, whose entry does not go before the one in front of
it. -/
def risingEnd (entries : Array α) : Nat → Nat → Nat
  | 0, i => i
  | room + 1, i => if goesBefore before entries i (i - 1) then i else risingEnd entries room (i + 1)

/-- Exchanges an entry with the one in front of it, and lets both sink as far as they can. -/
def mendAt (first last i : Nat) (entries : Array α) : Array α :=
  let entries := entries.swapIfInBounds i (i - 1)
  let entries := if 2 ≤ i - first then sinkLeft before 0 (i - 1) entries else entries
  if 2 ≤ last - i then sinkRight before (last - (i + 1)) (i + 1) entries else entries

/-- Mends the order at up to so many places, and says whether the entries are sorted then. -/
def mend (first last : Nat) : Nat → Nat → Array α → Array α × Bool
  | 0, _, entries => (entries, false)
  | steps + 1, i, entries =>
    let i := risingEnd before entries (last - i) i
    if last ≤ i then (entries, true)
    else if last - first < 50 then (entries, false)
    else mend first last steps i (mendAt before first last i entries)

/-- The first place of a range whose entry fails a test. -/
def scanUp (test : Nat → Bool) : Nat → Nat → Nat
  | 0, i => i
  | room + 1, i => if test i then scanUp test room (i + 1) else i

/-- The last place of a range whose entry fails a test. -/
def scanDown (test : Nat → Bool) : Nat → Nat → Nat
  | 0, j => j
  | room + 1, j => if test j then scanDown test room (j - 1) else j

/-- Exchanges entries of a range that are on the wrong sides, where some belong left and others
right. Gives the place where the right side begins, and whether nothing had to be exchanged. -/
def divide (left right : Array α → Nat → Bool) :
    Nat → Nat → Nat → Bool → Array α → Array α × Nat × Bool
  | 0, i, _, untouched, entries => (entries, i, untouched)
  | fuel + 1, i, j, untouched, entries =>
    let i := scanUp (left entries) (j + 1 - i) i
    let j := scanDown (right entries) (j + 1 - i) j
    if j < i then (entries, i, untouched)
    else divide left right fuel (i + 1) (j - 1) false (entries.swapIfInBounds i j)

/-- Puts the entries that go before the pivot in front of it and the others behind it. Gives the
place of the pivot then, and whether they stood so already. -/
def partition (first last pivot : Nat) (entries : Array α) : Array α × Nat × Bool :=
  let (entries, i, untouched) := divide
    (fun entries i => goesBefore before entries i first)
      (fun entries j => !goesBefore before entries j first)
    (last - first) (first + 1) (last - 1) true (entries.swapIfInBounds first pivot)
  (entries.swapIfInBounds (i - 1) first, i - 1, untouched)

/-- Puts the entries that equal the pivot, before which none goes, in front of the others. Gives the
place where the others begin. -/
def partitionEqual (first last pivot : Nat) (entries : Array α) : Array α × Nat :=
  let (entries, i, _) := divide
    (fun entries i => !goesBefore before entries first i)
      (fun entries j => goesBefore before entries first j)
    (last - first) (first + 1) (last - 1) true (entries.swapIfInBounds first pivot)
  (entries, i)

/-- What comes before a partition: a pattern that made the last one lopsided is broken, falling
entries are put in the opposite order, and entries that look sorted are mended. Gives the place of
the pivot, and whether the entries are sorted already. -/
def prepare (first last : Nat) (balanced untouched : Bool) (entries : Array α) :
    Array α × Nat × Bool :=
  let entries := if balanced then entries else breakPatterns first last entries
  let (pivot, hint) := choosePivot before first last entries
  let (entries, pivot) :=
    if hint = .falling then (reverse first last entries, last - 1 - (pivot - first))
    else (entries, pivot)
  let (entries, sorted) :=
    if balanced && untouched && hint ≠ .unknown then mend before first last 5 (first + 1) entries
    else (entries, false)
  (entries, pivot, sorted)

/-- Sorts the entries from one place up to another. So many partitions may still be lopsided;
whether the last one was, and whether it had anything to exchange, is known. -/
def sortRange : Nat → Nat → Nat → Nat → Bool → Bool → Array α → Array α
  | 0, _, _, _, _, _, entries => entries
  | fuel + 1, first, last, limit, balanced, untouched, entries =>
    if last - first ≤ 12 then insertAll before first last entries
    else if limit = 0 then heapSort before first last entries
    else
      let limit := if balanced then limit else limit - 1
      let (entries, pivot, sorted) := prepare before first last balanced untouched entries
      if sorted then entries
      else if 0 < first && !goesBefore before entries (first - 1) pivot then
        let (entries, middle) := partitionEqual before first last pivot entries
        sortRange fuel middle last limit balanced untouched entries
      else
        let (entries, middle, untouched) := partition before first last pivot entries
        let eighth := (last - first) / 8
        if middle - first < last - middle then
          sortRange fuel (middle + 1) last limit (eighth ≤ middle - first) untouched
            (sortRange fuel first middle limit true true entries)
        else
          sortRange fuel first middle limit (eighth ≤ last - middle) untouched
            (sortRange fuel (middle + 1) last limit true true entries)

/-- Sorts entries. -/
def sort (entries : Array α) : Array α :=
  sortRange before (entries.size + 1) 0 entries.size (entries.size.log2 + 1) true true entries

end Patchbay.Quicksort
