import Mathlib.Data.List.Nodup
import Mathlib.Tactic.ByContra
import Patchbay.Graph.Sequence
import Patchbay.Proofs.Graph.Reach
import Patchbay.Proofs.Index

/-! Emission: taking free places from a stack lists each place after all its antecedents, and a
place that is never listed has an antecedent that is never listed either. -/

namespace Patchbay

/-- The antecedents of a place. -/
def feedersOf (antecedents : List (List Nat)) (place : Nat) : List Nat :=
  antecedents[place]?.getD []

/-- The antecedents of every place are distinct places of the list. -/
structure Placeable (antecedents : List (List Nat)) : Prop where
  distinct : ∀ feeders ∈ antecedents, feeders.Nodup
  inside : ∀ feeders ∈ antecedents, ∀ feeder ∈ feeders, feeder < antecedents.length

section Feeders

variable {antecedents : List (List Nat)}

/-- The antecedents of a place in the list are one of its members. -/
theorem feedersOf_mem {place : Nat} (inside : place < antecedents.length) :
    feedersOf antecedents place ∈ antecedents := by
  -- The place is looked up.
  simp [feedersOf, inside]

/-- A place outside the list has no antecedents. -/
theorem feedersOf_eq_nil {place : Nat} (outside : antecedents.length ≤ place) :
    feedersOf antecedents place = [] := by
  -- The look-up finds nothing.
  simp [feedersOf, List.getElem?_eq_none outside]

/-- The antecedents of any place are distinct. -/
theorem Placeable.feedersOf_nodup (placeable : Placeable antecedents) (place : Nat) :
    (feedersOf antecedents place).Nodup := by
  -- Outside the list there are no antecedents that could repeat.
  rcases Nat.lt_or_ge place antecedents.length with inside | outside
  · exact placeable.distinct _ (feedersOf_mem inside)
  · simp [feedersOf_eq_nil outside]

end Feeders

/-- Releasing a place that waits lowers its count, and stacks it when nothing is left to wait
for. -/
theorem release_cons {place : Nat} {waiting : Array Nat} (inside : place < waiting.size)
    (positive : 0 < waiting[place]) (rest stack : List Nat) :
    release (place :: rest) waiting stack = release rest (waiting.set place (waiting[place] - 1))
      (if waiting[place] = 1 then place :: stack else stack) := by
  -- The count is one or more, and the two are told apart.
  rw [release, dif_pos inside]
  split
  · rename_i zero
    omega
  · rename_i one
    simp [one]
  · rename_i count many
    simp [many]

/-- Releasing distinct places that all wait for something takes one from the count of each, and
stacks those that waited for one thing only. -/
theorem release_eq {places : List Nat} (waiting : Array Nat) (stack : List Nat)
    (distinct : places.Nodup) (waits : ∀ place ∈ places, 0 < waiting[place]?.getD 0) :
    (∀ i, (release places waiting stack).1[i]?.getD 0 =
        if i ∈ places then waiting[i]?.getD 0 - 1 else waiting[i]?.getD 0) ∧
      (release places waiting stack).2 =
        (places.filter fun place => waiting[place]?.getD 0 = 1).reverse ++ stack := by
  induction places generalizing waiting stack with
  | nil => simp [release]
  | cons place rest ih =>
    obtain ⟨new, distinct⟩ := List.nodup_cons.mp distinct
    have positive := waits place List.mem_cons_self
    have inside : place < waiting.size := by
      by_contra outside
      simp [Array.getElem?_eq_none (Nat.le_of_not_lt outside)] at positive
    have counted : waiting[place]?.getD 0 = waiting[place] := by simp [inside]
    -- Lowering the count of this place leaves those of the others alone.
    have other : ∀ i, i ≠ place →
        (waiting.set place (waiting[place] - 1))[i]?.getD 0 = waiting[i]?.getD 0 := by
      intro i different
      rw [Array.getElem?_set_ne inside (Ne.symm different)]
    have later : ∀ i ∈ rest,
        (waiting.set place (waiting[place] - 1))[i]?.getD 0 = waiting[i]?.getD 0 :=
      fun i member => other i fun same => new (same ▸ member)
    rw [release_cons inside (counted ▸ positive)]
    obtain ⟨counts, stacked⟩ := ih _ (if waiting[place] = 1 then place :: stack else stack) distinct
      fun i member => by
        rw [later i member]
        exact waits i (List.mem_cons_of_mem _ member)
    constructor
    · intro i
      rw [counts i]
      by_cases same : i = place
      · subst same
        simp [new, inside]
      · simp only [List.mem_cons, same, false_or, other i same]
    · -- The place goes on the stack before the others when it waited for one thing only.
      rw [stacked, List.filter_congr fun i member => by rw [later i member], List.filter_cons,
        counted]
      by_cases one : waiting[place] = 1
      · simp [one]
      · simp [one]

/-- Adding a place to the lists of distinct feeders puts it in front of each of these lists once. -/
theorem addPlace_get {feeders : List Nat} {table : Array (List Nat)} (place j : Nat)
    (distinct : feeders.Nodup) (inside : j < table.size) :
    (feeders.foldl (fun table feeder => table.modify feeder (place :: ·)) table)[j]?.getD [] =
      if j ∈ feeders then place :: table[j]?.getD [] else table[j]?.getD [] := by
  -- Distinct feeders have distinct lists, so that no list is changed twice.
  induction feeders generalizing table with
  | nil => simp
  | cons feeder rest ih =>
    obtain ⟨new, distinct⟩ := List.nodup_cons.mp distinct
    rw [List.foldl_cons, ih distinct (by simpa using inside), Array.getElem?_modify]
    by_cases same : feeder = j
    · subst same
      simp [new, inside]
    · simp [same, Ne.symm same]

/-- The lists of waiting places keep their number. -/
theorem addPlace_size (feeders : List Nat) (table : Array (List Nat)) (place : Nat) :
    (feeders.foldl (fun table feeder => table.modify feeder (place :: ·)) table).size =
      table.size := by
  -- Each step changes one list.
  induction feeders generalizing table with
  | nil => rfl
  | cons feeder rest ih => rw [List.foldl_cons, ih, Array.size_modify]

/-- The places that wait for a place are those with it among their feeders, each listed once. -/
theorem descendantPlaces_get {antecedents : List (List Nat)} (placeable : Placeable antecedents)
    {j : Nat} (inside : j < antecedents.length) :
    (descendantPlaces antecedents)[j]?.getD [] =
      (antecedents.zipIdx.filter fun pair => j ∈ pair.1).map Prod.snd := by
  -- The induction goes over the numbered lists of feeders from the last one on.
  have general : ∀ pairs : List (List Nat × Nat), (∀ pair ∈ pairs, pair.1.Nodup) →
      let table := pairs.foldr (fun pair table =>
        pair.1.foldl (fun table feeder => table.modify feeder (pair.2 :: ·)) table)
        (Array.replicate antecedents.length [])
      table.size = antecedents.length ∧
        table[j]?.getD [] = (pairs.filter fun pair => j ∈ pair.1).map Prod.snd := by
    intro pairs
    induction pairs with
    | nil => simp [inside]
    | cons pair rest ih =>
      intro distinct
      obtain ⟨size, found⟩ := ih fun other member => distinct other (List.mem_cons_of_mem _ member)
      refine ⟨(addPlace_size _ _ _).trans size, ?_⟩
      rw [List.foldr_cons, addPlace_get pair.2 j (distinct pair List.mem_cons_self)
        (Nat.lt_of_lt_of_eq inside size.symm), found]
      by_cases member : j ∈ pair.1 <;> simp [member]
  refine (general antecedents.zipIdx fun pair member => ?_).2
  exact placeable.distinct _ (List.mem_of_getElem? (List.mem_zipIdx_iff_getElem?.mp member))

/-- A place waits for another exactly when it has it as a feeder. -/
theorem mem_descendantPlaces_iff {antecedents : List (List Nat)} (placeable : Placeable antecedents)
    {i j : Nat} (inside : j < antecedents.length) :
    i ∈ (descendantPlaces antecedents)[j]?.getD [] ↔ j ∈ feedersOf antecedents i := by
  -- The waiting places are those of the numbered lists in which the place occurs.
  rw [descendantPlaces_get placeable inside]
  simp only [List.mem_map, List.mem_filter, List.mem_zipIdx_iff_getElem?, decide_eq_true_eq,
    feedersOf]
  constructor
  · rintro ⟨⟨feeders, place⟩, ⟨found, member⟩, rfl⟩
    simpa [found] using member
  · intro member
    cases found : antecedents[i]? with
    | none => simp [found] at member
    | some feeders => exact ⟨(feeders, i), ⟨found, by simpa [found] using member⟩, rfl⟩

/-- No place waits twice for the same place. -/
theorem descendantPlaces_nodup {antecedents : List (List Nat)} (placeable : Placeable antecedents)
    {j : Nat} (inside : j < antecedents.length) :
    ((descendantPlaces antecedents)[j]?.getD []).Nodup := by
  -- The places that wait are picked out of the increasing places of the list.
  rw [descendantPlaces_get placeable inside]
  exact List.pairwise_map.mpr
    (((zipIdx_increasing antecedents).imp Nat.ne_of_lt).sublist List.filter_sublist)

/-- What holds at every moment of an emission. Each place waits for its unlisted feeders, and those
that wait for nothing are stacked or listed. -/
structure Emitting (antecedents : List (List Nat)) (waiting : Array Nat) (stack listed : List Nat) :
    Prop where
  waits : ∀ i, waiting[i]?.getD 0 = ((feedersOf antecedents i).filter (· ∉ listed)).length
  ready : ∀ i, i ∈ stack ++ listed ↔ i < antecedents.length ∧ waiting[i]?.getD 0 = 0
  distinct : (stack ++ listed).Nodup
  ordered : Preceded (fun feeder i => feeder ∈ feedersOf antecedents i) listed

namespace Emitting

variable {antecedents : List (List Nat)} {waiting : Array Nat} {below listed : List Nat}
  {place : Nat}

/-- A place that waits for nothing has all its feeders listed. -/
theorem feeders_listed {stack : List Nat} (emitting : Emitting antecedents waiting stack listed)
    {i feeder : Nat} (free : waiting[i]?.getD 0 = 0) (feeds : feeder ∈ feedersOf antecedents i) :
    feeder ∈ listed := by
  -- What it waits for are its unlisted feeders, and there are none.
  rw [emitting.waits i, List.length_eq_zero_iff, List.filter_eq_nil_iff] at free
  simpa using free feeder feeds

/-- A place with an unlisted feeder waits for something. -/
theorem waits_pos {stack : List Nat} (emitting : Emitting antecedents waiting stack listed)
    {i feeder : Nat} (feeds : feeder ∈ feedersOf antecedents i) (unlisted : feeder ∉ listed) :
    0 < waiting[i]?.getD 0 := by
  -- The count is that of the unlisted feeders, of which there is one.
  rw [emitting.waits i]
  exact List.length_pos_of_mem (List.mem_filter.mpr ⟨feeds, by simpa using unlisted⟩)

/-- Listing one more place leaves each place with one unlisted feeder less if it waited for that
place. -/
theorem unlisted_cons (placeable : Placeable antecedents) (new : place ∉ listed) (i : Nat) :
    ((feedersOf antecedents i).filter (· ∉ place :: listed)).length =
      if place ∈ feedersOf antecedents i
      then ((feedersOf antecedents i).filter (· ∉ listed)).length - 1
      else ((feedersOf antecedents i).filter (· ∉ listed)).length := by
  -- Among distinct feeders the place occurs once or not at all.
  have split : (feedersOf antecedents i).filter (· ∉ place :: listed) =
      ((feedersOf antecedents i).filter (· ∉ listed)).filter (· != place) := by
    rw [List.filter_filter]
    exact List.filter_congr fun feeder _ => by
      simp [bne, Bool.beq_eq_decide_eq]
  have distinct := (placeable.feedersOf_nodup i).filter (· ∉ listed)
  rw [split, ← distinct.erase_eq_filter]
  split
  · rename_i feeds
    exact List.length_erase_of_mem (List.mem_filter.mpr ⟨feeds, by simpa using new⟩)
  · rename_i apart
    rw [List.erase_of_not_mem fun member => apart (List.mem_filter.mp member).1]

/-- Taking a place from the stack and releasing those that wait for it keeps what holds at every
moment. -/
theorem step (placeable : Placeable antecedents)
    (emitting : Emitting antecedents waiting (place :: below) listed) :
    Emitting antecedents (release ((descendantPlaces antecedents)[place]?.getD []) waiting below).1
      (release ((descendantPlaces antecedents)[place]?.getD []) waiting below).2
      (place :: listed) := by
  -- The top of the stack waits for nothing and was not listed before.
  obtain ⟨inside, free⟩ := (emitting.ready place).mp (by simp)
  obtain ⟨new, distinct⟩ := List.nodup_cons.mp emitting.distinct
  have unlisted : place ∉ listed := fun member => new (List.mem_append_right _ member)
  -- Those that wait for it are released, each once and with something to wait for.
  have waiters : ∀ i, i ∈ (descendantPlaces antecedents)[place]?.getD [] ↔
      place ∈ feedersOf antecedents i := fun i => mem_descendantPlaces_iff placeable inside
  have positive : ∀ i ∈ (descendantPlaces antecedents)[place]?.getD [], 0 < waiting[i]?.getD 0 :=
    fun i member => emitting.waits_pos ((waiters i).mp member) unlisted
  have once := descendantPlaces_nodup placeable inside
  obtain ⟨counts, stacked⟩ := release_eq waiting below once positive
  generalize (descendantPlaces antecedents)[place]?.getD [] = descendants at *
  refine ⟨?_, ?_, ?_, ?_, emitting.ordered⟩
  · -- A released place has one unlisted feeder less, as its count says.
    intro i
    rw [counts i, unlisted_cons placeable unlisted i, ← emitting.waits i]
    simp only [waiters i]
  · -- The released places that wait for nothing more are the new ones on the stack.
    intro i
    have known := emitting.ready i
    have waiter := positive i
    rw [counts i, stacked]
    simp only [List.cons_append, List.mem_cons, List.mem_append, List.mem_reverse, List.mem_filter,
      decide_eq_true_eq] at known ⊢
    by_cases member : i ∈ descendants
    · -- A place that waits for this one has a feeder, so that it is in the list.
      have counted := waiter member
      have there : i < antecedents.length := by
        by_contra outside
        rw [waiters i, feedersOf_eq_nil (Nat.le_of_not_lt outside)] at member
        cases member
      simp only [member, if_true, true_and]
      grind
    · simp only [member, if_false, false_and, false_or]
      grind
  · -- What is newly stacked waited for something, unlike all that was stacked or listed.
    rw [stacked]
    have moved : ((descendants.filter fun i => waiting[i]?.getD 0 = 1).reverse ++ below ++
        place :: listed).Perm ((descendants.filter fun i => waiting[i]?.getD 0 = 1) ++
          (place :: below ++ listed)) := by
      rw [List.append_assoc]
      exact (List.reverse_perm _).append List.perm_middle
    rw [moved.nodup_iff, List.nodup_append']
    refine ⟨once.filter _, emitting.distinct, ?_⟩
    intro i released old
    have one : waiting[i]?.getD 0 = 1 := by simpa using (List.mem_filter.mp released).2
    have zero := ((emitting.ready i).mp old).2
    omega
  · exact fun feeder feeds => emitting.feeders_listed free feeds

end Emitting

/-- An emission that starts well ends well, with nothing left on the stack. -/
theorem emit_emitting {antecedents : List (List Nat)} (placeable : Placeable antecedents)
    {waiting : Array Nat} {stack listed : List Nat}
    (emitting : Emitting antecedents waiting stack listed) :
    ∃ final, Emitting antecedents final []
      (emit (descendantPlaces antecedents) waiting stack listed) := by
  -- The induction follows the emission, one place of the stack at a time.
  fun_induction emit (descendantPlaces antecedents) waiting stack listed with
  | case1 waiting listed => exact ⟨waiting, emitting⟩
  | case2 waiting listed place below next ih => exact ih (emitting.step placeable)

/-- At first the places without feeders are stacked, and nothing is listed. -/
theorem emitting_free (antecedents : List (List Nat)) :
    Emitting antecedents (antecedents.map List.length).toArray
      (antecedents.zipIdx.filterMap fun (feeders, place) =>
        if feeders.isEmpty then some place else none) [] where
  waits i := by
    -- Nothing is listed, so that a place waits for all its feeders.
    by_cases inside : i < antecedents.length <;> simp [feedersOf, inside]
  ready i := by
    -- A place is free when its list of feeders is empty.
    simp only [List.append_nil, List.mem_filterMap, List.mem_zipIdx_iff_getElem?, Prod.exists,
      Option.ite_none_right_eq_some, Option.some.injEq, List.isEmpty_iff]
    constructor
    · rintro ⟨feeders, place, found, empty, rfl⟩
      obtain ⟨inside, here⟩ := List.getElem?_eq_some_iff.mp found
      exact ⟨inside, by simp [inside, here, empty]⟩
    · rintro ⟨inside, zero⟩
      refine ⟨antecedents[i], i, List.getElem?_eq_getElem inside, ?_, rfl⟩
      simpa [inside] using zero
  distinct := by
    rw [List.append_nil]
    -- Free places are listed in ascending order.
    refine (filterMap_zipIdx_increasing id (fun item place kept => ?_) antecedents).imp Nat.ne_of_lt
    simp only [Option.ite_none_right_eq_some, Option.some.injEq] at kept
    exact kept.2.symm
  ordered := trivial

section Emitted

variable {antecedents : List (List Nat)}

/-- The whole emission ends well. -/
theorem emitted_emitting (placeable : Placeable antecedents) :
    ∃ final, Emitting antecedents final [] (emitted antecedents).reverse := by
  -- The emission starts with the places that wait for nothing.
  obtain ⟨final, ends⟩ := emit_emitting placeable (emitting_free antecedents)
  exact ⟨final, by simpa only [emitted, List.reverse_reverse] using ends⟩

/-- No place is emitted twice. -/
theorem emitted_nodup (placeable : Placeable antecedents) : (emitted antecedents).Nodup := by
  -- What is listed is listed once.
  obtain ⟨final, ends⟩ := emitted_emitting placeable
  simpa using ends.distinct

/-- Only places of the list are emitted. -/
theorem lt_length_of_mem_emitted (placeable : Placeable antecedents) {i : Nat}
    (member : i ∈ emitted antecedents) : i < antecedents.length := by
  -- What is listed is ready, and only places of the list are.
  obtain ⟨final, ends⟩ := emitted_emitting placeable
  exact ((ends.ready i).mp (by simpa using member)).1

/-- A place is emitted after all its feeders. -/
theorem emitted_after_feeder (placeable : Placeable antecedents) {rank i feeder : Nat}
    (placed : (emitted antecedents)[rank]? = some i) (feeds : feeder ∈ feedersOf antecedents i) :
    feeder ∈ (emitted antecedents).take rank := by
  -- What is listed stands behind its feeders.
  obtain ⟨final, ends⟩ := emitted_emitting placeable
  simpa using ends.ordered.mem_take (by simpa using placed) feeds

/-- A place that is never emitted has a feeder that is never emitted. -/
theorem exists_feeder_of_not_mem_emitted (placeable : Placeable antecedents) {i : Nat}
    (inside : i < antecedents.length) (missing : i ∉ emitted antecedents) :
    ∃ feeder ∈ feedersOf antecedents i, feeder ∉ emitted antecedents := by
  -- At the end the place still waits, and it waits for unlisted feeders only.
  obtain ⟨final, ends⟩ := emitted_emitting placeable
  have waits : final[i]?.getD 0 ≠ 0 := fun zero =>
    missing (by simpa using (ends.ready i).mpr ⟨inside, zero⟩)
  rw [ends.waits i, Ne, List.length_eq_zero_iff, List.filter_eq_nil_iff] at waits
  simpa using waits

end Emitted

end Patchbay
