import Mathlib.Data.List.Nodup
import Patchbay.Files.Tree
import Patchbay.Proofs.Bytes

/-! What lies where. After a change each location has what it had, but for the one that changed, and
a folder in which no name stands twice holds under each name what lies at its location. -/

namespace Patchbay.FileTree

variable {tree : FileTree} {location other : Location} {place : Place} {file : Bytes}

section Places

/-- What lies in a folder is not the root. -/
theorem inside_ne_nil : location ++ [file] ≠ [] := by simp

/-- The first entry of a table answers for its own key only. -/
theorem lookup_cons_ite (key other : Location) (place : Place) (places : List (Location × Place)) :
    ((key, place) :: places).lookup other = if other = key then some place
      else places.lookup other := by
  -- The key is compared with that of the entry first.
  by_cases asked : other = key
  · simp [asked]
  · rw [List.lookup_cons, beq_false_of_ne asked, if_neg asked]

/-- Replacing what stands under a key changes what is found there, and nothing else. -/
theorem lookup_replace (places : List (Location × Place)) (location : Location) (place : Place)
    (other : Location) :
    (places.map fun entry => if entry.1 == location then (location, place) else entry).lookup
      other =
      if other = location then (if places.any (·.1 == location) then some place else none)
      else places.lookup other := by
  -- The entries are replaced in turn, and each answers for its own key.
  induction places with
  | nil => simp
  | cons entry places ih =>
    obtain ⟨key, old⟩ := entry
    rw [List.map_cons, List.any_cons]
    by_cases same : key = location
    · subst same
      rw [if_pos (beq_self_eq_true key), lookup_cons_ite, lookup_cons_ite, ih]
      by_cases asked : other = key <;> simp [asked]
    · have apart : (key == location) = false := beq_false_of_ne same
      rw [apart, if_neg Bool.false_ne_true, lookup_cons_ite, lookup_cons_ite, ih, Bool.false_or]
      by_cases asked : other = key
      · subst asked
        simp [same]
      · simp [asked]

/-- Leaving out what stands under a key leaves nothing to be found there, and changes nothing
else. -/
theorem lookup_filter (places : List (Location × Place)) (location other : Location) :
    (places.filter (·.1 != location)).lookup other = if other = location then none
      else places.lookup other := by
  -- The entries are left out in turn, and each answers for its own key.
  induction places with
  | nil => simp
  | cons entry places ih =>
    obtain ⟨key, old⟩ := entry
    by_cases same : key = location
    · subst same
      rw [List.filter_cons_of_neg (by simp), lookup_cons_ite, ih]
      by_cases asked : other = key <;> simp [asked]
    · rw [List.filter_cons_of_pos (by simpa using same), lookup_cons_ite, lookup_cons_ite, ih]
      by_cases asked : other = key
      · subst asked
        simp [same]
      · simp [asked]

/-- What is put at a location lies there, and all else is where it was. -/
theorem place?_put (inner : location ≠ []) (place : Place) (other : Location) :
    (tree.put location place).place? other = if other = location then some place
      else tree.place? other := by
  unfold place?
  by_cases asked : other = location
  · -- Where something lies it is replaced, and where nothing lies the new entry is the one that is
    -- found.
    subst asked
    rw [if_neg (by simpa using inner), if_pos rfl, put]
    split
    next taken => rw [lookup_replace, if_pos rfl, if_pos taken]
    next free =>
      have absent : tree.places.lookup other = none := by
        rw [List.lookup_eq_none_iff]
        intro entry listed
        rw [bne_iff_ne]
        rintro rfl
        exact free (List.any_eq_true.mpr ⟨entry, listed, beq_self_eq_true _⟩)
      rw [List.lookup_append, absent, lookup_cons_ite, if_pos rfl, Option.none_or]
  · have unchanged : (tree.put location place).places.lookup other = tree.places.lookup other := by
      rw [put]
      split
      · rw [lookup_replace, if_neg asked]
      · rw [List.lookup_append, lookup_cons_ite, if_neg asked, List.lookup_nil, Option.or_none]
    rw [unchanged, if_neg asked]

/-- What is erased is gone, and all else is where it was. -/
theorem place?_erase (inner : location ≠ []) (other : Location) :
    (tree.erase location).place? other = if other = location then none else tree.place? other := by
  -- The root is never looked up in the table, and any other location is.
  unfold place? erase
  rw [lookup_filter]
  by_cases asked : other = location
  · subst asked
    rw [if_neg (by simpa using inner), if_pos rfl, if_pos rfl]
  · rw [if_neg asked, if_neg asked]

/-- Putting something somewhere does not change where relative paths start. -/
@[simp] theorem home_put : (tree.put location place).home = tree.home := by
  -- Only the table of places changes.
  unfold put
  split <;> rfl

/-- What is put in place of something that was just put there is all that is seen of the two. -/
theorem put_put (location : Location) (first second : Place) :
    (tree.put location first).put location second = tree.put location second := by
  have named : ∀ entry : Location × Place,
      ((if entry.1 == location then (location, first) else entry).1 == location) =
        (entry.1 == location) := by
    intro entry
    cases same : entry.1 == location with
    | true => simp
    | false => simp [same]
  by_cases held : tree.places.any (·.1 == location) = true
  · -- Its entry is changed twice.
    have stays : (tree.places.map fun entry =>
        if entry.1 == location then (location, first) else entry).any (·.1 == location) = true := by
      rw [List.any_map]
      exact (congrArg tree.places.any (funext named)).trans held
    simp only [put, if_pos held, if_pos stays, List.map_map, FileTree.mk.injEq, true_and]
    refine List.map_congr_left fun entry _ => ?_
    rw [Function.comp, named]
    split <;> rfl
  · -- Its entry is added, and then changed.
    have apart : ∀ entry ∈ tree.places, (entry.1 == location) = false := by
      intro entry listed
      rw [Bool.not_eq_true, List.any_eq_false] at held
      exact Bool.eq_false_iff.mpr (held entry listed)
    have stays : (tree.places ++ [(location, first)]).any (·.1 == location) = true := by simp
    have kept : (tree.places.map fun entry =>
        if entry.1 == location then (location, second) else entry) = tree.places := by
      rw [List.map_congr_left fun entry listed => if_neg (by rw [apart entry listed]; simp)]
      exact List.map_id _
    simp only [put, if_neg held, if_pos stays, List.map_append, kept, List.map_singleton,
      beq_self_eq_true, if_true]

/-- Erasing something does not change where relative paths start. -/
@[simp] theorem home_erase : (tree.erase location).home = tree.home := rfl

end Places

section Children

/-- The name of a location inside a folder, if it lies directly in it. -/
def nameIn (location other : Location) : Option Bytes :=
  if other.dropLast == location then other.getLast? else none

/-- A location lies directly in a folder under the name that leads to it from there. -/
theorem nameIn_eq_some_iff : nameIn location other = some file ↔ other = location ++ [file] := by
  -- A location is the folder that it lies in and its last name.
  unfold nameIn
  constructor
  · intro named
    rw [Option.ite_none_right_eq_some, beq_iff_eq, List.getLast?_eq_some_iff] at named
    obtain ⟨rfl, before, rfl⟩ := named
    rw [List.dropLast_concat]
  · rintro rfl
    rw [List.dropLast_concat, List.getLast?_concat, if_pos (beq_self_eq_true location)]

/-- The names in a folder in the order in which they came there. -/
def names (tree : FileTree) (location : Location) : List Bytes :=
  (tree.places.map Prod.fst).filterMap (nameIn location)

/-- The entries of a folder before they are sorted. -/
def inside (tree : FileTree) (location : Location) : List (Bytes × Place) :=
  tree.places.filterMap fun entry => (nameIn location entry.1).map fun name => (name, entry.2)

/-- What a folder is said to hold are its entries in order. -/
theorem children_eq : tree.children location =
    (tree.inside location).mergeSort fun a b => Bytes.notAfter a.1 b.1 := by
  -- Both pick out the locations that lie directly in the folder.
  unfold children inside
  dsimp only
  congr 1
  refine List.filterMap_congr fun entry _ => ?_
  obtain ⟨other, place⟩ := entry
  unfold nameIn
  dsimp only
  cases other.getLast? with
  | none => rw [ite_self]; rfl
  | some name => cases other.dropLast == location <;> rfl

/-- The names of the entries are the names in the folder. -/
theorem map_fst_inside : (tree.inside location).map Prod.fst = tree.names location := by
  -- Taking names and picking out can be done in either order.
  unfold inside names
  rw [List.map_filterMap, List.filterMap_map]
  refine List.filterMap_congr fun entry _ => ?_
  dsimp only [Function.comp]
  cases nameIn location entry.1 <;> rfl

/-- No name stands twice in a folder. -/
def Distinct (tree : FileTree) (location : Location) : Prop := (tree.names location).Nodup

/-- A folder holds what lies at the locations directly in it. -/
theorem mem_children :
    (file, place) ∈ tree.children location ↔ (location ++ [file], place) ∈ tree.places := by
  -- The entries are sorted, which loses none, and each is picked out by its name.
  rw [children_eq, (List.mergeSort_perm _ _).mem_iff, inside, List.mem_filterMap]
  constructor
  · intro ⟨entry, listed, named⟩
    obtain ⟨other, placed⟩ := entry
    simp only [Option.map_eq_some_iff, Prod.mk.injEq, nameIn_eq_some_iff] at named
    obtain ⟨name, rfl, rfl, rfl⟩ := named
    exact listed
  · intro listed
    exact ⟨_, listed, by rw [nameIn_eq_some_iff.mpr rfl, Option.map_some]⟩

/-- Where no name stands twice, a folder holds under a name what its location has. -/
theorem mem_children_iff (distinct : tree.Distinct location) :
    (file, place) ∈ tree.children location ↔ tree.place? (location ++ [file]) = some place := by
  have inner : (location ++ [file]).isEmpty = false := by simp
  have found : ∀ {held}, tree.places.lookup (location ++ [file]) = some held →
      (file, held) ∈ tree.children location := by
    intro held looked
    obtain ⟨before, after, split, -⟩ := List.lookup_eq_some_iff.mp looked
    rw [mem_children, split]
    exact List.mem_append_right _ List.mem_cons_self
  unfold place?
  rw [inner, if_neg Bool.false_ne_true]
  constructor
  · intro held
    cases looked : tree.places.lookup (location ++ [file]) with
    | none =>
      -- The entry itself would have been found.
      have absent := List.lookup_eq_none_iff.mp looked _ (mem_children.mp held)
      simp at absent
    | some other =>
      -- Both stand under the same name, so that they are the same entry.
      have keys : ((tree.children location).map Prod.fst).Nodup := by
        rw [children_eq]
        refine ((List.mergeSort_perm _ _).map Prod.fst).nodup_iff.mpr ?_
        rw [map_fst_inside]
        exact distinct
      have same := List.inj_on_of_nodup_map keys (found looked) held rfl
      rw [(Prod.mk.inj same).2]
  · exact found

/-- The names that a folder is said to hold ascend strictly. -/
theorem children_ascends (distinct : tree.Distinct location) :
    (tree.children location).Pairwise fun a b => a.1 < b.1 := by
  -- Distinct names ascend once they are sorted.
  rw [children_eq]
  refine Bytes.sort_by_ascends Prod.fst ?_
  rw [map_fst_inside]
  exact distinct

/-- An empty folder has no name twice. -/
theorem distinct_of_children_nil (empty : tree.children location = []) :
    tree.Distinct location := by
  -- Sorting keeps the number of entries.
  have none : tree.inside location = [] := by
    rw [children_eq] at empty
    exact List.length_eq_zero_iff.mp (by rw [← List.length_mergeSort, empty, List.length_nil])
  rw [Distinct, ← map_fst_inside, none]
  exact List.nodup_nil

/-- Putting something somewhere puts no name twice into a folder. -/
theorem Distinct.put (distinct : tree.Distinct location) (other : Location) (place : Place) :
    (tree.put other place).Distinct location := by
  unfold Distinct names FileTree.put
  split
  · -- What is replaced stays under its name.
    have keys :
        (tree.places.map fun entry => if entry.1 == other then (other, place) else entry).map
          Prod.fst = tree.places.map Prod.fst := by
      rw [List.map_map]
      refine List.map_congr_left fun entry _ => ?_
      by_cases same : entry.1 = other
      · simp [same]
      · simp [same]
    rw [keys]
    exact distinct
  next free =>
    rw [List.map_append, List.filterMap_append, List.nodup_append]
    refine ⟨distinct, ?_, ?_⟩
    · cases named : nameIn location other <;> simp [named]
    · -- A name that was in the folder already would have been replaced.
      intro old listed new added same
      subst same
      have at_new : other = location ++ [old] := by
        rw [← nameIn_eq_some_iff]
        simpa using added
      obtain ⟨key, present, named⟩ := List.mem_filterMap.mp listed
      obtain ⟨entry, member, rfl⟩ := List.mem_map.mp present
      rw [nameIn_eq_some_iff, ← at_new] at named
      exact free (List.any_eq_true.mpr ⟨entry, member, by simp [named]⟩)

/-- Erasing something puts no name twice into a folder. -/
theorem Distinct.erase (distinct : tree.Distinct location) (other : Location) :
    (tree.erase other).Distinct location :=
  -- The names that are left are among those from before.
  List.Nodup.sublist ((List.filter_sublist.map Prod.fst).filterMap _) distinct

end Children

end Patchbay.FileTree
