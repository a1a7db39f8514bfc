import Mathlib.Data.List.Nodup
import Patchbay.Control.Table
import Patchbay.Proofs.Index

/-! Control tables: the index by name agrees with a scan of the parameters, however the table was
filled. The named parameters and those without a name share out the places of the table. -/

namespace Patchbay

namespace Descriptor

variable {descriptor : Descriptor} {name : Bytes}

/-- Whether a parameter goes by a name. A parameter without a name goes by none, not even by the
empty one. -/
def bears (descriptor : Descriptor) (name : Bytes) : Bool :=
  descriptor.named && descriptor.name == name

/-- A parameter is named when its name is not empty. -/
theorem named_iff : descriptor.named = true ↔ descriptor.name ≠ [] := by
  -- The empty name stands for none.
  simp [named]

/-- A parameter goes by its own name, unless that is empty. -/
theorem bears_iff : descriptor.bears name = true ↔ name ≠ [] ∧ descriptor.name = name := by
  rw [bears, Bool.and_eq_true, named_iff, beq_iff_eq]
  -- Once the names are equal, it does not matter which of them is not empty.
  constructor
  · rintro ⟨named, rfl⟩
    exact ⟨named, rfl⟩
  · rintro ⟨named, rfl⟩
    exact ⟨named, rfl⟩

end Descriptor

namespace ControlTable

variable {table : ControlTable} {name : Bytes} {place : Nat}

/-- Adding one parameter puts it behind those that are there. -/
theorem toList_push (table : ControlTable) (descriptor : Descriptor) :
    (table.push descriptor).toList = table.toList ++ [descriptor] := by
  -- The list of the parameters does not depend on the index.
  simp [push, toList]

/-- Adding parameters puts them behind those that are there. -/
theorem toList_append (table : ControlTable) (descriptors : List Descriptor) :
    (table.append descriptors).1.toList = table.toList ++ descriptors := by
  -- The parameters are pushed one by one, and the table grows with each.
  simp only [append]
  induction descriptors generalizing table with
  | nil => simp
  | cons descriptor rest ih =>
    rw [List.foldl_cons, ih, toList_push, List.append_assoc, List.singleton_append]

/-- New parameters start where the table ended. -/
theorem append_snd (table : ControlTable) (descriptors : List Descriptor) :
    (table.append descriptors).2 = table.toList.length := by
  -- The place is told from the table as it was before.
  simp [append, toList]

/-- A name keeps the place that it had before a parameter is added. A name without a place gets that
of the new parameter, if this goes by it. -/
theorem lookup_push (table : ControlTable) (descriptor : Descriptor) (name : Bytes) :
    (table.push descriptor).lookup name =
      (table.lookup name).or
      (if descriptor.bears name then some table.toList.length else none) := by
  -- The new parameter stands at the end.
  have places : table.descriptors.size = table.toList.length := by simp [toList]
  simp only [lookup, push, places]
  by_cases named : descriptor.named = true
  · -- The entry of the new name is made only where there was none.
    have filled :=
      fills_insertIfNew Descriptor.name (fun _ => table.toList.length) table.places descriptor name
    rw [if_pos named, filled, Descriptor.bears, named, Bool.true_and]
    by_cases same : (descriptor.name == name) = true
    · rw [if_pos same, if_pos same]
      -- Whether it is new or not, the name has an entry afterwards.
      cases table.places[name]? with
      | none => rfl
      | some place => rfl
    · rw [if_neg same, if_neg same, Option.or_none]
  · -- A parameter without a name leaves the index alone.
    have unborne : descriptor.bears name = false := by simp [Descriptor.bears, named]
    rw [if_neg named, unborne, if_neg Bool.false_ne_true, Option.or_none]

/-- The index by name finds what a scan of the parameters finds. -/
def Indexed (table : ControlTable) : Prop :=
  -- The scan stops at the first parameter that goes by the name.
  ∀ name, table.lookup name = table.toList.findIdx? (·.bears name)

/-- Neither the index of the empty table nor a scan of it finds anything. -/
theorem indexed_empty : empty.Indexed := by
  -- Both are empty.
  intro name
  simp [lookup, toList, empty]

namespace Indexed

/-- The index stays right when one parameter is added. -/
theorem push (indexed : table.Indexed) (descriptor : Descriptor) :
    (table.push descriptor).Indexed := by
  intro name
  -- The scan goes on to the new parameter only where it found nothing before.
  rw [lookup_push, indexed name, toList_push, List.findIdx?_append, List.findIdx?_singleton]
  split
  · rw [Option.map_some, Nat.zero_add]
  · rw [Option.map_none]

/-- The index stays right when parameters are added. -/
theorem append (indexed : table.Indexed) (descriptors : List Descriptor) :
    (table.append descriptors).1.Indexed := by
  -- The parameters are pushed one by one, and each push keeps the index right.
  simp only [ControlTable.append]
  induction descriptors generalizing table with
  | nil => exact indexed
  | cons descriptor rest ih => exact ih (indexed.push descriptor)

/-- A name is found at the first place where a parameter has it. -/
theorem lookup_eq_some_iff (indexed : table.Indexed) :
    table.lookup name = some place ↔ name ≠ [] ∧
      (∃ descriptor, table.toList[place]? = some descriptor ∧ descriptor.name = name) ∧
      ∀ earlier < place, ∀ descriptor, table.toList[earlier]? = some descriptor →
        descriptor.name ≠ name := by
  -- A scan stops at a parameter that goes by the name, and passes those that do not.
  rw [indexed name, List.findIdx?_eq_some_iff_getElem]
  constructor
  · rintro ⟨inside, bears, first⟩
    obtain ⟨named, same⟩ := Descriptor.bears_iff.mp bears
    refine ⟨named, ⟨_, List.getElem?_eq_getElem inside, same⟩, ?_⟩
    intro earlier before descriptor here other
    -- A parameter in front with this name would have been found instead.
    obtain ⟨_, rfl⟩ := List.getElem?_eq_some_iff.mp here
    exact first earlier before (Descriptor.bears_iff.mpr ⟨named, other⟩)
  · rintro ⟨named, ⟨descriptor, here, same⟩, first⟩
    obtain ⟨inside, rfl⟩ := List.getElem?_eq_some_iff.mp here
    refine ⟨inside, Descriptor.bears_iff.mpr ⟨named, same⟩, ?_⟩
    intro earlier before bears
    -- The scan does not stop earlier, where no parameter has the name.
    exact first earlier before _ (List.getElem?_eq_getElem _) (Descriptor.bears_iff.mp bears).2

/-- A name is not found when it is empty, or when no parameter has it. -/
theorem lookup_eq_none_iff (indexed : table.Indexed) :
    table.lookup name = none ↔ name = [] ∨ ∀ descriptor ∈ table.toList, descriptor.name ≠ name := by
  rw [indexed name, List.findIdx?_eq_none_iff]
  constructor
  · intro unborne
    refine (Classical.em (name = [])).imp_right fun named descriptor member same => ?_
    -- A parameter that has the name would go by it.
    have bears := Descriptor.bears_iff.mpr ⟨named, same⟩
    rw [unborne descriptor member] at bears
    exact Bool.false_ne_true bears
  · intro absent descriptor member
    rw [Bool.eq_false_iff, Ne, Descriptor.bears_iff]
    rintro ⟨named, same⟩
    -- Nothing goes by the empty name, and nothing has the name otherwise.
    rcases absent with empty | absent
    · exact named empty
    · exact absent descriptor member same

end Indexed

/-- The table of a list of parameters is indexed. -/
theorem indexed_ofList (descriptors : List Descriptor) : (ofList descriptors).Indexed :=
  -- The parameters are added to the empty table.
  indexed_empty.append descriptors

/-- The table of a list of parameters holds that list. -/
theorem toList_ofList (descriptors : List Descriptor) :
    (ofList descriptors).toList = descriptors := by
  -- The list is put behind that of the empty table.
  rw [ofList, toList_append]
  rfl

end ControlTable

section Entries

variable {descriptors : List Descriptor} {text : Bytes} {place : Nat}

/-- An entry of the name table is the name of the parameter at its place. -/
theorem mem_namedEntries_iff :
    (text, place) ∈ namedEntries descriptors ↔
      text ≠ [] ∧ ∃ descriptor, descriptors[place]? = some descriptor ∧ descriptor.name = text := by
  -- Only parameters with a name have an entry.
  simp only [namedEntries, List.mem_filterMap, Prod.exists, List.mem_zipIdx_iff_getElem?]
  constructor
  · rintro ⟨descriptor, index, here, entry⟩
    split at entry
    · rename_i named
      obtain ⟨rfl, rfl⟩ := Prod.mk.inj (Option.some.inj entry)
      exact ⟨Descriptor.named_iff.mp named, descriptor, here, rfl⟩
    · cases entry
  · rintro ⟨named, descriptor, here, rfl⟩
    exact ⟨descriptor, place, here, if_pos (Descriptor.named_iff.mpr named)⟩

/-- The name table is in order of the places. -/
theorem namedEntries_increasing (descriptors : List Descriptor) :
    (namedEntries descriptors).Pairwise fun a b => a.2 < b.2 := by
  -- An entry keeps the place of its parameter.
  refine filterMap_zipIdx_increasing Prod.snd (fun item entry kept => ?_) descriptors
  simp only [Option.ite_none_right_eq_some, Option.some.injEq] at kept
  rw [← kept.2]

/-- A parameter with a name has this name wherever the name table is the same. -/
theorem name_eq_of_named {one two : List Descriptor} (same : namedEntries one = namedEntries two)
    {first second : Descriptor} (here : one[place]? = some first)
    (there : two[place]? = some second) (named : first.name ≠ []) : first.name = second.name := by
  -- The name is listed in the first table and so in the second one.
  have listed := mem_namedEntries_iff.mpr ⟨named, first, here, rfl⟩
  rw [same] at listed
  obtain ⟨_, descriptor, found, name⟩ := mem_namedEntries_iff.mp listed
  rw [there, Option.some.injEq] at found
  rw [found, name]

/-- Parameters have the same names where their name tables are the same. -/
theorem name_eq_of_namedEntries {one two : List Descriptor}
    (same : namedEntries one = namedEntries two)
    {first second : Descriptor} (here : one[place]? = some first)
    (there : two[place]? = some second) :
    first.name = second.name := by
  -- Where one of the two has a name the tables tell it, and otherwise both names are empty.
  by_cases named : first.name = []
  · by_cases other : second.name = []
    · rw [named, other]
    · exact (name_eq_of_named same.symm there here other).symm
  · exact name_eq_of_named same here there named

/-- A place without a name is that of a parameter whose name is empty. -/
theorem mem_unnamedPlaces_iff :
    place ∈ unnamedPlaces descriptors ↔ ∃ descriptor, descriptors[place]? = some descriptor ∧
      descriptor.name = [] := by
  -- Parameters with a name are left out.
  simp only [unnamedPlaces, List.mem_filterMap, Prod.exists, List.mem_zipIdx_iff_getElem?]
  constructor
  · rintro ⟨descriptor, index, here, entry⟩
    split at entry
    · cases entry
    · rename_i unnamed
      obtain rfl := Option.some.inj entry
      exact ⟨descriptor, here,
        Classical.byContradiction fun named => unnamed (Descriptor.named_iff.mpr named)⟩
  · rintro ⟨descriptor, here, unnamed⟩
    exact ⟨descriptor, place, here, if_neg fun named => Descriptor.named_iff.mp named unnamed⟩

/-- The places without a name are in ascending order. -/
theorem unnamedPlaces_increasing (descriptors : List Descriptor) :
    (unnamedPlaces descriptors).Pairwise (· < ·) := by
  -- What is listed of a parameter is its place.
  refine filterMap_zipIdx_increasing id (fun item place kept => ?_) descriptors
  simp only [Option.ite_none_left_eq_some, Option.some.injEq] at kept
  exact kept.2.symm

/-- No place is without a name exactly when all parameters are named. -/
theorem unnamedPlaces_eq_nil_iff :
    unnamedPlaces descriptors = [] ↔ ∀ descriptor ∈ descriptors, descriptor.named = true := by
  -- A parameter without a name would have its place listed.
  rw [List.eq_nil_iff_forall_not_mem]
  constructor
  · intro none descriptor member
    obtain ⟨place, here⟩ := List.mem_iff_getElem?.mp member
    exact Descriptor.named_iff.mpr fun unnamed => none place
      (mem_unnamedPlaces_iff.mpr ⟨descriptor, here, unnamed⟩)
  · intro named place listed
    obtain ⟨descriptor, here, unnamed⟩ := mem_unnamedPlaces_iff.mp listed
    exact Descriptor.named_iff.mp (named descriptor (List.mem_of_getElem? here)) unnamed

/-- Every place is either in the name table or without a name, and listed once. -/
theorem places_partition (descriptors : List Descriptor) :
    ((namedEntries descriptors).map Prod.snd ++ unnamedPlaces descriptors).Perm
    (List.range descriptors.length) := by
  -- In an ascending list nothing stands twice.
  have named : ((namedEntries descriptors).map Prod.snd).Nodup :=
    List.Pairwise.nodup (List.pairwise_map.mpr (namedEntries_increasing descriptors))
  have unnamed : (unnamedPlaces descriptors).Nodup :=
    List.Pairwise.nodup (unnamedPlaces_increasing descriptors)
  have apart : ((namedEntries descriptors).map Prod.snd).Disjoint (unnamedPlaces descriptors) := by
    intro place listed without
    -- Both lists would tell the name of the same parameter.
    obtain ⟨entry, member, rfl⟩ := List.mem_map.mp listed
    obtain ⟨filled, descriptor, here, name⟩ := mem_namedEntries_iff.mp member
    obtain ⟨other, there, empty⟩ := mem_unnamedPlaces_iff.mp without
    rw [here, Option.some.injEq] at there
    exact filled (name.symm.trans (there ▸ empty))
  -- It is left to see that both lists together hold all places and no others.
  refine (List.perm_ext_iff_of_nodup (named.append unnamed apart) List.nodup_range).mpr fun place =>
    ?_
  rw [List.mem_append, List.mem_range]
  constructor
  · rintro (listed | without)
    · obtain ⟨entry, member, rfl⟩ := List.mem_map.mp listed
      obtain ⟨_, _, here, _⟩ := mem_namedEntries_iff.mp member
      exact (List.getElem?_eq_some_iff.mp here).1
    · obtain ⟨_, here, _⟩ := mem_unnamedPlaces_iff.mp without
      exact (List.getElem?_eq_some_iff.mp here).1
  · intro inside
    have here := List.getElem?_eq_getElem inside
    -- The name of the parameter decides in which of the lists its place is.
    by_cases empty : descriptors[place].name = []
    · exact .inr (mem_unnamedPlaces_iff.mpr ⟨_, here, empty⟩)
    · exact .inl (List.mem_map_of_mem (mem_namedEntries_iff.mpr ⟨empty, _, here, rfl⟩))

end Entries

end Patchbay
