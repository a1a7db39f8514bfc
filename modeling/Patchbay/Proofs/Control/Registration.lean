import Patchbay.Definition.Basic
import Patchbay.Proofs.Control.Table

/-! Registration: a control table is filled by calls that bring some parameters each. After any
calls its index by name agrees with its parameters, and a definition that looks a name up finds what
such a table finds. -/

namespace Patchbay

namespace ControlTable

/-- Adds the parameters of several calls, one call after another, and tells the place that each call
answers. -/
def register (table : ControlTable) : List (List Descriptor) → ControlTable × List Nat
  | [] => (table, [])
  | call :: later =>
    let grown := table.append call
    let final := grown.1.register later
    (final.1, grown.2 :: final.2)

/-- A table has as many places as parameters. -/
theorem size_eq (table : ControlTable) : table.size = table.toList.length := by
  -- The size is that of the array behind both.
  simp [size, toList]

/-- The parameters of the calls stand one behind the other. -/
theorem toList_register (table : ControlTable) (calls : List (List Descriptor)) :
    (table.register calls).1.toList = table.toList ++ calls.flatten := by
  induction calls generalizing table with
  | nil => simp [register]
  | cons call later ih =>
    -- The later calls add to what the first one left.
    rw [register, ih, toList_append, List.flatten_cons, List.append_assoc]

/-- Each call answers the size that the calls before it gave the table. -/
theorem register_snd (table : ControlTable) (calls : List (List Descriptor)) :
    (table.register calls).2 =
      (List.range calls.length).map fun before => (table.register (calls.take before)).1.size := by
  induction calls generalizing table with
  | nil => rfl
  | cons call later ih =>
    -- The first call answers for the table as it is, and the others for the table that it left.
    rw [List.length_cons, List.range_succ_eq_map, List.map_cons, List.map_map]
    exact congrArg (table.size :: ·) (ih (table.append call).1)

/-- The index stays right through all calls. -/
theorem Indexed.register {table : ControlTable} (indexed : table.Indexed)
    (calls : List (List Descriptor)) :
    (table.register calls).1.Indexed := by
  -- Each call leaves a table whose index is right for the next one.
  induction calls generalizing table with
  | nil => exact indexed
  | cons call later ih => exact ih (indexed.append call)

end ControlTable

namespace Definition

variable {definition : Definition} {name : Bytes} {descriptor : Descriptor} {slot : Nat}

/-- The parameter that is found under a name has this name. -/
theorem control?_sound (found : definition.control? name = some (descriptor, slot)) :
    definition.controls[slot]? = some descriptor ∧ descriptor.name = name := by
  -- The scan goes through the parameters with their places, and stops only at one with the name.
  have listed := List.mem_of_find?_eq_some found
  have named := List.find?_some found
  simp only [Bool.and_eq_true, beq_iff_eq] at named
  exact ⟨List.mem_zipIdx_iff_getElem?.mp listed, named.2⟩

/-- A parameter with a name is found under it, or another one with the same name is. -/
theorem control?_complete (here : definition.controls[slot]? = some descriptor)
    (named : descriptor.name ≠ []) :
    ∃ found, definition.control? descriptor.name = some found := by
  -- The scan stops at this parameter, if not before.
  rw [← Option.isSome_iff_exists, control?, List.find?_isSome]
  exact ⟨(descriptor, slot), List.mem_zipIdx_iff_getElem?.mpr here,
    Descriptor.bears_iff.mpr ⟨named, rfl⟩⟩

/-- The table of the controls has a name at the place where the definition finds it. -/
theorem lookup_controls (definition : Definition) (name : Bytes) :
    (ControlTable.ofList definition.controls).lookup name =
      (definition.control? name).map Prod.snd := by
  -- The index agrees with a scan, and the definition scans the same list along with its places.
  rw [ControlTable.indexed_ofList definition.controls name, ControlTable.toList_ofList,
    List.findIdx?_eq_fst_find?_zipIdx]
  rfl

/-- The definition finds a parameter where the table of its controls has the name and the
parameter. -/
theorem control?_eq_some_iff :
    definition.control? name = some (descriptor, slot) ↔
      (ControlTable.ofList definition.controls).lookup name = some slot ∧
        (ControlTable.ofList definition.controls).get? slot = some descriptor := by
  -- The table holds the controls as they are.
  have held : (ControlTable.ofList definition.controls).get? slot = definition.controls[slot]? := by
    rw [ControlTable.get?, ← Array.getElem?_toList]
    exact congrArg (·[slot]?) (ControlTable.toList_ofList definition.controls)
  rw [lookup_controls, held]
  constructor
  · intro found
    exact ⟨by rw [found, Option.map_some], (control?_sound found).1⟩
  · rintro ⟨placed, here⟩
    -- What is found stands at the place, and so does the parameter.
    obtain ⟨⟨other, place⟩, found, rfl⟩ := Option.map_eq_some_iff.mp placed
    have same := (control?_sound found).1.symm.trans here
    rw [found, Option.some.inj same]

end Definition

/-- After any calls that fill a table from the start, each call has answered the size of the table
before it, and the table holds the parameters of all calls in order. A name is found at the least
place of a parameter that has it, and the empty name and a name that no parameter has are not found.
The named parameters and those without a name are listed in ascending order, and every place belongs
to one of the two lists. A definition finds under a name what the table of its controls finds. -/
theorem register_agrees (calls : List (List Descriptor)) :
    let table := (ControlTable.empty.register calls).1
    (ControlTable.empty.register calls).2 =
        (List.range calls.length).map
          (fun before => (ControlTable.empty.register (calls.take before)).1.size) ∧
      table.toList = calls.flatten ∧
      (∀ name place, table.lookup name = some place ↔ name ≠ [] ∧
        (∃ descriptor, calls.flatten[place]? = some descriptor ∧ descriptor.name = name) ∧
        ∀ earlier < place, ∀ descriptor, calls.flatten[earlier]? = some descriptor →
          descriptor.name ≠ name) ∧
      (∀ name, table.lookup name = none ↔ name = [] ∨
        ∀ descriptor ∈ calls.flatten, descriptor.name ≠ name) ∧
      (namedEntries table.toList).Pairwise (fun a b => a.2 < b.2) ∧
      (∀ name place, (name, place) ∈ namedEntries table.toList ↔
        name ≠ [] ∧ ∃ descriptor, table.toList[place]? = some descriptor ∧ descriptor.name = name) ∧
      (unnamedPlaces table.toList).Pairwise (· < ·) ∧
      (∀ place, place ∈ unnamedPlaces table.toList ↔
        ∃ descriptor, table.toList[place]? = some descriptor ∧ descriptor.name = []) ∧
      ((namedEntries table.toList).map Prod.snd ++ unnamedPlaces table.toList).Perm
        (List.range table.size) ∧
      ∀ (definition : Definition) (name : Bytes),
        (ControlTable.ofList definition.controls).lookup name =
          (definition.control? name).map Prod.snd ∧
          ∀ descriptor place, definition.control? name = some (descriptor, place) ↔
            (ControlTable.ofList definition.controls).lookup name = some place ∧
              (ControlTable.ofList definition.controls).get? place = some descriptor := by
  intro table
  -- All calls start from the empty table, whose index is right.
  have indexed : table.Indexed := ControlTable.indexed_empty.register calls
  have held : table.toList = calls.flatten := ControlTable.toList_register ControlTable.empty calls
  refine ⟨ControlTable.register_snd _ calls, held, fun name place => ?_, fun name => ?_,
    namedEntries_increasing _, fun name place => mem_namedEntries_iff, unnamedPlaces_increasing _,
    fun place => mem_unnamedPlaces_iff, ?_,
      fun definition name => ⟨definition.lookup_controls name, ?_⟩⟩
  · rw [indexed.lookup_eq_some_iff, held]
  · rw [indexed.lookup_eq_none_iff, held]
  · rw [table.size_eq]
    exact places_partition table.toList
  · exact fun descriptor place => Definition.control?_eq_some_iff

/-- A parameter of the control rate, with a name and no value. -/
def silent (name : Bytes) : Descriptor := ⟨name, .control, .zero, .zero⟩

/-- Calls that bring one name twice and later once more, a call that brings nothing, and parameters
without a name. -/
def pluckCalls : List (List Descriptor) :=
  [[silent (utf8 "freq"), silent [], silent (utf8 "freq")], [],
    [silent (utf8 "amp"), silent (utf8 "freq"), silent []]]

/-- The calls answer the sizes that they found. The repeated name is found at its first place, and
the empty one is not found although two parameters have it. -/
theorem pluck_registered :
    (ControlTable.empty.register pluckCalls).2 = [0, 3, 3] ∧
      (ControlTable.empty.register pluckCalls).1.lookup (utf8 "freq") = some 0 ∧
      (ControlTable.empty.register pluckCalls).1.lookup (utf8 "amp") = some 3 ∧
      (ControlTable.empty.register pluckCalls).1.lookup [] = none ∧
      namedEntries (ControlTable.empty.register pluckCalls).1.toList =
        [(utf8 "freq", 0), (utf8 "freq", 2), (utf8 "amp", 3), (utf8 "freq", 4)] ∧
      unnamedPlaces (ControlTable.empty.register pluckCalls).1.toList = [1, 5] := by
  obtain ⟨_, held, found, absent, _⟩ := register_agrees pluckCalls
  -- What the calls leave is known, so that each answer is a question about a list.
  refine ⟨rfl, (found _ 0).mpr ⟨by decide, ⟨_, rfl, rfl⟩, by simp⟩,
    (found _ 3).mpr ⟨by decide, ⟨_, rfl, rfl⟩, ?_⟩, (absent []).mpr (.inl rfl), ?_, ?_⟩
  · decide
  · rw [held]
    decide
  · rw [held]
    decide

end Patchbay
