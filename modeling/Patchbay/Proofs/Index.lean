import Mathlib.Data.Set.Function
import Std.Data.HashMap

/-! Indexes: maps that are filled from a list of items, one entry for each item. -/

namespace Patchbay

/-- The places of a list increase along it. -/
theorem zipIdx_increasing {α : Type} (items : List α) :
    items.zipIdx.Pairwise fun a b => a.2 < b.2 := by
  -- The places alone are the numbers in order.
  apply List.pairwise_map.mp
  rw [List.zipIdx_map_snd]
  exact List.pairwise_lt_range'

/-- What is kept of the items of a list is in order of their places. -/
theorem filterMap_zipIdx_increasing {α β : Type} {keep : α × Nat → Option β} (place : β → Nat)
    (placed : ∀ item result, keep item = some result → place result = item.2) (items : List α) :
    (items.zipIdx.filterMap keep).Pairwise fun a b => place a < place b := by
  -- Leaving some items out keeps the order of the others.
  refine List.pairwise_filterMap.mpr ((zipIdx_increasing items).imp ?_)
  intro first second before a kept b other
  rw [placed first a kept, placed second b other]
  exact before

/-- What is among the first items of a list stands at one of the first places. -/
theorem exists_place_of_mem_take {α : Type} {items : List α} {item : α} {count : Nat}
    (member : item ∈ items.take count) : ∃ place < count, items[place]? = some item := by
  -- The place of a member of a part is its place in the whole list.
  obtain ⟨place, bound, here⟩ := List.mem_take_iff_getElem.mp member
  exact ⟨place, by omega, List.getElem?_eq_some_iff.mpr ⟨by omega, here⟩⟩

variable {α κ β : Type} [BEq κ] [Hashable κ] [LawfulBEq κ] [LawfulHashable κ]

/-- Adding an item gives its key an entry and leaves the other entries alone. The key may keep an
entry that it had before. -/
structure Indexes (key : α → κ) (value : α → β) (add : Std.HashMap κ β → α → Std.HashMap κ β) :
    Prop where
  sound : ∀ {index item k v}, (add index item)[k]? = some v →
    (key item = k ∧ value item = v) ∨ index[k]? = some v
  complete : ∀ {index item k}, key item = k ∨ k ∈ index → k ∈ add index item

/-- An insertion that overwrites adds an item. -/
theorem indexes_insert (key : α → κ) (value : α → β) :
    Indexes key value fun index item => index.insert (key item) (value item) where
  sound := by
    intro index item k v found
    -- The entry found is the one inserted, or one from before under another key.
    rw [Std.HashMap.getElem?_insert] at found
    split at found
    · rename_i same
      exact .inl ⟨by simpa using same, Option.some.inj found⟩
    · exact .inr found
  complete := by
    intro index item k known
    rw [Std.HashMap.mem_insert]
    exact known.imp_left beq_iff_eq.mpr

/-- An insertion that keeps an earlier entry adds an item. -/
theorem indexes_insertIfNew (key : α → κ) (value : α → β) :
    Indexes key value fun index item => index.insertIfNew (key item) (value item) where
  sound := by
    intro index item k v found
    -- The entry found is from before, unless the key had none.
    rw [Std.HashMap.getElem?_insertIfNew] at found
    split at found
    · rename_i new
      exact .inl ⟨by simpa using new.1, Option.some.inj found⟩
    · exact .inr found
  complete := by
    intro index item k known
    rw [Std.HashMap.mem_insertIfNew]
    exact known.imp_left beq_iff_eq.mpr

namespace Indexes

variable {key : α → κ} {value : α → β} {add : Std.HashMap κ β → α → Std.HashMap κ β}

/-- Every entry of a filled index comes from an item. -/
theorem exists_item (indexes : Indexes key value add) {items : List α} {k : κ} {v : β}
    (found : (items.foldl add ∅)[k]? = some v) : ∃ item ∈ items, key item = k ∧ value item = v := by
  -- An entry is either there from the start or added by some item of the list.
  have general : ∀ index, (items.foldl add index)[k]? = some v →
      (∃ item ∈ items, key item = k ∧ value item = v) ∨ index[k]? = some v := by
    clear found
    induction items with
    | nil => exact fun index found => .inr found
    | cons item rest ih =>
      intro index found
      rcases ih (add index item) found with ⟨other, member, entry⟩ | found
      · exact .inl ⟨other, List.mem_cons_of_mem _ member, entry⟩
      · rcases indexes.sound found with entry | found
        · exact .inl ⟨item, List.mem_cons_self, entry⟩
        · exact .inr found
  rcases general ∅ found with item | found
  · exact item
  · simp at found

/-- The key of every item has an entry in a filled index. -/
theorem exists_entry (indexes : Indexes key value add) {items : List α} (item : α)
    (member : item ∈ items) :
    ∃ v, (items.foldl add ∅)[key item]? = some v := by
  -- The key is in the index once the item has been added, and stays there.
  have general : ∀ index, (item ∈ items ∨ key item ∈ index) → key item ∈ items.foldl add index := by
    clear member
    induction items with
    | nil => simp
    | cons first rest ih =>
      intro index known
      apply ih
      rcases known with member | known
      · rcases List.mem_cons.mp member with same | member
        · exact .inr (indexes.complete (.inl (by rw [same])))
        · exact .inl member
      · exact .inr (indexes.complete (.inr known))
  exact ⟨_, Std.HashMap.getElem?_eq_some_getElem (general ∅ (.inl member))⟩

/-- Where keys determine values, the entry of a key is the value of any item that has it. -/
theorem get_eq_some_iff (indexes : Indexes key value add) {items : List α}
    (determined : ∀ a ∈ items, ∀ b ∈ items, key a = key b → value a = value b) {k : κ} {v : β} :
    (items.foldl add ∅)[k]? = some v ↔ ∃ item ∈ items, key item = k ∧ value item = v := by
  constructor
  · exact indexes.exists_item
  · -- The entry may come from another item with this key, but then with the same value.
    rintro ⟨item, member, rfl, rfl⟩
    obtain ⟨found, entry⟩ := indexes.exists_entry item member
    obtain ⟨other, listed, same, rfl⟩ := indexes.exists_item entry
    rw [entry, determined other listed item member same]

end Indexes

/-- Adding an item changes the entry of its key only, to what is picked from the earlier entry and
the new value. -/
def Fills (key : α → κ) (value : α → β) (pick : Option β → β → β)
    (add : Std.HashMap κ β → α → Std.HashMap κ β) : Prop :=
  ∀ index item k, (add index item)[k]? = if key item == k then some (pick index[k]? (value item))
    else index[k]?

/-- An insertion that overwrites picks the new value. -/
theorem fills_insert (key : α → κ) (value : α → β) :
    Fills key value (fun _ new => new) fun index item => index.insert (key item) (value item) :=
  -- This is what an insertion does to a map.
  fun _ _ _ => Std.HashMap.getElem?_insert

/-- An insertion that keeps an earlier entry picks the new value only where there is none. -/
theorem fills_insertIfNew (key : α → κ) (value : α → β) :
    Fills key value (fun old new => old.getD new) fun index item => index.insertIfNew (key item)
      (value item) := by
  -- The key is that of the item or another, and it is in the map or not.
  intro index item k
  rw [Std.HashMap.getElem?_insertIfNew]
  by_cases same : key item = k
  · subst same
    by_cases known : key item ∈ index
    · simp [known]
    · simp [known]
  · simp [same]

/-- An index that is filled under other keys has the same entries under these keys, as long as
different keys stay different. -/
theorem Fills.rename {κ' : Type} [BEq κ'] [Hashable κ'] [LawfulBEq κ'] [LawfulHashable κ']
    {key : α → κ}
    {keyOther : α → κ'} {value : α → β} {pick : Option β → β → β}
    {add : Std.HashMap κ β → α → Std.HashMap κ β}
    {addOther : Std.HashMap κ' β → α → Std.HashMap κ' β} {rename : κ → κ'} {known : κ → Prop}
    {items : List α}
    (fills : Fills key value pick add) (fillsOther : Fills keyOther value pick addOther)
    (renamed : ∀ item ∈ items, keyOther item = rename (key item))
    (apart : Set.InjOn rename {k | known k})
    (inside : ∀ item ∈ items, known (key item)) {k : κ} (here : known k) :
    (items.foldl addOther ∅)[rename k]? = (items.foldl add ∅)[k]? := by
  -- Before and after each item, both indexes have the same entry for the key.
  have general : ∀ (index : Std.HashMap κ β) (other : Std.HashMap κ' β), other[rename k]? =
    index[k]? →
      (items.foldl addOther other)[rename k]? = (items.foldl add index)[k]? := by
    induction items with
    | nil => exact fun _ _ same => same
    | cons item rest ih =>
      intro index other same
      obtain ⟨first, later⟩ := List.forall_mem_cons.mp inside
      obtain ⟨named, others⟩ := List.forall_mem_cons.mp renamed
      refine ih others later _ _ ?_
      have keys : (keyOther item == rename k) = (key item == k) := by
        rw [Bool.eq_iff_iff, beq_iff_eq, beq_iff_eq, named, apart.eq_iff first here]
      rw [fills index item k, fillsOther other item (rename k), keys, same]
  exact general ∅ ∅ (by simp)

end Patchbay
