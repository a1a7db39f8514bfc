import Patchbay.Proofs.Stream.Cursor
import Patchbay.Proofs.Stream.Indexed

/-! Reading the tables of a file by indices gives what the reader gives, whatever the bytes are:
every byte, constant and earlier row is looked up where its table has it, and every fault tells a
place in the file. -/

namespace Patchbay

/-- A fault that the reading of a file may end with. It tells a place in the file or its end. It is
one of format, one of structure exactly for the variants that are not supported, or, for a strict
reader only, an inconsistency. -/
structure Fault.OfReading (strict : Bool) (data : Bytes) (fault : Fault) : Prop where
  low : 0 ≤ fault.offset
  high : fault.offset ≤ data.length
  structural : fault.kind = .structural ↔ fault.cause = .unsupportedVariants
  kind : fault.kind = .format ∨ fault.kind = .structural ∨ strict = true ∧
    fault.kind = .inconsistency

namespace Stream

/-- A reading by indices that gives the answer of a reader: the same value in front of the same
place, or the same fault. -/
inductive Mirrors (strict : Bool) (data : Bytes) {α : Type} :
    Indexed (α × Position) → Except Fault (α × Cursor) → Prop
  /-- Both read a value, and stay in the file. -/
  | ok (value : α) {position : Position} : position.offset ≤ data.length →
    Mirrors strict data (pure (value, position)) (.ok (value, position.cursor data))
  /-- Both fail. -/
  | error {fault : Fault} :
      fault.OfReading strict data → Mirrors strict data (throw fault) (.error fault)

namespace Mirrors

variable {strict : Bool} {data : Bytes} {α β : Type}
variable {indexed : Indexed (α × Position)} {result : Except Fault (α × Cursor)}
variable {others : α × Position → Indexed (β × Position)}
  {after : α × Cursor → Except Fault (β × Cursor)}

/-- Two readings one after the other: the second one starts where the first one stopped, at a place
in the file. -/
theorem bind_read (first : Mirrors strict data indexed result)
    (second : ∀ value position, result = .ok (value, position.cursor data) →
      position.offset ≤ data.length →
      Mirrors strict data (others (value, position)) (after (value, position.cursor data))) :
    Mirrors strict data (indexed >>= others) (result >>= after) := by
  -- The first reading ends at a place in the file, or both stop with its fault.
  cases first with
  | ok value inside => exact second value _ rfl inside
  | error told => exact .error told

/-- Two readings one after the other, where the second one may start anywhere in the file. -/
theorem bind (first : Mirrors strict data indexed result)
    (second : ∀ value position, position.offset ≤ data.length →
      Mirrors strict data (others (value, position)) (after (value, position.cursor data))) :
    Mirrors strict data (indexed >>= others) (result >>= after) :=
  -- Where the first reading stopped does not matter.
  first.bind_read fun value position _ => second value position

/-- Both readings end in the same way. -/
theorem outcome (same : Mirrors strict data indexed result) :
    (∃ value position, indexed = pure (value, position) ∧
      result = .ok (value, position.cursor data) ∧
        position.offset ≤ data.length) ∨
      ∃ fault, indexed = throw fault ∧ result = .error fault ∧ fault.OfReading strict data := by
  -- Mirroring is one of the two.
  cases same with
  | ok value inside => exact .inl ⟨value, _, rfl, rfl, inside⟩
  | error told => exact .inr ⟨_, rfl, rfl, told⟩

/-- A refusal that both readings come to. -/
theorem refuse {γ : Type} {refused : Prop} [Decidable refused] {fault : Fault}
    {others : γ → Indexed (β × Position)}
    {after : γ → Except Fault (β × Cursor)} {indexed : Indexed (β × Position)}
    {result : Except Fault (β × Cursor)}
    (told : fault.OfReading strict data) (passed : Mirrors strict data indexed result) :
    Mirrors strict data (if refused then throw fault >>= others else indexed)
      (if refused then throw fault >>= after else result) := by
  -- Both look at the same condition.
  by_cases h : refused
  · rw [if_pos h, if_pos h]
    exact .error told
  · rw [if_neg h, if_neg h]
    exact passed

end Mirrors

/-- A fault of format at a place in the file. -/
theorem Cursor.fault_ofReading {strict : Bool} {data : Bytes} (cursor : Cursor) {offset : Nat}
    (context : Bytes)
    {cause : Cause} (inside : offset ≤ data.length) (other : cause ≠ .unsupportedVariants) :
    (cursor.fault offset context cause).OfReading strict data where
  -- The offset lies in the file, and the cause is no structural one.
  low := Int.natCast_nonneg offset
  high := Int.ofNat_le.mpr inside
  structural := by simp [Cursor.fault, Fault.format, other]
  kind := .inl rfl

/-- A fault of format in a row of the node table, at a place in the file. -/
theorem Cursor.nodeFault_ofReading {strict : Bool} {data : Bytes} (cursor : Cursor) (row : Nat)
    (op : Bytes)
    {offset : Nat} (index : Int) (context : Bytes) {cause : Cause} (inside : offset ≤ data.length)
    (other : cause ≠ .unsupportedVariants) :
    (cursor.nodeFault row op offset index context cause).OfReading strict data := by
  -- It is a fault of format with a row added.
  have told : (cursor.fault offset context cause).OfReading strict data :=
    cursor.fault_ofReading context inside other
  exact ⟨told.low, told.high, told.structural, told.kind⟩

namespace Indexed

variable {strict : Bool} {data what : Bytes} {position : Position}

/-- A look-up that finds an item goes on with it. -/
theorem look_some {α β : Type} (item : α) (after : α → Indexed β) :
    look (some item) >>= after = after item := rfl

/-- Bytes that the file still holds are read as they stand. -/
theorem take_eq {count : Nat} (enough : position.offset + count ≤ data.length) :
    take data position what count =
      pure
        ((data.drop position.offset).take count,
          { position with offset := position.offset + count }) := by
  -- The slice lies inside the data.
  have found : slice data position.offset (position.offset + count) =
      some ((data.drop position.offset).take count) := by
    rw [slice, if_pos ⟨Nat.le_add_right _ _, enough⟩, List.drop_take, Nat.add_sub_cancel_left]
  rw [take, if_neg (Nat.not_lt.mpr enough), found]
  rfl

/-- A field of a known number of bytes is missing, or it is read and what is made of it is the
answer. -/
theorem field_mirrors {α : Type} {count : Nat} {others : Bytes × Position → Indexed (α × Position)}
    {result : Except Fault (α × Cursor)} (inside : position.offset ≤ data.length)
    (missing : (data.drop position.offset).length < count →
      result = .error ((position.cursor data).short what count))
    (present : ∀ taken rest next, data.drop position.offset = taken ++ rest → taken.length = count →
      next.offset ≤ data.length →
      next.cursor data = ⟨rest, position.offset + count, position.definition⟩ →
      Mirrors strict data (others (taken, next)) result) :
    Mirrors strict data (take data position what count >>= others) result := by
  rw [List.length_drop] at missing
  by_cases short : data.length < position.offset + count
  · rw [missing (by omega), take, if_pos short]
    exact .error (Cursor.fault_ofReading _ _ inside (by simp))
  · -- The bytes that are read and those behind them are what stands ahead.
    have enough := Nat.le_of_not_lt short
    have length : ((data.drop position.offset).take count).length = count := by
      rw [List.length_take, List.length_drop]
      omega
    rw [take_eq enough]
    exact present _ _ { position with offset := position.offset + count }
      (List.take_append_drop _ _).symm length
      enough (by rw [Position.cursor, List.drop_drop])

/-- A byte is read by its index. -/
theorem byte_mirrors (inside : position.offset ≤ data.length) :
    Mirrors strict data (byte data position what) ((position.cursor data).byte what) := by
  -- Too short a rest fails in both, and one byte is read by both.
  refine field_mirrors inside (fun short => ?_) fun taken rest next ahead length within stands => ?_
  · have none : data.drop position.offset = [] := List.length_eq_zero_iff.mp (by omega)
    simp [Cursor.byte, Position.cursor, none]
  · obtain ⟨a, rfl⟩ := List.length_eq_one_iff.mp length
    have read : (position.cursor data).byte what = .ok (a, next.cursor data) := by
      rw [stands]
      simp [Cursor.byte, Position.cursor, ahead]
    rw [read]
    exact .ok a within

/-- A number of two bytes is read by their indices. -/
theorem word16_mirrors (inside : position.offset ≤ data.length) :
    Mirrors strict data (word16 data position what) ((position.cursor data).word16 what) := by
  -- Too short a rest fails in both, and two bytes make the same number in both.
  refine field_mirrors inside (fun short => ?_) fun taken rest next ahead length within stands => ?_
  · rcases ahead : data.drop position.offset with _ | ⟨a, _ | ⟨b, rest⟩⟩
    · simp [Cursor.word16, Position.cursor, ahead]
    · simp [Cursor.word16, Position.cursor, ahead]
    · simp only [ahead, List.length_cons] at short
      omega
  · obtain ⟨a, taken, rfl⟩ := List.exists_cons_of_length_eq_add_one length
    obtain ⟨b, taken, rfl⟩ := List.exists_cons_of_length_eq_add_one (Nat.succ.inj length)
    obtain rfl : taken = [] := List.length_eq_zero_iff.mp (by simpa using length)
    have read : (position.cursor data).word16 what =
        .ok (a.toNat * 256 + b.toNat, next.cursor data) := by
      rw [stands]
      simp [Cursor.word16, Position.cursor, ahead]
    rw [read]
    exact .ok _ within

/-- A number of four bytes is read by their indices. -/
theorem word32_mirrors (inside : position.offset ≤ data.length) :
    Mirrors strict data (word32 data position what) ((position.cursor data).word32 what) := by
  -- Too short a rest fails in both, and four bytes make the same number in both.
  refine field_mirrors inside (fun short => ?_) fun taken rest next ahead length within stands => ?_
  · rcases ahead : data.drop position.offset with _ | ⟨a, _ | ⟨b, _ | ⟨c, _ | ⟨d, rest⟩⟩⟩⟩
    · simp [Cursor.word32, Position.cursor, ahead]
    · simp [Cursor.word32, Position.cursor, ahead]
    · simp [Cursor.word32, Position.cursor, ahead]
    · simp [Cursor.word32, Position.cursor, ahead]
    · simp only [ahead, List.length_cons] at short
      omega
  · obtain ⟨a, taken, rfl⟩ := List.exists_cons_of_length_eq_add_one length
    obtain ⟨b, taken, rfl⟩ := List.exists_cons_of_length_eq_add_one (Nat.succ.inj length)
    obtain ⟨c, taken, rfl⟩ :=
      List.exists_cons_of_length_eq_add_one (Nat.succ.inj (Nat.succ.inj length))
    obtain ⟨d, taken, rfl⟩ :=
      List.exists_cons_of_length_eq_add_one (Nat.succ.inj (Nat.succ.inj (Nat.succ.inj length)))
    obtain rfl : taken = [] := List.length_eq_zero_iff.mp (by simpa using length)
    have read : (position.cursor data).word32 what =
        .ok (((a.toNat * 256 + b.toNat) * 256 + c.toNat) * 256 + d.toNat, next.cursor data) := by
      rw [stands]
      simp [Cursor.word32, Position.cursor, ahead]
    rw [read]
    exact .ok _ within

/-- A sample value is read by the indices of its bytes. -/
theorem single_mirrors (inside : position.offset ≤ data.length) :
    Mirrors strict data (single data position what) ((position.cursor data).single what) := by
  -- A sample value is a number of four bytes that is taken as bits.
  rw [Cursor.single_eq_bind]
  exact (word32_mirrors inside).bind fun bits next within => .ok _ within

/-- A name is read by the indices of its bytes. -/
theorem name_mirrors (inside : position.offset ≤ data.length) :
    Mirrors strict data (name data position what) ((position.cursor data).name what) := by
  rw [Cursor.name_eq_bind]
  refine (byte_mirrors inside).bind fun size next within => ?_
  simp only
  rw [← bind_pure (take data next what size.toNat)]
  refine field_mirrors within (fun short => ?_) fun taken rest last ahead length below stands => ?_
  · have few : ((next.cursor data).rest.take size.toNat).length < size.toNat := by
      have ahead : (next.cursor data).rest = data.drop next.offset := rfl
      rw [ahead, List.length_take]
      omega
    exact if_pos few
  · -- The text is what was read, and the rest stands behind it.
    have front : (next.cursor data).rest.take size.toNat = taken := by
      rw [Position.cursor, ahead, ← length, List.take_left]
    have back : (next.cursor data).rest.drop size.toNat = rest := by
      rw [Position.cursor, ahead, ← length, List.drop_left]
    simp only [front, back, length, Nat.lt_irrefl, if_false]
    rw [show (⟨rest, (next.cursor data).offset + size.toNat, (next.cursor data).definition⟩ :
      Cursor) =
      last.cursor data from stands.symm]
    exact .ok taken below

/-- A counted list is read by indices as its items are. -/
theorem many_mirrors {α : Type} {read : Array α → Position → Indexed (α × Position)}
    {other : Array α → Cursor → Except Fault (α × Cursor)}
    (item : ∀ done place, place.offset ≤ data.length →
      Mirrors strict data (read done place) (other done (place.cursor data)))
    (count : Nat) (done : Array α) (inside : position.offset ≤ data.length) :
    Mirrors strict data (many read count done position)
      (Cursor.many other count done (position.cursor data)) := by
  -- What is done and where the reader stands change with every item that is read.
  induction count generalizing done position with
  | zero => exact .ok done inside
  | succ count ih =>
    rw [Cursor.many_succ]
    exact (item done position inside).bind fun found next within => ih (done.push found) within

/-- An entry of the name table is read by indices. -/
theorem readEntry_mirrors (inside : position.offset ≤ data.length) :
    Mirrors strict data (readEntry data position) (Stream.readEntry (position.cursor data)) := by
  -- A name and an index are read one after the other.
  refine (name_mirrors inside).bind fun text next within => ?_
  exact (word16_mirrors within).bind fun index next within => .ok _ within

/-- The rate of an output is read by indices. -/
theorem readOutput_mirrors (row : Nat) (op : Bytes) (place : Nat)
    (inside : position.offset ≤ data.length) :
    Mirrors strict data (readOutput data row op place position)
      (Stream.readOutput row op place (position.cursor data)) := by
  -- The byte is a rate or is refused by both.
  refine (byte_mirrors inside).bind fun code next within => ?_
  simp only
  split
  · exact .ok _ within
  · exact .error (Cursor.nodeFault_ofReading _ _ _ _ _ inside (by simp))

/-- An input is read by indices: the constant or the row that it refers to is in its table once it
is looked up. -/
theorem readInput_mirrors (constants : Array Single) (earlier : Array RawNode) (op : Bytes)
    (place : Nat) (inside : position.offset ≤ data.length) :
    Mirrors strict data (readInput data constants earlier op place position)
      (Stream.readInput constants.size earlier op place (position.cursor data)) := by
  refine (word16_mirrors inside).bind fun source next within => ?_
  refine (word16_mirrors within).bind fun index next within => ?_
  have told : ∀ context, ((next.cursor data).nodeFault earlier.size op position.offset place context
      .badReference).OfReading strict data :=
    fun context => Cursor.nodeFault_ofReading _ _ _ _ context inside (by simp)
  simp only
  by_cases mark : source = constantMark
  · -- The constant is looked up only when the table has it.
    rw [if_pos mark, if_pos mark]
    by_cases listed : index < constants.size
    · rw [if_neg (Nat.not_le.mpr listed), if_pos listed, Array.getElem?_eq_getElem listed]
      exact .ok _ within
    · rw [if_pos (Nat.le_of_not_lt listed), if_neg listed]
      exact .error (told _)
  · rw [if_neg mark, if_neg mark]
    by_cases before : source < earlier.size
    · rw [Array.getElem?_eq_getElem before]
      simp only
      by_cases low : source < 0x8000
      · -- The row is looked up only when it is an earlier one.
        rw [if_neg (by omega), if_pos low, look_some]
        by_cases listed : index < earlier[source].outputs.size
        · rw [if_neg (Nat.not_le.mpr listed), if_pos listed]
          exact .ok _ within
        · rw [if_pos (Nat.le_of_not_lt listed), if_neg listed]
          exact .error (told _)
      · rw [if_pos (by omega), if_neg low]
        exact .error (told _)
    · rw [if_pos (by omega), Array.getElem?_eq_none (Nat.le_of_not_lt before)]
      exact .error (told _)

/-- A row of the node table is read by indices. -/
theorem readNode_mirrors (constants : Array Single) (parameters : Nat) (earlier : Array RawNode)
    (inside : position.offset ≤ data.length) :
    Mirrors strict data (readNode data constants parameters earlier position)
      (Stream.readNode constants.size parameters earlier (position.cursor data)) := by
  refine (name_mirrors inside).bind fun op afterOp afterName => ?_
  refine (byte_mirrors afterName).bind fun code next within => ?_
  refine .refuse (Cursor.nodeFault_ofReading _ _ _ _ _ afterName (by simp)) ?_
  refine (word16_mirrors within).bind fun inputCount next within => ?_
  refine (word16_mirrors within).bind fun outputCount next within => ?_
  refine (word16_mirrors within).bind fun special next within => ?_
  -- The inputs and the outputs are counted lists.
  refine (many_mirrors (fun done _ => readInput_mirrors constants earlier op done.size) inputCount
    #[] within).bind
    fun inputs next within => ?_
  refine (many_mirrors (fun done _ => readOutput_mirrors earlier.size op done.size) outputCount #[]
    within).bind
    fun outputs next within => ?_
  exact .refuse (Cursor.nodeFault_ofReading _ _ _ _ _ inside (by simp)) (.ok _ within)

/-- A definition is read by indices. -/
theorem readDefinition_mirrors (inside : position.offset ≤ data.length) :
    Mirrors strict data (readDefinition data position)
      (Stream.readDefinition (position.cursor data)) := by
  unfold readDefinition Stream.readDefinition
  refine .bind (name_mirrors inside) fun text next within => ?_
  -- The tables come one after the other, each behind its length.
  refine .bind (word16_mirrors within) fun count next within => ?_
  refine (many_mirrors (fun _ _ => single_mirrors) count #[] within).bind
    fun constants next within => ?_
  refine (word16_mirrors within).bind fun parameters first within => ?_
  refine (many_mirrors (fun _ _ => single_mirrors) parameters #[] within).bind
    fun defaults next within => ?_
  refine (word16_mirrors within).bind fun count next within => ?_
  refine (many_mirrors (fun _ _ => readEntry_mirrors) count #[] within).bind
    fun entries next within => ?_
  refine (word16_mirrors within).bind fun count next within => ?_
  refine (many_mirrors (fun earlier _ => readNode_mirrors constants parameters earlier) count #[]
    within).bind
    fun nodes variantsAt before => ?_
  -- Variants are the one thing that is refused for its structure.
  refine (word16_mirrors before).bind fun variants next within => .refuse ?_ (.ok _ within)
  exact ⟨Int.natCast_nonneg _, Int.ofNat_le.mpr before, ⟨fun _ => rfl, fun _ => rfl⟩,
    .inr (.inl rfl)⟩

/-- The start of a file is read by indices. -/
theorem readHeader_mirrors : Mirrors strict data (readHeader data) (Stream.readHeader data) := by
  unfold readHeader Stream.readHeader
  refine .bind_read (word32_mirrors (Nat.zero_le _)) fun mark next read within => ?_
  refine .refuse (Cursor.fault_ofReading _ _ (Nat.zero_le _) (by simp)) ?_
  -- The version stands behind the four bytes of the mark.
  have start : next.offset = 4 := (Cursor.word32_eq_ok_iff.mp read).1.offset
  rw [start] at within
  refine (word32_mirrors (start ▸ within)).bind fun number next after => ?_
  exact .refuse (Cursor.fault_ofReading _ _ within (by simp)) (word16_mirrors after)

end Indexed

end Stream

end Patchbay
