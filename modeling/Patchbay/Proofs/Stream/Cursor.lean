import Patchbay.Stream.Raw

/-! Reading with a cursor: a reader succeeds exactly where the bytes ahead are the written form of
what it reads, and then stands behind them. -/

namespace Patchbay

/-- A computation followed by another one succeeds exactly when both do. -/
theorem bind_eq_ok_iff {ε α β : Type} {first : Except ε α} {second : α → Except ε β} {b : β} :
    (first >>= second) = .ok b ↔ ∃ a, first = .ok a ∧ second a = .ok b := by
  -- The second one is run on the result of the first.
  cases first with
  | error e => simp [Bind.bind, Except.bind]
  | ok a => simp [Bind.bind, Except.bind]

/-- A computation that begins with a refusal succeeds exactly when there is nothing to refuse and
the rest of it succeeds. -/
theorem refuse_eq_ok_iff {ε α β : Type} {refused : Prop} [Decidable refused] {e : ε}
    {after : α → Except ε β} {rest : Except ε β} {b : β} :
    (if refused then throw e >>= after else rest) = .ok b ↔ ¬ refused ∧ rest = .ok b := by
  -- Whatever comes after a refusal is never run.
  by_cases h : refused
  · simp [h, throw, throwThe, MonadExceptOf.throw, Bind.bind, Except.bind]
  · simp [h]

namespace Stream

/-- The number that two bytes are read as is written as these bytes. -/
theorem word16_of_bytes (a b : UInt8) : word16 (a.toNat * 256 + b.toNat) = [a, b] := by
  -- The second byte is the remainder, and the first one the quotient.
  have small := b.toNat_lt
  have quotient : (a.toNat * 256 + b.toNat) / 256 = a.toNat := by omega
  have remainder : UInt8.ofNat (a.toNat * 256 + b.toNat) = b := by
    apply UInt8.toNat_inj.mp
    simp only [UInt8.toNat_ofNat']
    omega
  rw [word16, quotient, remainder, UInt8.ofNat_toNat]

/-- A number that two bytes hold is read back from them. -/
theorem bytes_of_word16 {n : Nat} (fits : n ≤ maxCount) :
    (UInt8.ofNat (n / 256)).toNat * 256 + (UInt8.ofNat n).toNat = n := by
  -- The high byte and the low byte make up the number.
  simp only [maxCount] at fits
  simp only [UInt8.toNat_ofNat']
  omega

/-- The number that four bytes are read as is written as these bytes. -/
theorem word32_of_bytes (a b c d : UInt8) :
    word32 (((a.toNat * 256 + b.toNat) * 256 + c.toNat) * 256 + d.toNat) = [a, b, c, d] := by
  -- The upper half is the number of the first two bytes, and the lower half that of the last two.
  have third := c.toNat_lt
  have fourth := d.toNat_lt
  have upper : (((a.toNat * 256 + b.toNat) * 256 + c.toNat) * 256 + d.toNat) / 65536 =
      a.toNat * 256 + b.toNat := by omega
  have lower : word16 (((a.toNat * 256 + b.toNat) * 256 + c.toNat) * 256 + d.toNat) = [c, d] := by
    rw [← word16_of_bytes c d]
    simp only [word16, List.cons.injEq, and_true]
    refine ⟨UInt8.toNat_inj.mp ?_, UInt8.toNat_inj.mp ?_⟩
    · simp only [UInt8.toNat_ofNat']
      omega
    · simp only [UInt8.toNat_ofNat']
      omega
  rw [word32, upper, lower, word16_of_bytes]
  rfl

/-- A number that four bytes hold is read back from them. -/
theorem bytes_of_word32 {n : Nat} (fits : n < 0x100000000) :
    (((UInt8.ofNat (n / 65536 / 256)).toNat * 256 + (UInt8.ofNat (n / 65536)).toNat) * 256 +
      (UInt8.ofNat (n / 256)).toNat) * 256 + (UInt8.ofNat n).toNat = n := by
  -- The four bytes make up the number.
  simp only [UInt8.toNat_ofNat']
  omega

namespace Cursor

variable {cursor next : Cursor} {what : Bytes}

/-- A cursor stands behind some bytes that another one has ahead of it. -/
structure Passes (cursor next : Cursor) (bytes : Bytes) : Prop where
  rest : cursor.rest = bytes ++ next.rest
  offset : next.offset = cursor.offset + bytes.length
  definition : next.definition = cursor.definition

/-- The bytes ahead and how many of them are passed determine the next cursor. -/
theorem passes_iff {bytes : Bytes} :
    cursor.Passes next bytes ↔ ∃ rest, cursor.rest = bytes ++ rest ∧
      next = { cursor with rest := rest, offset := cursor.offset + bytes.length } := by
  constructor
  · -- All three parts of the next cursor are known.
    rintro ⟨rest, offset, definition⟩
    refine ⟨next.rest, rest, ?_⟩
    rw [← offset, ← definition]
  · rintro ⟨rest, ahead, rfl⟩
    exact ⟨ahead, rfl, rfl⟩

/-- To pass nothing is to stay. -/
theorem passes_nil_iff : cursor.Passes next [] ↔ next = cursor := by
  -- The rest and the offset stay as they are.
  rw [passes_iff]
  constructor
  · rintro ⟨rest, ahead, rfl⟩
    rw [List.nil_append] at ahead
    rw [← ahead, List.length_nil, Nat.add_zero]
  · rintro rfl
    exact ⟨_, rfl, rfl⟩

/-- To pass two runs of bytes is to pass one after the other. -/
theorem passes_append_iff {first second : Bytes} :
    cursor.Passes next (first ++ second) ↔ ∃ between, cursor.Passes between first ∧
      between.Passes next second := by
  constructor
  · -- The cursor between the two runs has the second one and the rest ahead of it.
    rintro ⟨rest, offset, definition⟩
    refine ⟨⟨second ++ next.rest, cursor.offset + first.length, cursor.definition⟩, ⟨?_, rfl, rfl⟩,
      rfl, ?_, definition⟩
    · rw [rest, List.append_assoc]
    · rw [offset, List.length_append, Nat.add_assoc]
  · rintro ⟨between, one, two⟩
    refine ⟨?_, ?_, two.definition.trans one.definition⟩
    · rw [one.rest, two.rest, List.append_assoc]
    · rw [two.offset, one.offset, List.length_append, Nat.add_assoc]

/-- What a cursor passes does not depend on the definition that it names. -/
theorem Passes.rename {bytes : Bytes} (passes : cursor.Passes next bytes) (definition : Bytes) :
    { cursor with definition := definition }.Passes { next with definition := definition } bytes :=
  -- Only the rest and the offset are looked at.
  ⟨passes.rest, passes.offset, rfl⟩

/-- A byte is read where it stands. -/
theorem byte_eq_ok_iff {value : UInt8} :
    cursor.byte what = .ok (value, next) ↔ cursor.Passes next [value] := by
  -- At the end of the file there is no byte to read or to pass.
  rw [passes_iff]
  cases ahead : cursor.rest with
  | nil => simp [byte, ahead]
  | cons a rest =>
    simp only [byte, ahead, Except.ok.injEq, Prod.mk.injEq, List.singleton_append, List.cons.injEq,
      List.length_singleton]
    constructor
    · rintro ⟨rfl, rfl⟩
      exact ⟨rest, ⟨rfl, rfl⟩, rfl⟩
    · rintro ⟨_, ⟨rfl, rfl⟩, rfl⟩
      exact ⟨rfl, rfl⟩

/-- A number of two bytes is read where its written form stands. -/
theorem word16_eq_ok_iff {n : Nat} :
    cursor.word16 what = .ok (n, next) ↔ cursor.Passes next (Stream.word16 n) ∧ n ≤ maxCount := by
  rw [passes_iff]
  constructor
  · intro read
    unfold word16 at read
    split at read
    · -- The two bytes ahead are the written form of their number, which is small enough.
      rename_i a b rest ahead
      obtain ⟨rfl, rfl⟩ := Prod.mk.inj (Except.ok.inj read)
      have first := a.toNat_lt
      have second := b.toNat_lt
      refine ⟨⟨rest, by rw [ahead, word16_of_bytes]; rfl, rfl⟩, ?_⟩
      simp only [maxCount]
      omega
    · cases read
  · -- The number is put together from its own written form.
    rintro ⟨⟨rest, ahead, rfl⟩, fits⟩
    simp only [word16, ahead, Stream.word16, List.cons_append, List.nil_append,
      bytes_of_word16 fits]
    rfl

/-- A number of four bytes is read where its written form stands. -/
theorem word32_eq_ok_iff {n : Nat} :
    cursor.word32 what = .ok (n, next) ↔ cursor.Passes next (Stream.word32 n) ∧
      n < 0x100000000 := by
  rw [passes_iff]
  constructor
  · intro read
    unfold word32 at read
    split at read
    · -- The same with four bytes ahead.
      rename_i a b c d rest ahead
      obtain ⟨rfl, rfl⟩ := Prod.mk.inj (Except.ok.inj read)
      have first := a.toNat_lt
      have second := b.toNat_lt
      have third := c.toNat_lt
      have fourth := d.toNat_lt
      refine ⟨⟨rest, by rw [ahead, word32_of_bytes]; rfl, rfl⟩, by omega⟩
    · cases read
  · rintro ⟨⟨rest, ahead, rfl⟩, fits⟩
    simp only [word32, ahead, Stream.word32, Stream.word16, List.cons_append, List.nil_append,
      bytes_of_word32 fits]
    rfl

/-- A sample value is read where its written form stands. -/
theorem single_eq_ok_iff {value : Single} :
    cursor.single what = .ok (value, next) ↔ cursor.Passes next (Stream.single value) := by
  -- A sample value is read as the number of its bits.
  unfold single
  constructor
  · intro read
    split at read
    · cases read
    · rename_i bits after number
      obtain ⟨rfl, rfl⟩ := Prod.mk.inj (Except.ok.inj read)
      obtain ⟨passes, fits⟩ := word32_eq_ok_iff.mp number
      rwa [Stream.single, UInt32.toNat_ofNat_of_lt' fits]
  · intro passes
    rw [word32_eq_ok_iff.mpr ⟨passes, value.bits.toNat_lt⟩]
    simp only [UInt32.ofNat_toNat]

/-- A sample value is a number of four bytes, taken as its bits. -/
theorem single_eq_bind : cursor.single what =
    (cursor.word32 what >>= fun read => .ok (⟨UInt32.ofNat read.1⟩, read.2)) := by
  -- The bits are taken from the number.
  unfold single
  cases cursor.word32 what with
  | error fault => rfl
  | ok read => rfl

/-- The length of a name is read like any other byte, and the text behind it as a whole. -/
theorem name_eq_bind : cursor.name what = (cursor.byte (what ++ " length") >>= fun read =>
    if (read.2.rest.take read.1.toNat).length < read.1.toNat then
      .error (read.2.short what read.1.toNat)
    else .ok (read.2.rest.take read.1.toNat, { read.2 with
      rest := read.2.rest.drop read.1.toNat
      offset := read.2.offset + read.1.toNat })) := by
  -- A byte is read for the length in both.
  unfold name
  cases cursor.byte (what ++ " length") with
  | error fault => rfl
  | ok read => rfl

/-- A name is read where its written form stands. -/
theorem name_eq_ok_iff {text : Bytes} :
    cursor.name what = .ok (text, next) ↔ cursor.Passes next (Stream.name text) ∧
      text.length ≤ maxName := by
  -- A name is its length in one byte and then its text.
  have parts : Stream.name text = [UInt8.ofNat text.length] ++ text := rfl
  rw [parts, passes_append_iff]
  unfold name
  constructor
  · intro read
    split at read
    · cases read
    · rename_i size after length
      simp only at read
      split at read
      · cases read
      · rename_i enough
        obtain ⟨rfl, rfl⟩ := Prod.mk.inj (Except.ok.inj read)
        have small := size.toNat_lt
        -- There are enough bytes ahead for the whole text.
        have whole : (after.rest.take size.toNat).length = size.toNat := by
          rw [List.length_take] at enough ⊢
          omega
        refine ⟨⟨after, ?_, ?_⟩, ?_⟩
        · rw [whole, UInt8.ofNat_toNat]
          exact byte_eq_ok_iff.mp length
        · rw [passes_iff]
          exact ⟨_, (List.take_append_drop _ _).symm, by rw [whole]⟩
        · rw [whole, maxName]
          omega
  · rintro ⟨⟨after, one, two⟩, fits⟩
    -- A length that fits is read back from its byte.
    have size : (UInt8.ofNat text.length).toNat = text.length := by
      simp only [maxName] at fits
      simp only [UInt8.toNat_ofNat']
      omega
    obtain ⟨rest, ahead, rfl⟩ := passes_iff.mp two
    rw [byte_eq_ok_iff.mpr one]
    simp [size, ahead]

section Many

variable {α : Type} {read : Array α → Cursor → Except Fault (α × Cursor)} {emit : α → Bytes}

/-- A counted list is its first item and then the others. -/
theorem many_succ {count : Nat} {done : Array α} : many read (count + 1) done cursor =
    (read done cursor >>= fun found => many read count (done.push found.1) found.2) := by
  -- The first item is read in both.
  rw [many]
  cases read done cursor with
  | error fault => rfl
  | ok found => rfl

/-- A counted list is read where the written forms of its items stand one after the other, each good
where it stands and behind what was read before it. -/
theorem many_eq_ok_iff (Good : Array α → Nat → α → Prop)
    (spec : ∀ done cursor item next, read done cursor = .ok (item, next) ↔
      cursor.Passes next (emit item) ∧ Good done cursor.offset item)
    {count : Nat} {done result : Array α} :
    many read count done cursor = .ok (result, next) ↔
      ∃ items : List α, items.length = count ∧ result = done ++ items.toArray ∧
        cursor.Passes next (items.flatMap emit) ∧
        ∀ (i : Nat) (item : α), items[i]? = some item →
          Good (done ++ (items.take i).toArray)
            (cursor.offset + ((items.take i).flatMap emit).length) item := by
  -- What is done and where the cursor stands change with every item that is read.
  induction count generalizing done cursor with
  | zero =>
    simp only [many, Except.ok.injEq, Prod.mk.injEq]
    constructor
    · rintro ⟨rfl, rfl⟩
      exact ⟨[], rfl, by simp, passes_nil_iff.mpr rfl, by simp⟩
    · rintro ⟨items, none, rfl, passes, _⟩
      rw [List.length_eq_zero_iff.mp none] at passes ⊢
      exact ⟨by simp, (passes_nil_iff.mp passes).symm⟩
  | succ count ih =>
    constructor
    · intro success
      unfold many at success
      split at success
      · cases success
      · -- The first item is good here, and the others are behind it.
        rename_i item after first
        obtain ⟨step, good⟩ := (spec done cursor item after).mp first
        obtain ⟨items, length, rfl, passes, others⟩ := ih.mp success
        refine ⟨item :: items, by rw [List.length_cons, length], by simp, ?_, ?_⟩
        · rw [List.flatMap_cons]
          exact passes_append_iff.mpr ⟨after, step, passes⟩
        · -- The place of a later item is counted from behind the first one.
          rintro (_ | i) other here
          · rw [List.getElem?_cons_zero, Option.some.injEq] at here
            subst here
            simpa using good
          · have later := others i other here
            rw [step.offset] at later
            simpa [Nat.add_assoc] using later
    · -- The list has a first item, which is read before the rest of it.
      rintro ⟨items, length, rfl, passes, good⟩
      obtain ⟨item, rest, rfl⟩ := List.exists_cons_of_length_eq_add_one length
      rw [List.flatMap_cons, passes_append_iff] at passes
      obtain ⟨after, step, passes⟩ := passes
      have first := (spec done cursor item after).mpr ⟨step, by simpa using good 0 item rfl⟩
      simp only [many, first]
      refine ih.mpr ⟨rest, by simpa using length, by simp, passes, fun i other here => ?_⟩
      have later := good (i + 1) other here
      rw [step.offset]
      simpa [Nat.add_assoc] using later

/-- A counted list that is read from its start, with all that is known of the result. -/
theorem many_start_iff (Good : Array α → Nat → α → Prop)
    (spec : ∀ done cursor item next, read done cursor = .ok (item, next) ↔
      cursor.Passes next (emit item) ∧ Good done cursor.offset item)
    {count : Nat} {result : Array α} :
    many read count #[] cursor = .ok (result, next) ↔
      result.size = count ∧ cursor.Passes next (result.toList.flatMap emit) ∧
        ∀ (i : Nat) (item : α), result[i]? = some item →
          Good (result.toList.take i).toArray
            (cursor.offset + ((result.toList.take i).flatMap emit).length) item := by
  -- Nothing was read before the start.
  rw [many_eq_ok_iff Good spec]
  constructor
  · rintro ⟨items, length, rfl, passes, good⟩
    simp only [Array.empty_append] at good ⊢
    exact ⟨length, passes, by simpa only [List.getElem?_toArray] using good⟩
  · rintro ⟨size, passes, good⟩
    exact ⟨result.toList, by simpa using size, by simp, passes,
      by simpa only [Array.empty_append, Array.getElem?_toList] using good⟩

/-- A counted list of items that do not depend on where they stand. -/
theorem many_plain_iff {Plain : α → Prop}
    (spec : ∀ done cursor item next, read done cursor = .ok (item, next) ↔
      cursor.Passes next (emit item) ∧ Plain item)
    {count : Nat} {result : Array α} :
    many read count #[] cursor = .ok (result, next) ↔
      result.size = count ∧ cursor.Passes next (result.toList.flatMap emit) ∧
      ∀ item ∈ result, Plain item := by
  -- What holds at all places holds of all items.
  have plain : (∀ (i : Nat) (item : α), result[i]? = some item → Plain item) ↔
      ∀ item ∈ result, Plain item := by
    constructor
    · intro good item member
      obtain ⟨i, here⟩ := Array.mem_iff_getElem?.mp member
      exact good i item here
    · intro good i item here
      exact good item (Array.mem_of_getElem? here)
  rw [← plain]
  exact many_start_iff (fun _ _ => Plain) spec

/-- A counted list of sample values is read where their written forms stand. -/
theorem many_single_iff {count : Nat} {result : Array Single} :
    many (fun _ place => place.single what) count #[] cursor = .ok (result, next) ↔
      result.size = count ∧ cursor.Passes next (result.toList.flatMap Stream.single) := by
  -- Nothing is asked of a sample value.
  have spec : ∀ (_ : Array Single) (cursor : Cursor) (item : Single) (next : Cursor),
      cursor.single what = .ok (item, next) ↔ cursor.Passes next (Stream.single item) ∧ True := by
    intro _ cursor item next
    rw [single_eq_ok_iff, and_true]
  rw [many_plain_iff spec]
  simp only [implies_true, and_true]

end Many

end Cursor

end Stream

end Patchbay
