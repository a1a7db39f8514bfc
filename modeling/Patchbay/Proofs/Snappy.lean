import Mathlib.Tactic.Ring
import Patchbay.Snappy

/-! Compressed data: decompressing gives back what was compressed. A piece is read as it was
written, and the pieces that data is cut into add up to the data. -/

namespace Patchbay.Snappy

/-- A byte holds a number below 256. -/
theorem toNat_ofNat {n : Nat} (small : n < 256) : (UInt8.ofNat n).toNat = n :=
  -- The number is not reduced.
  UInt8.toNat_ofNat_of_lt small

section Length

variable {fuel n scale read : Nat}

/-- A length that fits one group is read as it was written. -/
theorem readLength_last (last : n < 128) (small : read + n * scale < 0x10000000000000000)
    (rest : Bytes) :
    readLength (fuel + 1) scale read (writeLength (fuel + 1) n ++ rest) =
      some (read + n * scale, rest) := by
  -- The only byte has no mark for more, and all its bits count.
  have value : (UInt8.ofNat n).toNat = n := toNat_ofNat (by omega)
  have low : UInt8.ofNat n < 128 := by
    rw [UInt8.lt_iff_toNat_lt, value]
    exact last
  have whole : n % 128 = n := Nat.mod_eq_of_lt last
  simp [writeLength, readLength, last, value, low, whole, small]

/-- A length is read as it was written, with room for as many groups of seven bits as it needs. -/
theorem readLength_writeLength (room : n < 128 ^ (fuel + 1))
    (small : read + n * scale < 0x10000000000000000) (rest : Bytes) :
    readLength (fuel + 1) scale read (writeLength (fuel + 1) n ++ rest) =
      some (read + n * scale, rest) := by
  induction fuel generalizing n scale read with
  | zero => exact readLength_last (by simpa using room) small rest
  | succ fuel ih =>
    by_cases last : n < 128
    · exact readLength_last last small rest
    · -- The lowest group is marked as not the last, and the others follow at a larger scale.
      have value : (UInt8.ofNat (128 + n % 128)).toNat = 128 + n % 128 := toNat_ofNat (by omega)
      have high : ¬ UInt8.ofNat (128 + n % 128) < 128 := by
        rw [UInt8.lt_iff_toNat_lt, value]
        exact Nat.not_lt.mpr (Nat.le_add_right 128 (n % 128))
      have group : (128 + n % 128) % 128 = n % 128 := by omega
      have sum : read + n % 128 * scale + n / 128 * (scale * 128) = read + n * scale := by
        conv_rhs => rw [← Nat.mod_add_div n 128]
        ring
      have fewer : n / 128 < 128 ^ (fuel + 1) := by
        rw [Nat.div_lt_iff_lt_mul (by omega)]
        rwa [Nat.pow_succ] at room
      have next :
          readLength (fuel + 1) (scale * 128) (read + n % 128 * scale)
              (writeLength (fuel + 1) (n / 128) ++ rest) =
            some (read + n * scale, rest) := sum ▸ ih fewer (by rwa [sum])
      rw [writeLength, if_neg last, List.cons_append, readLength]
      simp only [value, group, if_neg high, next]

end Length

/-- Bytes that expand to a result, once some bytes are known and a total length is announced. -/
def Expands (total : Nat) (known : Array UInt8) (bytes : Bytes) (result : Array UInt8) : Prop :=
  ∀ fuel, bytes.length ≤ fuel → expand total fuel bytes known = some result

namespace Expands

variable {total : Nat} {known result : Array UInt8} {rest : Bytes}

/-- No more bytes expand to what is known, when that is as long as announced. -/
theorem nil (complete : known.size = total) : Expands total known [] known := by
  -- Expanding stops when all of the announced bytes are known.
  intro fuel _
  unfold expand
  rw [if_pos complete]

/-- A piece is read first, and what it adds is known to the rest. -/
theorem piece {tag : UInt8} {body : Bytes} {piece : Piece} {next : Array UInt8}
    (read : readPiece tag (body ++ rest) = some (piece, rest))
    (applied : piece.apply total known = some next)
    (expands : Expands total next rest result) :
    Expands total known (tag :: (body ++ rest)) result := by
  intro fuel enough
  rw [List.length_cons, List.length_append] at enough
  -- Reading the tag uses up some of the fuel, and the rest is shorter.
  obtain ⟨less, rfl⟩ : ∃ less, fuel = less + 1 := ⟨fuel - 1, by omega⟩
  rw [expand, read]
  show (piece.apply total known >>= fun known => expand total less rest known) = some result
  rw [applied]
  exact expands less (by omega)

/-- Literal bytes in one piece, whose length is in its tag or in the bytes behind it. -/
theorem literal {bytes : Bytes} (filled : bytes ≠ []) (short : bytes.length ≤ blockLimit)
    (fits : known.size + bytes.length ≤ total)
    (expands : Expands total (known ++ bytes) rest result) :
    Expands total known ((Piece.literal bytes).write ++ rest) result := by
  have positive : 0 < bytes.length := List.length_pos_iff.mpr filled
  have limit : bytes.length ≤ 65536 := short
  have applied : (Piece.literal bytes).apply total known = some (known ++ bytes) := by
    rw [Piece.apply, if_pos fits]
  have taken : take? (bytes.length - 1 + 1) (bytes ++ rest) = some (bytes, rest) := by
    rw [Nat.sub_add_cancel positive]
    simp [take?]
  show Expands total known (literalHeader bytes.length ++ bytes ++ rest) result
  unfold literalHeader
  dsimp only
  -- The three ways to write the length are read back in three ways.
  split
  next small =>
    have tag : (UInt8.ofNat (4 * (bytes.length - 1))).toNat = 4 * (bytes.length - 1) :=
      toNat_ofNat (by omega)
    have kind : 4 * (bytes.length - 1) % 4 = 0 := by omega
    have high : 4 * (bytes.length - 1) / 4 = bytes.length - 1 := by omega
    have read : readPiece (UInt8.ofNat (4 * (bytes.length - 1))) (bytes ++ rest) =
        some (.literal bytes, rest) := by
      simp only [readPiece, tag, kind, high, if_pos small, Option.bind_eq_bind, Option.bind_some,
        taken]
      rfl
    exact piece read applied expands
  next large =>
    split
    next small =>
      have low : (UInt8.ofNat (bytes.length - 1)).toNat = bytes.length - 1 := toNat_ofNat small
      have read :
          readPiece (UInt8.ofNat (4 * 60)) (UInt8.ofNat (bytes.length - 1) :: bytes ++ rest) =
            some (.literal bytes, rest) := by
        simp [readPiece, little, low, taken]
      exact piece read applied expands
    next more =>
      have low : (UInt8.ofNat (bytes.length - 1)).toNat = (bytes.length - 1) % 256 :=
        UInt8.toNat_ofNat'
      have high : (UInt8.ofNat ((bytes.length - 1) / 256)).toNat = (bytes.length - 1) / 256 :=
        toNat_ofNat (by omega)
      have number : (bytes.length - 1) % 256 + 256 * ((bytes.length - 1) / 256) =
          bytes.length - 1 := Nat.mod_add_div _ 256
      have read : readPiece (UInt8.ofNat (4 * 61)) (UInt8.ofNat (bytes.length - 1) ::
          UInt8.ofNat ((bytes.length - 1) / 256) :: bytes ++ rest) =
          some (.literal bytes, rest) := by
        simp [readPiece, little, low, high, number, taken]
      exact piece read applied expands

/-- A repetition of what is known, in one piece of either kind. -/
theorem copy {length distance : Nat} (filled : 4 ≤ length) (short : length ≤ 64)
    (behind : 0 < distance) (near : distance < blockLimit) (inside : distance ≤ known.size)
    (fits : known.size + length ≤ total)
    (expands : Expands total (repeated distance length known) rest result) :
    Expands total known ((Piece.copy length distance).write ++ rest) result := by
  have reach : distance < 65536 := near
  have applied : (Piece.copy length distance).apply total known =
      some (repeated distance length known) := by
    have allowed : ¬ (distance = 0 ∨ known.size < distance ∨ total < known.size + length) := by
      omega
    simp only [Piece.apply, Bool.or_eq_true, decide_eq_true_eq, or_assoc, if_neg allowed]
  have low : (UInt8.ofNat distance).toNat = distance % 256 := UInt8.toNat_ofNat'
  have number : distance % 256 + 256 * (distance / 256) = distance := Nat.mod_add_div distance 256
  rw [Piece.write]
  split
  next far =>
    have tag : (UInt8.ofNat (4 * (length - 1) + 2)).toNat = 4 * (length - 1) + 2 :=
      toNat_ofNat (by omega)
    have high : (UInt8.ofNat (distance / 256)).toNat = distance / 256 := toNat_ofNat (by omega)
    have kind : (4 * (length - 1) + 2) % 4 = 2 := by omega
    have count : (4 * (length - 1) + 2) / 4 + 1 = length := by omega
    have read : readPiece (UInt8.ofNat (4 * (length - 1) + 2))
        ([UInt8.ofNat distance, UInt8.ofNat (distance / 256)] ++ rest) =
        some (.copy length distance, rest) := by
      simp only [readPiece, tag, kind, count]
      simp [little, low, high, number]
    exact piece read applied expands
  next close =>
    -- Three bits of the tag hold the length, and three others the upper bits of the distance.
    obtain ⟨few, nearby⟩ : length < 12 ∧ distance < 2048 := by simpa using close
    have tag : (UInt8.ofNat (32 * (distance / 256) + 4 * (length - 4) + 1)).toNat =
        32 * (distance / 256) + 4 * (length - 4) + 1 := toNat_ofNat (by omega)
    have kind : (32 * (distance / 256) + 4 * (length - 4) + 1) % 4 = 1 := by omega
    have count : 4 + (32 * (distance / 256) + 4 * (length - 4) + 1) / 4 % 8 = length := by omega
    have upper : (32 * (distance / 256) + 4 * (length - 4) + 1) / 32 = distance / 256 := by omega
    have sum : distance / 256 * 256 + distance % 256 = distance := by omega
    have read : readPiece (UInt8.ofNat (32 * (distance / 256) + 4 * (length - 4) + 1))
        ([UInt8.ofNat distance] ++ rest) = some (.copy length distance, rest) := by
      simp only [readPiece, tag, kind, count, upper]
      simp [little, low, sum]
    exact piece read applied expands

end Expands

section Repeated

variable {known : Array UInt8} {distance : Nat}

/-- A repetition adds as many bytes as are repeated. -/
theorem size_repeated (count : Nat) :
    (repeated distance count known).size = known.size + count := by
  -- Each step of the repetition adds one byte.
  induction count generalizing known with
  | zero => rfl
  | succ count ih => rw [repeated, ih, Array.size_push, Nat.add_right_comm, Nat.add_assoc]

/-- A repetition goes on where a shorter one from the same distance ends. -/
theorem repeated_add (first second : Nat) :
    repeated distance (first + second) known =
      repeated distance second (repeated distance first known) := by
  -- The first steps are the same.
  induction first generalizing known with
  | zero => rw [Nat.zero_add]; rfl
  | succ first ih => rw [Nat.succ_add, repeated, ih, repeated]

/-- A repetition in as many pieces as it takes. -/
theorem expands_copies {total length : Nat} {rest : Bytes} {result : Array UInt8}
    (filled : 4 ≤ length) (behind : 0 < distance) (near : distance < blockLimit)
    (inside : distance ≤ known.size) (fits : known.size + length ≤ total)
    (expands : Expands total (repeated distance length known) rest result) :
    Expands total known ((copies distance length).flatMap Piece.write ++ rest) result := by
  -- Each piece is known before the next one is read, and what is left is never too short.
  induction length using Nat.strongRecOn generalizing known with
  | ind length ih =>
    unfold copies
    split
    next long =>
      have parts : length = 64 + (length - 64) := by omega
      rw [parts, repeated_add] at expands
      rw [List.flatMap_cons, List.append_assoc]
      refine .copy (by omega) (Nat.le_refl 64) behind near inside (by omega) ?_
      exact ih (length - 64) (by omega) (by omega) (by rw [size_repeated]; omega)
        (by rw [size_repeated]; omega) expands
    next =>
      split
      next odd =>
        have parts : length = 60 + (length - 60) := by omega
        rw [parts, repeated_add] at expands
        rw [List.flatMap_cons, List.flatMap_singleton, List.append_assoc]
        refine .copy (by omega) (by omega) behind near inside (by omega) ?_
        exact .copy (by omega) (by omega) behind near (by rw [size_repeated]; omega)
          (by rw [size_repeated]; omega) expands
      next short =>
        rw [List.flatMap_singleton]
        exact .copy filled (by omega) behind near inside fits expands

end Repeated

section Cut

variable {data before : Array UInt8}

/-- Bytes that two places of a block have in common repeat, from the first place on, what follows
the second, whatever is known before the block. -/
theorem repeated_common {earlier place : Nat} (precedes : earlier < place)
    (inside : place ≤ data.size) (limit : Nat) :
    place + common data earlier place limit ≤ data.size ∧
      repeated (place - earlier) (common data earlier place limit)
        (before ++ data.extract 0 place) =
        before ++ data.extract 0 (place + common data earlier place limit) := by
  induction limit generalizing earlier place with
  | zero => exact ⟨inside, rfl⟩
  | succ limit ih =>
    rw [common]
    -- Both places move on together while their bytes are the same.
    by_cases here : place < data.size
    · have known : earlier < data.size := by omega
      rw [Array.getElem?_eq_getElem known, Array.getElem?_eq_getElem here]
      dsimp only
      split
      · rename_i same
        obtain ⟨bound, rest⟩ := ih (by omega : earlier + 1 < place + 1) (by omega)
        have step : place + 1 - (earlier + 1) = place - earlier := by omega
        have size : (before ++ data.extract 0 place).size = before.size + place := by simp; omega
        have back : before.size + place - (place - earlier) = before.size + earlier := by omega
        have found : (before ++ data.extract 0 place)[before.size + earlier]?.getD 0 =
            data[place] := by
          rw [← eq_of_beq same]
          simp [precedes, known]
        have pushed : (before ++ data.extract 0 place).push data[place] =
            before ++ data.extract 0 (place + 1) := by
          rw [← Array.append_push, Array.push_extract_getElem here, Nat.zero_min]
        rw [step] at rest
        refine ⟨by omega, ?_⟩
        rw [repeated, size, back, found, pushed, rest]
        congr 2
        omega
      · exact ⟨inside, rfl⟩
    · rw [Array.getElem?_eq_none (by omega : data.size ≤ place)]
      cases data[earlier]? <;> exact ⟨inside, rfl⟩

/-- A table of places that are all in front of a place. -/
def Precedes (seen : Std.HashMap Nat Nat) (place : Nat) : Prop :=
  ∀ slot : Nat, seen.getD slot 0 < place

/-- A place that is recorded is in front of all places that follow. -/
theorem Precedes.insert {seen : Std.HashMap Nat Nat} {place added next : Nat}
    (precedes : Precedes seen place) (onward : place ≤ next) (ahead : added < next) (slot : Nat) :
    Precedes (seen.insert slot added) next := by
  -- A slot has the new place or keeps its old one.
  intro other
  rw [Std.HashMap.getD_insert]
  split
  · exact ahead
  · exact Nat.lt_of_lt_of_le (precedes other) onward

/-- In an empty table every slot stands for the start of the block. -/
theorem precedes_empty : Precedes ∅ 1 := by
  -- That is also what a slot without a place gives.
  intro slot
  rw [Std.HashMap.getD_empty]
  exact Nat.zero_lt_one

variable {total : Nat} {rest : Bytes} {result : Array UInt8}

/-- The bytes between two places of a block expand to themselves. -/
theorem expands_literals {start stop : Nat} (inOrder : start ≤ stop) (inside : stop ≤ data.size)
    (block : data.size ≤ blockLimit) (fits : before.size + data.size ≤ total)
    (expands : Expands total (before ++ data.extract 0 stop) rest result) :
    Expands total (before ++ data.extract 0 start)
      ((literals data start stop).flatMap Piece.write ++ rest) result := by
  -- There is one piece for the bytes between the places, or there are none of them.
  unfold literals
  split
  next some =>
    have length : (data.extract start stop).toList.length = stop - start := by simp; omega
    have joined : before ++ data.extract 0 start ++ (data.extract start stop).toList =
        before ++ data.extract 0 stop := by
      apply Array.toList_inj.mp
      rw [Array.toList_appendList, ← Array.toList_append, Array.append_assoc,
        Array.extract_append_extract]
      congr 3
      omega
    rw [List.flatMap_singleton]
    refine .literal ?_ (by omega) (by simp; omega) (joined ▸ expands)
    exact List.length_pos_iff.mp (by omega)
  next none =>
    obtain rfl : start = stop := by omega
    exact expands

/-- The pieces that a block is cut into from a place on expand to the block, once the bytes that are
written are known. -/
theorem cut_expands {bits fuel written place next skip : Nat} {seen : Std.HashMap Nat Nat}
    (block : data.size ≤ blockLimit) (fits : before.size + data.size ≤ total)
    (expands : Expands total (before ++ data) rest result) (inside : written ≤ data.size)
    (behind : written ≤ place) (onward : place < next) (moves : 32 ≤ skip)
    (precedes : Precedes seen place) :
    Expands total (before ++ data.extract 0 written)
      ((cut bits data fuel written place next skip seen).flatMap Piece.write ++ rest) result := by
  -- Where the search ends, all that is not written is literal.
  have ending : ∀ {start : Nat}, start ≤ data.size → Expands total (before ++ data.extract 0 start)
      ((literals data start data.size).flatMap Piece.write ++ rest) result := by
    intro start bound
    refine expands_literals bound (Nat.le_refl _) block fits ?_
    rwa [Array.extract_size]
  induction fuel generalizing written place next skip seen with
  | zero => exact ending inside
  | succ fuel ih =>
    unfold cut
    split
    · exact ending inside
    next room =>
      have bound : place < data.size := by simp only [margin] at room; omega
      have earlier := precedes (slot bits data place)
      dsimp only
      split
      · -- Nothing is found here, and the search goes on at the next place.
        exact ih inside (by omega) (by omega) (by omega)
          (precedes.insert (by omega) onward _)
      next long =>
        -- What was seen before is repeated, and the search goes on behind it.
        obtain ⟨limit, again⟩ := repeated_common earlier (Nat.le_of_lt bound) (data.size - place)
        rw [List.flatMap_append, List.flatMap_append, List.append_assoc, List.append_assoc]
        refine expands_literals behind (Nat.le_of_lt bound) block fits ?_
        refine expands_copies (Nat.le_of_not_lt long) (by omega) ?_ ?_ ?_ ?_
        · omega
        · simp; omega
        · simp; omega
        · rw [again]
          refine ih limit (Nat.le_refl _) (Nat.lt_succ_self _) (Nat.le_refl _) ?_
          exact (precedes.insert (Nat.le_add_right _ _) (by omega) _).insert (Nat.le_refl _)
            (by omega) _

/-- The pieces of a block expand to the block. -/
theorem blockPieces_expands (block : data.size ≤ blockLimit)
    (fits : before.size + data.size ≤ total)
    (expands : Expands total (before ++ data) rest result) :
    Expands total before ((blockPieces data).flatMap Piece.write ++ rest) result := by
  -- At the start nothing is written, and the search begins behind the first byte.
  have nothing : before ++ data.extract 0 0 = before := by simp
  rw [← nothing]
  exact cut_expands block fits expands (Nat.zero_le _) (Nat.zero_le 1) (Nat.lt_succ_self 1)
    (by decide) precedes_empty

/-- The pieces of data expand to it, one block after the other. -/
theorem pieces_expands {bytes : Bytes} (fits : before.size + bytes.length = total) :
    Expands total before ((pieces bytes).flatMap Piece.write) (before ++ bytes) := by
  -- What is known before a block grows by the block.
  fun_induction pieces bytes generalizing before with
  | case1 bytes empty =>
    obtain rfl := List.isEmpty_iff.mp empty
    simpa using Expands.nil (by simpa using fits)
  | case2 bytes filled ih =>
    have parts := List.take_append_drop blockLimit bytes
    have lengths := congrArg List.length parts
    rw [List.length_append] at lengths
    have size : (bytes.take blockLimit).toArray.size = (bytes.take blockLimit).length :=
      List.size_toArray
    have block : (bytes.take blockLimit).length ≤ blockLimit := List.length_take_le _ _
    have whole : before ++ (bytes.take blockLimit).toArray ++ bytes.drop blockLimit =
        before ++ bytes := by
      apply Array.toList_inj.mp
      simp only [Array.toList_appendList, Array.toList_append, List.append_assoc, parts]
    have others : Expands total (before ++ (bytes.take blockLimit).toArray)
        ((pieces (bytes.drop blockLimit)).flatMap Piece.write) (before ++ bytes) :=
      whole ▸ ih (by rw [Array.size_append]; omega)
    rw [List.flatMap_append]
    exact blockPieces_expands (size ▸ block) (by omega) others

end Cut

/-- A compressor whose results decompress to what they were made of, up to the longest data that the
format can announce. -/
def Restores (compress : Bytes → Bytes) : Prop :=
  ∀ data : Bytes, data.length < 0x100000000 → decompress (compress data) = some data

/-- What was compressed is decompressed to what it was. -/
theorem compress_restores : Restores compress := by
  intro data short
  -- The length comes first, and the pieces behind it expand to the data from nothing.
  have length : ∀ rest, readLength 10 1 0 (writeLength 10 data.length ++ rest) =
      some (data.length, rest) := by
    intro rest
    have room : data.length < 128 ^ (9 + 1) := Nat.lt_trans short (by decide)
    have read : readLength (9 + 1) 1 0 (writeLength (9 + 1) data.length ++ rest) =
        some (0 + data.length * 1, rest) := readLength_writeLength room (by omega) rest
    rwa [Nat.zero_add, Nat.mul_one] at read
  have expands : Expands data.length #[] ((pieces data).flatMap Piece.write) (#[] ++ data) :=
    pieces_expands (by simp)
  have expanded := expands _ (Nat.le_refl _)
  unfold decompress compress
  rw [length]
  dsimp only [Option.bind_eq_bind, Option.bind_some]
  rw [if_neg (Nat.not_le.mpr short), expanded]
  simp

end Patchbay.Snappy
