import Patchbay.Proofs.Stream.Format
import Patchbay.Stream.Read

/-! Definition files: a reading succeeds exactly on the written forms of sound files, and what it
tells on the way. -/

namespace Patchbay.Stream

/-- The part of the written form of a file in front of its definitions. -/
def fileHead (count : Nat) : Bytes := word32 magic ++ word32 version ++ word16 count

/-- The written form of a file. -/
def fileBytes (raws : List RawDefinition) : Bytes :=
  fileHead raws.length ++ raws.flatMap RawDefinition.bytes

/-- Definitions that are sound where they stand when they are written one after the other from an
offset on. -/
def SoundFrom (start : Nat) (raws : List RawDefinition) : Prop :=
  ∀ (i : Nat) (raw : RawDefinition), raws[i]? = some raw →
    raw.Sound (start + ((raws.take i).flatMap RawDefinition.bytes).length)

/-- A file whose definitions are sound where they stand and not more than the format holds. -/
structure FileSound (raws : List RawDefinition) : Prop where
  count : raws.length ≤ maxCount
  definitions : SoundFrom (fileHead raws.length).length raws

/-- Every definition of a sound file fits the format. -/
theorem FileSound.fits {raws : List RawDefinition} (sound : FileSound raws) {raw : RawDefinition}
    (member : raw ∈ raws) : raw.Fits := by
  -- A definition that is sound where it stands fits anywhere.
  obtain ⟨i, here⟩ := List.mem_iff_getElem?.mp member
  exact (sound.definitions i raw here).toFits

/-- Definitions are sound one after the other when the first is and the others are behind it. -/
theorem soundFrom_cons_iff {start : Nat} {raw : RawDefinition} {raws : List RawDefinition} :
    SoundFrom start (raw :: raws) ↔ raw.Sound start ∧
      SoundFrom (start + raw.bytes.length) raws := by
  -- A later definition stands behind the first one and those between them.
  simp only [SoundFrom]
  constructor
  · intro sound
    refine ⟨by simpa using sound 0 raw rfl, fun i other here => ?_⟩
    have later := sound (i + 1) other here
    rwa [List.take_succ_cons, List.flatMap_cons, List.length_append, ← Nat.add_assoc] at later
  · rintro ⟨first, others⟩ (_ | i) other here
    · rw [List.getElem?_cons_zero, Option.some.injEq] at here
      subst here
      simpa using first
    · rw [List.take_succ_cons, List.flatMap_cons, List.length_append, ← Nat.add_assoc]
      exact others i other here

section Spread

variable {α β γ : Type} {emit : α → Bytes} {locate : Nat → α → β}

/-- Items that are located where they stand when they are written one after the other from an offset
on. -/
def spread (emit : α → Bytes) (locate : Nat → α → β) : Nat → List α → List β
  | _, [] => []
  | start, item :: rest => locate start item :: spread emit locate (start + (emit item).length) rest

/-- An item stands behind all items before it. -/
theorem getElem?_spread (start : Nat) (items : List α) (i : Nat) :
    (spread emit locate start items)[i]? =
      items[i]?.map (locate (start + ((items.take i).flatMap emit).length)) := by
  -- The start moves along with the items that are left.
  induction items generalizing start i with
  | nil => simp [spread]
  | cons item rest ih =>
    cases i with
    | zero => simp [spread]
    | succ i =>
      rw [spread, List.getElem?_cons_succ, List.getElem?_cons_succ, ih, List.take_succ_cons,
        List.flatMap_cons, List.length_append, Nat.add_assoc]

/-- What does not depend on the location of an item is the same after locating. -/
theorem map_spread (locate : Nat → α → β) {f : β → γ} {g : α → γ}
    (same : ∀ offset item, f (locate offset item) = g item) (start : Nat) (items : List α) :
    (spread emit locate start items).map f = items.map g := by
  -- Each item is located at its own offset, which does not matter.
  induction items generalizing start with
  | nil => rfl
  | cons item rest ih => rw [spread, List.map_cons, List.map_cons, same, ih]

end Spread

/-- An entry with the offset at which it stands. -/
def NameEntry.located (offset : Nat) (entry : NameEntry) : NameEntry :=
  { entry with offset := offset }

namespace RawDefinition

/-- A definition with the offsets that its parts have when it starts at an offset. -/
def located (start : Nat) (raw : RawDefinition) : RawDefinition :=
  { raw with
    parametersAt := start + raw.head.length
    entries :=
      (spread NameEntry.bytes NameEntry.located
        (start + raw.front.length) raw.entries.toList).toArray }

/-- The entries of a located definition are written as before. -/
theorem located_entries_bytes (start : Nat) (raw : RawDefinition) :
    (raw.located start).entries.toList.map NameEntry.bytes =
      raw.entries.toList.map NameEntry.bytes :=
  -- An entry is written without its offset.
  map_spread NameEntry.located (fun _ _ => rfl) _ _

/-- Locating a definition keeps the number of its entries. -/
theorem located_entries_size (start : Nat) (raw : RawDefinition) :
    (raw.located start).entries.size = raw.entries.size := by
  -- There is one written form for each entry.
  have length := congrArg List.length (located_entries_bytes start raw)
  rwa [List.length_map, List.length_map, Array.length_toList, Array.length_toList] at length

/-- Locating a definition keeps the part in front of the entries. -/
theorem located_front (start : Nat) (raw : RawDefinition) :
    (raw.located start).front = raw.front := by
  -- The part in front only counts the entries.
  simp only [front, located_entries_size]
  rfl

/-- Locating a definition keeps its written form. -/
theorem located_bytes (start : Nat) (raw : RawDefinition) :
    (raw.located start).bytes = raw.bytes := by
  -- Each part is written without offsets.
  simp only [bytes, located_front, List.flatMap_def, located_entries_bytes]
  rfl

/-- A definition that fits the format is sound where it is located. -/
theorem Fits.located_sound {raw : RawDefinition} (fits : raw.Fits) (start : Nat) :
    (raw.located start).Sound start := by
  -- An entry keeps its name and index and is told where it stands.
  have entry : ∀ i, (raw.located start).entries[i]? = raw.entries[i]?.map (NameEntry.located
      (start + raw.front.length +
        ((raw.entries.toList.take i).flatMap NameEntry.bytes).length)) := by
    intro i
    simp only [located, List.getElem?_toArray, getElem?_spread, Array.getElem?_toList]
  refine ⟨⟨fits.name, fits.constants, fits.defaults, ?_, ?_, fits.nodeCount, fits.nodes⟩, rfl, ?_⟩
  · rw [located_entries_size]
    exact fits.entryCount
  · intro other member
    obtain ⟨i, here⟩ := Array.mem_iff_getElem?.mp member
    rw [entry, Option.map_eq_some_iff] at here
    obtain ⟨known, there, rfl⟩ := here
    obtain ⟨short, small⟩ := fits.entries known (Array.mem_of_getElem? there)
    exact ⟨short, small⟩
  · intro i other here
    rw [entry, Option.map_eq_some_iff] at here
    obtain ⟨known, _, rfl⟩ := here
    -- The entries in front of it are as long as they were before.
    rw [located_front, List.flatMap_def, List.flatMap_def, List.map_take, List.map_take,
      located_entries_bytes]
    rfl

/-- A definition without the offsets of its parts. -/
def unlocated (raw : RawDefinition) : RawDefinition :=
  { raw with
    parametersAt := 0
    entries := raw.entries.map (NameEntry.located 0) }

/-- Locating a definition changes its offsets only. -/
theorem located_unlocated (start : Nat) (raw : RawDefinition) :
    (raw.located start).unlocated = raw.unlocated := by
  -- Without offsets the entries are the same.
  have entries : ((raw.located start).entries.map (NameEntry.located 0)).toList =
      (raw.entries.map (NameEntry.located 0)).toList := by
    rw [Array.toList_map, Array.toList_map]
    exact map_spread NameEntry.located (fun _ _ => rfl) _ _
  simp only [unlocated, Array.toList_inj.mp entries]
  rfl

end RawDefinition

/-- Definitions with the offsets that they have when they are written as a file. -/
def locatedFile (raws : List RawDefinition) : List RawDefinition :=
  spread RawDefinition.bytes RawDefinition.located (fileHead raws.length).length raws

/-- Locating the definitions of a file keeps the written form of each. -/
theorem locatedFile_bytes (raws : List RawDefinition) :
    (locatedFile raws).map RawDefinition.bytes = raws.map RawDefinition.bytes :=
  -- Each definition is written the same wherever it stands.
  map_spread RawDefinition.located (fun start raw => raw.located_bytes start) _ _

/-- Locating the definitions of a file changes their offsets only. -/
theorem locatedFile_unlocated (raws : List RawDefinition) :
    (locatedFile raws).map RawDefinition.unlocated = raws.map RawDefinition.unlocated :=
  -- Each definition differs in offsets only.
  map_spread RawDefinition.located (fun start raw => raw.located_unlocated start) _ _

/-- Locating the definitions of a file keeps their number. -/
theorem length_locatedFile (raws : List RawDefinition) :
    (locatedFile raws).length = raws.length := by
  -- There is one written form for each definition.
  simpa using congrArg List.length (locatedFile_bytes raws)

/-- Locating the definitions of a file keeps its written form. -/
theorem fileBytes_locatedFile (raws : List RawDefinition) :
    fileBytes (locatedFile raws) = fileBytes raws := by
  -- The number of definitions and the written form of each are kept.
  rw [fileBytes, fileBytes, length_locatedFile, List.flatMap_def, List.flatMap_def,
    locatedFile_bytes]

/-- Definitions that fit the format make a sound file where they are located. -/
theorem locatedFile_sound {raws : List RawDefinition} (few : raws.length ≤ maxCount)
    (fits : ∀ raw ∈ raws, raw.Fits) : FileSound (locatedFile raws) := by
  -- A definition starts where those in front of it end, located or not.
  refine ⟨by rwa [length_locatedFile], fun i located here => ?_⟩
  rw [List.flatMap_def, List.map_take, locatedFile_bytes, ← List.map_take, ← List.flatMap_def,
    length_locatedFile]
  rw [locatedFile, getElem?_spread, Option.map_eq_some_iff] at here
  obtain ⟨raw, there, rfl⟩ := here
  exact (fits raw (List.mem_of_getElem? there)).located_sound _

/-- The start of a file is read where its written form stands. -/
theorem readHeader_eq_ok_iff {data : Bytes} {count : Nat} {next : Cursor} :
    readHeader data = .ok (count, next) ↔
      Cursor.Passes ⟨data, 0, []⟩ next (fileHead count) ∧ count ≤ maxCount := by
  -- The marks of the format are compared with what is read.
  simp only [readHeader, bind_eq_ok_iff, refuse_eq_ok_iff, Prod.exists, Cursor.word32_eq_ok_iff,
    Cursor.word16_eq_ok_iff, Decidable.not_not, fileHead, Cursor.passes_append_iff]
  constructor
  · rintro ⟨_, afterMagic, ⟨one, _⟩, rfl, _, afterVersion, ⟨two, _⟩, rfl, three, small⟩
    exact ⟨⟨afterVersion, ⟨afterMagic, one, two⟩, three⟩, small⟩
  · rintro ⟨⟨afterVersion, ⟨afterMagic, one, two⟩, three⟩, small⟩
    exact ⟨magic, afterMagic, ⟨one, by decide⟩, rfl, version, afterVersion, ⟨two, by decide⟩, rfl,
      three, small⟩

/-- The start of a file is read from its written form. -/
theorem readHeader_fileBytes {raws : List RawDefinition} (few : raws.length ≤ maxCount) :
    readHeader (fileBytes raws) =
      .ok (raws.length, ⟨raws.flatMap RawDefinition.bytes, (fileHead raws.length).length, []⟩) :=
  -- The written form opens with the header.
  readHeader_eq_ok_iff.mpr ⟨⟨rfl, (Nat.zero_add _).symm, rfl⟩, few⟩

/-- What there is to tell about a definition that was read, in reverse. -/
def RawDefinition.notices (raw : RawDefinition) : List ReadNotice :=
  .read raw.resolve :: (raw.diagnostics.map (ReadNotice.dropped raw.name)).reverse

section Steps

variable {strict : Bool} {total count : Nat} {done : Array Definition} {notices : List ReadNotice}
variable {cursor next : Cursor} {raw : RawDefinition}

/-- A reader goes on behind a definition when it is tolerant or there is nothing wrong with the
definition. -/
theorem readDefinitions_next (read : readDefinition cursor = .ok (raw, next))
    (clean : strict = true → raw.diagnostics = []) :
    readDefinitions strict total (count + 1) done notices cursor =
      readDefinitions strict total count (done.push raw.resolve) (raw.notices ++ notices) next := by
  conv => lhs; unfold readDefinitions
  rw [read]
  simp only
  split
  · -- A strict reader that stops has found something wrong.
    rename_i found
    rw [clean rfl] at found
    cases found
  · rfl

/-- A strict reader stops behind a definition when there is something wrong with it. -/
theorem readDefinitions_stop {diagnostic : Diagnostic} {rest : List Diagnostic}
    (read : readDefinition cursor = .ok (raw, next))
    (wrong : raw.diagnostics = diagnostic :: rest) :
    readDefinitions true total (count + 1) done notices cursor =
      ⟨notices, .error (diagnostic.fault raw.name)⟩ := by
  -- The strict reader looks at the first diagnostic.
  unfold readDefinitions
  simp only [read, wrong]

end Steps

/-- Reading definitions succeeds exactly where the written forms of sound ones stand up to the end
of the file and, for a strict reader, nothing is wrong with their names and parameters. -/
theorem readDefinitions_eq_ok_iff {strict : Bool} {total count : Nat} {done : Array Definition}
    {notices told : List ReadNotice} {cursor : Cursor} {result : List Definition} :
    readDefinitions strict total count done notices cursor = ⟨told, .ok result⟩ ↔
      ∃ raws : List RawDefinition, raws.length = count ∧
        cursor.rest = raws.flatMap RawDefinition.bytes ∧
        SoundFrom cursor.offset raws ∧ (strict = true → ∀ raw ∈ raws, raw.diagnostics = []) ∧
        result = done.toList ++ raws.map RawDefinition.resolve ∧
        told = raws.reverse.flatMap RawDefinition.notices ++ notices := by
  -- Each definition that is read moves the cursor and is added to what is done and told.
  induction count generalizing done notices cursor with
  | zero =>
    -- Behind the last definition, the file must end.
    simp only [readDefinitions, List.length_eq_zero_iff, exists_eq_left, List.flatMap_nil,
      List.isEmpty_iff]
    split
    · rename_i ended
      rw [Reading.mk.injEq, Except.ok.injEq]
      constructor
      · rintro ⟨rfl, rfl⟩
        exact ⟨ended, by simp [SoundFrom], by simp, by simp, rfl⟩
      · rintro ⟨_, _, _, rfl, rfl⟩
        exact ⟨rfl, by simp⟩
    · rename_i more
      simp [more]
  | succ count ih =>
    constructor
    · intro success
      unfold readDefinitions at success
      split at success
      · cases success
      · rename_i raw next read
        obtain ⟨passes, sound⟩ := readDefinition_eq_ok_iff.mp read
        split at success
        · cases success
        · -- The reader went on, so that nothing is wrong with the definition or the mode is
          -- tolerant.
          rename_i clean
          obtain ⟨raws, length, rest, others, quiet, rfl, rfl⟩ := ih.mp success
          rw [passes.offset] at others
          refine ⟨raw :: raws, by rw [List.length_cons, length], ?_,
            soundFrom_cons_iff.mpr ⟨sound, others⟩, ?_, by simp, by simp [RawDefinition.notices]⟩
          · rw [List.flatMap_cons, ← rest]
            exact passes.rest
          · intro isStrict
            refine List.forall_mem_cons.mpr ⟨?_, quiet isStrict⟩
            cases found : raw.diagnostics with
            | nil => rfl
            | cons first more => exact absurd isStrict (clean first more found)
    · rintro ⟨raws, length, rest, sound, quiet, rfl, rfl⟩
      obtain ⟨raw, raws, rfl⟩ := List.exists_cons_of_length_eq_add_one length
      obtain ⟨first, others⟩ := soundFrom_cons_iff.mp sound
      rw [List.flatMap_cons] at rest
      have read : readDefinition cursor = .ok (raw,
          ⟨raws.flatMap RawDefinition.bytes, cursor.offset + raw.bytes.length, raw.name⟩) :=
        readDefinition_eq_ok_iff.mpr ⟨⟨rest, rfl, rfl⟩, first⟩
      -- A strict reader goes on as well, since there is nothing wrong with this definition.
      rw [readDefinitions_next read fun isStrict => quiet isStrict raw List.mem_cons_self]
      exact ih.mpr ⟨raws, by simpa using length, rfl, others,
        fun isStrict other member => quiet isStrict other (List.mem_cons_of_mem _ member), by
          simp, by simp⟩

section Reading

variable {strict : Bool} {data : Bytes}

/-- A reading succeeds exactly on the written form of a sound file, which for a strict reader has
nothing wrong with its names and parameters. -/
theorem reading_eq_ok_iff {told : List ReadNotice} {definitions : List Definition} :
    reading strict data = ⟨told, .ok definitions⟩ ↔
      ∃ raws : List RawDefinition, FileSound raws ∧ data = fileBytes raws ∧
        (strict = true → ∀ raw ∈ raws, raw.diagnostics = []) ∧
        definitions = raws.map RawDefinition.resolve ∧
        told = raws.reverse.flatMap RawDefinition.notices := by
  unfold reading
  constructor
  · intro success
    split at success
    · cases success
    · rename_i count cursor header
      obtain ⟨passes, small⟩ := readHeader_eq_ok_iff.mp header
      obtain ⟨raws, rfl, rest, sound, quiet, rfl, rfl⟩ := readDefinitions_eq_ok_iff.mp success
      -- The definitions are sound from the end of the head on.
      have start : cursor.offset = (fileHead raws.length).length := by
        rw [passes.offset, Nat.zero_add]
      refine ⟨raws, ⟨small, start ▸ sound⟩, ?_, quiet, by simp, by simp⟩
      rw [fileBytes, ← rest]
      exact passes.rest
  · rintro ⟨raws, ⟨small, sound⟩, rfl, quiet, rfl, rfl⟩
    rw [readHeader_fileBytes small]
    exact readDefinitions_eq_ok_iff.mpr ⟨raws, rfl, rfl, sound, quiet, by simp, by simp⟩

/-- A file is read exactly when it is the written form of a sound file, and then as the definitions
that it stands for. -/
theorem decode_eq_ok_iff {definitions : List Definition} :
    decode strict data = .ok definitions ↔
      ∃ raws : List RawDefinition, FileSound raws ∧ data = fileBytes raws ∧
        (strict = true → ∀ raw ∈ raws, raw.diagnostics = []) ∧
        definitions = raws.map RawDefinition.resolve := by
  -- A reading is a result with notices, and the notices do not matter here.
  unfold decode
  constructor
  · intro success
    have whole : reading strict data = ⟨(reading strict data).notices, .ok definitions⟩ := by
      rw [← success]
    obtain ⟨raws, sound, same, quiet, read, _⟩ := reading_eq_ok_iff.mp whole
    exact ⟨raws, sound, same, quiet, read⟩
  · rintro ⟨raws, sound, rfl, quiet, rfl⟩
    rw [reading_eq_ok_iff.mpr ⟨raws, sound, rfl, quiet, rfl, rfl⟩]

/-- What a successful reading drops is what is wrong with the names and parameters of the
definitions. -/
theorem droppedFrom_eq {raws : List RawDefinition} (sound : FileSound raws)
    (quiet : strict = true → ∀ raw ∈ raws, raw.diagnostics = []) :
    droppedFrom strict (fileBytes raws) =
      raws.flatMap fun raw => raw.diagnostics.map fun diagnostic => (raw.name, diagnostic) := by
  unfold droppedFrom
  rw [reading_eq_ok_iff.mpr ⟨raws, sound, rfl, quiet, rfl, rfl⟩]
  simp only
  -- The notices are kept in reverse, and those of a definition that was read are no drops.
  clear sound quiet
  induction raws with
  | nil => rfl
  | cons raw raws ih =>
    rw [List.reverse_cons, List.flatMap_append, List.reverse_append, List.filterMap_append, ih]
    simp only [List.flatMap_cons, List.flatMap_nil, List.append_nil, RawDefinition.notices,
      List.reverse_cons, List.reverse_reverse, List.filterMap_append, List.filterMap_map,
      List.filterMap_cons, List.filterMap_nil]
    exact congrArg (· ++ _) (congrFun List.filterMap_eq_map raw.diagnostics)

end Reading

end Patchbay.Stream
