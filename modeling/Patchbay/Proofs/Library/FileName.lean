import Patchbay.Library.Basic
import Patchbay.Proofs.Files.Path

/-! The names of files in a library. The file of a definition tells its name and its format,
although one of the two endings starts like the other and names may end like files, and no other
file is taken for it. -/

namespace Patchbay.Library

variable {name file token : Bytes} {compressed : Bool}

/-- A name that a definition can be stored under. -/
def Storable (name : Bytes) : Prop := checkStoredName name = .ok ()

/-- A name can be stored under when it is not empty, not too long and not hidden, and has no
separator in it. -/
theorem storable_iff : Storable name ↔
    name ≠ [] ∧ name.length ≤ nameLimit ∧ name.head? ≠ some Path.dot ∧
      ∀ byte ∈ name, byte ∉ separators := by
  -- The checks are made one after the other.
  unfold Storable checkStoredName
  by_cases empty : name = []
  · simp [empty]
  by_cases long : nameLimit < name.length
  · simp [empty, long, Nat.not_le.mpr long]
  by_cases hidden : name.head? = some Path.dot
  · simp [empty, long, hidden]
  · simp [empty, long, hidden, Nat.not_lt.mp long]

/-- The file of a name starts as the name does. -/
theorem head?_file (storable : Storable name) (compressed : Bool) :
    (name ++ ending compressed).head? ≠ some Path.dot := by
  -- The name is not empty, so that its first byte is the first of the file.
  obtain ⟨given, -, shown, -⟩ := storable_iff.mp storable
  obtain ⟨byte, rest, rfl⟩ := List.exists_cons_of_ne_nil given
  exact shown

/-- The ends of file names have no separators. -/
theorem ending_whole : ∀ byte ∈ ending compressed, byte ∉ separators := by
  -- There are two endings to look at.
  have clear : (ending compressed).all (fun byte => !separators.contains byte) = true := by
    cases compressed <;> rfl
  intro byte inside
  simpa using List.all_eq_true.mp clear byte inside

/-- The file of a name is one that a folder can have. -/
theorem ordinary_file (storable : Storable name) (compressed : Bool) :
    Path.Ordinary (name ++ ending compressed) := by
  -- The two names for folders start with a dot, and the separators are all kept out.
  obtain ⟨given, -, -, whole⟩ := storable_iff.mp storable
  have shown := head?_file storable compressed
  have separated : ∀ byte ∈ separators, byte ∉ name ++ ending compressed := by
    intro byte separator inside
    rcases List.mem_append.mp inside with named | ended
    · exact whole byte named separator
    · exact ending_whole byte ended separator
  refine ⟨?_, ?_, ?_, separated Path.slash (by decide), separated 0 (by decide)⟩
  · intro empty
    exact given (List.append_eq_nil_iff.mp empty).1
  · intro here
    rw [here] at shown
    exact shown rfl
  · intro above
    rw [above] at shown
    exact shown rfl

/-- The last byte of a file tells its format. -/
theorem getLast?_file (name : Bytes) (compressed : Bool) :
    (name ++ ending compressed).getLast? = some (if compressed then 122 else 102) := by
  -- The two endings close with different bytes.
  have own : (ending compressed).getLast? = some (if compressed then 122 else 102) := by
    cases compressed <;> decide
  rw [List.getLast?_append, own, Option.some_or]

/-- A file ends with the end of its format, and not with that of the other one. -/
theorem endsWith_file (name : Bytes) (compressed other : Bool) :
    Bytes.endsWith (name ++ ending compressed) (ending other) = (compressed == other) := by
  unfold Bytes.endsWith
  by_cases same : compressed = other
  · subst same
    rw [beq_self_eq_true, List.isSuffixOf_iff_suffix]
    exact List.suffix_append name _
  · rw [beq_false_of_ne same, ← Bool.not_eq_true, List.isSuffixOf_iff_suffix]
    intro ⟨before, split⟩
    -- The last bytes of the two ends differ.
    have last := congrArg List.getLast? split
    rw [getLast?_file, getLast?_file] at last
    cases compressed <;> cases other <;> simp_all

/-- Without its end the file is the name. -/
theorem dropEnding_file (name : Bytes) (compressed : Bool) :
    Bytes.dropEnding (name ++ ending compressed) (ending compressed) = name := by
  -- As many bytes are taken as are in front of the ending.
  rw [Bytes.dropEnding, endsWith_file, beq_self_eq_true, if_pos rfl, List.length_append,
    Nat.add_sub_cancel, List.take_left]

/-- The files of a name in the two formats are not the same. -/
theorem file_ne_other (name : Bytes) (compressed : Bool) :
    name ++ ending (!compressed) ≠ name ++ ending compressed := by
  -- Their last bytes differ.
  intro same
  have last := congrArg List.getLast? same
  rw [getLast?_file, getLast?_file] at last
  cases compressed <;> cases last

/-- A file that ends so is what is left before the end, and then the end. -/
theorem exists_of_endsWith {ending : Bytes} (ends : Bytes.endsWith file ending = true) :
    ∃ before, file = before ++ ending := by
  -- To end so is to have the ending as a suffix.
  obtain ⟨before, split⟩ := List.isSuffixOf_iff_suffix.mp ends
  exact ⟨before, split.symm⟩

/-- A name passes the check when it can be stored under. -/
theorem isOk_checkStoredName : (checkStoredName name).isOk = true ↔ Storable name := by
  -- The check gives no value.
  unfold Storable
  cases checkStoredName name <;> simp [Except.isOk, Except.toBool]

/-- The file of a name is read as that name and its format, as far as the name passes the check. -/
theorem parseFileName_file (name : Bytes) (compressed : Bool) :
    parseFileName (name ++ ending compressed) =
      (some (name, compressed)).filter fun parsed => (checkStoredName parsed.1).isOk := by
  -- Each ending is told apart from the other, and what is left in front is the name.
  cases compressed with
  | false =>
    have other : Bytes.endsWith (name ++ ending false) compressedEnding = false :=
      endsWith_file name false true
    have own : Bytes.endsWith (name ++ ending false) plainEnding = true :=
      endsWith_file name false false
    have rest : Bytes.dropEnding (name ++ ending false) plainEnding = name :=
      dropEnding_file name false
    simp only [parseFileName, other, own, rest, Bool.false_eq_true, if_false, if_true]
  | true =>
    have own : Bytes.endsWith (name ++ ending true) compressedEnding = true :=
      endsWith_file name true true
    have rest : Bytes.dropEnding (name ++ ending true) compressedEnding = name :=
      dropEnding_file name true
    simp only [parseFileName, own, rest, if_true]

/-- A file is taken for a definition exactly when it is the file of a name that one can be stored
under. -/
theorem parseFileName_eq_some_iff :
    parseFileName file = some (name, compressed) ↔ file = name ++ ending compressed ∧
      Storable name := by
  constructor
  · intro parsed
    -- Only a file that ends like one of a definition is taken for one.
    have ends : ∃ before format, file = before ++ ending format := by
      by_cases packed : Bytes.endsWith file compressedEnding = true
      · obtain ⟨before, split⟩ := exists_of_endsWith packed
        exact ⟨before, true, split⟩
      · by_cases plain : Bytes.endsWith file plainEnding = true
        · obtain ⟨before, split⟩ := exists_of_endsWith plain
          exact ⟨before, false, split⟩
        · simp [parseFileName, packed, plain] at parsed
    obtain ⟨before, format, rfl⟩ := ends
    rw [parseFileName_file, Option.filter_eq_some_iff] at parsed
    obtain ⟨same, passed⟩ := parsed
    cases same
    exact ⟨rfl, isOk_checkStoredName.mp passed⟩
  · intro ⟨named, storable⟩
    rw [named, parseFileName_file, Option.filter_eq_some_iff]
    exact ⟨rfl, isOk_checkStoredName.mpr storable⟩

/-- The name of a file that is being written. -/
def scratchName (token : Bytes) : Bytes := utf8 ".synthdef-" ++ token

/-- A file that is being written is not taken for a definition. -/
theorem parseFileName_scratch (token : Bytes) : parseFileName (scratchName token) = none := by
  cases parsed : parseFileName (scratchName token) with
  | none => rfl
  | some found =>
    -- Its name is hidden, and those of definitions are not.
    obtain ⟨named, storable⟩ := parseFileName_eq_some_iff.mp parsed
    have shown := head?_file storable found.2
    rw [← named] at shown
    exact absurd rfl shown

/-- A file that is being written has a name that a folder can have. -/
theorem ordinary_scratch (whole : Path.slash ∉ token) (nonzero : 0 ∉ token) :
    Path.Ordinary (scratchName token) := by
  -- It is longer than the two names for folders, and no separator is in either part.
  have long : 2 < (scratchName token).length := by
    rw [scratchName, List.length_append]
    exact Nat.lt_of_lt_of_le (by decide : 2 < (utf8 ".synthdef-").length) (Nat.le_add_right _ _)
  refine ⟨?_, ?_, ?_, ?_, ?_⟩
  · intro empty
    simp [empty] at long
  · intro here
    simp [here, Path.here] at long
  · intro above
    simp [above, Path.above] at long
  · rw [scratchName, List.mem_append, not_or]
    exact ⟨by decide, whole⟩
  · rw [scratchName, List.mem_append, not_or]
    exact ⟨by decide, nonzero⟩

end Patchbay.Library
