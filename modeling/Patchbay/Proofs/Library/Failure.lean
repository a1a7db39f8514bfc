import Patchbay.Proofs.Library.History

/-! What storing a definition leaves when it fails. Up to the moment in which the new file is moved
into place, a failure leaves all as it was, and what was written beside it is gone, also where the
disk would not take all of it. After that only removing the file in the other format can fail, and
then the new file stays. -/

namespace Patchbay

namespace FileTree

variable {tree later : FileTree} {location : Location} {place : Place} {path target content : Bytes}

/-- Where nothing lies there is no entry. -/
theorem notMem_places (absent : tree.place? location = none) :
    ∀ entry ∈ tree.places, entry.1 ≠ location := by
  -- An entry for the place would be found by the look-up.
  rintro entry listed rfl
  unfold place? at absent
  split at absent
  · cases absent
  · rw [List.lookup_eq_none_iff] at absent
    simpa using absent entry listed

/-- What does not lie at the root has an entry. -/
theorem mem_places (inner : location ≠ []) (held : tree.place? location = some place) :
    (location, place) ∈ tree.places := by
  -- The look-up found the entry in the list.
  rw [place?, if_neg (by simpa using inner)] at held
  obtain ⟨before, after, split, -⟩ := List.lookup_eq_some_iff.mp held
  rw [split]
  exact List.mem_append_right _ List.mem_cons_self

/-- What is put where nothing was can be taken away again. -/
theorem erase_put (absent : tree.place? location = none) (place : Place) :
    (tree.put location place).erase location = tree := by
  have free := notMem_places absent
  -- The new entry stands behind all others, none of which is for this location.
  have fresh : tree.places.any (·.1 == location) = false := by
    rw [List.any_eq_false]
    intro entry listed
    simpa using free entry listed
  have kept : tree.places.filter (·.1 != location) = tree.places := by
    rw [List.filter_eq_self]
    intro entry listed
    simpa using free entry listed
  simp [put, erase, fresh, kept]

/-- Something that is written lies where its path leads, and no folder was there. -/
theorem write_eq_ok (written : tree.write path content = .ok later) :
    ∃ location, tree.resolve path = .ok location ∧ later = tree.put location (.file content) := by
  unfold write at written
  cases resolved : tree.resolve path with
  | error cause => rw [resolved] at written; cases written
  | ok location =>
    refine ⟨location, rfl, ?_⟩
    simp only [resolved, bind, Except.bind] at written
    -- Only two of the cases of writing put something in place.
    split at written
    · cases written
    · exact (Except.ok.inj written).symm
    · split at written
      · exact (Except.ok.inj written).symm
      · cases written
      · cases written

/-- A file that is moved is taken from where it lay and put where the target leads, where no folder
was. -/
theorem move_eq_ok (found : tree.find path = .ok (location, .file content))
    (moved : tree.move path target = .ok later) :
    ∃ goal, tree.resolve target = .ok goal ∧ tree.place? goal ≠ some .folder ∧
      later = (tree.erase location).put goal (.file content) := by
  simp only [move, found, bind, Except.bind] at moved
  -- Each check that could fail has passed, one after the other.
  cases taken : tree.at? target == some .folder with
  | true => rw [taken] at moved; cases moved
  | false =>
    rw [taken] at moved
    cases resolved : tree.resolve target with
    | error cause => rw [resolved] at moved; cases moved
    | ok goal =>
      rw [at?_of_resolve resolved] at taken
      refine ⟨goal, rfl, by simpa using taken, ?_⟩
      simp only [resolved] at moved
      cases above : tree.place? goal.dropLast with
      | none => rw [above] at moved; cases moved
      | some place =>
        cases place with
        | file other => rw [above] at moved; cases moved
        | folder =>
          rw [above] at moved
          exact (Except.ok.inj moved).symm

end FileTree

/-- A library whose folder is found at a location, and whose unfinished files have names of one
piece. -/
structure Library.Stands (library : Library) (tree : FileTree) (location : Location) : Prop where
  found : tree.find library.folder = .ok (location, .folder)
  whole : Path.slash ∉ library.token
  nonzero : 0 ∉ library.token

namespace Library

variable {library : Library} {tree later : FileTree} {location : Location} {name content : Bytes}
  {definition : Definition}

/-- A step that fails leaves the tree. -/
theorem step_error {action : Bytes} {change : FileTree → Except FileFailure FileTree}
    {failure : FileFailure}
    (failed : change tree = .error failure) :
    step action change tree = .error (.files action failure) tree := by
  -- The change is tried on the tree as it is.
  rw [step, LibraryM.get_bind, failed]
  rfl

section Scratch

variable {token : Bytes}

/-- If something lies at the path that was found, then so it does at all paths that were tried. -/
theorem taken_of_scratchPath {fuel : Nat}
    (taken : (tree.at? (library.scratchPath tree fuel token)).isSome = true) :
    ∀ k ≤ fuel, (tree.at? (library.scratchAt (token ++ List.replicate k 48))).isSome = true := by
  -- Each try makes the token longer and leaves one try less.
  induction fuel generalizing token with
  | zero =>
    intro k bound
    obtain rfl : k = 0 := by omega
    simpa [scratchPath_zero] using taken
  | succ fuel ih =>
    rw [scratchPath_succ] at taken
    split at taken
    next first =>
      intro k bound
      cases k with
      | zero => simpa using first
      | succ k =>
        have later := ih taken k (by omega)
        rwa [List.append_assoc, List.singleton_append, ← List.replicate_succ] at later
    next free => exact absurd taken free

variable (stands : library.Stands tree location)

include stands

/-- Something at the path of an unfinished file has an entry in the folder. -/
theorem mem_places_of_taken (whole : Path.slash ∉ token) (nonzero : 0 ∉ token)
    (taken : (tree.at? (library.scratchAt token)).isSome = true) :
    location ++ [scratchName token] ∈ tree.places.map Prod.fst := by
  obtain ⟨place, held⟩ := Option.isSome_iff_exists.mp taken
  obtain ⟨other, resolved, placed⟩ := FileTree.at?_eq_some_iff.mp held
  obtain ⟨-, folder⟩ := FileTree.find_eq_ok_iff.mp stands.found
  have ordinary := ordinary_scratch whole nonzero
  -- The path leads into the folder, if it is not too long to lead anywhere.
  rw [scratchAt, FileTree.resolve_append stands.found ordinary,
    FileTree.step_ordinary folder ordinary] at resolved
  split at resolved
  · cases resolved
  · split at resolved
    · cases resolved
    · obtain rfl := Except.ok.inj resolved
      exact List.mem_map_of_mem (FileTree.mem_places FileTree.inside_ne_nil placed)

/-- Nothing lies at the path that is found for an unfinished file. -/
theorem at?_scratchPath :
    tree.at? (library.scratchPath tree tree.places.length library.token) = none := by
  cases taken : tree.at? (library.scratchPath tree tree.places.length library.token) with
  | none => rfl
  | some place =>
    -- One more path was tried than there are entries, and all of them were taken.
    have all := taken_of_scratchPath (Option.isSome_iff_exists.mpr ⟨place, taken⟩)
    let tried := (List.range (tree.places.length + 1)).map fun k =>
      location ++ [scratchName (library.token ++ List.replicate k 48)]
    have distinct : tried.Nodup := by
      refine List.nodup_range.map ?_
      intro one two same
      simpa [scratchName] using same
    have listed : tried ⊆ tree.places.map Prod.fst := by
      intro other member
      obtain ⟨k, inside, rfl⟩ := List.mem_map.mp member
      refine mem_places_of_taken stands ?_ ?_ (all k (Nat.le_of_lt_succ (List.mem_range.mp inside)))
      · simpa [Path.slash] using stands.whole
      · simpa using stands.nonzero
    have bound := (List.subperm_of_subset distinct listed).length_le
    simp [tried] at bound

end Scratch

/-- The location of the file that a library writes for a name. -/
def ownFile (library : Library) (location : Location) (name : Bytes) : Location :=
  location ++ [name ++ ending library.compressed]

section Replace

variable {scratch : Bytes} {spot : Location} (stands : library.Stands tree location)
  (storable : Storable name) (resolved : tree.resolve scratch = .ok spot)
  (absent : tree.place? spot = none)

include stands storable resolved absent

/-- Ending the writing of a file takes it away and leaves all as it was before, or puts it in place,
where no folder was. It is put in place only if the disk took all of it. -/
theorem finish_cases (content : Bytes) (disk : DiskAnswers) :
    (∃ error, finish scratch (library.pathOf name library.compressed) disk
        (tree.put spot (.file content)) = .error error tree) ∨
      disk = .sound ∧ tree.place? (library.ownFile location name) ≠ some .folder ∧
      finish scratch (library.pathOf name library.compressed) disk (tree.put spot (.file content)) =
        .ok () (tree.put (library.ownFile location name) (.file content)) := by
  have inner : spot ≠ [] := by
    rintro rfl
    cases absent
  have keeps : tree.Keeps (tree.put spot (.file content)) := .put inner (by rw [absent]; simp) _
  have there : (tree.put spot (.file content)).place? spot = some (.file content) := by
    rw [FileTree.place?_put inner, if_pos rfl]
  -- Whatever fails, the file is taken away from where nothing was before.
  have removed : (tree.put spot (.file content)).remove scratch = .ok tree := by
    rw [FileTree.remove_file (keeps.resolve resolved) there, FileTree.erase_put absent]
  obtain ⟨write, close⟩ := disk
  cases write with
  | some refusal => exact .inl ⟨_, abandon_removed removed⟩
  | none =>
    cases close with
    | some cause => exact .inl ⟨_, abandon_removed removed⟩
    | none =>
      cases moved : (tree.put spot (.file content)).move scratch
          (library.pathOf name library.compressed) with
      | error failure => exact .inl ⟨_, finish_unmoved removed moved⟩
      | ok later =>
        obtain ⟨goal, reached, clear, rfl⟩ := FileTree.move_eq_ok
          (FileTree.find_eq_ok_iff.mpr ⟨keeps.resolve resolved, there⟩) moved
        obtain ⟨-, -, rfl⟩ :=
          (resolve_pathOf_eq_ok_iff (keeps.find stands.found) storable).mp reached
        rw [FileTree.erase_put absent] at moved
        exact .inr ⟨rfl, fun folder => clear (keeps.folders _ folder), finish_moved moved⟩

end Replace

/-- Replacing the file of a name puts the new one in place, where no folder was, or fails and leaves
all as it was. It fails where the disk does not take all of the content. -/
theorem replace_cases (stands : library.Stands tree location) (storable : Storable name)
    (content : Bytes) (disk : DiskAnswers) :
    (∃ error, library.replace (library.pathOf name library.compressed) content disk tree =
        .error error tree) ∨
      disk = .sound ∧ tree.place? (library.ownFile location name) ≠ some .folder ∧
      library.replace (library.pathOf name library.compressed) content disk tree =
        .ok () (tree.put (library.ownFile location name) (.file content)) := by
  have free := at?_scratchPath stands
  cases made : tree.write (library.scratchPath tree tree.places.length library.token) [] with
  | error failure =>
    unfold replace
    rw [LibraryM.get_bind]
    exact .inl ⟨_, LibraryM.bind_error (step_error made)⟩
  | ok begun =>
    -- A file is made where nothing was before, and gets what the disk takes of the content.
    obtain ⟨spot, resolved, rfl⟩ := FileTree.write_eq_ok made
    have absent : tree.place? spot = none := by rw [← FileTree.at?_of_resolve resolved, free]
    have inner : spot ≠ [] := by
      rintro rfl
      cases absent
    have keeps : tree.Keeps (tree.put spot (.file [])) := .put inner (by rw [absent]; simp) _
    have written := FileTree.write_made (keeps.resolve resolved)
      (by rw [FileTree.place?_put inner, if_pos rfl]) (disk.taken content)
    rw [FileTree.put_put] at written
    rw [replace_written rfl made written]
    rcases finish_cases stands storable resolved absent (disk.taken content) disk with
      failed | ⟨rfl, placed⟩
    · exact .inl failed
    · exact .inr ⟨rfl, placed⟩

/-- A definition that can be stored, its content, and the place of its file, where no folder is. -/
structure Places (library : Library) (definition : Definition) (tree : FileTree)
    (location : Location) (content : Bytes) : Prop where
  storable : Storable definition.name
  encoded : library.encoded definition = .ok content
  clear : tree.place? (library.ownFile location definition.name) ≠ some .folder

/-- What storing a definition can come to, on whatever disk. -/
inductive Saves (library : Library) (definition : Definition) (tree : FileTree)
    (location : Location) :
    EStateM.Result LibraryError FileTree Bytes → Prop
  /-- It fails before the file is in place, and all is as it was. -/
  | refused (error : LibraryError) : library.Saves definition tree location (.error error tree)
  /-- The file is in place, and what was in the other format is removed. -/
  | renewed (content : Bytes) (later : FileTree) : library.Places definition tree location content →
    (tree.put (library.ownFile location definition.name) (.file content)).remove
      (library.pathOf definition.name !library.compressed) = .ok later →
    library.Saves definition tree location
      (.ok (library.pathOf definition.name library.compressed) later)
  /-- The file is in place, and there is nothing in the other format. -/
  | added (content : Bytes) (failure : FileFailure) :
      library.Places definition tree location content →
    (tree.put (library.ownFile location definition.name) (.file content)).remove
      (library.pathOf definition.name !library.compressed) = .error failure →
        failure.cause = .notFound →
    library.Saves definition tree location (.ok (library.pathOf definition.name library.compressed)
      (tree.put (library.ownFile location definition.name) (.file content)))
  /-- The file is in place, but what is in the other format cannot be removed. -/
  | stuck (content : Bytes) (failure : FileFailure) :
      library.Places definition tree location content →
    (tree.put (library.ownFile location definition.name) (.file content)).remove
      (library.pathOf definition.name !library.compressed) = .error failure →
        failure.cause ≠ .notFound →
    library.Saves definition tree location (.error (.files "remove stale definition" failure)
      (tree.put (library.ownFile location definition.name) (.file content)))

/-- Storing a definition comes to one of these. -/
theorem save_saves (stands : library.Stands tree location) (definition : Definition)
    (disk : DiskAnswers) :
    library.Saves definition tree location (library.save definition disk tree) := by
  unfold save
  cases checked : checkStoredName definition.name with
  | error error => exact .refused _
  | ok =>
    cases encoded : library.encoded definition with
    | error error => exact .refused error
    | ok content =>
      dsimp only
      rcases replace_cases stands checked content disk with
        ⟨error, failed⟩ | ⟨-, clear, replaced⟩
      · rw [LibraryM.bind_error failed]
        exact .refused error
      · -- The file is in place, and it depends on the other format what comes of it.
        have places : library.Places definition tree location content :=
          ⟨checked, encoded, clear⟩
        rw [LibraryM.bind_ok replaced, LibraryM.get_bind]
        cases removed : (tree.put (library.ownFile location definition.name) (.file content)).remove
            (library.pathOf definition.name !library.compressed) with
        | ok later => exact .renewed content later places removed
        | error failure =>
          dsimp only
          by_cases missing : failure.cause = .notFound
          · have ignored : (failure.cause != .notFound) = false := by simp [missing]
            rw [ignored]
            exact .added content failure places removed missing
          · have heeded : (failure.cause != .notFound) = true := by simpa using missing
            rw [heeded]
            exact .stuck content failure places removed missing

/-- What is in a format cannot be removed where there is nothing, where a folder with something in
it stands there, or where its name or path would be too long. -/
theorem remove_cause {compressed : Bool} {failure : FileFailure}
    (found : tree.find library.folder = .ok (location, .folder)) (storable : Storable name)
    (removed : tree.remove (library.pathOf name compressed) = .error failure) :
    (failure.cause = .notFound ∧ tree.place? (location ++ [name ++ ending compressed]) = none) ∨
      failure.cause = .notEmpty ∨ failure.cause = .nameTooLong := by
  have leads := resolve_pathOf_eq found storable compressed
  cases resolved : tree.resolve (library.pathOf name compressed) with
  | error cause =>
    -- A path of the library leads nowhere only if it is too long.
    obtain rfl : cause = .nameTooLong := by
      rw [resolved] at leads
      split at leads
      · exact Except.error.inj leads
      · split at leads
        · exact Except.error.inj leads
        · cases leads
    simp only [FileTree.remove, FileTree.find, resolved, bind, Except.bind] at removed
    cases removed
    exact .inr (.inr rfl)
  | ok other =>
    obtain ⟨-, -, rfl⟩ := (resolve_pathOf_eq_ok_iff found storable).mp resolved
    cases held : tree.place? (location ++ [name ++ ending compressed]) with
    | none =>
      rw [FileTree.remove_nothing resolved held] at removed
      cases removed
      exact .inl ⟨rfl, rfl⟩
    | some place =>
      cases place with
      | file content =>
        rw [FileTree.remove_file resolved held] at removed
        cases removed
      | folder =>
        rw [FileTree.remove_folder resolved held] at removed
        split at removed
        · cases removed
        · cases removed
          exact .inr (.inl rfl)

/-- Storing that fails changes nothing but, at most, the file of the definition itself. Whatever the
folder holds, whatever the disk takes of the new file and whichever step fails, everything else is
as it was, and no unfinished file is left. The file itself is as it was too, unless all that failed
was to remove what is in the other format, which is a folder with something in it or has a name that
is too long: then the file is already in place and holds the new content. -/
theorem save_failed {error : LibraryError} {disk : DiskAnswers}
    (stands : library.Stands tree location)
    (failed : library.save definition disk tree = .error error later) :
    (∀ other, other ≠ library.ownFile location definition.name →
        later.place? other = tree.place? other) ∧
      (later = tree ∨ ∃ content failure, library.encoded definition = .ok content ∧
        error = .files "remove stale definition" failure ∧
        (failure.cause = .notEmpty ∨ failure.cause = .nameTooLong) ∧
        later.place? (library.ownFile location definition.name) = some (.file content)) := by
  -- Storing was refused with nothing changed, or it got stuck behind the file it put in place.
  have outcome := save_saves stands definition disk
  rw [failed] at outcome
  cases outcome with
  | refused => exact ⟨fun _ _ => rfl, .inl rfl⟩
  | stuck content failure places removed present =>
    have inner : library.ownFile location definition.name ≠ [] := FileTree.inside_ne_nil
    have keeps : tree.Keeps (tree.put (library.ownFile location definition.name) (.file content)) :=
      .put inner places.clear _
    refine ⟨?_, .inr ⟨content, failure, places.encoded, rfl, ?_, ?_⟩⟩
    · intro other apart
      rw [FileTree.place?_put inner, if_neg apart]
    · rcases remove_cause (keeps.find stands.found) places.storable removed with
        ⟨missing, -⟩ | cause
      · exact absurd missing present
      · exact cause
    · rw [FileTree.place?_put inner, if_pos rfl]

end Library

section Crowded

/-- A folder with another folder in it, which is named like the compressed file of a definition and
is not empty. -/
def crowded : FileTree :=
  ⟨[], [([utf8 "lib"], .folder), ([utf8 "lib", utf8 "silence.scsyndef.sz"], .folder),
    ([utf8 "lib", utf8 "silence.scsyndef.sz", utf8 "keep"], .file [])]⟩

/-- The definition of nothing is written to a plain file as it is. -/
theorem silence_written : plainLibrary.encoded silence = .ok (Stream.fileBytes [silence.raw]) := by
  -- The library is tolerant and does not compress.
  rw [Library.encoded, show plainLibrary.strict = false from rfl, silence_encoded]
  rfl

/-- The plain file of the definition is put in place, but the folder cannot be removed. -/
theorem crowded_stuck :
    plainLibrary.save silence .sound crowded =
      .error (.files "remove stale definition"
          ⟨"remove", [utf8 "lib/silence.scsyndef.sz"], .notEmpty⟩)
        (crowded.put [utf8 "lib", utf8 "silence.scsyndef"]
          (.file (Stream.fileBytes [silence.raw]))) := by
  have encoded := silence_written
  generalize Stream.fileBytes [silence.raw] = content at encoded ⊢
  have replaced : plainLibrary.replace
      (plainLibrary.pathOf silence.name plainLibrary.compressed) content .sound crowded =
        .ok () (crowded.put [utf8 "lib", utf8 "silence.scsyndef"] (.file content)) := rfl
  -- There is something in the folder at the path of the compressed file.
  have full : (crowded.put [utf8 "lib", utf8 "silence.scsyndef"] (.file content)).children
      [utf8 "lib", utf8 "silence.scsyndef.sz"] ≠ [] := by
    have listed : ([utf8 "lib", utf8 "silence.scsyndef.sz", utf8 "keep"], Place.file []) ∈
        crowded.places := by decide
    exact List.ne_nil_of_mem (FileTree.mem_children.mpr (List.mem_append_left _ listed))
  have resolved : (crowded.put [utf8 "lib", utf8 "silence.scsyndef"] (.file content)).resolve
      (plainLibrary.pathOf silence.name !plainLibrary.compressed) =
        .ok [utf8 "lib", utf8 "silence.scsyndef.sz"] := rfl
  have checked : checkStoredName silence.name = .ok () := rfl
  unfold Library.save
  rw [checked, encoded]
  dsimp only
  rw [LibraryM.bind_ok replaced, LibraryM.get_bind, FileTree.remove_folder resolved rfl,
    if_neg full]
  rfl

/-- A disk that is full after three bytes. -/
def fullDisk : DiskAnswers := ⟨some (3, .noSpace), none⟩

/-- On a full disk nothing is stored, and what was begun is taken away. -/
theorem crowded_full : plainLibrary.save silence fullDisk crowded =
    .error (.files "write definition" ⟨"write", [utf8 "lib/.synthdef-1"], .noSpace⟩) crowded := by
  -- The content does not matter, because none of it is taken.
  have encoded := silence_written
  generalize Stream.fileBytes [silence.raw] = content at encoded
  have replaced : plainLibrary.replace
      (plainLibrary.pathOf silence.name plainLibrary.compressed) content fullDisk crowded =
        .error (.files "write definition" ⟨"write", [utf8 "lib/.synthdef-1"], .noSpace⟩) crowded :=
    rfl
  have checked : checkStoredName silence.name = .ok () := rfl
  unfold Library.save
  rw [checked, encoded]
  exact LibraryM.bind_error replaced

/-- Where the folder is in the way, nothing but the file of the definition has changed; on a full
disk not even that. -/
theorem crowded_otherwise :
    (∃ error later, plainLibrary.save silence .sound crowded = .error error later ∧
      ∀ other, other ≠ [utf8 "lib", utf8 "silence.scsyndef"] →
        later.place? other = crowded.place? other) ∧
      ∃ error later, plainLibrary.save silence fullDisk crowded = .error error later ∧
        ∀ other, later.place? other = crowded.place? other := by
  have stands : plainLibrary.Stands crowded [utf8 "lib"] := ⟨rfl, by decide, by decide⟩
  refine ⟨⟨_, _, crowded_stuck, (Library.save_failed stands crowded_stuck).1⟩,
    ⟨_, _, crowded_full, ?_⟩⟩
  -- It was not the last step that failed.
  rcases (Library.save_failed stands crowded_full).2 with same | ⟨_, _, -, other, -⟩
  · intro other
    rw [same]
  · cases other

/-- Storing has failed, and yet there is a file in the folder that was not there before. -/
theorem crowded_changed :
    ∃ error later, plainLibrary.save silence .sound crowded = .error error later ∧
      later.place? [utf8 "lib", utf8 "silence.scsyndef"] ≠
        crowded.place? [utf8 "lib", utf8 "silence.scsyndef"] := by
  -- The file was put in place before removing the other one failed.
  refine ⟨_, _, crowded_stuck, ?_⟩
  have absent : crowded.place? [utf8 "lib", utf8 "silence.scsyndef"] = none := by decide
  rw [FileTree.place?_put (by decide), if_pos rfl, absent]
  exact Option.some_ne_none _

end Crowded

end Patchbay
