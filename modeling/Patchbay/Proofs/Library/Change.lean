import Patchbay.Proofs.Library.Shelf

/-! What storing and deleting do to the folder of a library: they change the files of one name, so
that the folder holds the shelf with that one change, and do nothing where they fail. -/

namespace Patchbay

namespace LibraryM

variable {α β : Type} {tree later : FileTree}

/-- Behind a part of an operation that succeeds comes the next part. -/
theorem bind_ok {part : LibraryM α} {next : α → LibraryM β} {result : α}
    (ran : part tree = .ok result later) :
    (part >>= next) tree = next result later := by
  -- The first part is run, and its result and its tree are handed to the next.
  show EStateM.bind part next tree = next result later
  rw [EStateM.bind, ran]

/-- Behind a part of an operation that fails comes nothing more. -/
theorem bind_error {part : LibraryM α} {next : α → LibraryM β} {error : LibraryError}
    (ran : part tree = .error error later) : (part >>= next) tree = .error error later := by
  -- The error is handed on.
  show EStateM.bind part next tree = .error error later
  rw [EStateM.bind, ran]

/-- A part that looks at the tree goes on with it as it is. -/
theorem get_bind (next : FileTree → LibraryM β) : (get >>= next) tree = next tree tree := rfl

/-- A part that changes the tree goes on with the changed one. -/
theorem modify_bind (change : FileTree → FileTree) (next : Unit → LibraryM β) :
    (modify change >>= next) tree = next () (change tree) := rfl

end LibraryM

/-- A change to the files of one name in a folder, after which they are those of an entry, or
none. -/
structure FileTree.Renews (tree later : FileTree) (location : Location) (name : Bytes)
    (entry : Option Stored) :
    Prop where
  home : later.home = tree.home
  distinct : tree.Distinct location → later.Distinct location
  own : ∀ compressed, later.place? (location ++ [name ++ Library.ending compressed]) =
    entry.bind fun stored => if stored.compressed = compressed then some (.file stored.content)
      else none
  others : ∀ other, (∀ compressed, other ≠ location ++ [name ++ Library.ending compressed]) →
    later.place? other = tree.place? other

namespace FileTree.Renews

variable {tree later : FileTree} {location : Location} {shelf : Shelf} {name : Bytes}
  {entry : Option Stored}

/-- A file in one format and none in the other are the files of a stored definition. -/
theorem of_placed {stored : Stored} (home : later.home = tree.home)
    (distinct : tree.Distinct location → later.Distinct location)
    (placed : ∀ other, later.place? other =
      if other = location ++ [name ++ Library.ending !stored.compressed] then none
      else if other = location ++ [name ++ Library.ending stored.compressed] then
        some (.file stored.content)
      else tree.place? other) : tree.Renews later location name (some stored) := by
  -- The two formats have different files, and a location elsewhere is neither.
  refine ⟨home, distinct, ?_, ?_⟩
  · intro compressed
    rw [placed, Option.bind_some]
    by_cases same : stored.compressed = compressed
    · have apart : location ++ [name ++ Library.ending stored.compressed] ≠
          location ++ [name ++ Library.ending !stored.compressed] := by
        simpa using (Library.file_ne_other name stored.compressed).symm
      subst same
      rw [if_neg apart, if_pos rfl, if_pos rfl]
    · obtain rfl : compressed = !stored.compressed := (Bool.not_eq.mpr same).symm
      rw [if_pos rfl, if_neg same]
  · intro other elsewhere
    rw [placed, if_neg (elsewhere _), if_neg (elsewhere _)]

variable (renews : tree.Renews later location name entry)

include renews

/-- What does not lie directly in the folder is as it was. -/
theorem outside {other : Location} (apart : ∀ file, other ≠ location ++ [file]) :
    later.place? other = tree.place? other :=
  -- It is the file of no name.
  renews.others other fun _ => apart _

/-- The folder holds the shelf with the change. -/
theorem holds (held : tree.Holds location shelf) (storable : Library.Storable name) :
    later.Holds location (Function.update shelf name entry) := by
  refine ⟨?_, renews.distinct held.distinct, ?_, ?_⟩
  · rw [renews.outside fun file => by simp, held.folder]
  · -- A file is one of the name that changed, or that of another name, or no file of a library.
    intro file
    by_cases named : ∃ compressed, file = name ++ Library.ending compressed
    · obtain ⟨compressed, rfl⟩ := named
      rw [renews.own, Shelf.file?_of_name storable, Function.update_self]
    · have apart : ∀ compressed, file ≠ name ++ Library.ending compressed := fun compressed same =>
        named ⟨compressed, same⟩
      rw [renews.others _ (by simpa using apart), held.files, Shelf.file?_update entry apart]
  · intro other stored found
    by_cases same : other = name
    · exact same ▸ storable
    · rw [Function.update_of_ne same] at found
      exact held.storable other stored found

/-- No folder goes away. -/
theorem keeps (held : tree.Holds location shelf) : tree.Keeps later :=
  -- Only files directly in the folder change.
  held.keeps renews.home fun _ apart => renews.outside apart

end FileTree.Renews

namespace FileTree.Holds

variable {tree : FileTree} {location : Location} {shelf : Shelf} {name : Bytes} {stored : Stored}
  (holds : tree.Holds location shelf) (found : shelf name = some stored)

include holds found

/-- A stored definition has one file, which is in its format. -/
theorem place?_stored (compressed : Bool) :
    tree.place? (location ++ [name ++ Library.ending compressed]) =
    if stored.compressed = compressed then some (.file stored.content) else none := by
  -- The shelf tells the files of the folder, and the name finds its own entry.
  rw [holds.files, Shelf.file?_of_name (holds.storable name stored found), found, Option.bind_some]

/-- Without its file nothing is stored under a name. -/
theorem erase_renews :
    tree.Renews (tree.erase (location ++ [name ++ Library.ending stored.compressed])) location name
      none := by
  -- The one file that the name had is gone, and in the other format there was none.
  refine ⟨home_erase, fun distinct => distinct.erase _, ?_, ?_⟩
  · intro compressed
    rw [place?_erase inside_ne_nil, holds.place?_stored found, Option.bind_none]
    by_cases same : stored.compressed = compressed
    · rw [if_pos (by rw [same])]
    · rw [if_neg same, ite_self]
  · intro other elsewhere
    rw [place?_erase inside_ne_nil, if_neg (elsewhere _)]

end FileTree.Holds

namespace Library

variable {library : Library} {tree later : FileTree} {location : Location} {shelf : Shelf}
  {name file content : Bytes}
  {definition : Definition}

/-- A step that succeeds leaves the changed tree. -/
theorem step_ok {action : Bytes} {change : FileTree → Except FileFailure FileTree}
    (done : change tree = .ok later) : step action change tree = .ok () later := by
  -- The step looks at the tree and puts the changed one in its place.
  rw [step, LibraryM.get_bind, done]
  rfl

section Scratch

variable {token : Bytes}

/-- The last path that is tried is taken as it is. -/
theorem scratchPath_zero : library.scratchPath tree 0 token = library.scratchAt token := by
  -- Only the way in which the path is put together differs.
  rw [scratchPath, scratchAt, scratchName, List.append_assoc, List.cons_append]

/-- The search for a free path tries one token after the other, each a zero longer. -/
theorem scratchPath_succ (fuel : Nat) : library.scratchPath tree (fuel + 1) token =
    if (tree.at? (library.scratchAt token)).isSome then
      library.scratchPath tree fuel (token ++ [48])
    else library.scratchAt token := by
  -- Only the way in which the path is put together differs.
  have path : library.folder ++ Path.slash :: utf8 ".synthdef-" ++ token =
      library.scratchAt token := by
    rw [scratchAt, scratchName, List.append_assoc, List.cons_append]
  rw [scratchPath, path]

/-- The first path for an unfinished file is taken when nothing is there. -/
theorem scratchPath_free (free : tree.at? (library.scratchAt token) = none) (fuel : Nat) :
    library.scratchPath tree fuel token = library.scratchAt token := by
  -- With tries left or none, the first path is the one that is taken.
  cases fuel with
  | zero => exact scratchPath_zero
  | succ fuel => rw [scratchPath_succ, free, Option.isSome_none, if_neg Bool.false_ne_true]

end Scratch

section Replaced

variable {path data scratch : Bytes} {middle : FileTree} {disk : DiskAnswers}

/-- Replacing a file ends with what was made and written beside it. -/
theorem replace_written
    (free : library.scratchPath tree tree.places.length library.token = scratch)
    {begun : FileTree} (made : tree.write scratch [] = .ok begun)
    (written : begun.write scratch (disk.taken data) = .ok middle) :
    library.replace path data disk tree = finish scratch path disk middle := by
  -- The steps are run in turn up to the last.
  unfold replace
  rw [LibraryM.get_bind, free, LibraryM.bind_ok (step_ok made), LibraryM.modify_bind, written]
  rfl

/-- What is abandoned is taken away. -/
theorem abandon_removed {action : Bytes} {failure : FileFailure}
    (removed : middle.remove scratch = .ok tree) :
    abandon scratch action failure middle = .error (.files action failure) tree := by
  -- The tree without the file is what is left behind the failure.
  unfold abandon
  rw [LibraryM.modify_bind, removed]
  rfl

/-- On a sound disk a file that can be moved into place is. -/
theorem finish_moved (moved : middle.move scratch path = .ok later) :
    finish scratch path .sound middle = .ok () later := by
  -- Neither writing nor closing has failed.
  unfold finish
  dsimp only [DiskAnswers.sound]
  rw [LibraryM.get_bind, moved]
  rfl

/-- A file that cannot be moved into place is taken away. -/
theorem finish_unmoved {failure : FileFailure} (removed : middle.remove scratch = .ok tree)
    (moved : middle.move scratch path = .error failure) :
    finish scratch path .sound middle =
      .error (.files "move definition into place" failure) tree := by
  -- Nothing stands in the way before the move, whose failure abandons the file.
  unfold finish
  dsimp only [DiskAnswers.sound]
  rw [LibraryM.get_bind, moved]
  exact abandon_removed removed

end Replaced

/-- Deleting removes what the name is located at. -/
theorem delete_located {path : Bytes} {compressed : Bool} {later : FileTree}
    (storable : Storable name)
    (located : library.locate tree name = .ok (path, compressed))
    (removed : tree.remove path = .ok later) :
    library.delete name tree = .ok () later := by
  -- The name passes its check and is located, which leaves one step.
  unfold delete
  rw [storable]
  dsimp only
  rw [LibraryM.get_bind, located]
  exact step_ok removed

section Saved

variable {middle : FileTree} (storable : Storable definition.name)
  (bytes : library.encoded definition = .ok content)
  {disk : DiskAnswers}
  (replaced : library.replace
    (library.pathOf definition.name library.compressed) content disk tree =
    .ok () middle)

include storable bytes replaced

/-- Storing ends with removing the file in the other format. -/
theorem save_removed
    (removed : middle.remove (library.pathOf definition.name !library.compressed) = .ok later) :
    library.save definition disk tree =
      .ok (library.pathOf definition.name library.compressed) later := by
  -- The checks pass and the file is replaced, so that the removal is the last step.
  unfold save
  rw [storable, bytes]
  dsimp only
  rw [LibraryM.bind_ok replaced, LibraryM.get_bind, removed]
  rfl

/-- Storing does not mind when there is no file in the other format. -/
theorem save_missing {failure : FileFailure} (cause : failure.cause = .notFound)
    (removed : middle.remove (library.pathOf definition.name !library.compressed) =
      .error failure) :
    library.save definition disk tree =
      .ok (library.pathOf definition.name library.compressed) middle := by
  -- A removal that fails for want of a file leaves the tree as it is.
  have ignored : (failure.cause != .notFound) = false := by rw [cause]; rfl
  unfold save
  rw [storable, bytes]
  dsimp only
  rw [LibraryM.bind_ok replaced, LibraryM.get_bind, removed]
  dsimp only
  rw [ignored]
  rfl

/-- Storing leaves no file in the other format, whether there was one or not. -/
theorem save_ends
    (resolved : middle.resolve (library.pathOf definition.name !library.compressed) =
      .ok (location ++ [file]))
    (free : middle.place? (location ++ [file]) ≠ some .folder) :
    ∃ later, library.save definition disk tree =
        .ok (library.pathOf definition.name library.compressed) later ∧
      later.home = middle.home ∧ (middle.Distinct location → later.Distinct location) ∧
      ∀ other, later.place? other = if other = location ++ [file] then none
        else middle.place? other := by
  -- There is a file in the other format, which is removed, or there is none.
  cases held : middle.place? (location ++ [file]) with
  | none =>
    have missing := FileTree.remove_nothing resolved held
    refine ⟨middle, save_missing storable bytes replaced rfl missing, rfl, id, ?_⟩
    intro other
    split
    next same => rw [same, held]
    · rfl
  | some place =>
    cases place with
    | folder => exact absurd held free
    | file old =>
      have removed := FileTree.remove_file resolved held
      exact ⟨_, save_removed storable bytes replaced removed, FileTree.home_erase,
        fun distinct => distinct.erase _, FileTree.place?_erase FileTree.inside_ne_nil⟩

end Saved

section Change

variable (lies : library.LiesAt tree location) (holds : tree.Holds location shelf)
  (storable : Storable name)
  (accepts : library.Accepts name)

include lies holds storable accepts

/-- A file is put in place, and what was written beside it is gone. -/
theorem replace_file (compressed : Bool) (content : Bytes) :
    ∃ later, library.replace (library.pathOf name compressed) content .sound tree = .ok () later ∧
      later.home = tree.home ∧ later.Distinct location ∧
      ∀ other, later.place? other =
        if other = location ++ [name ++ ending compressed] then some (.file content)
        else tree.place? other := by
  have free : tree.place? (location ++ [scratchName library.token]) = none := by
    rw [holds.files, Shelf.file?, parseFileName_scratch, Option.bind_none]
  have path := scratchPath_free ((FileTree.at?_of_resolve (resolve_scratch lies)).trans free)
    tree.places.length
  have apart : location ++ [name ++ ending compressed] ≠
      location ++ [scratchName library.token] := by
    intro same
    have named : name ++ ending compressed = scratchName library.token := by simpa using same
    have parsed := parseFileName_eq_some_iff.mpr ⟨named.symm, storable⟩
    rw [parseFileName_scratch] at parsed
    cases parsed
  -- A new file is made beside it and gets the content.
  have unoccupied : tree.place? (location ++ [scratchName library.token]) ≠ some .folder := by
    rw [free]
    exact (Option.some_ne_none _).symm
  have made := FileTree.write_inside (resolve_scratch lies) holds.folder unoccupied []
  have keeps :
      ∀ bytes, tree.Keeps (tree.put (location ++ [scratchName library.token]) (.file bytes)) :=
    fun bytes => .put FileTree.inside_ne_nil unoccupied _
  have lain : ∀ bytes other,
      (tree.put (location ++ [scratchName library.token]) (.file bytes)).place? other =
        if other = location ++ [scratchName library.token] then some (.file bytes)
        else tree.place? other := fun bytes => FileTree.place?_put FileTree.inside_ne_nil _
  have written := FileTree.write_made ((keeps []).resolve (resolve_scratch lies))
    (by rw [lain, if_pos rfl]) content
  rw [FileTree.put_put] at written
  -- It is moved over whatever file has the name.
  have keeps := keeps content
  have lain := lain content
  have distinct := holds.distinct.put (location ++ [scratchName library.token]) (.file content)
  generalize tree.put (location ++ [scratchName library.token]) (.file content) = middle
    at written keeps distinct lain
  have clear : middle.place? (location ++ [name ++ ending compressed]) ≠ some .folder := by
    rw [lain, if_neg apart]
    exact holds.ne_folder _
  have moved := FileTree.move_inside (keeps.resolve (resolve_scratch lies))
    (by rw [lain, if_pos rfl]) (keeps.resolve (resolve_pathOf lies storable accepts compressed))
    (keeps.folders location holds.folder) clear
  have replaced : library.replace (library.pathOf name compressed) content .sound tree =
      finish (library.scratchAt library.token) (library.pathOf name compressed) .sound middle :=
    replace_written path made written
  refine ⟨_, replaced.trans (finish_moved moved), ?_,
    (distinct.erase (location ++ [scratchName library.token])).put
      (location ++ [name ++ ending compressed]) (.file content), ?_⟩
  · rw [FileTree.home_put, FileTree.home_erase, keeps.home]
  · -- Nothing was where the content was written first, and nothing is there in the end.
    intro other
    rw [FileTree.place?_put FileTree.inside_ne_nil, FileTree.place?_erase FileTree.inside_ne_nil,
      lain]
    by_cases scratch : other = location ++ [scratchName library.token]
    · rw [if_pos scratch, scratch, free]
    · rw [if_neg scratch, if_neg scratch]

/-- Storing puts the file of the new definition under its name, in place of any file in either
format. -/
theorem save_renews {data : Bytes} (named : definition.name = name)
    (encoded : Stream.encode library.strict [definition] = .ok data) :
    ∃ later, library.save definition .sound tree =
        .ok (library.pathOf name library.compressed) later ∧
      tree.Renews later location name (some (library.stored data)) := by
  subst named
  have bytes : library.encoded definition = .ok (library.written data) := by
    rw [Library.encoded, encoded]
    rfl
  have apart : location ++ [definition.name ++ ending !library.compressed] ≠
      location ++ [definition.name ++ ending library.compressed] := by
    simpa using file_ne_other definition.name library.compressed
  -- The new file is put in place first, which leaves the one in the other format as it is.
  obtain ⟨middle, replaced, home, distinct, placed⟩ :=
    replace_file lies holds storable accepts library.compressed (library.written data)
  have keeps : tree.Keeps middle := by
    refine holds.keeps home ?_
    intro other elsewhere
    rw [placed, if_neg (elsewhere _)]
  have resolved := keeps.resolve (resolve_pathOf lies storable accepts !library.compressed)
  have free : middle.place? (location ++ [definition.name ++ ending !library.compressed]) ≠
      some .folder := by
    rw [placed, if_neg apart]
    exact holds.ne_folder _
  -- That one goes away next.
  obtain ⟨later, saved, home', distinct', left⟩ :=
    save_ends storable bytes replaced resolved free
  refine ⟨later, saved, .of_placed (home'.trans home) (fun _ => distinct' distinct) ?_⟩
  intro other
  rw [left, placed]
  rfl

/-- Deleting takes away the file of a stored definition. -/
theorem delete_renews {stored : Stored} (found : shelf name = some stored) :
    ∃ later, library.delete name tree = .ok () later ∧ tree.Renews later location name none := by
  -- The name is located at its one file, and that is removed.
  have resolved := resolve_pathOf lies storable accepts stored.compressed
  have removed := FileTree.remove_file resolved ((holds.place?_stored found _).trans (if_pos rfl))
  exact ⟨_, delete_located storable (locate_stored lies holds found accepts) removed,
    holds.erase_renews found⟩

end Change

/-- A definition with a name that none can be stored under is refused, and nothing changes. -/
theorem save_misnamed {error : NameError} (disk : DiskAnswers)
    (misnamed : checkStoredName definition.name = .error error) :
    library.save definition disk tree = .error (.invalidName definition.name error) tree := by
  -- The name is checked first.
  rw [save, misnamed]
  rfl

/-- A definition that cannot be written is refused, and nothing changes. -/
theorem save_unwritable {fault : Fault} (disk : DiskAnswers)
    (storable : Storable definition.name)
    (unwritable : Stream.encode library.strict [definition] = .error fault) :
    library.save definition disk tree = .error (.fault fault) tree := by
  -- The bytes are made before anything is touched.
  have refused : library.encoded definition = .error (.fault fault) := by
    rw [Library.encoded, unwritable]
    rfl
  rw [save, storable, refused]
  rfl

/-- A definition that cannot be stored, or not be written, is refused, and nothing changes. -/
theorem save_refused (tree : FileTree) (disk : DiskAnswers)
    (refused : ∀ data, Storable definition.name →
      Stream.encode library.strict [definition] ≠ .ok data) :
    ∃ error, library.save definition disk tree = .error error tree := by
  -- The name is checked first and the bytes are made next, and one of the two fails.
  cases checked : checkStoredName definition.name with
  | error error => exact ⟨_, save_misnamed disk checked⟩
  | ok =>
    cases encoded : Stream.encode library.strict [definition] with
    | error fault => exact ⟨_, save_unwritable disk checked encoded⟩
    | ok data => exact absurd encoded (refused data checked)

section Idle

variable (lies : library.LiesAt tree location) (holds : tree.Holds location shelf)

include lies holds

/-- Nothing is deleted for a name that nothing is stored under. -/
theorem delete_absent (absent : shelf name = none) :
    library.delete name tree = .error (absence name) tree := by
  -- The name fails its check, or it is located nowhere.
  unfold delete absence
  cases checked : checkStoredName name with
  | error error => rfl
  | ok =>
    dsimp only
    rw [LibraryM.get_bind, locate_absent lies holds checked absent]
    rfl

/-- A library with a folder is ready, and nothing changes. -/
theorem prepare_ready : library.prepare tree = .ok () tree := by
  -- The folder is there, and what it holds can be listed.
  obtain ⟨entries, listed, -⟩ := list_holds lies.found holds
  rw [prepare, LibraryM.get_bind, FileTree.ensureFolder_folder lies.found]
  dsimp only
  rw [listed]
  rfl

end Idle

end Library

end Patchbay
