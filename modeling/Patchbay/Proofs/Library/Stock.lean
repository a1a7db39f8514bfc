import Patchbay.Proofs.Library.Failure
import Patchbay.Proofs.Library.Lookup

/-! Folders that nothing but storing definitions has written to. They hold one file for each name,
so that every entry of the list can be deleted, and the list is then without that entry and
otherwise the same. -/

namespace Patchbay

namespace FileTree

variable {tree later : FileTree} {path : Bytes}

/-- What is removed is erased from where its path leads. -/
theorem remove_eq_ok (removed : tree.remove path = .ok later) :
    ∃ location, tree.resolve path = .ok location ∧ later = tree.erase location := by
  cases resolved : tree.resolve path with
  | error cause =>
    simp only [remove, find, resolved, bind, Except.bind] at removed
    cases removed
  | ok location =>
    refine ⟨location, rfl, ?_⟩
    -- Nothing is removed where nothing lies, nor where a folder is not empty.
    cases held : tree.place? location with
    | none =>
      rw [remove_nothing resolved held] at removed
      cases removed
    | some place =>
      cases place with
      | file content =>
        rw [remove_file resolved held] at removed
        exact (Except.ok.inj removed).symm
      | folder =>
        rw [remove_folder resolved held] at removed
        split at removed
        · exact (Except.ok.inj removed).symm
        · cases removed

end FileTree

namespace Library

variable {library : Library} {tree later : FileTree} {location : Location} {shelf : Shelf}
  {path content : Bytes}
  {definition : Definition} {entries : List LibraryEntry} {entry : LibraryEntry}

/-- What a library writes is the content of a definition that is stored in its format. -/
theorem exists_stored (written : library.encoded definition = .ok content) :
    ∃ stored : Stored, stored.compressed = library.compressed ∧ stored.content = content := by
  -- The bytes are those of the definition, as the library writes them.
  unfold encoded at written
  cases bytes : Stream.encode library.strict [definition] with
  | error fault =>
    rw [bytes] at written
    cases written
  | ok data =>
    rw [bytes] at written
    exact ⟨library.stored data, rfl, Except.ok.inj written⟩

/-- Storing that succeeds leaves one file of the name, whatever was there before. -/
theorem save_renewed {disk : DiskAnswers} (stands : library.Stands tree location)
    (saved : library.save definition disk tree = .ok path later) :
    ∃ stored, Storable definition.name ∧
      tree.Renews later location definition.name (some stored) := by
  have outcome := save_saves stands definition disk
  rw [saved] at outcome
  have inner : library.ownFile location definition.name ≠ [] := FileTree.inside_ne_nil
  cases outcome with
  | renewed content later places removed =>
    obtain ⟨stored, format, rfl⟩ := exists_stored places.encoded
    refine ⟨stored, places.storable, ?_⟩
    have keeps := FileTree.Keeps.put inner places.clear (.file stored.content)
    -- The path that was removed leads to the file in the other format.
    obtain ⟨stale, resolved, rfl⟩ := FileTree.remove_eq_ok removed
    obtain ⟨-, -, rfl⟩ :=
      (resolve_pathOf_eq_ok_iff (keeps.find stands.found) places.storable).mp resolved
    refine .of_placed (by simp) (fun distinct => (distinct.put _ _).erase _) ?_
    intro other
    rw [FileTree.place?_erase FileTree.inside_ne_nil, FileTree.place?_put inner, format]
    rfl
  | added content failure places removed missing =>
    obtain ⟨stored, format, rfl⟩ := exists_stored places.encoded
    refine ⟨stored, places.storable, ?_⟩
    have keeps := FileTree.Keeps.put inner places.clear (.file stored.content)
    -- Nothing was removed because nothing is there in the other format.
    have absent :
        (tree.put (library.ownFile location definition.name) (.file stored.content)).place?
          (location ++ [definition.name ++ ending !library.compressed]) = none := by
      rcases remove_cause (keeps.find stands.found) places.storable removed with
        ⟨-, absent⟩ | full | long
      · exact absent
      · rw [missing] at full
        cases full
      · rw [missing] at long
        cases long
    refine .of_placed (by simp) (fun distinct => distinct.put _ _) ?_
    intro other
    rw [format]
    split
    next same => rw [same, absent]
    next => exact FileTree.place?_put inner _ _

end Library

/-- A folder that was empty at first, and that nothing was done to since but to store definitions in
it, through whatever libraries. -/
inductive FileTree.Stocked (location : Location) : FileTree → Prop
  | empty {tree : FileTree} : tree.place? location = some .folder → tree.children location = [] →
    Stocked location tree
  | save {tree later : FileTree} {library : Library} {definition : Definition} {disk : DiskAnswers}
    {path : Bytes} : Stocked location tree → library.Stands tree location →
    library.save definition disk tree = .ok path later → Stocked location later

/-- Such a folder holds a shelf. -/
theorem FileTree.Stocked.holds {tree : FileTree} {location : Location}
    (stocked : tree.Stocked location) : ∃ shelf, tree.Holds location shelf := by
  induction stocked with
  | empty folder empty => exact ⟨_, FileTree.holds_nothing folder empty⟩
  | save stocked stands saved ih =>
    -- Each definition that is stored puts one file in place of those of its name.
    obtain ⟨shelf, holds⟩ := ih
    obtain ⟨stored, storable, renews⟩ := Library.save_renewed stands saved
    exact ⟨_, renews.holds holds storable⟩

namespace Library

variable {library : Library} {tree : FileTree} {location : Location} {shelf : Shelf}
  {entries : List LibraryEntry} {entry : LibraryEntry}

section Deleting

variable (found : tree.find library.folder = .ok (location, .folder))
  (holds : tree.Holds location shelf) (listed : library.list tree = .ok entries)

include found holds listed

/-- The list has the entries of what is stored and accepted, each name once and in order. -/
theorem list_eq_ok : entries.Pairwise (fun a b => a.name < b.name) ∧
    ∀ entry, entry ∈ entries ↔ ∃ name stored, shelf name = some stored ∧
      library.Reaches name stored.compressed ∧ entry = library.entry name stored := by
  -- Listing has one result only.
  obtain ⟨others, again, ascends, members⟩ := list_holds found holds
  obtain rfl : entries = others := Except.ok.inj (listed.symm.trans again)
  exact ⟨ascends, members⟩

variable (member : entry ∈ entries)

include member

/-- Each name is listed once. -/
theorem filter_listed : entries.filter (fun other => other.name = entry.name) = [entry] := by
  -- Names that ascend strictly are all different.
  have ascends := (list_eq_ok found holds listed).1
  have names : (entries.map LibraryEntry.name).Nodup := by
    rw [List.Nodup, List.pairwise_map]
    refine ascends.imp ?_
    intro a b before same
    rw [same] at before
    exact Std.lt_irrefl before
  -- The entries of the name are this one, and it is there once.
  rw [← List.perm_singleton,
    List.perm_ext_iff_of_nodup (names.of_map.filter _) (List.nodup_singleton entry)]
  intro other
  rw [List.mem_filter, List.mem_singleton, decide_eq_true_eq]
  constructor
  · intro ⟨kept, same⟩
    exact List.inj_on_of_nodup_map names kept member same
  · rintro rfl
    exact ⟨member, rfl⟩

/-- Without the file of an entry the folder still holds a shelf. -/
theorem holds_erased : ∃ shelf, (tree.erase (location ++ [entry.file])).Holds location shelf := by
  -- The entry is that of a stored definition, whose only file it is.
  obtain ⟨name, stored, held, -, rfl⟩ := ((list_eq_ok found holds listed).2 entry).mp member
  exact ⟨_, (holds.erase_renews held).holds holds (holds.storable name stored held)⟩

/-- Without the file of an entry the list is the same but for this entry. -/
theorem list_erase :
    library.list (tree.erase (location ++ [entry.file])) = .ok (entries.erase entry) := by
  obtain ⟨next, again, others⟩ :=
    list_erased found holds.distinct listed (filter_listed found holds listed member)
  obtain ⟨shelf, left⟩ := holds_erased found holds listed member
  -- Both have the same entries in the order of their names, which is strict.
  have still :=
    (FileTree.Keeps.erase FileTree.inside_ne_nil (holds.ne_folder entry.file)).find found
  have ascends := (list_eq_ok still left again).1
  have before := (list_eq_ok found holds listed).1.sublist (List.erase_sublist (a := entry))
  have same : next = entries.erase entry :=
    others.eq_of_pairwise (fun a b _ _ less greater => absurd greater (List.lt_asymm less)) ascends
      before
  rw [again, same]

/-- Every entry of the list can be deleted, and its file is what goes away. -/
theorem delete_stocked :
    library.delete entry.name tree = .ok () (tree.erase (location ++ [entry.file])) := by
  refine delete_listed found holds.distinct listed (filter_listed found holds listed member) ?_
  -- There are no folders in the folder that could be taken for a file.
  intro _ folder
  obtain ⟨storable, -⟩ := (mem_list found holds.distinct listed).mp member
  obtain ⟨other, resolved, placed⟩ := FileTree.at?_eq_some_iff.mp folder
  obtain ⟨-, -, rfl⟩ := (resolve_pathOf_eq_ok_iff found storable).mp resolved
  exact holds.ne_folder _ placed

end Deleting

end Library

end Patchbay
