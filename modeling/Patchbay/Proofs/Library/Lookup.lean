import Patchbay.Proofs.Library.History

/-! Listing and looking up. Whatever lies in the folder of a library, a name that is listed once is
looked up as the entry that is listed for it, unless a folder stands at the path of its plain file:
the list leaves folders out, and the lookup takes them for files. -/

namespace Patchbay

/-- The name of the file of an entry. -/
def LibraryEntry.file (entry : LibraryEntry) : Bytes :=
  entry.name ++ Library.ending entry.compressed

namespace Library

variable {library : Library} {tree : FileTree} {location : Location} {entries : List LibraryEntry}
  {name : Bytes} {entry : LibraryEntry}

/-- The file of an entry tells the name and the format of the entry. -/
theorem parseFileName_entry (storable : Storable entry.name) :
    parseFileName entry.file = some (entry.name, entry.compressed) :=
  -- The entry makes the file from its name and its format.
  parseFileName_eq_some_iff.mpr ⟨rfl, storable⟩

/-- A plain file is accepted wherever the compressed one of the same name is. -/
theorem Reaches.plain (reaches : library.Reaches name true) : library.Reaches name false := by
  -- The end of its name is shorter.
  have shorter : (ending false).length < (ending true).length := by decide
  obtain ⟨short, near⟩ := reaches
  simp only [Reaches, List.length_append, List.length_cons] at short near ⊢
  omega

/-- A child of the folder has an entry exactly when it is the file of the entry and it is
accepted. -/
theorem mem_children_entry (found : tree.find library.folder = .ok (location, .folder))
    (distinct : tree.Distinct location) {child : Bytes × Place} :
    child ∈ tree.children location ∧ library.entryOf tree child = some entry ↔
      Storable entry.name ∧ library.Reaches entry.name entry.compressed ∧
        entry.path = library.pathOf entry.name entry.compressed ∧
        ∃ content, tree.place? (location ++ [entry.file]) = some (.file content) ∧
          child = (entry.file, .file content) ∧ entry.size = content.length := by
  -- A folder has no entry, and a file has one if it is that of a name.
  obtain ⟨file, place⟩ := child
  rw [FileTree.mem_children_iff distinct]
  constructor
  · rintro ⟨placed, read⟩
    cases place with
    | folder => simp [entryOf] at read
    | file content =>
      obtain ⟨rfl, storable, reaches, path, size⟩ := (entryOf_eq_some_iff found placed).mp read
      exact ⟨storable, reaches, path, content, placed, rfl, size⟩
  · rintro ⟨storable, reaches, path, content, placed, same, size⟩
    obtain ⟨rfl, rfl⟩ := Prod.mk.inj same
    exact ⟨placed, (entryOf_eq_some_iff found placed).mpr ⟨rfl, storable, reaches, path, size⟩⟩

section Listing

variable (found : tree.find library.folder = .ok (location, .folder))
  (distinct : tree.Distinct location) (listed : library.list tree = .ok entries)

include found listed

/-- The list has the entries of what lies in the folder. -/
theorem list_perm :
    entries.Perm ((tree.children location).filterMap (library.entryOf tree)) := by
  -- Sorting only moves the entries around.
  rw [list, FileTree.list_folder found] at listed
  obtain rfl : sorted ((tree.children location).filterMap (library.entryOf tree)) = entries :=
    Except.ok.inj listed
  exact sorted_perm _

include distinct

/-- The entries are those of the files in the folder that have the name of a definition and are
accepted. -/
theorem mem_list : entry ∈ entries ↔
    Storable entry.name ∧ library.Reaches entry.name entry.compressed ∧
      entry.path = library.pathOf entry.name entry.compressed ∧
      ∃ content, tree.place? (location ++ [entry.file]) = some (.file content) ∧
        entry.size = content.length := by
  -- An entry comes from a child of the folder, which is the file of the entry.
  rw [(list_perm found listed).mem_iff, List.mem_filterMap]
  constructor
  · rintro ⟨child, both⟩
    obtain ⟨storable, reaches, path, content, placed, -, size⟩ :=
      (mem_children_entry found distinct).mp both
    exact ⟨storable, reaches, path, content, placed, size⟩
  · rintro ⟨storable, reaches, path, content, placed, size⟩
    exact ⟨_, (mem_children_entry found distinct).mpr
      ⟨storable, reaches, path, content, placed, rfl, size⟩⟩

/-- No entry is listed twice. -/
theorem list_nodup : entries.Nodup := by
  rw [(list_perm found listed).nodup_iff, List.Nodup, List.pairwise_filterMap]
  -- Two children have different names, and an entry tells the name of its child.
  refine (FileTree.children_ascends distinct).imp_of_mem ?_
  rintro one two first second before a read b again rfl
  obtain ⟨-, -, -, _, -, rfl, -⟩ := (mem_children_entry found distinct).mp ⟨first, read⟩
  obtain ⟨-, -, -, _, -, rfl, -⟩ := (mem_children_entry found distinct).mp ⟨second, again⟩
  exact Std.lt_irrefl before

/-- The path of an entry leads to its file. -/
theorem resolve_listed (member : entry ∈ entries) :
    tree.resolve entry.path = .ok (location ++ [entry.file]) := by
  -- What is listed is not too long for the file system.
  obtain ⟨storable, reaches, path, -⟩ := (mem_list found distinct listed).mp member
  rw [path]
  exact resolve_reached found storable reaches

/-- What the path of an entry leads to is a file of the size that is listed. -/
theorem at?_listed (member : entry ∈ entries) :
    ∃ content, tree.at? entry.path = some (.file content) ∧ entry.size = content.length := by
  -- The path leads to the file of the entry.
  obtain ⟨-, -, -, content, held, size⟩ := (mem_list found distinct listed).mp member
  refine ⟨content, ?_, size⟩
  rw [FileTree.at?_of_resolve (resolve_listed found distinct listed member), held]

end Listing

section Lookup

variable (found : tree.find library.folder = .ok (location, .folder))
  (distinct : tree.Distinct location) (listed : library.list tree = .ok entries)
  (single : entries.filter (fun other => other.name = name) = [entry])

include single

/-- A name that is listed once has its own entry only. -/
theorem mem_single_iff {other : LibraryEntry} :
    other ∈ entries ∧ other.name = name ↔ other = entry := by
  -- The entries of the name are one only.
  have only : other ∈ entries.filter (fun other => other.name = name) ↔ other ∈ [entry] := by
    rw [single]
  simpa using only

include found distinct listed

/-- A name that is listed once is located at its entry, unless a folder stands at the path of its
plain file. -/
theorem locate_listed
    (clear : entry.compressed = true → tree.at? (library.pathOf name false) ≠ some .folder) :
    library.locate tree name = .ok (entry.path, entry.compressed) := by
  obtain ⟨member, rfl⟩ := (mem_single_iff single).mpr rfl
  obtain ⟨storable, reaches, path, -⟩ := (mem_list found distinct listed).mp member
  obtain ⟨content, held, -⟩ := at?_listed found distinct listed member
  have there : (tree.at? (library.pathOf entry.name entry.compressed)).isSome = true := by
    rw [← path, held]
    rfl
  rw [path]
  unfold locate
  cases format : entry.compressed with
  | false =>
    -- The plain path comes first.
    rw [format] at there
    simp [List.find?, there]
  | true =>
    -- A plain file would be listed under the same name, and a folder is ruled out.
    rw [format] at there reaches
    have absent : tree.at? (library.pathOf entry.name false) = none := by
      cases plain : tree.at? (library.pathOf entry.name false) with
      | none => rfl
      | some place =>
        cases place with
        | folder => exact absurd plain (clear format)
        | file bytes =>
          obtain ⟨other, resolved, placed⟩ := FileTree.at?_eq_some_iff.mp plain
          obtain ⟨-, -, rfl⟩ := (resolve_pathOf_eq_ok_iff found storable).mp resolved
          let twin : LibraryEntry :=
            ⟨entry.name, library.pathOf entry.name false, bytes.length, false⟩
          have listed : twin ∈ entries :=
            (mem_list found distinct listed).mpr
              ⟨storable, reaches.plain, rfl, bytes, placed, rfl⟩
          have same : twin = entry := (mem_single_iff single).mp ⟨listed, rfl⟩
          rw [← same] at format
          cases format
    simp [List.find?, there, absent]

/-- Without the file of its entry, a library lists the other entries. -/
theorem list_erased : ∃ next, library.list (tree.erase (location ++ [entry.file])) = .ok next ∧
    next.Perm (entries.erase entry) := by
  obtain ⟨member, named⟩ := (mem_single_iff single).mpr rfl
  obtain ⟨storable, -, -, content, held, -⟩ := (mem_list found distinct listed).mp member
  -- The folder is still there, and it holds the same files but for the one.
  have keeps : tree.Keeps (tree.erase (location ++ [entry.file])) :=
    .erase FileTree.inside_ne_nil (by rw [held]; simp)
  have still := keeps.find found
  have fewer := distinct.erase (location ++ [entry.file])
  have again : library.list (tree.erase (location ++ [entry.file])) =
      .ok (sorted (((tree.erase (location ++ [entry.file])).children location).filterMap
        (library.entryOf (tree.erase (location ++ [entry.file]))))) := by
    rw [list, FileTree.list_folder still]
    rfl
  refine ⟨_, again, ?_⟩
  rw [List.perm_ext_iff_of_nodup (list_nodup still fewer again)
    ((list_nodup found distinct listed).erase entry)]
  intro other
  rw [mem_list still fewer again, (list_nodup found distinct listed).mem_erase_iff,
    FileTree.place?_erase FileTree.inside_ne_nil]
  by_cases same : other.file = entry.file
  · -- Nothing lies at the file any more, and it was the file of one entry only.
    refine iff_of_false (by simp [same]) ?_
    rintro ⟨differs, kept⟩
    obtain ⟨sound, -⟩ := (mem_list found distinct listed).mp kept
    have parsed := parseFileName_entry sound
    rw [same, parseFileName_entry storable, Option.some.injEq, Prod.mk.injEq] at parsed
    exact differs ((mem_single_iff single).mp ⟨kept, parsed.1.symm.trans named⟩)
  · have apart : location ++ [other.file] ≠ location ++ [entry.file] := by simpa using same
    have differs : other ≠ entry := by
      rintro rfl
      exact same rfl
    rw [if_neg apart, mem_list found distinct listed]
    simp [differs]

variable (clear : entry.compressed = true → tree.at? (library.pathOf name false) ≠ some .folder)

include clear

/-- What is fetched under a name that is listed once is the content of its entry. -/
theorem fetch_listed : library.fetch tree name =
    (content tree entry.path entry.compressed).map fun data => (data, entry.path) := by
  have located := locate_listed found distinct listed single clear
  obtain ⟨member, rfl⟩ := (mem_single_iff single).mpr rfl
  obtain ⟨storable, -⟩ := (mem_list found distinct listed).mp member
  unfold fetch
  rw [storable, located]
  -- What is left on both sides reads the content at the path of the entry.
  show (content tree entry.path entry.compressed >>= fun data => pure (data, entry.path)) = _
  cases content tree entry.path entry.compressed <;> rfl

/-- Deleting a name that is listed once takes away the file of its entry. -/
theorem delete_listed :
    library.delete name tree = .ok () (tree.erase (location ++ [entry.file])) := by
  -- The name is located at the file of the entry, which is removed.
  have located := locate_listed found distinct listed single clear
  obtain ⟨member, rfl⟩ := (mem_single_iff single).mpr rfl
  obtain ⟨storable, -, -, content, held, -⟩ := (mem_list found distinct listed).mp member
  exact delete_located storable located
    (FileTree.remove_file (resolve_listed found distinct listed member) held)

end Lookup

/-- A folder at the path of the plain file of a name is what the name is located at. -/
theorem locate_shadowed (folder : tree.at? (library.pathOf name false) = some .folder) :
    library.locate tree name = .ok (library.pathOf name false, false) := by
  -- The plain path is looked at first, and anything there counts.
  simp [locate, List.find?, folder]

/-- Listing and looking up agree wherever no folder takes the place of a plain file. In any folder
in which no name stands twice, with whatever files and folders in it, a name that is listed once is
located at the path of its entry and in its format. Reading and loading it read the file of the
entry, which has the size that is listed. Deleting it succeeds and takes away this file and nothing
else, and the next list has all entries but this one. -/
theorem lookup_agrees (found : tree.find library.folder = .ok (location, .folder))
    (distinct : tree.Distinct location) (listed : library.list tree = .ok entries)
    (single : entries.filter (fun other => other.name = name) = [entry])
    (clear : entry.compressed = true → tree.at? (library.pathOf name false) ≠ some .folder) :
    library.locate tree name = .ok (entry.path, entry.compressed) ∧
      (∃ bytes, tree.at? entry.path = some (.file bytes) ∧ entry.size = bytes.length) ∧
      library.read tree name = content tree entry.path entry.compressed ∧
      library.load tree name = (content tree entry.path entry.compressed >>= fun data =>
        (Stream.decode library.strict data).mapError LibraryError.fault >>=
          choose entry.path name) ∧
      ∃ later next, library.delete name tree = .ok () later ∧
        (∀ other, later.place? other =
          if other = location ++ [entry.file] then none else tree.place? other) ∧
        library.list later = .ok next ∧ next.Perm (entries.erase entry) := by
  -- All of it follows from where the name is located.
  have fetched := fetch_listed found distinct listed single clear
  obtain ⟨member, -⟩ := (mem_single_iff single).mpr rfl
  refine ⟨locate_listed found distinct listed single clear,
    at?_listed found distinct listed member, ?_, ?_, ?_⟩
  · rw [read, fetched]
    cases content tree entry.path entry.compressed <;> rfl
  · rw [load, fetched]
    cases content tree entry.path entry.compressed <;> rfl
  · obtain ⟨next, again, others⟩ := list_erased found distinct listed single
    exact ⟨_, next, delete_listed found distinct listed single clear,
      FileTree.place?_erase FileTree.inside_ne_nil, again, others⟩

/-- A library in whose folder only one child has an entry lists that entry. -/
theorem list_singleton (found : tree.find library.folder = .ok (location, .folder))
    (only : (tree.inside location).filterMap (library.entryOf tree) = [entry]) :
    library.list tree = .ok [entry] := by
  -- Neither the order of the children nor sorting matters to a single entry.
  have children : ((tree.children location).filterMap (library.entryOf tree)).Perm [entry] := by
    rw [FileTree.children_eq, ← only]
    exact (List.mergeSort_perm _ _).filterMap _
  rw [list, FileTree.list_folder found]
  exact congrArg Except.ok (List.perm_singleton.mp ((sorted_perm _).trans children))

end Library

section Pad

/-- A folder with a compressed definition, a folder that is named like a definition, and a foreign
file. -/
def cluttered : FileTree :=
  ⟨[], [([utf8 "lib"], .folder), ([utf8 "lib", utf8 "sub.scsyndef"], .folder),
    ([utf8 "lib", utf8 "notes.txt"], .file (utf8 "x")),
    ([utf8 "lib", utf8 "pad.scsyndef.sz"], .file [0])]⟩

/-- The entry of the definition. -/
def padEntry : LibraryEntry := ⟨utf8 "pad", utf8 "lib/pad.scsyndef.sz", 1, true⟩

/-- The definition is located, and gone from the list when it is deleted. -/
theorem pad_agrees :
    plainLibrary.list cluttered = .ok [padEntry] ∧
      plainLibrary.locate cluttered (utf8 "pad") = .ok (utf8 "lib/pad.scsyndef.sz", true) ∧
      ∃ later, plainLibrary.delete (utf8 "pad") cluttered = .ok () later ∧
        plainLibrary.list later = .ok [] := by
  -- The folder has one file of a definition, and no folder stands in the way.
  have found : cluttered.find plainLibrary.folder = .ok ([utf8 "lib"], .folder) := rfl
  have distinct : cluttered.Distinct [utf8 "lib"] := by unfold FileTree.Distinct; decide
  have listed : plainLibrary.list cluttered = .ok [padEntry] :=
    Library.list_singleton found (by decide)
  have single : [padEntry].filter (fun other => other.name = utf8 "pad") = [padEntry] := by decide
  obtain ⟨located, -, -, -, later, next, deleted, -, again, others⟩ :=
    Library.lookup_agrees found distinct listed single fun _ => by decide
  refine ⟨listed, located, later, deleted, ?_⟩
  rw [again, List.Perm.eq_nil others]

/-- The same folder with another folder at the path of the plain file of the definition. -/
def shadowed : FileTree := cluttered.put [utf8 "lib", utf8 "pad.scsyndef"] .folder

/-- The definition is listed once as before, but the folder is located in its place. Reading fails,
and deleting succeeds and leaves the definition in the list. -/
theorem pad_shadowed :
    plainLibrary.list shadowed = .ok [padEntry] ∧
      plainLibrary.locate shadowed (utf8 "pad") ≠ .ok (padEntry.path, padEntry.compressed) ∧
      plainLibrary.read shadowed (utf8 "pad") = .error (.folderInPlace (utf8 "lib/pad.scsyndef")) ∧
      ∃ later, plainLibrary.delete (utf8 "pad") shadowed = .ok () later ∧
        plainLibrary.list later = .ok [padEntry] := by
  have found : shadowed.find plainLibrary.folder = .ok ([utf8 "lib"], .folder) := rfl
  have folder : shadowed.at? (plainLibrary.pathOf (utf8 "pad") false) = some .folder := by decide
  have located := Library.locate_shadowed folder
  refine ⟨Library.list_singleton found (by decide), ?_, ?_, cluttered, ?_,
    Library.list_singleton rfl (by decide)⟩
  · rw [located]
    decide
  · decide
  · -- There is nothing in the folder, so that it can be removed.
    have empty : shadowed.children [utf8 "lib", utf8 "pad.scsyndef"] = [] := by
      rw [FileTree.children_eq]
      exact List.mergeSort_nil
    have resolved : shadowed.resolve (plainLibrary.pathOf (utf8 "pad") false) =
        .ok [utf8 "lib", utf8 "pad.scsyndef"] := rfl
    refine Library.delete_located rfl located ?_
    rw [FileTree.remove_folder resolved rfl, if_pos empty]
    rfl

end Pad

end Patchbay
