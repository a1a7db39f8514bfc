import Mathlib.Logic.Function.Basic
import Patchbay.Library.Trace
import Patchbay.Proofs.Files.Resolve
import Patchbay.Proofs.Library.FileName
import Patchbay.Proofs.Quicksort.Sort
import Patchbay.Proofs.Snappy

/-! What a library stores, as a map from names. While its folder holds the files of a map and no
others, listing, looking up and reading answer as the map does. -/

namespace Patchbay

/-- A definition as it is stored: its bytes, the content of its file, and how it was written. -/
structure Stored where
  data : Bytes
  content : Bytes
  compressed : Bool
  strict : Bool
  deriving DecidableEq, Repr

/-- The content of the file gives the bytes of the definition, decompressed where needed. -/
def Stored.Readable (stored : Stored) : Prop :=
  if stored.compressed then Snappy.decompress stored.content = some stored.data
  else stored.content = stored.data

/-- A definition as a library stores it when it has been written as bytes. -/
def Library.stored (library : Library) (data : Bytes) : Stored :=
  ⟨data, library.written data, library.compressed, library.strict⟩

/-- What is stored under each name. -/
abbrev Shelf := Bytes → Option Stored

namespace Shelf

variable {shelf : Shelf} {name file : Bytes}

/-- What the folder of a library holds under a file name. -/
def file? (shelf : Shelf) (file : Bytes) : Option Place :=
  (Library.parseFileName file).bind fun parsed =>
    (shelf parsed.1).bind fun stored =>
      if stored.compressed = parsed.2 then some (.file stored.content) else none

/-- A name has a file of the format that it was stored in, and only that one. -/
theorem file?_of_name (storable : Library.Storable name) (compressed : Bool) :
    shelf.file? (name ++ Library.ending compressed) =
      (shelf name).bind fun stored =>
        if stored.compressed = compressed then some (.file stored.content) else none := by
  -- The file tells the name and the format back.
  rw [file?, Library.parseFileName_eq_some_iff.mpr ⟨rfl, storable⟩, Option.bind_some]

/-- Every file is that of a name that something is stored under. -/
theorem file?_eq_some_iff {place : Place} : shelf.file? file = some place ↔
    ∃ name stored, Library.Storable name ∧ shelf name = some stored ∧
      file = name ++ Library.ending stored.compressed ∧ place = .file stored.content := by
  -- The file is taken apart into a name and a format, and these are looked up.
  constructor
  · intro held
    obtain ⟨parsed, read, held⟩ := Option.bind_eq_some_iff.mp held
    obtain ⟨stored, found, held⟩ := Option.bind_eq_some_iff.mp held
    rw [Option.ite_none_right_eq_some] at held
    obtain ⟨format, same⟩ := held
    obtain ⟨named, storable⟩ := Library.parseFileName_eq_some_iff.mp read
    exact ⟨parsed.1, stored, storable, found, format ▸ named, (Option.some.inj same).symm⟩
  · rintro ⟨name, stored, storable, found, rfl, rfl⟩
    rw [file?_of_name storable, found, Option.bind_some, if_pos rfl]

/-- No file of a library is a folder. -/
theorem file?_ne_folder : shelf.file? file ≠ some .folder := by
  -- What is stored lies in files.
  intro held
  obtain ⟨name, stored, -, -, -, same⟩ := file?_eq_some_iff.mp held
  cases same

/-- A change under one name changes no file but those of that name. -/
theorem file?_update (entry : Option Stored)
    (apart : ∀ compressed, file ≠ name ++ Library.ending compressed) :
    Shelf.file? (Function.update shelf name entry) file = shelf.file? file := by
  -- A file that is taken apart gives another name, which is not changed.
  unfold file?
  cases read : Library.parseFileName file with
  | none => rfl
  | some parsed =>
    have other : parsed.1 ≠ name := by
      rintro rfl
      exact apart parsed.2 (Library.parseFileName_eq_some_iff.mp read).1
    rw [Option.bind_some, Option.bind_some, Function.update_of_ne other]

end Shelf

/-- A folder with the files of a shelf in it, and nothing else. -/
structure FileTree.Holds (tree : FileTree) (location : Location) (shelf : Shelf) : Prop where
  folder : tree.place? location = some .folder
  distinct : tree.Distinct location
  files : ∀ file, tree.place? (location ++ [file]) = shelf.file? file
  storable : ∀ name stored, shelf name = some stored → Library.Storable name

/-- There is no folder among the files. -/
theorem FileTree.Holds.ne_folder {tree : FileTree} {location : Location} {shelf : Shelf}
    (holds : tree.Holds location shelf) (file : Bytes) :
    tree.place? (location ++ [file]) ≠ some .folder := by
  -- What lies in the folder are the files of the shelf.
  rw [holds.files]
  exact Shelf.file?_ne_folder

/-- So none goes away when nothing else changes. -/
theorem FileTree.Holds.keeps {tree later : FileTree} {location : Location} {shelf : Shelf}
    (holds : tree.Holds location shelf) (home : later.home = tree.home)
    (outside : ∀ other, (∀ file, other ≠ location ++ [file]) →
      later.place? other = tree.place? other) :
    tree.Keeps later := by
  -- A folder lies elsewhere, and there nothing changes.
  refine ⟨home, ?_⟩
  intro other folder
  rw [outside, folder]
  rintro file rfl
  exact holds.ne_folder file folder

/-- The files in the folder are those of the names on the shelf, one for each. -/
theorem FileTree.Holds.mem_children {tree : FileTree} {location : Location} {shelf : Shelf}
    (holds : tree.Holds location shelf) {child : Bytes × Place} :
    child ∈ tree.children location ↔ ∃ name stored, shelf name = some stored ∧
      child = (name ++ Library.ending stored.compressed, .file stored.content) := by
  -- The children are the places directly below, which are the files of the shelf.
  obtain ⟨file, place⟩ := child
  rw [FileTree.mem_children_iff holds.distinct, holds.files, Shelf.file?_eq_some_iff]
  constructor
  · rintro ⟨name, stored, -, found, rfl, rfl⟩
    exact ⟨name, stored, found, rfl⟩
  · intro ⟨name, stored, found, same⟩
    obtain ⟨named, placed⟩ := Prod.mk.inj same
    exact ⟨name, stored, holds.storable name stored found, found, named, placed⟩

/-- A library whose folder is found at a location, and whose unfinished files have names that are
accepted there. -/
structure Library.LiesAt (library : Library) (tree : FileTree) (location : Location) : Prop where
  found : tree.find library.folder = .ok (location, .folder)
  whole : Path.slash ∉ library.token
  nonzero : 0 ∉ library.token
  short : (scratchName library.token).length ≤ FileTree.nameLimit
  near : (library.folder ++ Path.slash :: scratchName library.token).length < FileTree.pathLimit

/-- Whether the file of a name in a format, and its path as it stands, are short enough to be
accepted. -/
def Library.Reaches (library : Library) (name : Bytes) (compressed : Bool) : Prop :=
  (name ++ ending compressed).length ≤ FileTree.nameLimit ∧
    (library.folder ++ Path.slash :: (name ++ ending compressed)).length < FileTree.pathLimit

instance (library : Library) (name : Bytes) (compressed : Bool) :
    Decidable (library.Reaches name compressed) := inferInstanceAs (Decidable (_ ∧ _))

/-- Whether the files of a name are accepted in either format. -/
def Library.Accepts (library : Library) (name : Bytes) : Prop :=
  ∀ compressed, library.Reaches name compressed

instance (library : Library) (name : Bytes) : Decidable (library.Accepts name) :=
  inferInstanceAs (Decidable (∀ compressed, library.Reaches name compressed))

namespace Library

variable {library : Library} {tree later : FileTree} {location : Location} {shelf : Shelf}
  {name : Bytes}
  {stored : Stored}

/-- A library stays where it is as long as no folder goes away. -/
theorem LiesAt.stays (lies : library.LiesAt tree location) (keeps : tree.Keeps later) :
    library.LiesAt later location :=
  -- Only finding the folder depends on the tree.
  { lies with found := keeps.find lies.found }

/-- The path of a name leads to its file in the folder, unless the path or the name of the file is
too long. -/
theorem resolve_pathOf_eq (found : tree.find library.folder = .ok (location, .folder))
    (storable : Storable name) (compressed : Bool) :
    tree.resolve (library.pathOf name compressed) =
      if FileTree.pathLimit ≤ (library.pathOf name compressed).length then .error .nameTooLong
      else if FileTree.nameLimit < (name ++ ending compressed).length then .error .nameTooLong
      else .ok (location ++ [name ++ ending compressed]) := by
  -- The folder is found, and the file behind it is an ordinary name.
  obtain ⟨-, folder⟩ := FileTree.find_eq_ok_iff.mp found
  have ordinary := ordinary_file storable compressed
  rw [pathOf, FileTree.resolve_join found ordinary, FileTree.step_ordinary folder ordinary]

/-- The path of a name leads to its file in the folder and nowhere else, and only if both are short
enough. -/
theorem resolve_pathOf_eq_ok_iff (found : tree.find library.folder = .ok (location, .folder))
    (storable : Storable name) {compressed : Bool} {other : Location} :
    tree.resolve (library.pathOf name compressed) = .ok other ↔
      (library.pathOf name compressed).length < FileTree.pathLimit ∧
        (name ++ ending compressed).length ≤ FileTree.nameLimit ∧
        other = location ++ [name ++ ending compressed] := by
  -- Each of the two lengths can refuse the path, and behind them it leads to the file.
  rw [resolve_pathOf_eq found storable]
  split
  next far => simp [Nat.not_lt.mpr far]
  next near =>
    split
    next long => simp [-List.length_append, Nat.not_le.mpr long]
    next short => simp [-List.length_append, Nat.lt_of_not_le near, Nat.le_of_not_lt short, eq_comm]

/-- The path of a file that is accepted leads to it in the folder. -/
theorem resolve_reached (found : tree.find library.folder = .ok (location, .folder))
    (storable : Storable name) {compressed : Bool} (reaches : library.Reaches name compressed) :
    tree.resolve (library.pathOf name compressed) =
      .ok (location ++ [name ++ ending compressed]) := by
  obtain ⟨short, near⟩ := reaches
  obtain ⟨resolved, -⟩ := FileTree.find_eq_ok_iff.mp found
  obtain ⟨given, -⟩ := FileTree.resolve_eq_ok_iff.mp resolved
  -- Cleaning does not make the path longer.
  have shorter := Path.length_join_le given (ordinary_file storable compressed)
  exact (resolve_pathOf_eq_ok_iff found storable).mpr ⟨Nat.lt_of_le_of_lt shorter near, short, rfl⟩

/-- The path of a name leads to its file in the folder. -/
theorem resolve_pathOf (lies : library.LiesAt tree location) (storable : Storable name)
    (accepts : library.Accepts name) (compressed : Bool) :
    tree.resolve (library.pathOf name compressed) =
      .ok (location ++ [name ++ ending compressed]) :=
  -- What a library accepts it also reaches.
  resolve_reached lies.found storable (accepts compressed)

/-- The path of an unfinished file. -/
def scratchAt (library : Library) (token : Bytes) : Bytes :=
  library.folder ++ Path.slash :: scratchName token

/-- The path of an unfinished file leads to its name in the folder. -/
theorem resolve_scratch (lies : library.LiesAt tree location) :
    tree.resolve (library.scratchAt library.token) =
      .ok (location ++ [scratchName library.token]) := by
  -- The lengths that a library promises for its unfinished files are kept.
  obtain ⟨-, folder⟩ := FileTree.find_eq_ok_iff.mp lies.found
  have ordinary := ordinary_scratch lies.whole lies.nonzero
  rw [scratchAt, FileTree.resolve_append lies.found ordinary, if_neg (Nat.not_le.mpr lies.near),
    FileTree.step_ordinary folder ordinary, if_neg (Nat.not_lt.mpr lies.short)]

section Reading

variable (lies : library.LiesAt tree location) (holds : tree.Holds location shelf)

include lies holds

/-- A stored definition is found in the format that it was stored in. -/
theorem locate_stored (found : shelf name = some stored) (accepts : library.Accepts name) :
    library.locate tree name = .ok (library.pathOf name stored.compressed, stored.compressed) := by
  -- Of the two formats, something lies only at the path of the one that it was stored in.
  have storable := holds.storable name stored found
  have there : ∀ compressed,
      (tree.at? (library.pathOf name compressed)).isSome = (stored.compressed == compressed) := by
    intro compressed
    rw [FileTree.at?_of_resolve (resolve_pathOf lies storable accepts compressed), holds.files,
      Shelf.file?_of_name storable, found, Option.bind_some]
    by_cases same : stored.compressed = compressed
    · simp [same]
    · simp [same]
  unfold locate
  simp only [there]
  cases stored.compressed <;> rfl

/-- Nothing is found under a name that nothing is stored under. -/
theorem locate_absent (storable : Storable name) (absent : shelf name = none) :
    library.locate tree name = .error (.notFound name) := by
  -- Nothing lies at either of the two paths.
  have nothing : ∀ compressed, (tree.at? (library.pathOf name compressed)).isSome = false := by
    intro compressed
    rw [FileTree.at?_eq_none]
    · rfl
    · intro other resolved
      obtain ⟨-, -, rfl⟩ := (resolve_pathOf_eq_ok_iff lies.found storable).mp resolved
      rw [holds.files, Shelf.file?_of_name storable, absent, Option.bind_none]
  unfold locate
  simp only [nothing]
  rfl

/-- The bytes of a stored definition are those that it was stored with. -/
theorem fetch_stored (found : shelf name = some stored) (accepts : library.Accepts name)
    (readable : stored.Readable) :
    library.fetch tree name = .ok (stored.data, library.pathOf name stored.compressed) := by
  -- The definition is located, its file is read, and the content gives the bytes back.
  have storable := holds.storable name stored found
  have held : tree.at? (library.pathOf name stored.compressed) = some (.file stored.content) := by
    rw [FileTree.at?_of_resolve (resolve_pathOf lies storable accepts _), holds.files,
      Shelf.file?_of_name storable, found, Option.bind_some, if_pos rfl]
  have read : content tree (library.pathOf name stored.compressed) stored.compressed =
      .ok stored.data := by
    unfold content
    unfold Stored.Readable at readable
    rw [held]
    cases format : stored.compressed with
    | false =>
      rw [format, if_neg Bool.false_ne_true] at readable
      rw [readable]
      rfl
    | true =>
      rw [format, if_pos rfl] at readable
      simp only [readable, if_true]
  unfold fetch
  rw [storable, locate_stored lies holds found accepts]
  show (content tree _ _ >>= fun data => pure (data, _)) = _
  rw [read]
  rfl

end Reading

/-- The error for a name that nothing is stored under: it is not found, unless it is none to store
under. -/
def absence (name : Bytes) : LibraryError :=
  match checkStoredName name with
  | .ok () => .notFound name
  | .error error => .invalidName name error

section Absent

variable (lies : library.LiesAt tree location) (holds : tree.Holds location shelf)
  (absent : shelf name = none)

include lies holds absent

/-- Nothing is fetched for a name that nothing is stored under. -/
theorem fetch_absent : library.fetch tree name = .error (absence name) := by
  -- The name fails its check, or it is located nowhere.
  unfold fetch absence
  cases checked : checkStoredName name with
  | error error => rfl
  | ok =>
    rw [locate_absent lies holds checked absent]
    rfl

/-- No bytes are read for a name that nothing is stored under. -/
theorem read_absent : library.read tree name = .error (absence name) := by
  -- Reading fetches first.
  rw [read, fetch_absent lies holds absent]
  rfl

/-- No definition is loaded for a name that nothing is stored under. -/
theorem load_absent : library.load tree name = .error (absence name) := by
  -- Loading fetches first.
  rw [load, fetch_absent lies holds absent]
  rfl

end Absent

section Listing

/-- Names rank entries. -/
theorem ranks_name :
    Quicksort.Ranks fun (a b : LibraryEntry) => Bytes.less a.name b.name := by
  -- That one name does not come before another says that it is at least as great.
  constructor
  · intro a b less
    rw [Bytes.less_iff_lt] at less
    exact Bytes.less_eq_false_iff.mpr (Std.le_of_lt less)
  · intro a b c one two
    rw [Bytes.less_eq_false_iff] at one two ⊢
    exact Std.le_trans one two

/-- Sorting entries only moves them around. -/
theorem sorted_perm (entries : List LibraryEntry) : (sorted entries).Perm entries :=
  -- This is what the sort does to any list.
  Array.perm_iff_toList_perm.mp (Quicksort.sort_perm ranks_name entries.toArray)

/-- Sorted entries ascend strictly by name when no name is there twice. -/
theorem sorted_ascends {entries : List LibraryEntry}
    (distinct : (entries.map LibraryEntry.name).Nodup) :
    (sorted entries).Pairwise fun a b => a.name < b.name := by
  -- In order and without repetition is strictly in order.
  have inOrder := Quicksort.sort_pairwise ranks_name entries.toArray
  have apart : (sorted entries).Pairwise fun a b => a.name ≠ b.name :=
    List.pairwise_map.mp (((sorted_perm entries).map LibraryEntry.name).nodup_iff.mpr distinct)
  refine (inOrder.and apart).imp fun {a b} both => ?_
  exact Std.lt_of_le_of_ne (Bytes.less_eq_false_iff.mp both.1) both.2

/-- The entry of a stored definition. -/
def entry (library : Library) (name : Bytes) (stored : Stored) : LibraryEntry :=
  ⟨name, library.pathOf name stored.compressed, stored.content.length, stored.compressed⟩

/-- A file in the folder has an entry exactly when it is the file of a name that can be stored under
and it is accepted. -/
theorem entryOf_eq_some_iff (found : tree.find library.folder = .ok (location, .folder))
    {file content : Bytes} (placed : tree.place? (location ++ [file]) = some (.file content))
    {entry : LibraryEntry} : library.entryOf tree (file, .file content) = some entry ↔
      file = entry.name ++ ending entry.compressed ∧ Storable entry.name ∧
        library.Reaches entry.name entry.compressed ∧
        entry.path = library.pathOf entry.name entry.compressed ∧ entry.size = content.length := by
  obtain ⟨name, path, size, compressed⟩ := entry
  unfold entryOf Reaches pathOf
  dsimp only
  constructor
  · intro read
    rw [Option.ite_none_left_eq_some, Option.map_eq_some_iff] at read
    obtain ⟨leads, ⟨parsedName, format⟩, parsed, same⟩ := read
    obtain ⟨rfl, rfl, rfl, rfl⟩ := LibraryEntry.mk.inj same
    obtain ⟨rfl, storable⟩ := parseFileName_eq_some_iff.mp parsed
    -- A path that leads to the file is not too long.
    rw [FileTree.at?_append found (ordinary_file storable format)] at leads
    refine ⟨rfl, storable, ?_, rfl, rfl⟩
    by_contra refused
    exact leads (by rw [if_neg refused]; rfl)
  · rintro ⟨rfl, storable, reaches, rfl, rfl⟩
    have leads := FileTree.at?_append found (ordinary_file storable compressed)
    rw [if_pos reaches, placed] at leads
    rw [leads, parseFileName_file]
    simp [isOk_checkStoredName.mpr storable]

/-- A file that is stored has the entry of the name that it belongs to, if it is accepted. -/
theorem entryOf_stored (found : tree.find library.folder = .ok (location, .folder))
    (holds : tree.Holds location shelf) (kept : shelf name = some stored) {entry : LibraryEntry} :
    library.entryOf tree (name ++ ending stored.compressed, .file stored.content) = some entry ↔
      library.Reaches name stored.compressed ∧ entry = library.entry name stored := by
  have storable := holds.storable name stored kept
  have placed : tree.place? (location ++ [name ++ ending stored.compressed]) =
      some (.file stored.content) := by
    rw [holds.files, Shelf.file?_of_name storable, kept, Option.bind_some, if_pos rfl]
  rw [entryOf_eq_some_iff found placed]
  constructor
  · -- The file tells the name and the format.
    rintro ⟨same, named, reaches, path, size⟩
    have parsed := parseFileName_eq_some_iff.mpr ⟨same, named⟩
    rw [parseFileName_eq_some_iff.mpr ⟨rfl, storable⟩, Option.some.injEq, Prod.mk.injEq] at parsed
    obtain ⟨given, _, _, format⟩ := entry
    obtain ⟨rfl, rfl⟩ := parsed
    dsimp only at path size
    rw [path, size]
    exact ⟨reaches, rfl⟩
  · rintro ⟨reaches, rfl⟩
    exact ⟨rfl, storable, reaches, rfl, rfl⟩

/-- A library whose folder holds a shelf lists what is on it, as far as it is accepted, each name
once and in order. -/
theorem list_holds (found : tree.find library.folder = .ok (location, .folder))
    (holds : tree.Holds location shelf) :
    ∃ entries, library.list tree = .ok entries ∧ entries.Pairwise (fun a b => a.name < b.name) ∧
      ∀ entry, entry ∈ entries ↔ ∃ name stored, shelf name = some stored ∧
        library.Reaches name stored.compressed ∧ entry = library.entry name stored := by
  have distinct :
      (((tree.children location).filterMap (library.entryOf tree)).map
        LibraryEntry.name).Nodup := by
    rw [List.Nodup, List.pairwise_map, List.pairwise_filterMap]
    refine (FileTree.children_ascends holds.distinct).imp_of_mem ?_
    intro one two first second apart a read b again same
    obtain ⟨name, stored, kept, rfl⟩ := holds.mem_children.mp first
    obtain ⟨other, twin, seen, rfl⟩ := holds.mem_children.mp second
    obtain ⟨-, rfl⟩ := (entryOf_stored found holds kept).mp read
    obtain ⟨-, rfl⟩ := (entryOf_stored found holds seen).mp again
    -- Two files of one name would be the same file.
    obtain rfl : name = other := same
    rw [Option.some.inj (kept.symm.trans seen)] at apart
    exact Std.lt_irrefl apart
  refine ⟨sorted ((tree.children location).filterMap (library.entryOf tree)), ?_,
    sorted_ascends distinct, ?_⟩
  · rw [list, FileTree.list_folder found]
    rfl
  · intro entry
    rw [(sorted_perm _).mem_iff, List.mem_filterMap]
    constructor
    · rintro ⟨child, member, read⟩
      obtain ⟨name, stored, kept, rfl⟩ := holds.mem_children.mp member
      obtain ⟨reaches, same⟩ := (entryOf_stored found holds kept).mp read
      exact ⟨name, stored, kept, reaches, same⟩
    · rintro ⟨name, stored, kept, reaches, same⟩
      exact ⟨_, holds.mem_children.mpr ⟨name, stored, kept, rfl⟩,
        (entryOf_stored found holds kept).mpr ⟨reaches, same⟩⟩

/-- A library lists what is stored, each name once and in order, when all of it is accepted. -/
theorem list_stored (lies : library.LiesAt tree location) (holds : tree.Holds location shelf)
    (accepts : ∀ name stored, shelf name = some stored → library.Accepts name) :
    ∃ entries, library.list tree = .ok entries ∧ entries.Pairwise (fun a b => a.name < b.name) ∧
      ∀ entry, entry ∈ entries ↔
        ∃ name stored, shelf name = some stored ∧ entry = library.entry name stored := by
  obtain ⟨entries, listed, ascends, members⟩ := list_holds lies.found holds
  refine ⟨entries, listed, ascends, fun entry => (members entry).trans ?_⟩
  -- Nothing is left out for its length.
  constructor
  · rintro ⟨name, stored, kept, -, same⟩
    exact ⟨name, stored, kept, same⟩
  · rintro ⟨name, stored, kept, same⟩
    exact ⟨name, stored, kept, accepts name stored kept _, same⟩

end Listing

end Library

end Patchbay
