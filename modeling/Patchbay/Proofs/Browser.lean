import Patchbay.Browser
import Patchbay.Proofs.Library.Stock

/-! Browsing a folder that definitions were stored in. Whatever keys are pressed, the browser shows
what the library lists and points at one of its entries as long as there are any. Only the key that
deletes changes the library, and only in the list, where it takes away the entry that is pointed
at. -/

namespace Patchbay.Browser

variable {browser next : Browser} {library : Library} {tree : FileTree} {location : Location}
  {key : Bytes}
  {entries : List LibraryEntry} {entry : LibraryEntry}

/-- What comes of pressing keys one after the other, also those behind one that quits. -/
def pressAll : Browser → FileTree → List Bytes → Browser × FileTree
  | browser, tree, [] => (browser, tree)
  | browser, tree, key :: keys =>
    pressAll (browser.press tree key).1 (browser.press tree key).2.1 keys

section Keys

/-- The same list, in which the cursor is where it was or was moved. -/
structure Revisits (browser next : Browser) : Prop where
  library : next.library = browser.library
  entries : next.entries = browser.entries
  cursor : next.cursor = browser.cursor ∨ ∃ place, next.cursor = (browser.moveTo place).cursor

/-- Opening a definition, or failing to, leaves the list. -/
theorem revisits_openSelected : browser.Revisits (browser.openSelected tree) := by
  -- A definition that is loaded is put beside the list, and an error is only told.
  unfold openSelected
  split
  · exact ⟨rfl, rfl, .inl rfl⟩
  · split
    · exact ⟨rfl, rfl, .inl rfl⟩
    · exact ⟨rfl, rfl, .inl rfl⟩

/-- A definition that can be loaded is opened. -/
theorem openSelected_loaded {definition : Definition} (selected : browser.selected = some entry)
    (loaded : browser.library.load tree entry.name = .ok definition) :
    browser.openSelected tree = { browser with opened := some definition, message := [] } := by
  -- What is pointed at is what is loaded.
  simp only [openSelected, selected, loaded]

/-- In the list the key that opens opens. -/
theorem press_open (list : browser.showing = false) :
    browser.press tree (utf8 "enter") = (browser.openSelected tree, tree, false) := by
  -- It does not quit, and nothing is shown that it could go back from.
  have stays : quitKeys.contains (utf8 "enter") = false := by decide
  rw [press, stays, if_neg Bool.false_ne_true, list, if_neg Bool.false_ne_true, if_pos rfl]

/-- Where nothing is pointed at, nothing is deleted. -/
theorem deleteSelected_nothing (nothing : browser.selected = none) :
    browser.deleteSelected tree = (browser, tree) := by
  -- What is to be deleted is looked for first.
  rw [deleteSelected, nothing]

/-- In the list the key that deletes deletes. -/
theorem press_delete (list : browser.showing = false) : browser.press tree (utf8 "d") =
    ((browser.deleteSelected tree).1, (browser.deleteSelected tree).2, false) := by
  -- It is neither a key that quits nor the one that shows the entry.
  have stays : quitKeys.contains (utf8 "d") = false := by decide
  have other : utf8 "d" ≠ utf8 "enter" := by decide
  rw [press, stays, if_neg Bool.false_ne_true, list, if_neg Bool.false_ne_true, if_neg other,
    if_pos rfl]

/-- All that a key can do to the list, unless it deletes, is to move the cursor. -/
theorem press_revisits (tree : FileTree)
    (idle : browser.showing = true ∨ key ≠ utf8 "d" ∨ browser.selected = none) :
    browser.Revisits (browser.press tree key).1 ∧ (browser.press tree key).2.1 = tree := by
  have still : browser.Revisits browser := ⟨rfl, rfl, .inl rfl⟩
  unfold press
  -- The cases are those of the keys: to quit, to go back, to open, to delete, and to move.
  split
  · exact ⟨still, rfl⟩
  split
  · refine ⟨?_, rfl⟩
    split
    · exact ⟨rfl, rfl, .inl rfl⟩
    · exact still
  next list =>
    split
    · exact ⟨revisits_openSelected, rfl⟩
    split
    next deletes =>
      rcases idle with shown | other | nothing
      · exact absurd shown list
      · exact absurd deletes other
      · rw [deleteSelected_nothing nothing]
        exact ⟨still, rfl⟩
    · split
      · exact ⟨⟨rfl, rfl, .inr ⟨_, rfl⟩⟩, rfl⟩
      · exact ⟨still, rfl⟩

end Keys

section Pointing

/-- What is pointed at stands in the list at the cursor. -/
theorem selected_eq_some_iff : browser.selected = some entry ↔
    0 ≤ browser.cursor ∧ browser.entries[browser.cursor.toNat]? = some entry := by
  -- A cursor before the start points at nothing, and one behind the end finds nothing.
  unfold selected
  split
  next before => simp [Int.not_le.mpr before]
  next inside => simp [Int.not_lt.mp inside]

/-- What is pointed at is listed. -/
theorem mem_of_selected (selected : browser.selected = some entry) : entry ∈ browser.entries :=
  -- The cursor is at a place of the list.
  List.mem_of_getElem? (selected_eq_some_iff.mp selected).2

/-- A cursor that is inside the list whenever there is anything to point at. -/
def Points (browser : Browser) : Prop :=
  browser.entries ≠ [] → 0 ≤ browser.cursor ∧ browser.cursor < browser.entries.length

/-- With such a cursor an entry is pointed at exactly when there is one. -/
theorem Points.isSome_selected (points : browser.Points) :
    browser.selected.isSome = true ↔ browser.entries ≠ [] := by
  constructor
  · -- In an empty list there is nothing to find.
    intro some empty
    obtain ⟨entry, selected⟩ := Option.isSome_iff_exists.mp some
    have member := mem_of_selected selected
    rw [empty] at member
    cases member
  · -- The cursor is a place of the list.
    intro filled
    obtain ⟨start, stop⟩ := points filled
    have inside : browser.cursor.toNat < browser.entries.length := by omega
    rw [selected, if_neg (Int.not_lt.mpr start), List.getElem?_eq_getElem inside,
      Option.isSome_some]

/-- The cursor does not leave the list when it is moved. -/
theorem points_moveTo (place : Int) : (browser.moveTo place).Points := by
  intro filled
  -- A list with something in it has room between its ends.
  have room : 0 < browser.entries.length := List.length_pos_iff.mpr filled
  show 0 ≤ min (max place 0) ((browser.entries.length : Int) - 1) ∧
    min (max place 0) ((browser.entries.length : Int) - 1) < (browser.entries.length : Int)
  omega

/-- Nor does it when the same list is shown again. -/
theorem Points.revisit (points : browser.Points) (revisits : browser.Revisits next) :
    next.Points := by
  -- The list is the same, and the cursor is where it was or is moved to a place of it.
  intro filled
  rw [revisits.entries] at filled ⊢
  rcases revisits.cursor with same | ⟨place, moved⟩
  · rw [same]
    exact points filled
  · rw [moved]
    exact points_moveTo place filled

/-- Listing the library anew shows the list and leaves a cursor that was not before its start inside
it. -/
theorem reload_lists (browser : Browser) (listed : browser.library.list tree = .ok entries)
    (start : 0 ≤ browser.cursor) :
    ∃ next, browser.reload tree = .ok next ∧ next.library = browser.library ∧
      next.opened = browser.opened ∧
      next.entries = entries ∧ next.Points := by
  unfold reload
  rw [listed]
  -- The cursor goes back to the last entry if it is behind it, and stays where it is otherwise.
  by_cases behind : (entries.length : Int) ≤ browser.cursor ∧ entries ≠ []
  · refine ⟨moveTo { browser with entries := entries } ((entries.length : Int) - 1), ?_, rfl, rfl,
      rfl, ?_⟩
    · have holds : ((entries.length : Int) ≤ browser.cursor && !entries.isEmpty) = true := by
        simpa using behind
      show Except.ok (if _ then _ else _) = _
      rw [if_pos holds]
    · exact points_moveTo _
  · refine ⟨{ browser with entries := entries }, ?_, rfl, rfl, rfl, ?_⟩
    · have holds : ¬ ((entries.length : Int) ≤ browser.cursor && !entries.isEmpty) = true := by
        simpa using behind
      show Except.ok (if _ then _ else _) = _
      rw [if_neg holds]
    · intro filled
      refine ⟨start, ?_⟩
      show browser.cursor < entries.length
      -- Otherwise the cursor would have been moved.
      by_contra outside
      exact behind ⟨Int.not_lt.mp outside, filled⟩

end Pointing

/-- A browser of a library that shows what the library lists, from a folder that definitions are
stored in. -/
structure Shows (browser : Browser) (library : Library) (tree : FileTree) (location : Location) :
    Prop where
  same : browser.library = library
  found : tree.find library.folder = .ok (location, .folder)
  holds : ∃ shelf, tree.Holds location shelf
  listed : library.list tree = .ok browser.entries
  points : browser.Points

namespace Shows

variable (shows : browser.Shows library tree location)

include shows

/-- What only moves the cursor leaves the browser showing the library. -/
theorem revisit (revisits : browser.Revisits next) : next.Shows library tree location := by
  -- The library, its tree and the list are the same.
  refine ⟨revisits.library.trans shows.same, shows.found, shows.holds, ?_,
    shows.points.revisit revisits⟩
  rw [revisits.entries]
  exact shows.listed

/-- Deleting takes away the file of the entry that is pointed at, and the list is shown without
it. -/
theorem delete (selected : browser.selected = some entry) :
    ∃ next, browser.deleteSelected tree = (next, tree.erase (location ++ [entry.file])) ∧
      next.entries = browser.entries.erase entry ∧
      next.Shows library (tree.erase (location ++ [entry.file])) location := by
  obtain ⟨rfl, found, ⟨shelf, holds⟩, listed, -⟩ := shows
  have member := mem_of_selected selected
  have deleted := Library.delete_stocked found holds listed member
  have again := Library.list_erase found holds listed member
  have still :=
    (FileTree.Keeps.erase FileTree.inside_ne_nil (holds.ne_folder entry.file)).find found
  -- The list is read anew once the file is gone.
  obtain ⟨next, reloaded, kept, -, entries, points⟩ :=
    reload_lists { browser with message := "deleted " ++ entry.name, failed := false } again
      (selected_eq_some_iff.mp selected).1
  refine ⟨next, ?_, entries, kept, still, Library.holds_erased found holds listed member,
    entries ▸ again, points⟩
  rw [deleteSelected, selected]
  dsimp only
  rw [EStateM.run, deleted]
  dsimp only
  rw [reloaded]

/-- Whatever key is pressed, the browser goes on showing the library. -/
theorem press (key : Bytes) :
    (browser.press tree key).1.Shows library (browser.press tree key).2.1 location := by
  -- A key deletes what is pointed at, or does nothing but move the cursor.
  by_cases deletes : browser.showing = false ∧ key = utf8 "d" ∧ browser.selected ≠ none
  · obtain ⟨list, rfl, some⟩ := deletes
    obtain ⟨entry, selected⟩ := Option.ne_none_iff_exists'.mp some
    obtain ⟨next, deleted, -, shows⟩ := shows.delete selected
    rw [press_delete list, deleted]
    exact shows
  · have idle : browser.showing = true ∨ key ≠ utf8 "d" ∨ browser.selected = none := by
      by_contra active
      simp only [not_or, Bool.not_eq_true, not_not] at active
      exact deletes active
    obtain ⟨revisits, unchanged⟩ := press_revisits tree idle
    rw [unchanged]
    exact shows.revisit revisits

end Shows

/-- Whatever keys are pressed, the browser goes on showing the library. -/
theorem Shows.pressAll (shows : browser.Shows library tree location) (keys : List Bytes) :
    (browser.pressAll tree keys).1.Shows library (browser.pressAll tree keys).2 location := by
  -- Each key finds the browser and the library as the keys before it left them.
  induction keys generalizing browser tree with
  | nil => exact shows
  | cons key keys ih => exact ih (shows.press key)

/-- A browser starts with the list of the library. -/
theorem start_shows (found : tree.find library.folder = .ok (location, .folder))
    (holds : ∃ shelf, tree.Holds location shelf) (listed : library.list tree = .ok entries) :
    ∃ first, start library tree = .ok first ∧ first.showing = false ∧
      first.Shows library tree location := by
  -- It starts with no list and the cursor at its start, and reads the list once.
  obtain ⟨first, started, same, opened, rfl, points⟩ :=
    reload_lists ⟨library, [], 0, 11, none, [], false⟩ listed (Int.le_refl 0)
  exact ⟨first, started, by rw [showing, opened]; rfl, same, found, holds, listed, points⟩

/-- A browser of a folder that nothing but storing definitions has written to stays consistent with
the library. It starts with the list, and after any keys it has the entries that the library lists,
and points at one of them exactly when there is one. A key changes nothing in the library unless it
is the one that deletes, no definition is shown, and an entry is pointed at. Then that entry goes
from the list, its file goes from the folder, and all else stays as it is. -/
theorem browsing_consistent (stocked : tree.Stocked location)
    (found : tree.find library.folder = .ok (location, .folder)) :
    ∃ first, start library tree = .ok first ∧ first.showing = false ∧
      ∀ keys browser now, first.pressAll tree keys = (browser, now) →
        library.list now = .ok browser.entries ∧
        (browser.selected.isSome = true ↔ browser.entries ≠ []) ∧
        (∀ key, browser.showing = true ∨ key ≠ utf8 "d" ∨ browser.selected = none →
          (browser.press now key).2.1 = now) ∧
        ∀ entry, browser.showing = false → browser.selected = some entry →
          ∃ next later, browser.press now (utf8 "d") = (next, later, false) ∧
            next.entries = browser.entries.erase entry ∧ library.list later = .ok next.entries ∧
            ∀ other, later.place? other =
              if other = location ++ [entry.file] then none else now.place? other := by
  obtain ⟨shelf, holds⟩ := stocked.holds
  obtain ⟨entries, listed, -⟩ := Library.list_holds found holds
  obtain ⟨first, started, list, shows⟩ := start_shows found ⟨shelf, holds⟩ listed
  refine ⟨first, started, list, ?_⟩
  -- What the first key finds, all later ones find too.
  intro keys browser now pressed
  have shows : browser.Shows library now location := by
    have after := shows.pressAll keys
    rwa [pressed] at after
  refine ⟨shows.listed, shows.points.isSome_selected, fun key idle => (press_revisits now idle).2,
    ?_⟩
  intro entry hidden selected
  obtain ⟨next, deleted, entries, again⟩ := shows.delete selected
  refine ⟨next, _, ?_, entries, again.listed, FileTree.place?_erase FileTree.inside_ne_nil⟩
  rw [press_delete hidden, deleted]

end Patchbay.Browser

namespace Patchbay

section Studio

/-- What the plain library stores for a definition of a few nodes. -/
def diamondStored : Stored := plainLibrary.stored (Stream.fileBytes [diamondDefinition.raw])

/-- What the plain library stores for the definition of nothing. -/
def silenceStored : Stored := plainLibrary.stored (Stream.fileBytes [silence.raw])

/-- The two of them on a shelf. -/
def studioShelf : Shelf :=
  Function.update (Function.update (fun _ => none) (utf8 "silence") (some silenceStored))
    (utf8 "diamond") (some diamondStored)

/-- The definition of a few nodes can be written. -/
theorem diamond_encoded :
    Stream.encode false [diamondDefinition] = .ok (Stream.fileBytes [diamondDefinition.raw]) := by
  -- There is one definition, and it can be written.
  refine Stream.encode_eq_ok_iff.mpr ⟨by decide, ?_, rfl⟩
  intro definition member
  exact List.mem_singleton.mp member ▸ diamond_writable

/-- A folder in which both were stored. -/
theorem studio_stocked : ∃ tree : FileTree, tree.Stocked [utf8 "lib"] ∧
    plainLibrary.LiesAt tree [utf8 "lib"] ∧ tree.Holds [utf8 "lib"] studioShelf := by
  have empty : studio.Stocked [utf8 "lib"] := .empty rfl studio_shared.empty
  have nothing := FileTree.holds_nothing rfl studio_shared.empty
  obtain ⟨middle, first, renews⟩ := Library.save_renews studio_lies.1 nothing
    (rfl : Library.Storable (utf8 "silence")) (by decide) rfl (silence_encoded false)
  -- The second one finds the library as the first one left it.
  have lies := studio_lies.1.stays (renews.keeps nothing)
  have holds := renews.holds nothing (rfl : Library.Storable (utf8 "silence"))
  obtain ⟨tree, second, again⟩ := Library.save_renews lies holds
    (rfl : Library.Storable (utf8 "diamond")) (by decide) rfl diamond_encoded
  refine ⟨tree, .save (.save empty ⟨rfl, by decide, by decide⟩ first) ⟨lies.found, by decide,
    by decide⟩ second, lies.stays (again.keeps holds), again.holds holds rfl⟩

/-- What is on the shelf under a name is one of the two. -/
theorem studioShelf_eq_some_iff {name : Bytes} {stored : Stored} :
    studioShelf name = some stored ↔ name = utf8 "diamond" ∧ stored = diamondStored ∨
      name = utf8 "silence" ∧ stored = silenceStored := by
  -- The name is one of the two, which differ, or there is nothing under it.
  have apart : utf8 "diamond" ≠ utf8 "silence" := by decide
  unfold studioShelf
  by_cases first : name = utf8 "diamond"
  · rw [first, Function.update_self]
    simp [apart, eq_comm]
  · rw [Function.update_of_ne first]
    by_cases second : name = utf8 "silence"
    · rw [second, Function.update_self]
      simp [apart.symm, eq_comm]
    · rw [Function.update_of_ne second]
      simp [first, second]

section Listed

variable {tree : FileTree} (lies : plainLibrary.LiesAt tree [utf8 "lib"])
  (holds : tree.Holds [utf8 "lib"] studioShelf)

include lies holds

/-- The library lists both in the order of their names. -/
theorem studio_listed : plainLibrary.list tree =
    .ok [plainLibrary.entry (utf8 "diamond") diamondStored,
      plainLibrary.entry (utf8 "silence") silenceStored] := by
  obtain ⟨entries, listed, ascends, members⟩ := Library.list_holds lies.found holds
  have apart : utf8 "diamond" ≠ utf8 "silence" := by decide
  have same : entries.Perm [plainLibrary.entry (utf8 "diamond") diamondStored,
      plainLibrary.entry (utf8 "silence") silenceStored] := by
    rw [List.perm_ext_iff_of_nodup (Library.list_nodup lies.found holds.distinct listed)
      (by simp [Library.entry, apart])]
    intro entry
    rw [members, List.mem_cons, List.mem_singleton]
    constructor
    · rintro ⟨name, stored, kept, -, rfl⟩
      rcases studioShelf_eq_some_iff.mp kept with ⟨rfl, rfl⟩ | ⟨rfl, rfl⟩
      · exact .inl rfl
      · exact .inr rfl
    · rintro (rfl | rfl)
      · exact ⟨_, _, studioShelf_eq_some_iff.mpr (.inl ⟨rfl, rfl⟩), by decide, rfl⟩
      · exact ⟨_, _, studioShelf_eq_some_iff.mpr (.inr ⟨rfl, rfl⟩), by decide, rfl⟩
  -- Both are in the order of their names, which is strict.
  have ordered : utf8 "diamond" < utf8 "silence" := by decide
  rw [listed, same.eq_of_pairwise
    (fun a b _ _ less greater => absurd greater (List.lt_asymm less)) ascends
    (by simpa [Library.entry] using ordered)]

/-- The definition of a few nodes is loaded. -/
theorem studio_loaded : ∃ loaded, plainLibrary.load tree (utf8 "diamond") = .ok loaded := by
  -- What is stored is fetched, and it was written from a compiled definition.
  have fetched : plainLibrary.fetch tree (utf8 "diamond") =
      .ok (diamondStored.data, plainLibrary.pathOf (utf8 "diamond") diamondStored.compressed) :=
    Library.fetch_stored lies holds (studioShelf_eq_some_iff.mpr (.inl ⟨rfl, rfl⟩)) (by decide) rfl
  obtain ⟨loaded, found, -⟩ := Library.load_stored fetched
    (Definition.covered_of_compile diamond_compiled) rfl diamond_encoded
  exact ⟨loaded, found⟩

end Listed

/-- A browser of the folder, with the cursor at the first of the two. -/
def studioBrowser : Browser :=
  ⟨plainLibrary, [plainLibrary.entry (utf8 "diamond") diamondStored,
    plainLibrary.entry (utf8 "silence") silenceStored], 0, 11, none, [], false⟩

/-- While the first definition is shown, the key that deletes does nothing. In the list that key
takes it away, and the other definition stays where it was. -/
theorem studio_browsed : ∃ tree shown next later, tree.Stocked [utf8 "lib"] ∧
    Browser.start plainLibrary tree = .ok studioBrowser ∧
    studioBrowser.press tree (utf8 "enter") = (shown, tree, false) ∧ shown.showing = true ∧
    (shown.press tree (utf8 "d")).2.1 = tree ∧
    studioBrowser.press tree (utf8 "d") = (next, later, false) ∧
    next.entries = [plainLibrary.entry (utf8 "silence") silenceStored] ∧
    plainLibrary.list later = .ok next.entries ∧
    later.place? [utf8 "lib", utf8 "diamond.scsyndef"] = none ∧
    later.place? [utf8 "lib", utf8 "silence.scsyndef"] =
      tree.place? [utf8 "lib", utf8 "silence.scsyndef"] := by
  obtain ⟨tree, stocked, lies, holds⟩ := studio_stocked
  obtain ⟨loaded, found⟩ := studio_loaded lies holds
  obtain ⟨first, started, list, consistent⟩ := Browser.browsing_consistent stocked lies.found
  -- The browser starts with both entries.
  obtain rfl : first = studioBrowser := by
    rw [Browser.start, Browser.reload, studio_listed lies holds] at started
    exact (Except.ok.inj started).symm
  obtain ⟨-, -, -, deletes⟩ := consistent [] _ tree rfl
  obtain ⟨next, later, pressed, left, again, others⟩ := deletes _ list rfl
  -- The first one is opened, and nothing can be deleted then.
  have opens : studioBrowser.press tree (utf8 "enter") =
      (studioBrowser.openSelected tree, tree, false) := Browser.press_open list
  rw [Browser.openSelected_loaded rfl found] at opens
  obtain ⟨-, -, idle, -⟩ := consistent [utf8 "enter"] _ tree
    (by rw [Browser.pressAll, opens]; rfl)
  refine ⟨tree, _, next, later, stocked, started, opens, rfl, idle _ (.inl rfl), pressed, ?_, again,
    ?_, ?_⟩
  · exact left.trans (List.erase_cons_head _ _)
  · exact (others _).trans (if_pos rfl)
  · exact (others _).trans (if_neg (by decide))

end Studio

end Patchbay
