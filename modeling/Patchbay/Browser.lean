import Patchbay.Definition.Tables
import Patchbay.Library.Basic

/-! The library browser: a list with a cursor, and one definition at a time. -/

namespace Patchbay

/-- What the browser shows. The cursor is outside the list when there is nothing to point at. -/
structure Browser where
  library : Library
  entries : List LibraryEntry
  cursor : Int
  /-- How many lines of the list are in view. -/
  height : Int
  /-- The definition that is open, if any. -/
  opened : Option Definition
  message : Bytes
  /-- Whether the last complaint has not been followed by a success yet. -/
  failed : Bool

namespace Browser

/-- The entry under the cursor. -/
def selected (browser : Browser) : Option LibraryEntry :=
  if browser.cursor < 0 then none else browser.entries[browser.cursor.toNat]?

/-- Whether a definition is open. -/
def showing (browser : Browser) : Bool := browser.opened.isSome

/-- Moves the cursor, but not beyond the ends of the list. -/
def moveTo (browser : Browser) (place : Int) : Browser :=
  { browser with cursor := min (max place 0) ((browser.entries.length : Int) - 1) }

/-- Lists the library anew; a cursor behind the last entry goes to it. -/
def reload (browser : Browser) (tree : FileTree) : Except LibraryError Browser := do
  let entries ← browser.library.list tree
  let browser := { browser with entries := entries }
  return if (entries.length : Int) ≤ browser.cursor && !entries.isEmpty then
    browser.moveTo ((entries.length : Int) - 1)
  else browser

/-- A browser at the top of the list. -/
def start (library : Library) (tree : FileTree) : Except LibraryError Browser :=
  reload ⟨library, [], 0, 11, none, [], false⟩ tree

/-- Shows a complaint. -/
def complain (browser : Browser) (message : Bytes) : Browser :=
  { browser with message := message, failed := true }

/-- Gives the list the room that a screen of some height has. -/
def resize (browser : Browser) (height : Int) : Browser :=
  { browser with height := max (height - 6) 1 - 2 }

/-- Opens the entry under the cursor. -/
def openSelected (browser : Browser) (tree : FileTree) : Browser :=
  match browser.selected with
  | none => browser
  | some entry =>
    match browser.library.load tree entry.name with
    | .ok definition => { browser with opened := some definition, message := [] }
    | .error error => browser.complain error.message

/-- Deletes the entry under the cursor. -/
def deleteSelected (browser : Browser) (tree : FileTree) : Browser × FileTree :=
  match browser.selected with
  | none => (browser, tree)
  | some entry =>
    match (browser.library.delete entry.name).run tree with
    | .error error tree => (browser.complain error.message, tree)
    | .ok () tree =>
      let browser := { browser with message := "deleted " ++ entry.name, failed := false }
      match browser.reload tree with
      | .ok browser => (browser, tree)
      | .error error => (browser.complain error.message, tree)

/-- The keys that quit. -/
def quitKeys : List Bytes := ["q", "ctrl+c"]

/-- The keys that go back to the list. -/
def backKeys : List Bytes := ["esc", "backspace"]

/-- How far a key moves the cursor, if it is one that moves it. -/
def motion? (browser : Browser) (key : Bytes) : Option Int :=
  let count : Int := browser.entries.length
  let motions : List (List Bytes × Int) := [
    (["up", "k"], -1), (["down", "j"], 1),
    (["b", "pgup"], -browser.height), (["f", "pgdown", " "], browser.height),
    (["u", "ctrl+u"], -browser.height.tdiv 2), (["d", "ctrl+d"], browser.height.tdiv 2),
    (["home", "g"], -browser.cursor), (["end", "G"], count)]
  (motions.find? fun (keys, _) => keys.contains key).map (·.2)

/-- Reacts to a key, and tells whether it quits. -/
def press (browser : Browser) (tree : FileTree) (key : Bytes) : Browser × FileTree × Bool :=
  if quitKeys.contains key then (browser, tree, true)
  else if browser.showing then
    (if backKeys.contains key then { browser with opened := none } else browser, tree, false)
  else if key = utf8 "enter" then (browser.openSelected tree, tree, false)
  else if key = utf8 "d" then
    let (browser, tree) := browser.deleteSelected tree
    (browser, tree, false)
  else
    match browser.motion? key with
    | some distance => (browser.moveTo (browser.cursor + distance), tree, false)
    | none => (browser, tree, false)

/-- The heading. -/
def title (browser : Browser) : Bytes := "synthdef library  " ++ browser.library.folder

/-- What stands in place of the list when there is nothing in it. -/
def emptyText : Bytes := "library is empty"

/-- Whether the browser says that the library is empty. -/
def saysEmpty (browser : Browser) : Bool := !browser.showing && browser.entries.isEmpty

/-- The line of an entry. -/
def entryLine (entry : LibraryEntry) : Bytes :=
  Screen.padRight 32 entry.name ++ " " ++ Screen.padLeft 8 (natText entry.size) ++ " " ++
    (if entry.compressed then utf8 "snappy" else utf8 "plain")

/-- The screen. -/
def view (browser : Browser) : Bytes :=
  let body := match browser.opened with
    | some definition => definition.tables
    | none =>
      if browser.entries.isEmpty then emptyText
      else
        Bytes.join "\n" (browser.entries.zipIdx.map fun ((entry, place) : LibraryEntry × Nat) =>
          (if place = browser.cursor then utf8 "> " else utf8 "  ") ++ entryLine entry)
  let message : Bytes := if browser.message.isEmpty then [] else browser.message ++ "\n"
  browser.title ++ "\n\n" ++ body ++ "\n" ++ message ++ "enter open • esc back • d delete • q quit"

end Browser

end Patchbay
