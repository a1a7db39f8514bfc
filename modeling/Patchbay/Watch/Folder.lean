import Patchbay.Files.Tree
import Patchbay.Watch.Basic

/-! What is reported of changes to the files of a folder. Only the files and folders directly in it
count. -/

namespace Patchbay

/-- A change to files. -/
inductive FileEdit where
  /-- Writes a file and makes the folders above it. -/
  | write (path content : Bytes)
  /-- Removes a file, or a folder with all that is below. -/
  | remove (path : Bytes)
  | move (source target : Bytes)
  deriving DecidableEq, Repr

/-- The files after an edit, and the path that it gave new content or put a file at. An edit that
fails may have done a part. -/
def FileTree.edit (tree : FileTree) : FileEdit → FileTree × Option Bytes
  | .write path content =>
    match tree.writeBelow path content with
    | (none, tree) => (tree, some path)
    | (some _, tree) => (tree, none)
  | .remove path => (tree.removeAll path, none)
  | .move source target =>
    match tree.move source target with
    | .ok moved => (moved, if source = target then none else some target)
    | .error _ => (tree, none)

/-- How a file disappears by an edit. -/
def FileEdit.lossKind : FileEdit → ChangeKind
  | .move _ _ => .rename
  | _ => .remove

/-- How a file that was there before is changed by an edit. -/
def FileEdit.targetKind : FileEdit → ChangeKind
  | .move _ _ => .create
  | _ => .write

/-- A watched folder, if it is still there. -/
structure FolderWatch where
  path : Bytes
  location : Option Location
  deriving DecidableEq, Repr

namespace FolderWatch

/-- Starts to watch what is at a path. -/
def start (tree : FileTree) (path : Bytes) : Except FileCause FolderWatch := do
  let (location, _) ← tree.find (Path.clean path)
  return ⟨Path.clean path, some location⟩

/-- The names directly in a watched folder. -/
def names (tree : FileTree) (location : Location) : List Bytes := (tree.children location).map (·.1)

/-- What is reported of an edit, and the files after it. -/
def edit (watch : FolderWatch) (before : FileTree) (edit : FileEdit) :
    FolderWatch × FileTree × List FileChange :=
  let (after, target) := before.edit edit
  match watch.location with
  | none => (watch, after, [])
  | some location =>
    if (after.place? location).isNone then
      ({ watch with location := none }, after, [⟨watch.path, [edit.lossKind]⟩])
    else
      let report (kind : ChangeKind) (name : Bytes) : FileChange :=
        ⟨Path.join watch.path name, [kind]⟩
      let (old, new) := (names before location, names after location)
      let kept := match target.bind fun path => (after.resolve path).toOption with
        | some target => (old.filter new.contains).filter fun name => location ++ [name] == target
        | none => []
      (watch, after, (old.filter fun name => !new.contains name).map (report edit.lossKind) ++
        (new.filter fun name => !old.contains name).map (report .create) ++
        kept.map (report edit.targetKind))

/-- What is reported of edits one after another. -/
def follow : FolderWatch → FileTree → List FileEdit → List FileChange
  | _, _, [] => []
  | watch, tree, edit :: edits =>
    let (watch, tree, changes) := watch.edit tree edit
    changes ++ follow watch tree edits

end FolderWatch

end Patchbay
