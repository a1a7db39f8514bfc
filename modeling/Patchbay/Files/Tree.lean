import Patchbay.Files.Path

/-! Files and folders as a value, with the operations that a program has on them and the ways they
fail. -/

namespace Patchbay

/-- What lies at a place. -/
inductive Place where
  | file (content : Bytes)
  | folder
  deriving DecidableEq, Repr

/-- A place by the names that lead to it from the root. -/
abbrev Location := List Bytes

/-- All files and folders, and the folder that relative paths start from. The root is always a
folder. -/
structure FileTree where
  home : Location
  places : List (Location × Place)
  deriving DecidableEq, Repr

/-- Why an operation on files fails. -/
inductive FileCause where
  | notFound
  | notFolder
  | isFolder
  | notEmpty
  | exists
  | nameTooLong
  | invalid
  | noSpace
  | deviceError
  deriving DecidableEq, Repr

/-- Why an operation fails, in words. -/
def FileCause.text : FileCause → Bytes
  | .notFound => "no such file or directory"
  | .notFolder => "not a directory"
  | .isFolder => "is a directory"
  | .notEmpty => "directory not empty"
  | .exists => "file exists"
  | .nameTooLong => "file name too long"
  | .invalid => "invalid argument"
  | .noSpace => "no space left on device"
  | .deviceError => "input/output error"

/-- An operation on files that failed, with the paths that it was given. -/
structure FileFailure where
  operation : Bytes
  paths : List Bytes
  cause : FileCause
  deriving DecidableEq, Repr

/-- A failed operation in words. -/
def FileFailure.message (failure : FileFailure) : Bytes :=
  Bytes.join " " (failure.operation :: failure.paths) ++ ": " ++ failure.cause.text

namespace FileTree

/-- The tree with nothing in it but a folder to start from. -/
def empty (home : Location) : FileTree :=
  ⟨home, (List.range home.length).map fun i => (home.take (i + 1), .folder)⟩

/-- What lies at a location. -/
def place? (tree : FileTree) (location : Location) : Option Place :=
  if location.isEmpty then some .folder else tree.places.lookup location

/-- Puts something at a location, in place of what was there. -/
def put (tree : FileTree) (location : Location) (place : Place) : FileTree :=
  if tree.places.any (·.1 == location) then
    { tree with
      places := tree.places.map fun entry => if entry.1 == location then (location, place)
        else entry }
  else { tree with places := tree.places ++ [(location, place)] }

/-- Takes away what lies at a location. -/
def erase (tree : FileTree) (location : Location) : FileTree :=
  { tree with places := tree.places.filter (·.1 != location) }

/-- The names directly inside a folder, in byte order, and what they are. -/
def children (tree : FileTree) (location : Location) : List (Bytes × Place) :=
  let inside := tree.places.filterMap fun (other, place) =>
    match other.getLast? with
    | some name => if other.dropLast == location then some (name, place) else none
    | none => none
  inside.mergeSort fun a b => Bytes.notAfter a.1 b.1

/-- The longest name that a file may have. -/
def nameLimit : Nat := 255

/-- The length from which on paths are refused. -/
def pathLimit : Nat := 4096

/-- One step along a path; only a folder can be stepped from. -/
def step (tree : FileTree) (location : Location) (name : Bytes) : Except FileCause Location :=
  match tree.place? location with
  | none => .error .notFound
  | some (.file _) => .error .notFolder
  | some .folder =>
    if name = [] || name = Path.here then .ok location
    else if name = Path.above then .ok location.dropLast
    else if nameLimit < name.length then .error .nameTooLong
    else .ok (location ++ [name])

/-- The location that a path leads to; all but its last name must be folders. -/
def resolve (tree : FileTree) (path : Bytes) : Except FileCause Location :=
  if path.isEmpty then .error .notFound
  else if path.contains 0 then .error .invalid
  else if pathLimit ≤ path.length then .error .nameTooLong
  else
    (Bytes.splitOn Path.slash path).foldlM tree.step
      (if Path.isAbsolute path then [] else tree.home)

/-- What a path leads to, and where it is. -/
def find (tree : FileTree) (path : Bytes) : Except FileCause (Location × Place) := do
  let location ← tree.resolve path
  match tree.place? location with
  | some place => return (location, place)
  | none => throw .notFound

/-- What a path leads to, if anything. -/
def at? (tree : FileTree) (path : Bytes) : Option Place := (tree.find path).toOption.map (·.2)

/-- Names the operation and the path that failed. -/
def failing {α : Type} (operation path : Bytes) : Except FileCause α → Except FileFailure α
  | .ok result => .ok result
  | .error cause => .error ⟨operation, [path], cause⟩

/-- The content of a file. -/
def read (tree : FileTree) (path : Bytes) : Except FileFailure Bytes := do
  match ← failing "open" path (tree.find path) with
  | (_, .file content) => return content
  | (_, .folder) => throw ⟨"read", [path], .isFolder⟩

/-- Writes a file, a new one or over an old one. -/
def write (tree : FileTree) (path content : Bytes) : Except FileFailure FileTree :=
  failing "open" path do
    let location ← tree.resolve path
    match tree.place? location with
    | some .folder => throw .isFolder
    | some (.file _) => return tree.put location (.file content)
    | none =>
      match tree.place? location.dropLast with
      | some .folder => return tree.put location (.file content)
      | some (.file _) => throw .notFolder
      | none => throw .notFound

/-- Makes one folder. -/
def makeFolder (tree : FileTree) (path : Bytes) : Except FileFailure FileTree :=
  failing "mkdir" path do
    let location ← tree.resolve (Path.dropSlashes path)
    match tree.place? location with
    | some _ => throw .exists
    | none => return tree.put location .folder

/-- The path before its last name and the slash before that. -/
def parentPath (path : Bytes) : Bytes :=
  ((Path.dropSlashes path).reverse.dropWhile (· != Path.slash)).tail.reverse

/-- Makes a folder and those above it, where they are missing. What was made stays when a later one
fails. -/
def makeFolders : Nat → Bytes → FileTree → Option FileFailure × FileTree
  | 0, _, tree => (none, tree)
  | fuel + 1, path, tree =>
    match tree.at? path with
    | some .folder => (none, tree)
    | some (.file _) => (some ⟨"mkdir", [path], .notFolder⟩, tree)
    | none =>
      let parent := parentPath path
      let (failure, tree) := if parent.isEmpty then (none, tree) else makeFolders fuel parent tree
      match failure with
      | some failure => (some failure, tree)
      | none =>
        match tree.makeFolder path with
        | .ok tree => (none, tree)
        | .error failure => if tree.at? path == some .folder then (none, tree)
            else (some failure, tree)

/-- Makes a folder and those above it, where they are missing. -/
def ensureFolder (tree : FileTree) (path : Bytes) : Option FileFailure × FileTree :=
  makeFolders (path.length + 1) path tree

/-- Writes a file after making the folders above it. -/
def writeBelow (tree : FileTree) (path content : Bytes) : Option FileFailure × FileTree :=
  let folder := Path.folder path
  let (failure, tree) := if folder = Path.here then (none, tree) else tree.ensureFolder folder
  match failure with
  | some failure => (some failure, tree)
  | none =>
    match tree.write path content with
    | .ok tree => (none, tree)
    | .error failure => (some failure, tree)

/-- The names inside a folder. -/
def list (tree : FileTree) (path : Bytes) : Except FileFailure (List (Bytes × Place)) := do
  match ← failing "open" path (tree.find path) with
  | (location, .folder) => return tree.children location
  | (_, .file _) => throw ⟨"readdirent", [path], .notFolder⟩

/-- Removes a file or an empty folder. -/
def remove (tree : FileTree) (path : Bytes) : Except FileFailure FileTree :=
  failing "remove" path do
    let (location, place) ← tree.find path
    if place == .folder && !(tree.children location).isEmpty then throw .notEmpty
    return tree.erase location

/-- Whether a location lies at or below another. -/
def below (top location : Location) : Bool := top.isPrefixOf location

/-- All that lies at or below a location, taken to another. -/
def relocate (tree : FileTree) (start goal : Location) : FileTree :=
  { tree with
    places := (tree.erase goal).places.map fun (location, place) =>
      (if below start location then goal ++ location.drop start.length else location, place) }

/-- Moves a file or a folder to another path, over a file that is there. -/
def move (tree : FileTree) (source target : Bytes) : Except FileFailure FileTree :=
  let failed {α : Type} : Except FileCause α → Except FileFailure α
    | .ok result => .ok result
    | .error cause => .error ⟨"rename", [source, target], cause⟩
  failed do
    let (start, place) ← tree.find source
    if tree.at? target == some .folder then throw .exists
    let goal ← tree.resolve target
    match tree.place? goal.dropLast, place with
    | some .folder, .file _ => return (tree.erase start).put goal place
    | some .folder, .folder =>
      if below start goal then throw .invalid else return tree.relocate start goal
    | some (.file _), _ => throw .notFolder
    | none, _ => throw .notFound

/-- Removes what a path leads to and all below it; nothing is also fine. -/
def removeAll (tree : FileTree) (path : Bytes) : FileTree :=
  match tree.resolve path with
  | .ok location => { tree with places := tree.places.filter fun entry => !below location entry.1 }
  | .error _ => tree

/-- The paths below the folder that relative paths start from, folders with a slash at the end, in
byte order. -/
def paths (tree : FileTree) : List Bytes :=
  let found := tree.places.filterMap fun (location, place) =>
    if below tree.home location && location != tree.home then
      let path := Bytes.join [Path.slash] (location.drop tree.home.length)
      some (if place == .folder then path ++ [Path.slash] else path)
    else none
  found.mergeSort Bytes.notAfter

end FileTree

end Patchbay
