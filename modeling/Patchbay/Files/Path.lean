import Patchbay.Text.Case

/-! Paths as text: names with slashes between them. -/

namespace Patchbay.Path

/-- The byte between the names of a path. -/
def slash : UInt8 := 47

/-- The byte that starts an extension. -/
def dot : UInt8 := 46

/-- The name that stands for the folder itself. -/
def here : Bytes := [dot]

/-- The name that stands for the folder above. -/
def above : Bytes := [dot, dot]

/-- Whether a path starts at the root. -/
def isAbsolute (path : Bytes) : Bool := path.head? == some slash

/-- Takes a name onto a stack of names, the last first: steps upward cancel the name before them,
and at the root they do nothing. -/
def push (absolute : Bool) (stack : List Bytes) (name : Bytes) : List Bytes :=
  if name = [] || name = here then stack
  else if name = above then
    match stack with
    | [] => if absolute then [] else [above]
    | last :: rest => if last = above then above :: stack else rest
  else name :: stack

/-- The shortest path with the same meaning, as far as the names tell. -/
def clean (path : Bytes) : Bytes :=
  let absolute := isAbsolute path
  let names := ((Bytes.splitOn slash path).foldl (push absolute) []).reverse
  let joined := Bytes.join [slash] names
  if absolute then slash :: joined else if joined.isEmpty then here else joined

/-- A path inside a folder. -/
def join (folder name : Bytes) : Bytes :=
  if folder.isEmpty then (if name.isEmpty then [] else clean name)
  else if name.isEmpty then clean folder
  else clean (folder ++ slash :: name)

/-- A path without the slashes at its end. -/
def dropSlashes (path : Bytes) : Bytes := (path.reverse.dropWhile (· == slash)).reverse

/-- The last name of a path. -/
def base (path : Bytes) : Bytes :=
  if path.isEmpty then here
  else
    let trimmed := dropSlashes path
    if trimmed.isEmpty then [slash] else (trimmed.reverse.takeWhile (· != slash)).reverse

/-- The folder that a path lies in. -/
def folder (path : Bytes) : Bytes := clean (path.reverse.dropWhile (· != slash)).reverse

/-- The last name of a path from its last dot on. -/
def extension (path : Bytes) : Bytes :=
  let name := path.reverse.takeWhile (· != slash)
  let tail := name.takeWhile (· != dot)
  if tail.length = name.length then [] else dot :: tail.reverse

/-- The extension in lower case, which decides the kind of a file. -/
def kind (path : Bytes) : Bytes := Text.lower (extension path)

end Patchbay.Path
