import Patchbay.Proofs.Files.Path
import Patchbay.Proofs.Files.Tree

/-! Where paths lead. The path of a file in a folder leads to its name in that folder, cleaned or
not, and a path leads where it led as long as no folder goes away. What an operation does is said of
the location that its path leads to. -/

namespace Patchbay.FileTree

variable {tree later : FileTree} {location : Location} {place : Place} {path file content : Bytes}

section Paths

/-- Where a path starts. -/
def start (tree : FileTree) (path : Bytes) : Location :=
  if Path.isAbsolute path then [] else tree.home

/-- Only a folder can be stepped from. -/
theorem place?_of_step {name : Bytes} {next : Location}
    (stepped : tree.step location name = .ok next) :
    tree.place? location = some .folder := by
  -- From a file and from nothing a step fails.
  unfold step at stepped
  split at stepped
  · cases stepped
  · cases stepped
  next folder => exact folder

/-- A name that says nothing leads nowhere else. -/
theorem step_silent {name : Bytes} {next : Location} (silent : name = [] ∨ name = Path.here)
    (stepped : tree.step location name = .ok next) : next = location := by
  -- In a folder, such a name is the first that a step looks for.
  have folder := place?_of_step stepped
  simp only [step, folder, Bool.or_eq_true, decide_eq_true_eq, if_pos silent] at stepped
  exact (Except.ok.inj stepped).symm

/-- A step upward leads to the folder above. -/
theorem step_above {next : Location} (stepped : tree.step location Path.above = .ok next) :
    next = location.dropLast := by
  -- In a folder, the name for the folder above is told apart from all others.
  have folder := place?_of_step stepped
  simp only [step, folder] at stepped
  exact (Except.ok.inj stepped).symm

/-- A name that says something other than to go upward leads into the folder. -/
theorem step_inward {name : Bytes} {next : Location} (heard : name ≠ [] ∧ name ≠ Path.here)
    (inward : name ≠ Path.above)
    (stepped : tree.step location name = .ok next) : next = location ++ [name] := by
  -- In a folder, any other name is followed unless it is too long.
  have folder := place?_of_step stepped
  simp only [step, folder, heard.1, heard.2, inward, decide_false, Bool.or_self, Bool.false_eq_true,
    if_false] at stepped
  split at stepped
  · cases stepped
  · exact (Except.ok.inj stepped).symm

/-- One more name leads on from where the names before it lead. -/
theorem foldlM_concat {names : List Bytes} {origin here : Location}
    (walked : names.foldlM tree.step origin = .ok here) (name : Bytes) :
    (names ++ [name]).foldlM tree.step origin = tree.step here name := by
  -- The walk over the names ends with a step by the last.
  rw [List.foldlM_append, walked]
  show (tree.step here name >>= pure) = tree.step here name
  rw [bind_pure]

/-- Taking one more name onto the stack leads where stepping along it leads. -/
theorem foldlM_push {absolute : Bool} {stack : List Bytes} {origin here next : Location}
    {name : Bytes}
    (rooted : absolute = true → origin = [])
    (heard : ∀ other ∈ stack, other ≠ [] ∧ other ≠ Path.here)
    (walked : stack.reverse.foldlM tree.step origin = .ok here)
    (stepped : tree.step here name = .ok next) :
    (Path.push absolute stack name).reverse.foldlM tree.step origin = .ok next := by
  have longer : ∀ {last}, tree.step here last = .ok next →
      (last :: stack).reverse.foldlM tree.step origin = .ok next := by
    intro last step
    rw [List.reverse_cons, foldlM_concat walked, step]
  unfold Path.push
  -- The cases are those of taking a name onto the stack.
  by_cases silent : name = [] ∨ name = Path.here
  · rw [if_pos (by simpa using silent), walked, step_silent silent stepped]
  rw [if_neg (by simpa using silent)]
  by_cases up : name = Path.above
  · subst up
    rw [if_pos rfl]
    cases stack with
    | nil =>
      obtain rfl : origin = here := Except.ok.inj walked
      cases absolute with
      | false => exact longer stepped
      | true =>
        -- At the root there is nothing above.
        rw [step_above stepped, rooted rfl]
        rfl
    | cons last rest =>
      by_cases chained : last = Path.above
      · simp only [if_pos chained]
        exact longer stepped
      · -- The step upward takes back the step that led here.
        simp only [if_neg chained]
        rw [List.reverse_cons] at walked
        cases before : rest.reverse.foldlM tree.step origin with
        | error cause => rw [List.foldlM_append, before] at walked; cases walked
        | ok previous =>
          rw [foldlM_concat before] at walked
          rw [step_above stepped, step_inward (heard last List.mem_cons_self) chained walked,
            List.dropLast_concat]
  · rw [if_neg up]
    exact longer stepped

/-- The names that are left of a path after cleaning lead where all its names lead. -/
theorem foldlM_foldl_push {absolute : Bool} {stack names : List Bytes} {origin here goal : Location}
    (rooted : absolute = true → origin = [])
    (heard : ∀ other ∈ stack, other ≠ [] ∧ other ≠ Path.here)
    (walked : stack.reverse.foldlM tree.step origin = .ok here)
    (goes : names.foldlM tree.step here = .ok goal) :
    (names.foldl (Path.push absolute) stack).reverse.foldlM tree.step origin = .ok goal := by
  induction names generalizing stack here with
  | nil =>
    obtain rfl : here = goal := Except.ok.inj goes
    exact walked
  | cons name names ih =>
    rw [List.foldlM_cons] at goes
    cases stepped : tree.step here name with
    | error cause => rw [stepped] at goes; cases goes
    | ok next =>
      rw [stepped] at goes
      -- The stack leads to where the step leads, from where the other names go on.
      refine ih ?_ (foldlM_push rooted heard walked stepped) goes
      intro other kept
      rcases Path.mem_push kept with old | ⟨-, said⟩
      · exact heard other old
      · exact said

/-- A path that leads somewhere is none that is refused, and its names lead there from its start. -/
theorem resolve_eq_ok_iff : tree.resolve path = .ok location ↔
    path ≠ [] ∧ 0 ∉ path ∧ path.length < pathLimit ∧
      (Bytes.splitOn Path.slash path).foldlM tree.step (tree.start path) = .ok location := by
  -- The refusals are tried one after the other, and behind them only the walk is left.
  unfold resolve start
  by_cases empty : path = []
  · simp [empty]
  by_cases zero : (0 : UInt8) ∈ path
  · simp [empty, zero]
  by_cases long : pathLimit ≤ path.length
  · simp [empty, zero, long, Nat.not_lt.mpr long]
  · simp [empty, zero, long, Nat.lt_of_not_le long]

/-- The names of a folder's path that are left after cleaning lead to the folder. -/
theorem foldlM_stack (resolved : tree.resolve path = .ok location) :
    (Path.stack path).reverse.foldlM tree.step (tree.start path) = .ok location := by
  -- Cleaning drops only names that lead nowhere else or back out of a folder.
  obtain ⟨-, -, -, walked⟩ := resolve_eq_ok_iff.mp resolved
  refine foldlM_foldl_push ?_ (fun other kept => by cases kept) rfl walked
  intro absolute
  rw [start, if_pos absolute]

/-- What is found at the end of a path lies where the path leads. -/
theorem find_eq_ok_iff :
    tree.find path = .ok (location, place) ↔ tree.resolve path = .ok location ∧
      tree.place? location = some place := by
  -- Finding resolves the path and then looks at the place.
  unfold find
  cases tree.resolve path with
  | error cause => simp [bind, Except.bind]
  | ok goal =>
    cases held : tree.place? goal with
    | none => simp [bind, Except.bind, held]; grind
    | some other => simp [bind, Except.bind, pure, Except.pure, held]; grind

/-- A name that a file can have leads into the folder, unless it is too long. -/
theorem step_ordinary (folder : tree.place? location = some .folder)
    (ordinary : Path.Ordinary file) :
    tree.step location file = if nameLimit < file.length then .error .nameTooLong
      else .ok (location ++ [file]) := by
  -- The name is none of those that a step treats in a way of their own.
  simp [step, folder, ordinary.nonempty, ordinary.notHere, ordinary.notAbove]

variable (found : tree.find path = .ok (location, .folder)) (ordinary : Path.Ordinary file)

include found ordinary

/-- The cleaned path of a file in a folder leads to the name of the file in the folder. -/
theorem resolve_join :
    tree.resolve (Path.join path file) =
      if pathLimit ≤ (Path.join path file).length then .error .nameTooLong
        else tree.step location file := by
  obtain ⟨resolved, -⟩ := find_eq_ok_iff.mp found
  obtain ⟨given, nonzero, -⟩ := resolve_eq_ok_iff.mp resolved
  have walked : (Path.way path file).foldlM tree.step (tree.start path) = tree.step location file :=
    foldlM_concat (foldlM_stack resolved) file
  have pieces : (Bytes.splitOn Path.slash (Path.join path file)).foldlM tree.step
    (tree.start path) =
      tree.step location file := by
    rw [Path.splitOn_join given ordinary]
    split
    next absolute =>
      -- The empty name before the first slash stays at the root.
      rw [start, if_pos absolute] at walked ⊢
      exact walked
    · exact walked
  have filled := Path.join_ne_nil given ordinary
  have readable : 0 ∉ Path.join path file := by
    intro zero
    rcases Path.mem_join given ordinary zero with between | folder | last
    · exact absurd between (by decide)
    · exact nonzero folder
    · exact ordinary.nonzero last
  rw [start, ← Path.isAbsolute_join given ordinary] at pieces
  simp [resolve, filled, readable, pieces]

/-- The path of a file behind that of a folder leads to the name of the file in the folder. -/
theorem resolve_append :
    tree.resolve (path ++ Path.slash :: file) =
      if pathLimit ≤ (path ++ Path.slash :: file).length then .error .nameTooLong
        else tree.step location file := by
  -- Cut at the slashes, the longer path has one more name, which is stepped by last.
  obtain ⟨resolved, -⟩ := find_eq_ok_iff.mp found
  obtain ⟨given, nonzero, -, walked⟩ := resolve_eq_ok_iff.mp resolved
  have pieces : (Bytes.splitOn Path.slash (path ++ Path.slash :: file)).foldlM tree.step
      (tree.start path) = tree.step location file := by
    rw [Bytes.splitOn_append, Bytes.splitOn_of_notMem ordinary.whole, foldlM_concat walked]
  have readable : 0 ∉ path ++ Path.slash :: file := by
    intro zero
    rcases List.mem_append.mp zero with folder | rest
    · exact nonzero folder
    · rcases List.mem_cons.mp rest with between | last
      · exact absurd between (by decide)
      · exact ordinary.nonzero last
  rw [start, ← Path.isAbsolute_append given (Path.slash :: file)] at pieces
  simp only [resolve, List.isEmpty_eq_false_iff.mpr (List.append_ne_nil_of_left_ne_nil given _),
    Bool.false_eq_true, if_false, List.contains_eq_mem, readable, decide_false, pieces]

end Paths

section Operations

/-- Nothing is found at the end of a path that leads to where nothing is. -/
theorem find_nothing (resolved : tree.resolve path = .ok location)
    (absent : tree.place? location = none) :
    tree.find path = .error .notFound := by
  -- The path is resolved, and the look at the place fails.
  simp only [find, resolved, bind, Except.bind, absent]
  rfl

/-- What a path leads to is what lies there. -/
theorem at?_of_resolve (resolved : tree.resolve path = .ok location) :
    tree.at? path = tree.place? location := by
  -- Either nothing is there to find, or what is there is found.
  cases held : tree.place? location with
  | none => rw [at?, find_nothing resolved held]; rfl
  | some place => rw [at?, find_eq_ok_iff.mpr ⟨resolved, held⟩]; rfl

/-- A path leads to what lies where it leads. -/
theorem at?_eq_some_iff :
    tree.at? path = some place ↔ ∃ location, tree.resolve path = .ok location ∧
      tree.place? location = some place := by
  -- A path that cannot be resolved leads to nothing.
  cases resolved : tree.resolve path with
  | error cause => simp [at?, find, resolved, bind, Except.bind, Except.toOption]
  | ok location => simp [at?_of_resolve resolved]

/-- A path that leads nowhere, or to where nothing is, leads to nothing. -/
theorem at?_eq_none
    (absent : ∀ location, tree.resolve path = .ok location → tree.place? location = none) :
    tree.at? path = none := by
  -- Anything that it led to would lie at some location.
  rw [Option.eq_none_iff_forall_ne_some]
  intro place held
  obtain ⟨location, resolved, placed⟩ := at?_eq_some_iff.mp held
  rw [absent location resolved] at placed
  cases placed

/-- What the path of a file behind that of a folder leads to is what lies in the folder under its
name, unless the path or the name is too long. -/
theorem at?_append (found : tree.find path = .ok (location, .folder))
    (ordinary : Path.Ordinary file) :
    tree.at? (path ++ Path.slash :: file) =
      if file.length ≤ nameLimit ∧ (path ++ Path.slash :: file).length < pathLimit then
        tree.place? (location ++ [file])
      else none := by
  obtain ⟨-, folder⟩ := find_eq_ok_iff.mp found
  have leads := resolve_append found ordinary
  rw [step_ordinary folder ordinary] at leads
  -- The path leads into the folder exactly when both lengths are allowed.
  split
  next allowed =>
    rw [if_neg (Nat.not_le.mpr allowed.2), if_neg (Nat.not_lt.mpr allowed.1)] at leads
    exact at?_of_resolve leads
  next refused =>
    refine at?_eq_none fun other resolved => absurd ?_ refused
    rw [resolved] at leads
    split at leads
    · cases leads
    · split at leads
      · cases leads
      · exact ⟨by omega, by omega⟩

/-- A folder is listed as what it holds. -/
theorem list_folder (found : tree.find path = .ok (location, .folder)) :
    tree.list path = .ok (tree.children location) := by
  -- Listing finds the folder first.
  unfold list
  rw [found]
  rfl

/-- A folder that is there is not made. -/
theorem ensureFolder_folder (found : tree.find path = .ok (location, .folder)) :
    tree.ensureFolder path = (none, tree) := by
  -- The path is looked up before any folder is made.
  have there : tree.at? path = some .folder := by
    rw [at?, found]
    rfl
  simp only [ensureFolder, makeFolders, there]

/-- A file is removed from where it lies. -/
theorem remove_file (resolved : tree.resolve path = .ok location)
    (held : tree.place? location = some (.file content)) :
    tree.remove path = .ok (tree.erase location) := by
  -- Removing finds the file first, and a file holds nothing that could be in the way.
  unfold remove
  rw [find_eq_ok_iff.mpr ⟨resolved, held⟩]
  rfl

/-- A folder is removed when nothing is in it. -/
theorem remove_folder (resolved : tree.resolve path = .ok location)
    (held : tree.place? location = some .folder) :
    tree.remove path =
      if tree.children location = [] then .ok (tree.erase location)
        else .error ⟨"remove", [path], .notEmpty⟩ := by
  -- The folder is found, and what it holds decides.
  simp only [remove, find_eq_ok_iff.mpr ⟨resolved, held⟩, bind, Except.bind]
  cases tree.children location with
  | nil => rfl
  | cons child others => rfl

/-- Where nothing lies nothing is removed. -/
theorem remove_nothing (resolved : tree.resolve path = .ok location)
    (absent : tree.place? location = none) :
    tree.remove path = .error ⟨"remove", [path], .notFound⟩ := by
  -- Removing looks for the place first and finds none.
  unfold remove
  rw [find_nothing resolved absent]
  rfl

/-- A file is written into a folder where no folder stands in its place. -/
theorem write_inside (resolved : tree.resolve path = .ok (location ++ [file]))
    (folder : tree.place? location = some .folder)
    (free : tree.place? (location ++ [file]) ≠ some .folder)
    (content : Bytes) : tree.write path content =
      .ok (tree.put (location ++ [file]) (.file content)) := by
  -- The place is free or holds a file, and in both cases the folder around it is there.
  simp only [write, resolved, bind, Except.bind]
  cases held : tree.place? (location ++ [file]) with
  | none => simp only [List.dropLast_concat, folder]; rfl
  | some place =>
    cases place with
    | folder => exact absurd held free
    | file old => rfl

/-- A file that was just made is written where its path leads. -/
theorem write_made (resolved : tree.resolve path = .ok location)
    (held : tree.place? location = some (.file content)) (more : Bytes) :
    tree.write path more = .ok (tree.put location (.file more)) := by
  -- A file is there already.
  simp only [write, resolved, bind, Except.bind, held]
  rfl

/-- A file is moved into a folder where no folder stands in its place. -/
theorem move_inside {source target : Bytes} {origin : Location}
    (resolved : tree.resolve source = .ok origin)
    (held : tree.place? origin = some (.file content))
    (goal : tree.resolve target = .ok (location ++ [file]))
    (folder : tree.place? location = some .folder)
    (free : tree.place? (location ++ [file]) ≠ some .folder) :
    tree.move source target =
      .ok ((tree.erase origin).put (location ++ [file]) (.file content)) := by
  -- Once the goal is seen not to be a folder, the content goes from one place to the other.
  have clear : (tree.at? target == some .folder) = false := by
    rw [at?_of_resolve goal]
    exact beq_false_of_ne free
  simp only [move, find_eq_ok_iff.mpr ⟨resolved, held⟩, goal, bind, Except.bind, clear,
    List.dropLast_concat, folder]
  rfl

end Operations

section Keeps

/-- A later tree in which paths start where they did and every folder is still there. -/
structure Keeps (tree later : FileTree) : Prop where
  home : later.home = tree.home
  folders : ∀ location, tree.place? location = some .folder → later.place? location = some .folder

namespace Keeps

/-- Nothing happened. -/
theorem refl (tree : FileTree) : Keeps tree tree := ⟨rfl, fun _ folder => folder⟩

/-- What is kept twice is kept. -/
theorem trans {last : FileTree} (first : Keeps tree later) (second : Keeps later last) :
    Keeps tree last :=
  -- A folder is kept by the first change and then by the second.
  ⟨second.home.trans first.home,
    fun location folder => second.folders location (first.folders location folder)⟩

/-- Putting a file where there is no folder keeps all folders. -/
theorem put (inner : location ≠ []) (free : tree.place? location ≠ some .folder) (place : Place) :
    Keeps tree (tree.put location place) := by
  -- A folder lies elsewhere, where nothing is put.
  refine ⟨home_put, ?_⟩
  intro other folder
  have apart : other ≠ location := by
    rintro rfl
    exact free folder
  rw [place?_put inner, if_neg apart, folder]

/-- Erasing what is no folder keeps all folders. -/
theorem erase (inner : location ≠ []) (free : tree.place? location ≠ some .folder) :
    Keeps tree (tree.erase location) := by
  -- A folder lies elsewhere, where nothing is erased.
  refine ⟨home_erase, ?_⟩
  intro other folder
  have apart : other ≠ location := by
    rintro rfl
    exact free folder
  rw [place?_erase inner, if_neg apart, folder]

variable (keeps : Keeps tree later)

include keeps

/-- A step leads where it led. -/
theorem step {name : Bytes} {next : Location} (stepped : tree.step location name = .ok next) :
    later.step location name = .ok next := by
  -- A step looks only at the folder that it starts in, which is still there.
  have folder := place?_of_step stepped
  unfold FileTree.step at stepped ⊢
  rw [keeps.folders location folder]
  rwa [folder] at stepped

/-- Names lead where they led. -/
theorem foldlM {names : List Bytes} {origin : Location}
    (walked : names.foldlM tree.step origin = .ok location) :
    names.foldlM later.step origin = .ok location := by
  -- Each step starts in a folder, and the steps are taken in turn.
  induction names generalizing origin with
  | nil => exact walked
  | cons name names ih =>
    rw [List.foldlM_cons] at walked ⊢
    cases stepped : tree.step origin name with
    | error cause => rw [stepped] at walked; cases walked
    | ok next =>
      rw [stepped] at walked
      rw [keeps.step stepped]
      exact ih walked

/-- A path leads where it led. -/
theorem resolve (resolved : tree.resolve path = .ok location) :
    later.resolve path = .ok location := by
  -- The refusals look at the path alone, and the walk starts and goes on as before.
  obtain ⟨given, nonzero, short, walked⟩ := resolve_eq_ok_iff.mp resolved
  refine resolve_eq_ok_iff.mpr ⟨given, nonzero, short, ?_⟩
  rw [start, keeps.home]
  exact keeps.foldlM walked

/-- A folder is found where it was. -/
theorem find (found : tree.find path = .ok (location, .folder)) :
    later.find path = .ok (location, .folder) := by
  -- The path leads there still, and the folder is still there.
  obtain ⟨resolved, folder⟩ := find_eq_ok_iff.mp found
  exact find_eq_ok_iff.mpr ⟨keeps.resolve resolved, keeps.folders location folder⟩

end Keeps

end Keeps

end Patchbay.FileTree
