import Patchbay.Files.Path
import Patchbay.Proofs.Bytes

/-! The path of a file inside a folder: its names are those of the folder that are left after
cleaning, and then the name of the file. -/

namespace Patchbay.Path

/-- A name that a file can have, as far as its length allows. -/
structure Ordinary (name : Bytes) : Prop where
  nonempty : name ≠ []
  notHere : name ≠ here
  notAbove : name ≠ above
  whole : slash ∉ name
  nonzero : 0 ∉ name

/-- The names of a path that are left after cleaning, the last first. -/
def stack (path : Bytes) : List Bytes :=
  (Bytes.splitOn slash path).foldl (push (isAbsolute path)) []

variable {absolute : Bool} {names : List Bytes} {name other : Bytes}

/-- An ordinary name is kept, whatever stands before it. -/
theorem push_ordinary (ordinary : Ordinary name) : push absolute names name = name :: names := by
  -- It is none of the names that are not kept.
  simp [push, ordinary.nonempty, ordinary.notHere, ordinary.notAbove]

/-- What one name leaves on the stack was there, or is that name and says something. -/
theorem mem_push (kept : other ∈ push absolute names name) :
    other ∈ names ∨ other = name ∧ other ≠ [] ∧ other ≠ here := by
  unfold push at kept
  split at kept
  · exact .inl kept
  next heard =>
    rw [Bool.or_eq_true, not_or, decide_eq_true_eq, decide_eq_true_eq] at heard
    split at kept
    next up =>
      -- A step upward only takes names away, unless there is none to take.
      cases names with
      | nil => cases absolute <;> simp_all
      | cons last rest => grind
    · rcases List.mem_cons.mp kept with rfl | old
      · exact .inr ⟨rfl, heard⟩
      · exact .inl old

/-- All that is left on the stack was there or is one of the names, and says something. -/
theorem mem_foldl_push {more : List Bytes} (kept : other ∈ more.foldl (push absolute) names) :
    other ∈ names ∨ other ∈ more ∧ other ≠ [] ∧ other ≠ here := by
  -- The names are pushed in turn.
  induction more generalizing names with
  | nil => exact .inl kept
  | cons name more ih =>
    rcases ih kept with pushed | ⟨later, heard⟩
    · rcases mem_push pushed with old | ⟨rfl, heard⟩
      · exact .inl old
      · exact .inr ⟨List.mem_cons_self, heard⟩
    · exact .inr ⟨List.mem_cons_of_mem _ later, heard⟩

/-- Every name that is left of a path is one of its pieces, and says something. -/
theorem mem_stack {path : Bytes} (kept : other ∈ stack path) :
    other ∈ Bytes.splitOn slash path ∧ other ≠ [] ∧ other ≠ here := by
  -- The stack starts empty.
  rcases mem_foldl_push kept with old | found
  · cases old
  · exact found

section Length

/-- The bytes of names, with one more for what separates each from the next. -/
def extent (names : List Bytes) : Nat := names.foldr (fun name rest => name.length + 1 + rest) 0

/-- One more name adds its bytes and a separator. -/
theorem extent_cons (name : Bytes) (names : List Bytes) :
    extent (name :: names) = name.length + 1 + extent names := rfl

/-- The extents of two lists of names add up. -/
theorem extent_append (names more : List Bytes) :
    extent (names ++ more) = extent names + extent more := by
  -- The names of the first list are added one by one.
  induction names with
  | nil => exact (Nat.zero_add _).symm
  | cons name names ih => rw [List.cons_append, extent_cons, extent_cons, ih, ← Nat.add_assoc]

/-- The order of names does not matter to their extent. -/
theorem extent_reverse (names : List Bytes) : extent names.reverse = extent names := by
  -- The first name is added last.
  induction names with
  | nil => rfl
  | cons name names ih =>
    rw [List.reverse_cons, extent_append, ih, extent_cons, Nat.add_comm]
    rfl

/-- Names that are joined take their extent, without a separator behind the last. -/
theorem length_join_succ {names : List Bytes} (some : names ≠ []) :
    (Bytes.join [slash] names).length + 1 = extent names := by
  -- Each name but the last is followed by a separator and the others.
  induction names with
  | nil => exact absurd rfl some
  | cons name names ih =>
    rw [extent_cons]
    cases names with
    | nil => rfl
    | cons next rest =>
      rw [← ih (List.cons_ne_nil _ _), Bytes.join]
      simp only [List.length_append, List.length_singleton]
      omega

/-- The pieces of a path have the extent of the path. -/
theorem extent_splitOn (path : Bytes) : extent (Bytes.splitOn slash path) = path.length + 1 := by
  -- A separator starts a new piece, and any other byte makes the first piece longer.
  induction path with
  | nil => rfl
  | cons byte path ih =>
    by_cases separates : byte = slash
    · rw [separates, Bytes.splitOn_separator, extent_cons, ih, List.length_cons, List.length_nil]
      omega
    · rw [Bytes.splitOn_cons separates]
      obtain ⟨piece, pieces, cut⟩ := List.exists_cons_of_ne_nil (Bytes.splitOn_ne_nil slash path)
      rw [cut, extent_cons] at ih
      rw [cut, List.modifyHead_cons, extent_cons, List.length_cons, List.length_cons]
      omega

/-- A name adds at most itself to the names on the stack. -/
theorem extent_push_le : extent (push absolute names name) ≤ name.length + 1 + extent names := by
  unfold push
  split
  · exact Nat.le_add_left _ _
  · split
    next up =>
      -- A step upward adds itself, does nothing, or takes a name away.
      cases names with
      | nil =>
        cases absolute with
        | true => exact Nat.zero_le _
        | false =>
          subst up
          exact Nat.le_refl _
      | cons last rest =>
        dsimp only
        split
        · exact Nat.le_of_eq (by rw [up, extent_cons])
        · rw [extent_cons]
          omega
    · exact Nat.le_of_eq (extent_cons name names)

/-- Names add at most themselves to the names on the stack. -/
theorem extent_foldl_push_le (more : List Bytes) :
    extent (more.foldl (push absolute) names) ≤ extent more + extent names := by
  -- One name after another.
  induction more generalizing names with
  | nil => exact Nat.le_add_left _ _
  | cons name more ih =>
    have first : extent (push absolute names name) ≤ name.length + 1 + extent names :=
      extent_push_le
    rw [List.foldl_cons, extent_cons]
    exact Nat.le_trans ih (by omega)

/-- The names that are left of a path take no more than the path; from the root on, the slash at its
start is over. -/
theorem extent_stack_le (path : Bytes) :
    extent (stack path) + (if isAbsolute path then 1 else 0) ≤ path.length + 1 := by
  cases absolute : isAbsolute path with
  | false =>
    have bound := @extent_foldl_push_le false [] (Bytes.splitOn slash path)
    rw [extent_splitOn] at bound
    rw [stack, absolute]
    exact bound
  | true =>
    -- The first piece is empty, and the others are those of the rest.
    obtain ⟨rest, rfl⟩ : ∃ rest, path = slash :: rest := by
      cases path with
      | nil => cases absolute
      | cons byte rest => exact ⟨rest, by simpa [isAbsolute] using absolute⟩
    have bound := @extent_foldl_push_le true [] (Bytes.splitOn slash rest)
    have dropped : push true [] [] = [] := rfl
    rw [extent_splitOn] at bound
    rw [stack, absolute, Bytes.splitOn_separator, List.foldl_cons, dropped, if_pos rfl,
      List.length_cons]
    exact Nat.succ_le_succ bound

end Length

section Inside

variable {folder file : Bytes}

/-- What is added behind a path does not change where it starts. -/
theorem isAbsolute_append (given : folder ≠ []) (more : Bytes) :
    isAbsolute (folder ++ more) = isAbsolute folder := by
  -- A path that is not empty shows its first byte.
  obtain ⟨byte, rest, rfl⟩ := List.exists_cons_of_ne_nil given
  rfl

/-- The names on the way to a file in a folder. -/
def way (folder file : Bytes) : List Bytes := (stack folder).reverse ++ [file]

/-- No name on the way has a slash in it, and each of its bytes is one of the two paths'. -/
theorem mem_way (ordinary : Ordinary file) (listed : other ∈ way folder file) :
    slash ∉ other ∧ ∀ byte ∈ other, byte ∈ folder ∨ byte ∈ file := by
  -- The names of the folder are pieces of its path, and the last name is the file.
  rcases List.mem_append.mp listed with before | last
  · obtain ⟨whole, bytes⟩ := Bytes.mem_of_mem_splitOn (mem_stack (List.mem_reverse.mp before)).1
    exact ⟨whole, fun byte inside => .inl (bytes byte inside)⟩
  · obtain rfl := List.mem_singleton.mp last
    exact ⟨ordinary.whole, fun byte inside => .inr inside⟩

/-- The names on the way, joined, are cut into these names again. -/
theorem splitOn_way (folder : Bytes) (ordinary : Ordinary file) :
    Bytes.splitOn slash (Bytes.join [slash] (way folder file)) = way folder file :=
  -- No name has a slash in it.
  Bytes.splitOn_join (by simp [way]) fun _ listed => (mem_way ordinary listed).1

/-- The first name on the way is not empty, so that the joined names do not start with a slash. -/
theorem isAbsolute_way (ordinary : Ordinary file) :
    isAbsolute (Bytes.join [slash] (way folder file)) = false := by
  cases joined : Bytes.join [slash] (way folder file) with
  | nil => rfl
  | cons byte rest =>
    have cut := splitOn_way folder ordinary
    rw [joined] at cut
    by_contra starts
    obtain rfl : byte = slash := by simpa [isAbsolute] using starts
    -- A slash at the start would cut off an empty name.
    rw [Bytes.splitOn_separator] at cut
    have empty : [] ∈ way folder file := cut ▸ List.mem_cons_self
    rcases List.mem_append.mp empty with before | last
    · exact (mem_stack (List.mem_reverse.mp before)).2.1 rfl
    · exact ordinary.nonempty (List.mem_singleton.mp last).symm

/-- The names on the way, joined, end with the name of the file. -/
theorem join_way_ne_nil (folder : Bytes) (ordinary : Ordinary file) :
    Bytes.join [slash] (way folder file) ≠ [] := by
  intro empty
  have cut := splitOn_way folder ordinary
  rw [empty] at cut
  -- The last name would be the one piece of nothing.
  have last := congrArg List.getLast? cut
  rw [way, List.getLast?_concat] at last
  exact ordinary.nonempty (Option.some.inj last).symm

/-- The path of a file in a folder is made of the names on the way, behind a slash where the
folder's is. -/
theorem join_eq (given : folder ≠ []) (ordinary : Ordinary file) :
    join folder file =
      if isAbsolute folder then slash :: Bytes.join [slash] (way folder file)
      else Bytes.join [slash] (way folder file) := by
  -- Of the two paths with a slash between them, cleaning leaves the names on the way.
  have pushed : (Bytes.splitOn slash (folder ++ slash :: file)).foldl
      (push (isAbsolute folder)) [] = file :: stack folder := by
    rw [Bytes.splitOn_append, Bytes.splitOn_of_notMem ordinary.whole, List.foldl_append,
      List.foldl_cons, List.foldl_nil, push_ordinary ordinary, stack]
  have filled : (Bytes.join [slash] (way folder file)).isEmpty = false :=
    List.isEmpty_eq_false_iff.mpr (join_way_ne_nil folder ordinary)
  unfold join clean
  rw [if_neg (by simpa using given), if_neg (by simpa using ordinary.nonempty),
    isAbsolute_append given]
  dsimp only
  rw [pushed, List.reverse_cons, ← way, filled, if_neg Bool.false_ne_true]

/-- The path of a file in a folder is not empty. -/
theorem join_ne_nil (given : folder ≠ []) (ordinary : Ordinary file) : join folder file ≠ [] := by
  -- With or without a slash in front, there is a name in it.
  rw [join_eq given ordinary]
  split
  · exact List.cons_ne_nil _ _
  · exact join_way_ne_nil folder ordinary

/-- The path of a file in a folder starts where the folder's does. -/
theorem isAbsolute_join (given : folder ≠ []) (ordinary : Ordinary file) :
    isAbsolute (join folder file) = isAbsolute folder := by
  -- The slash in front is there exactly for an absolute folder.
  rw [join_eq given ordinary]
  cases starts : isAbsolute folder with
  | false => simpa using isAbsolute_way ordinary
  | true => rfl

/-- The path of a file in a folder is cut into the names on the way. -/
theorem splitOn_join (given : folder ≠ []) (ordinary : Ordinary file) :
    Bytes.splitOn slash (join folder file) = if isAbsolute folder then [] :: way folder file
      else way folder file := by
  -- A slash in front cuts off an empty name.
  rw [join_eq given ordinary]
  cases isAbsolute folder with
  | false => simpa using splitOn_way folder ordinary
  | true =>
    rw [if_pos rfl, if_pos rfl, Bytes.splitOn_separator, splitOn_way folder ordinary]

/-- The path of a file in a folder is no longer than the two with a slash between them. -/
theorem length_join_le (given : folder ≠ []) (ordinary : Ordinary file) :
    (join folder file).length ≤ (folder ++ slash :: file).length := by
  have bound := extent_stack_le folder
  have joined : (Bytes.join [slash] (way folder file)).length + 1 = extent (way folder file) :=
    length_join_succ (by simp [way])
  have parts : extent (way folder file) = file.length + 1 + extent (stack folder) := by
    rw [way, ← extent_reverse, List.reverse_append, List.reverse_reverse, List.reverse_singleton,
      List.singleton_append, extent_cons]
  rw [join_eq given ordinary, List.length_append, List.length_cons]
  -- The slash at the start of a path from the root is among what the folder takes.
  split
  next absolute =>
    rw [if_pos absolute] at bound
    rw [List.length_cons]
    omega
  next relative =>
    rw [if_neg relative] at bound
    omega

/-- Joining adds no bytes other than slashes. -/
theorem mem_join (given : folder ≠ []) (ordinary : Ordinary file) {byte : UInt8}
    (inside : byte ∈ join folder file) :
    byte = slash ∨ byte ∈ folder ∨ byte ∈ file := by
  -- A byte of the path is a slash or belongs to one of the names.
  have named : byte = slash ∨ byte ∈ Bytes.join [slash] (way folder file) := by
    rw [join_eq given ordinary] at inside
    split at inside
    · exact List.mem_cons.mp inside
    · exact .inr inside
  rcases named with between | joined
  · exact .inl between
  · rcases Bytes.mem_join joined with between | ⟨other, listed, found⟩
    · exact .inl between
    · exact .inr ((mem_way ordinary listed).2 byte found)

end Inside

end Patchbay.Path
