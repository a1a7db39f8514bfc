import Patchbay.Yaml.Cursor

/-! Block scalars: lines under a bar, which keeps their ends, or under an angle, which folds
them. -/

namespace Patchbay.Yaml

/-- What becomes of the line ends after the last line of a block. -/
inductive Chomp where
  | strip
  | clip
  | keep
  deriving DecidableEq, Repr

/-- Reads the sign that says what becomes of the last line ends. -/
def readChomp (cursor : Cursor) : Option (Chomp × Cursor) :=
  if cursor.isAt '+' then some (.keep, cursor.skip 1)
  else if cursor.isAt '-' then some (.strip, cursor.skip 1)
  else none

/-- Reads the digit that says how deep the lines are indented. -/
def readDepth (cursor : Cursor) : Except Malformed (Option Nat × Cursor) :=
  match cursor.next? with
  | some c =>
    if c == '0' then cursor.fail "found an indentation indicator equal to 0"
    else if c.isDigit then .ok (some (c.toNat - 48), cursor.skip 1)
    else .ok (none, cursor)
  | none => .ok (none, cursor)

/-- Reads the sign and the digit in either order. -/
def readBlockHead (cursor : Cursor) : Except Malformed (Chomp × Option Nat × Cursor) := do
  match readChomp cursor with
  | some (chomp, cursor) =>
    let (depth, cursor) ← readDepth cursor
    return (chomp, depth, cursor)
  | none =>
    let (depth, cursor) ← readDepth cursor
    match if depth.isSome then readChomp cursor else none with
    | some (chomp, cursor) => return (chomp, depth, cursor)
    | none => return (.clip, depth, cursor)

/-- Skips the indentation of empty lines and the lines themselves. Without a known depth, the
deepest of them is kept in mind. -/
def emptyLines (depth : Option Nat) : Nat → Nat → List Char → Cursor →
    Except Malformed (Nat × List Char × Cursor)
  | 0, deepest, breaks, cursor => .ok (deepest, breaks, cursor)
  | fuel + 1, deepest, breaks, cursor =>
    let spaces := cursor.rest.takeWhile (· == ' ')
    let wanted := match depth with
      | some depth => min spaces.length (depth - cursor.column)
      | none => spaces.length
    let cursor := cursor.skip wanted
    let deepest := max deepest cursor.column
    if cursor.isAt '\t' && depth.all (cursor.column < ·) then
      cursor.fail "found a tab character where an indentation space is expected"
    else
      match cursor.lineBreak? with
      | some (c, below) => emptyLines depth fuel deepest (breaks ++ [c]) below
      | none => .ok (deepest, breaks, cursor)

/-- Reads the lines of a block at a depth. The text so far is in reverse; the end of its last line
and the empty lines after that are still pending. -/
def blockLines (literal : Bool) (depth : Nat) : Nat → List Char → Option Char → List Char → Bool →
    Cursor →
    Except Malformed (List Char × Option Char × List Char × Cursor)
  | 0, text, pending, breaks, _, cursor => .ok (text, pending, breaks, cursor)
  | fuel + 1, text, pending, breaks, wasBlank, cursor =>
    match cursor.next? with
    | none => .ok (text, pending, breaks, cursor)
    | some c =>
      if cursor.column ≠ depth then .ok (text, pending, breaks, cursor)
      else
        let blank := isBlank c
        let joint :=
          if !literal && pending == some '\n' && !wasBlank && !blank then
            (if breaks.isEmpty then [' '] else [])
          else pending.toList
        let (line, cursor) := cursor.span fun c => !isBreak c
        let text := line.reverse ++ breaks.reverse ++ joint.reverse ++ text
        let (pending, cursor) := match cursor.lineBreak? with
          | some (c, below) => (some c, below)
          | none => (none, cursor)
        match emptyLines (some depth) (cursor.rest.length + 1) 0 [] cursor with
        | .error malformed => .error malformed
        | .ok (_, breaks, cursor) => blockLines literal depth fuel text pending breaks blank cursor

/-- Reads a block scalar from its mark on, under an indentation. -/
def blockScalar (cursor : Cursor) (literal : Bool) (indent : Int) :
    Except Malformed (List Char × Cursor) := do
  let (chomp, increment, cursor) ← readBlockHead (cursor.skip 1)
  let cursor := (cursor.span isBlank).2
  let cursor := if cursor.isAt '#' then cursor.skipLine else cursor
  let cursor ← match cursor.lineBreak? with
    | some (_, below) => pure below
    | none =>
      if cursor.rest.isEmpty then pure cursor
      else cursor.fail "did not find expected comment or line break"
  let known := increment.map fun n => (max indent 0).toNat + n
  let (deepest, breaks, cursor) ← emptyLines known (cursor.rest.length + 1) 0 [] cursor
  let depth := known.getD (max (max deepest (indent + 1).toNat) 1)
  let (text, pending, breaks, cursor) ← blockLines literal depth
    (cursor.rest.length + 1) [] none breaks false cursor
  let ending := match chomp with
    | .strip => []
    | .clip => pending.toList
    | .keep => pending.toList ++ breaks
  return (text.reverse ++ ending, cursor)

end Patchbay.Yaml
