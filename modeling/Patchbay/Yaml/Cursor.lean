import Patchbay.Text.Utf8

/-! A cursor over the lines of a text, and the classes of characters that YAML knows. -/

namespace Patchbay.Yaml

/-- Whether a character ends a line. -/
def isBreak (c : Char) : Bool :=
  c == '\n' || c == '\r' || c == '\u0085' || c == '\u2028' || c == '\u2029'

/-- Whether a character is a space or a tab. -/
def isBlank (c : Char) : Bool := c == ' ' || c == '\t'

/-- Whether a character may stand in an anchor or a tag handle. -/
def isWordChar (c : Char) : Bool := c.isAlphanum || c == '_' || c == '-'

/-- Whether a text has come to the end of a word. -/
def endsWord : List Char → Bool
  | [] => true
  | c :: _ => isBlank c || isBreak c

/-- What is wrong with a text, and where. -/
structure Malformed where
  line : Nat
  problem : Bytes
  deriving DecidableEq, Repr

/-- The text of a complaint about the form of a text. -/
def Malformed.message (malformed : Malformed) : Bytes :=
  "yaml: line " ++ natText malformed.line ++ ": " ++ malformed.problem

/-- The rest of a text and the place where it starts, lines and columns counted from zero. -/
structure Cursor where
  rest : List Char
  index : Nat
  line : Nat
  column : Nat

namespace Cursor

/-- The cursor at the start of a text. -/
def start (text : List Char) : Cursor := ⟨text, 0, 0, 0⟩

/-- A complaint at a cursor. -/
def fail {α : Type} (cursor : Cursor) (problem : Bytes) : Except Malformed α :=
  .error ⟨cursor.line + 1, problem⟩

/-- Skips characters that end no line. -/
def skip (cursor : Cursor) (count : Nat) : Cursor :=
  { cursor with
    rest := cursor.rest.drop count
    index := cursor.index + count
    column := cursor.column + count }

/-- The characters of a class up to the first of another, and the cursor behind them. -/
def span (cursor : Cursor) (member : Char → Bool) : List Char × Cursor :=
  let taken := cursor.rest.takeWhile member
  (taken, cursor.skip taken.length)

/-- The next character. -/
def next? (cursor : Cursor) : Option Char := cursor.rest.head?

/-- Whether the next character is a given one. -/
def isAt (cursor : Cursor) (c : Char) : Bool := cursor.rest.head? == some c

/-- Steps over the end of a line, and says what it stands for in a text. -/
def lineBreak? (cursor : Cursor) : Option (Char × Cursor) :=
  let below (rest : List Char) (width : Nat) : Cursor :=
    ⟨rest, cursor.index + width, cursor.line + 1, 0⟩
  match cursor.rest with
  | '\r' :: '\n' :: rest => some ('\n', below rest 2)
  | c :: rest =>
    if isBreak c then some (if c == '\u2028' || c == '\u2029' then c else '\n', below rest 1)
    else none
  | [] => none

/-- Skips to the end of the line. -/
def skipLine (cursor : Cursor) : Cursor := (cursor.span fun c => !isBreak c).2

/-- Whether three equal characters that bound documents stand at the start of a line. -/
def boundary (cursor : Cursor) (c : Char) : Bool :=
  cursor.column == 0 && cursor.rest.take 3 == [c, c, c] && endsWord (cursor.rest.drop 3)

/-- Whether a document ends here. -/
def atBoundary (cursor : Cursor) : Bool := cursor.boundary '-' || cursor.boundary '.'

end Cursor

/-- The blanks and line ends between two words. Blanks after the first line end do not count. -/
structure Gap where
  blanks : List Char
  first : Option Char
  more : List Char

namespace Gap

/-- No gap at all. -/
def none : Gap := ⟨[], .none, []⟩

/-- Whether the gap runs over the end of a line. -/
def broken (gap : Gap) : Bool := gap.first.isSome

/-- What a gap stands for: one line end is a space, further ones are kept. -/
def text (gap : Gap) : List Char :=
  match gap.first with
  | .none => gap.blanks
  | some '\n' => if gap.more.isEmpty then [' '] else gap.more
  | some c => c :: gap.more

end Gap

/-- Reads a gap. A tab may not stand left of a limit on a new line. -/
def Cursor.gapLoop (tabLimit : Int) : Nat → Gap → Cursor → Except Malformed (Gap × Cursor)
  | 0, gap, cursor => .ok (gap, cursor)
  | fuel + 1, gap, cursor =>
    match cursor.lineBreak? with
    | some (c, below) =>
      if gap.broken then gapLoop tabLimit fuel { gap with more := gap.more ++ [c] } below
      else gapLoop tabLimit fuel ⟨[], some c, []⟩ below
    | none =>
      match cursor.next? with
      | some c =>
        if !isBlank c then .ok (gap, cursor)
        else if !gap.broken then gapLoop tabLimit fuel { gap with blanks := gap.blanks ++ [c] }
          (cursor.skip 1)
        else if c == '\t' && cursor.column < tabLimit then
          cursor.fail "found a tab character that violates indentation"
        else gapLoop tabLimit fuel gap (cursor.skip 1)
      | none => .ok (gap, cursor)

/-- Reads a gap, which may be empty. -/
def Cursor.gap (cursor : Cursor) (tabLimit : Int) : Except Malformed (Gap × Cursor) :=
  gapLoop tabLimit cursor.rest.length Gap.none cursor

end Patchbay.Yaml
