import Patchbay.Yaml.Cursor

/-! The scalars of YAML: plain words, quoted texts and blocks of lines. -/

namespace Patchbay.Yaml

/-- The characters of a plain word: up to a blank, a colon before a blank, or a mark of a flow. -/
def plainWord (flow : Bool) : List Char → List Char
  | [] => []
  | c :: rest =>
    if isBlank c || isBreak c || (c == ':' && endsWord rest) then []
    else if flow && [',', '?', '[', ']', '\x7b', '\x7d'].contains c then []
    else c :: plainWord flow rest

/-- A scalar that was read: its text, the cursor behind it, whether a line has ended since its last
word, and how many characters of the text were looked at. -/
structure Reading where
  text : List Char
  cursor : Cursor
  broken : Bool
  reach : Nat

/-- Reads the words of a plain scalar. The text so far is in reverse, the gap after it is not yet
part of it. -/
def plainLoop (flow : Bool) (indent : Int) :
    Nat → List Char → Gap → Cursor → Except Malformed Reading
  | 0, text, gap, cursor => .ok ⟨text.reverse, cursor, gap.broken, cursor.index⟩
  | fuel + 1, text, gap, cursor =>
    let stop := .ok ⟨text.reverse, cursor, gap.broken, cursor.index + 4⟩
    if cursor.atBoundary || cursor.isAt '#' then stop
    else
      let word := plainWord flow cursor.rest
      if word.isEmpty then stop
      else
        let text := word.reverse ++ gap.text.reverse ++ text
        let cursor := cursor.skip word.length
        match cursor.gap indent with
        | .error malformed => .error malformed
        | .ok (gap, behind) =>
          if behind.index = cursor.index || (!flow && behind.column < indent) then
            .ok ⟨text.reverse, behind, gap.broken, max (cursor.index + 2) (behind.index + 1)⟩
          else plainLoop flow indent fuel text gap behind

/-- Reads a plain scalar. -/
def plainScalar (flow : Bool) (indent : Int) (cursor : Cursor) : Except Malformed Reading :=
  plainLoop flow indent (cursor.rest.length + 1) [] Gap.none cursor

/-- The character of a one-letter escape. -/
def escaped? (c : Char) : Option Char :=
  match c with
  | '0' => some '\x00'
  | 'a' => some '\x07'
  | 'b' => some '\x08'
  | 't' | '\t' => some '\t'
  | 'n' => some '\n'
  | 'v' => some '\x0b'
  | 'f' => some '\x0c'
  | 'r' => some '\r'
  | 'e' => some '\x1b'
  | ' ' => some ' '
  | '"' => some '"'
  | '\'' => some '\''
  | '\\' => some '\\'
  | 'N' => some '\u0085'
  | '_' => some '\u00a0'
  | 'L' => some '\u2028'
  | 'P' => some '\u2029'
  | _ => none

/-- The number of digits of a numeric escape. -/
def escapeWidth? (c : Char) : Option Nat :=
  match c with
  | 'x' => some 2
  | 'u' => some 4
  | 'U' => some 8
  | _ => none

/-- The value of a hexadecimal digit. -/
def hexValue? (c : Char) : Option Nat :=
  if c.isDigit then some (c.toNat - 48)
  else if 'a' ≤ c && c ≤ 'f' then some (c.toNat - 87)
  else if 'A' ≤ c && c ≤ 'F' then some (c.toNat - 55)
  else none

/-- The character that a numeric escape stands for. -/
def codedChar (cursor : Cursor) (width : Nat) : Except Malformed Char :=
  match (cursor.rest.take width).mapM hexValue? with
  | some digits =>
    let code := digits.foldl (fun n d => n * 16 + d) 0
    if digits.length < width then cursor.fail "did not find expected hexdecimal number"
    else if (0xD800 ≤ code && code ≤ 0xDFFF) || 0x10FFFF < code then
      cursor.fail "found invalid Unicode character escape code"
    else .ok (Char.ofNat code)
  | none => cursor.fail "did not find expected hexdecimal number"

/-- How a run of characters in a quoted scalar ended. -/
inductive RunEnd where
  | quote
  | gap
  | escapedBreak

/-- Reads characters of a quoted scalar up to its end, a blank or an escaped end of the line. -/
def quotedRun (quote : Char) :
    Nat → List Char → Cursor → Except Malformed (List Char × RunEnd × Cursor)
  | 0, text, cursor => .ok (text, .gap, cursor)
  | fuel + 1, text, cursor =>
    match cursor.rest with
    | [] => .ok (text, .gap, cursor)
    | c :: rest =>
      if isBlank c || isBreak c then .ok (text, .gap, cursor)
      else if quote == '\'' && c == '\'' && rest.head? == some '\'' then
        quotedRun quote fuel ('\'' :: text) (cursor.skip 2)
      else if c == quote then .ok (text, .quote, cursor.skip 1)
      else if quote == '"' && c == '\\' then
        match (cursor.skip 1).lineBreak? with
        | some (_, below) => .ok (text, .escapedBreak, below)
        | none =>
          match rest.head? with
          | some letter =>
            match escaped? letter, escapeWidth? letter with
            | some plain, _ => quotedRun quote fuel (plain :: text) (cursor.skip 2)
            | none, some width =>
              match codedChar (cursor.skip 2) width with
              | .ok coded => quotedRun quote fuel (coded :: text) (cursor.skip (2 + width))
              | .error malformed => .error malformed
            | none, none => cursor.fail "found unknown escape character"
          | none => cursor.fail "found unknown escape character"
      else quotedRun quote fuel (c :: text) (cursor.skip 1)

/-- Reads the runs and gaps of a quoted scalar, the text so far in reverse. -/
def quotedLoop (quote : Char) : Nat → List Char → Cursor → Except Malformed Reading
  | 0, _, cursor => cursor.fail "found unexpected end of stream"
  | fuel + 1, text, cursor =>
    if cursor.atBoundary then cursor.fail "found unexpected document indicator"
    else if cursor.rest.isEmpty then cursor.fail "found unexpected end of stream"
    else
      match quotedRun quote (cursor.rest.length + 1) text cursor with
      | .error malformed => .error malformed
      | .ok (text, .quote, behind) =>
        .ok ⟨text.reverse, behind, false, max (cursor.index + 4) (behind.index + 1)⟩
      | .ok (text, .gap, cursor) =>
        match cursor.gap 0 with
        | .error malformed => .error malformed
        | .ok (gap, cursor) => quotedLoop quote fuel (gap.text.reverse ++ text) cursor
      | .ok (text, .escapedBreak, cursor) =>
        -- The escaped line end stands for nothing, the line ends after it stand for themselves.
        match cursor.gapLoop 0 cursor.rest.length ⟨[], some '\n', []⟩ with
        | .error malformed => .error malformed
        | .ok (gap, cursor) => quotedLoop quote fuel (gap.more.reverse ++ text) cursor

/-- Reads a quoted scalar from its first quote on. -/
def quotedScalar (cursor : Cursor) (quote : Char) : Except Malformed Reading :=
  quotedLoop quote (cursor.rest.length + 1) [] (cursor.skip 1)

end Patchbay.Yaml
