import Patchbay.Yaml.Scalar
import Patchbay.Yaml.Token

/-! Tags, anchors and directives. -/

namespace Patchbay.Yaml

/-- Whether a character may stand in a tag as it is. -/
def isTagChar (c : Char) : Bool :=
  isWordChar c || ";/?:@&=+$,.!~*'()[]".toList.contains c

/-- Reads one byte written as a percent sign and two digits. -/
def percentByte : List Char → Option (UInt8 × List Char)
  | '%' :: a :: b :: rest => do
    let high ← hexValue? a
    let low ← hexValue? b
    return (UInt8.ofNat (16 * high + low), rest)
  | _ => none

/-- Reads bytes that continue a character, each written with a percent sign. -/
def percentTail : Nat → List Char → Option (Bytes × List Char)
  | 0, rest => some ([], rest)
  | count + 1, text => do
    let (b, rest) ← percentByte text
    guard (Text.isTail b)
    let (bytes, rest) ← percentTail count rest
    return (b :: bytes, rest)

/-- Reads the bytes of one character. They only have to be as many as the first of them says. -/
def percentBytes (text : List Char) : Option (Bytes × List Char) := do
  let (first, rest) ← percentByte text
  let width ← Text.leadWidth? first
  let (bytes, rest) ← percentTail (width - 1) rest
  return (first :: bytes, rest)

/-- Reads the rest of a tag, what came before it in reverse. -/
def tagLoop : Nat → Bytes → Cursor → Except Malformed (Bytes × Cursor)
  | 0, text, cursor => .ok (text.reverse, cursor)
  | fuel + 1, text, cursor =>
    match cursor.next? with
    | some '%' =>
      match percentBytes cursor.rest with
      | some (bytes, _) => tagLoop fuel (bytes.reverse ++ text) (cursor.skip (3 * bytes.length))
      | none => cursor.fail "did not find URI escaped octet"
    | some c =>
      if isTagChar c then tagLoop fuel (String.utf8EncodeChar c ++ text) (cursor.skip 1)
      else .ok (text.reverse, cursor)
    | none => .ok (text.reverse, cursor)

/-- Reads the rest of a tag. -/
def readTag (cursor : Cursor) : Except Malformed (Bytes × Cursor) :=
  tagLoop (cursor.rest.length + 1) [] cursor

/-- Reads a handle: an exclamation mark, a word, and perhaps another mark. -/
def readHandle (cursor : Cursor) : Except Malformed (List Char × Cursor) :=
  if cursor.isAt '!' then
    let (word, behind) := (cursor.skip 1).span isWordChar
    if behind.isAt '!' then .ok ('!' :: word ++ ['!'], behind.skip 1) else .ok ('!' :: word, behind)
  else cursor.fail "did not find expected '!'"

/-- Reads a tag: in angles, with a handle, or with the primary handle. -/
def tagToken (cursor : Cursor) : Except Malformed (TokenKind × Cursor) := do
  let (kind, behind) ←
    if cursor.rest.take 2 == ['!', '<'] then do
      let (suffix, behind) ← readTag (cursor.skip 2)
      if suffix.isEmpty then cursor.fail "did not find expected tag URI"
      else if behind.isAt '>' then pure (TokenKind.tag [] suffix, behind.skip 1)
      else behind.fail "did not find the expected '>'"
    else do
      let (handle, behind) ← readHandle cursor
      let (suffix, behind) ← readTag behind
      if 1 < handle.length && handle.getLast? == some '!' then
        if suffix.isEmpty then cursor.fail "did not find expected tag URI"
        else pure (TokenKind.tag handle suffix, behind)
      else
        let suffix := Text.ofChars (handle.drop 1) ++ suffix
        if suffix.isEmpty then pure (TokenKind.tag [] "!", behind)
        else pure (TokenKind.tag ['!'] suffix, behind)
  if endsWord behind.rest then return (kind, behind)
  else behind.fail "did not find expected whitespace or line break"

/-- Reads the name of an anchor or of an alias, behind its mark. -/
def anchorName (cursor : Cursor) : Except Malformed (List Char × Cursor) :=
  let (name, behind) := (cursor.skip 1).span isWordChar
  let ended := endsWord behind.rest || (behind.next?.any fun c => "?:,]\x7d%@`".toList.contains c)
  if name.isEmpty || !ended then cursor.fail "did not find expected alphabetic or numeric character"
  else .ok (name, behind)

/-- Reads a number of at most two digits. -/
def versionNumber (cursor : Cursor) : Except Malformed (Nat × Cursor) :=
  let (digits, behind) := cursor.span Char.isDigit
  if digits.isEmpty then cursor.fail "did not find expected version number"
  else if 2 < digits.length then cursor.fail "found extremely long version number"
  else .ok (digits.foldl (fun n d => n * 10 + (d.toNat - 48)) 0, behind)

/-- Reads a directive, a line that says how the next document is to be read. -/
def directiveToken (cursor : Cursor) : Except Malformed (TokenKind × Cursor) := do
  let (name, behind) := (cursor.skip 1).span isWordChar
  if name.isEmpty then cursor.fail "could not find expected directive name"
  if !endsWord behind.rest then cursor.fail "found unexpected non-alphabetical character"
  let value := (behind.span isBlank).2
  let (kind, behind) ←
    if name == "YAML".toList then do
      let (major, behind) ← versionNumber value
      if !behind.isAt '.' then behind.fail "did not find expected digit or '.' character"
      let (minor, behind) ← versionNumber (behind.skip 1)
      pure (TokenKind.version major minor, behind)
    else if name == "TAG".toList then do
      let (handle, behind) ← readHandle value
      if handle != ['!'] && handle.getLast? != some '!' then behind.fail "did not find expected '!'"
      if !behind.next?.any isBlank then behind.fail "did not find expected whitespace"
      let (expansion, behind) ← readTag (behind.span isBlank).2
      if expansion.isEmpty then behind.fail "did not find expected tag URI"
      if !endsWord behind.rest then behind.fail "did not find expected whitespace or line break"
      pure (TokenKind.tagRule handle expansion, behind)
    else cursor.fail "found unknown directive name"
  let behind := (behind.span isBlank).2
  let behind := if behind.isAt '#' then behind.skipLine else behind
  match behind.lineBreak? with
  | some (_, below) => return (kind, below)
  | none =>
    if behind.rest.isEmpty then return (kind, behind)
    else behind.fail "did not find expected comment or line break"

end Patchbay.Yaml
