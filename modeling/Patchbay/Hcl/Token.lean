import Patchbay.Hcl.Letter
import Patchbay.Text.Word

/-! The tokens of HCL text. Inside a quoted text or a here-document the text is cut into literals
and holes, and the tokens of a hole are those of an expression. -/

namespace Patchbay.Hcl

/-- Punctuation. -/
inductive Mark where
  | braceOpen | braceClose | bracketOpen | bracketClose | parenOpen | parenClose
  | dot | comma | ellipsis | fatArrow | question | colon | doubleColon | assign
  | plus | minus | star | slash | percent | bang
  | equal | notEqual | less | lessEqual | greater | greaterEqual | both | either
  deriving DecidableEq, Repr

/-- What a token says. -/
inductive Word where
  | newline
  | mark (mark : Mark)
  | name (text : Bytes)
  | number (text : Bytes)
  | quoteOpen
  | quoteClose
  /-- The start of a here-document; `flush` asks to remove the common indentation. -/
  | heredocOpen (flush : Bool)
  | heredocClose
  | literal (text : Bytes)
  /-- The start of an interpolated expression; `trim` removes the white space before it. -/
  | holeOpen (trim : Bool)
  /-- The start of a directive. -/
  | directiveOpen (trim : Bool)
  /-- The end of a hole or directive; `trim` removes the white space after it. -/
  | holeClose (trim : Bool)
  deriving DecidableEq, Repr

/-- A token and the line that it starts on. -/
structure Token where
  line : Nat
  word : Word
  deriving DecidableEq, Repr

/-- What surrounds a place of the text. -/
inductive Context where
  /-- Inside a hole, with the number of braces open in it. -/
  | hole (depth : Nat)
  | quoted
  /-- Inside a here-document; `fresh` at the start of a line. -/
  | heredoc (marker : Bytes) (fresh : Bool)

/-- The marks of several characters, then the single ones. -/
def mark? : List Letter → Option (Mark × List Letter)
  | .char '.' :: .char '.' :: .char '.' :: rest => some (.ellipsis, rest)
  | .char '=' :: .char '>' :: rest => some (.fatArrow, rest)
  | .char '=' :: .char '=' :: rest => some (.equal, rest)
  | .char '!' :: .char '=' :: rest => some (.notEqual, rest)
  | .char '<' :: .char '=' :: rest => some (.lessEqual, rest)
  | .char '>' :: .char '=' :: rest => some (.greaterEqual, rest)
  | .char '&' :: .char '&' :: rest => some (.both, rest)
  | .char '|' :: .char '|' :: rest => some (.either, rest)
  | .char ':' :: .char ':' :: rest => some (.doubleColon, rest)
  | .char c :: rest => (single? c).map fun mark => (mark, rest)
  | _ => none
where
  /-- The mark that a character is. -/
  single? : Char → Option Mark
    | '\x7b' => some .braceOpen
    | '\x7d' => some .braceClose
    | '[' => some .bracketOpen
    | ']' => some .bracketClose
    | '(' => some .parenOpen
    | ')' => some .parenClose
    | '.' => some .dot
    | ',' => some .comma
    | '?' => some .question
    | ':' => some .colon
    | '=' => some .assign
    | '+' => some .plus
    | '-' => some .minus
    | '*' => some .star
    | '/' => some .slash
    | '%' => some .percent
    | '!' => some .bang
    | '<' => some .less
    | '>' => some .greater
    | _ => none

/-- Whether a character may start a name. -/
def opensName (c : Char) : Bool := Text.startsWord c || c == '_'

/-- Whether a character may continue a name. -/
def continuesName (c : Char) : Bool := Text.continuesWord c || c == '-'

/-- The letters of a name from its start on, and those behind it. -/
def nameLetters (input : List Letter) : List Letter × List Letter :=
  let name := input.takeWhile (·.isChar continuesName)
  (name, input.drop name.length)

/-- Whether a letter is a digit. -/
def isDigit (letter : Letter) : Bool := letter.isChar Char.isDigit

/-- The rest of a number after its first digit: digits, points and exponents, not ending with a
point. -/
def numberTail : List Letter → List Letter × List Letter
  | [] => ([], [])
  | .char '.' :: rest =>
    let (tail, after) := numberTail rest
    if tail.isEmpty then ([], .char '.' :: rest) else (.char '.' :: tail, after)
  | c :: rest =>
    if isDigit c then
      let (tail, after) := numberTail rest
      (c :: tail, after)
    else if c == .char 'e' || c == .char 'E' then
      match rest with
      | s :: d :: more =>
        if (s == .char '+' || s == .char '-') && isDigit d then
          let (tail, after) := numberTail more
          (c :: s :: d :: tail, after)
        else if isDigit s then
          let (tail, after) := numberTail (d :: more)
          (c :: s :: tail, after)
        else ([], c :: rest)
      | [s] => if isDigit s then ([c, s], []) else ([], c :: rest)
      | [] => ([], [c])
    else ([], c :: rest)

/-- The value of a hexadecimal digit. -/
def hexDigit? : Letter → Option Nat
  | .char c =>
    if c.isDigit then some (c.toNat - 48)
    else if 'a' ≤ c && c ≤ 'f' then some (c.toNat - 87)
    else if 'A' ≤ c && c ≤ 'F' then some (c.toNat - 55)
    else none
  | _ => none

/-- The bytes of the character that an escape with hexadecimal digits stands for. -/
def escaped? (digits : List Letter) : Option Bytes := do
  let n ← digits.foldlM (fun n digit => (hexDigit? digit).map (16 * n + ·)) 0
  if n.isValidChar then some (String.utf8EncodeChar (Char.ofNat n)) else none

/-- A literal up to the next quote or hole, with its escapes resolved. -/
def quotedLiteral : List Letter → Option (Bytes × List Letter)
  | [] => none
  | .char '"' :: rest => some ([], .char '"' :: rest)
  | .char '\n' :: _ => none
  | .char '\r' :: _ => none
  | .char '$' :: .char '$' :: .char '\x7b' :: rest => behind "$\x7b" (quotedLiteral rest)
  | .char '%' :: .char '%' :: .char '\x7b' :: rest => behind "%\x7b" (quotedLiteral rest)
  | .char '$' :: .char '\x7b' :: rest => some ([], .char '$' :: .char '\x7b' :: rest)
  | .char '%' :: .char '\x7b' :: rest => some ([], .char '%' :: .char '\x7b' :: rest)
  | .char '\\' :: .char 'n' :: rest => behind "\n" (quotedLiteral rest)
  | .char '\\' :: .char 'r' :: rest => behind "\r" (quotedLiteral rest)
  | .char '\\' :: .char 't' :: rest => behind "\t" (quotedLiteral rest)
  | .char '\\' :: .char '"' :: rest => behind "\"" (quotedLiteral rest)
  | .char '\\' :: .char '\\' :: rest => behind "\\" (quotedLiteral rest)
  | .char '\\' :: .char 'u' :: a :: b :: c :: d :: rest => do
    behind (← escaped? [a, b, c, d]) (quotedLiteral rest)
  | .char '\\' :: .char 'U' :: a :: b :: c :: d :: e :: f :: g :: h :: rest => do
    behind (← escaped? [a, b, c, d, e, f, g, h]) (quotedLiteral rest)
  | .char '\\' :: _ => none
  | .stray _ :: _ => none
  | letter :: rest => behind letter.bytes (quotedLiteral rest)
where
  /-- A literal behind some bytes. -/
  behind (bytes : Bytes) (literal : Option (Bytes × List Letter)) : Option (Bytes × List Letter) :=
    literal.map fun (text, rest) => (bytes ++ text, rest)

/-- The rest of a line of a here-document, up to its end, which is included, or the next hole. A
lone carriage return may not stand in it. -/
def heredocLiteral : List Letter → Option (Bytes × List Letter)
  | [] => some ([], [])
  | .char '\n' :: rest => some ("\n", rest)
  | .char '\r' :: .char '\n' :: rest => some ("\r\n", rest)
  | .char '\r' :: _ => none
  | .char '$' :: .char '$' :: .char '\x7b' :: rest =>
    quotedLiteral.behind "$\x7b" (heredocLiteral rest)
  | .char '%' :: .char '%' :: .char '\x7b' :: rest =>
    quotedLiteral.behind "%\x7b" (heredocLiteral rest)
  | .char '$' :: .char '\x7b' :: rest => some ([], .char '$' :: .char '\x7b' :: rest)
  | .char '%' :: .char '\x7b' :: rest => some ([], .char '%' :: .char '\x7b' :: rest)
  | .stray _ :: _ => none
  | letter :: rest => quotedLiteral.behind letter.bytes (heredocLiteral rest)

/-- Whether a here-document flushes, its marker and the text behind its first line, when that is
well formed. -/
def heredocStart? (input : List Letter) : Option (Bool × Bytes × List Letter) := do
  let (flush, input) := match input with
    | .char '-' :: rest => (true, rest)
    | _ => (false, input)
  let first ← input.head?
  if !first.isChar opensName then none
  let (marker, rest) := nameLetters input
  match rest with
  | .char '\n' :: rest => some (flush, lettersBytes marker, rest)
  | .char '\r' :: .char '\n' :: rest => some (flush, lettersBytes marker, rest)
  | _ => none

/-- The text behind the end of a block comment, and the number of lines it runs over. -/
def blockComment : Nat → List Letter → Option (Nat × List Letter)
  | _, [] => none
  | lines, .char '*' :: .char '/' :: rest => some (lines, rest)
  | lines, .char '\n' :: rest => blockComment (lines + 1) rest
  | lines, _ :: rest => blockComment lines rest

/-- The text behind a comment that ends with its line. -/
def lineComment (input : List Letter) : List Letter := input.dropWhile (· != .char '\n')

/-- The opening of a hole: an optional mark to trim behind the brace. -/
def holeMark : List Letter → Bool × List Letter
  | .char '~' :: rest => (true, rest)
  | rest => (false, rest)

/-- Cuts a text into tokens, and gives the line that it ends on; `none` when some letter belongs to
no token. -/
def scan : Nat → List Context → Nat → List Letter → List Token → Option (List Token × Nat)
  | 0, _, _, _, _ => none
  | fuel + 1, .quoted :: outer, line, input, tokens =>
    match input with
    | .char '"' :: rest => scan fuel outer line rest (⟨line, .quoteClose⟩ :: tokens)
    | .char '$' :: .char '\x7b' :: rest =>
      let (trim, rest) := holeMark rest
      scan fuel (.hole 0 :: .quoted :: outer) line rest (⟨line, .holeOpen trim⟩ :: tokens)
    | .char '%' :: .char '\x7b' :: rest =>
      let (trim, rest) := holeMark rest
      scan fuel (.hole 0 :: .quoted :: outer) line rest (⟨line, .directiveOpen trim⟩ :: tokens)
    | _ => do
      let (text, rest) ← quotedLiteral input
      scan fuel (.quoted :: outer) line rest (⟨line, .literal text⟩ :: tokens)
  | fuel + 1, .heredoc marker fresh :: outer, line, input, tokens =>
    match input with
    | [] => none
    | .char '$' :: .char '\x7b' :: rest =>
      let (trim, rest) := holeMark rest
      scan fuel (.hole 0 :: .heredoc marker false :: outer) line rest
        (⟨line, .holeOpen trim⟩ :: tokens)
    | .char '%' :: .char '\x7b' :: rest =>
      let (trim, rest) := holeMark rest
      scan fuel (.hole 0 :: .heredoc marker false :: outer) line rest
        (⟨line, .directiveOpen trim⟩ :: tokens)
    | _ => do
      let (text, rest) ← heredocLiteral input
      let ended := Text.endsLine text
      if fresh && ended && Text.trim text == marker then
        scan fuel outer (line + 1) rest (⟨line, .newline⟩ :: ⟨line, .heredocClose⟩ :: tokens)
      else
        scan fuel (.heredoc marker ended :: outer) (if ended then line + 1 else line) rest
          (⟨line, .literal text⟩ :: tokens)
  | fuel + 1, contexts, line, input, tokens =>
    match input with
    | [] => some (tokens.reverse, line)
    | .char ' ' :: rest => scan fuel contexts line rest tokens
    | .char '\t' :: rest => scan fuel contexts line rest tokens
    | .char '\n' :: rest => scan fuel contexts (line + 1) rest (⟨line, .newline⟩ :: tokens)
    | .char '\r' :: .char '\n' :: rest =>
      scan fuel contexts (line + 1) rest (⟨line, .newline⟩ :: tokens)
    | .char '#' :: rest => scan fuel contexts line (lineComment rest) tokens
    | .char '/' :: .char '/' :: rest => scan fuel contexts line (lineComment rest) tokens
    | .char '/' :: .char '*' :: rest => do
      let (lines, after) ← blockComment 0 rest
      scan fuel contexts (line + lines) after tokens
    | .char '"' :: rest => scan fuel (.quoted :: contexts) line rest (⟨line, .quoteOpen⟩ :: tokens)
    | .char '~' :: .char '\x7d' :: rest =>
      match contexts with
      | .hole 0 :: outer => scan fuel outer line rest (⟨line, .holeClose true⟩ :: tokens)
      | _ => none
    | c :: rest =>
      if c.isChar opensName then
        let (tail, after) := nameLetters rest
        scan fuel contexts line after (⟨line, .name (lettersBytes (c :: tail))⟩ :: tokens)
      else if isDigit c then
        let (tail, after) := numberTail rest
        scan fuel contexts line after (⟨line, .number (lettersBytes (c :: tail))⟩ :: tokens)
      else
        let heredoc := match c, rest with
          | .char '<', .char '<' :: more => heredocStart? more
          | _, _ => none
        match heredoc with
        | some (flush, marker, after) =>
          scan fuel (.heredoc marker true :: contexts) (line + 1) after
            (⟨line, .heredocOpen flush⟩ :: tokens)
        | none => do
          let (mark, after) ← mark? (c :: rest)
          match mark, contexts with
          | .braceClose, .hole 0 :: outer =>
            scan fuel outer line after (⟨line, .holeClose false⟩ :: tokens)
          | .braceClose, .hole (depth + 1) :: outer =>
            scan fuel (.hole depth :: outer) line after (⟨line, .mark mark⟩ :: tokens)
          | .braceOpen, .hole depth :: outer =>
            scan fuel (.hole (depth + 1) :: outer) line after (⟨line, .mark mark⟩ :: tokens)
          | _, _ => scan fuel contexts line after (⟨line, .mark mark⟩ :: tokens)

/-- The tokens of a text and the line that it ends on. A byte order mark at its start says
nothing. -/
def tokenize (text : Bytes) : Option (List Token × Nat) :=
  let letters := match Letter.all text with
    | .char '\ufeff' :: rest => rest
    | letters => letters
  scan (2 * letters.length + 2) [] 1 letters []

end Patchbay.Hcl
