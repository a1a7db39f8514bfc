import Patchbay.Stream.Resolve

/-! Reading definition files: a tolerant reader drops stray names and parameters and reports them, a
strict one refuses them. -/

namespace Patchbay.Stream

/-- Something to tell about a file while it is read. -/
inductive ReadNotice where
  /-- Something was dropped from a definition. -/
  | dropped (definition : Bytes) (diagnostic : Diagnostic)
  /-- A definition was read. -/
  | read (definition : Definition)

/-- What reading a file gives: what there is to tell, in reverse, and the definitions or a fault. -/
structure Reading where
  notices : List ReadNotice
  result : Except Fault (List Definition)

/-- Reads the given number of definitions and the end of the file. -/
def readDefinitions (strict : Bool) (total : Nat) :
    Nat → Array Definition → List ReadNotice → Cursor → Reading
  | 0, done, notices, cursor =>
    if cursor.rest.isEmpty then ⟨notices, .ok done.toList⟩
    else
      ⟨notices, .error { Fault.format "decode" .trailingData with
        offset := cursor.offset
        context := natText cursor.rest.length ++ " bytes after definition " ++ natText total }⟩
  | count + 1, done, notices, cursor =>
    match readDefinition cursor with
    | .error fault => ⟨notices, .error fault⟩
    | .ok (raw, next) =>
      match raw.diagnostics, strict with
      | diagnostic :: _, true => ⟨notices, .error (diagnostic.fault raw.name)⟩
      | diagnostics, _ =>
        let definition := raw.resolve
        let dropped := diagnostics.map (ReadNotice.dropped raw.name)
        readDefinitions strict total count (done.push definition)
          (.read definition :: dropped.reverse ++ notices) next

/-- Reads a file, telling what happens on the way. -/
def reading (strict : Bool) (data : Bytes) : Reading :=
  match readHeader data with
  | .error fault => ⟨[], .error fault⟩
  | .ok (count, cursor) => readDefinitions strict count count #[] [] cursor

/-- Reads the definitions of a file. -/
def decode (strict : Bool) (data : Bytes) : Except Fault (List Definition) :=
  (reading strict data).result

/-- What a reading of a file drops, in order. -/
def droppedFrom (strict : Bool) (data : Bytes) : List (Bytes × Diagnostic) :=
  (reading strict data).notices.reverse.filterMap fun
    | .dropped definition diagnostic => some (definition, diagnostic)
    | .read _ => none

end Patchbay.Stream
