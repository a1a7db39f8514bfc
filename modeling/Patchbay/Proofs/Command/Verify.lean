import Patchbay.Command.Run
import Patchbay.Proofs.Stream.Normal

/-! Verified files: which files are written again byte for byte as they were read, and that the
verification of a file passes exactly these. -/

namespace Patchbay

namespace SessionM

variable {α β : Type} {session after : Session}

/-- Behind a part of a command that succeeds comes the next part. -/
theorem bind_ok {part : SessionM α} {next : α → SessionM β} {result : α}
    (ran : part session = .ok result after) :
    (part >>= next) session = next result after := by
  -- Both have the same first part.
  show EStateM.bind part next session = next result after
  rw [EStateM.bind, ran]

/-- A part that looks at the session goes on with it as it is. -/
theorem get_bind (next : Session → SessionM β) : (get >>= next) session = next session session :=
  rfl

/-- An attempt at a part that succeeds has its result. -/
theorem attempt_ok {part : SessionM α} {result : α} (ran : part session = .ok result after) :
    Session.attempt part session = .ok (.ok result) after := by
  -- The attempt looks at how the part ended.
  rw [Session.attempt, ran]

end SessionM

/-- When the definitions of an argument are read and can be written, its verification passes exactly
when the bytes are the same, and then says so. -/
theorem Tool.verifyOne_eq {tool : Tool} (tolerant : tool.settings.strict = false)
    {argument data again : Bytes} {definitions : List Definition} {session after : Session}
    (read : tool.readDefinitions argument session = .ok (definitions, data) after)
    (written : Stream.encode false definitions = .ok again) :
    ∃ final, tool.verifyOne argument session = .ok (decide (data = again)) final ∧
      (data = again → final.output = after.output ++
        ("OK " ++ argument ++ " (" ++ natText definitions.length ++ " definitions)") ++ "\n") := by
  have encoded : tool.encode definitions after =
      .ok again { after with trace := after.trace ++ Stream.encodeTrace false definitions } := by
    simp only [Tool.encode, tolerant, written]
    rfl
  -- The bytes are compared after both steps have succeeded.
  unfold Tool.verifyOne
  rw [SessionM.bind_ok
    (SessionM.attempt_ok ((SessionM.bind_ok read).trans (SessionM.bind_ok encoded)))]
  simp only
  by_cases same : data = again
  · rw [if_pos same, decide_eq_true same]
    exact ⟨_, rfl, fun _ => rfl⟩
  · rw [if_neg same, decide_eq_false same]
    exact ⟨_, rfl, fun equal => absurd equal same⟩

/-- A file that a tolerant reader accepts is written again byte for byte exactly when the reader
drops nothing from it and the name table of each of its definitions lists names that are not empty
at strictly increasing indices. These are the files that pass the verification of a tolerant tool,
which says so, wherever it has read the bytes. -/
theorem verified_iff {data : Bytes} {definitions : List Definition}
    (read : Stream.decode false data = .ok definitions) :
    ∃ raws, Stream.Grammatical raws ∧ Stream.fileBytes raws = data ∧
      (Stream.encode false definitions = .ok data ↔
        Stream.droppedFrom false data = [] ∧ ∀ raw ∈ raws, raw.NamesAscend) ∧
      ∀ (tool : Tool) (argument : Bytes) (session after : Session), tool.settings.strict = false →
        tool.readDefinitions argument session = .ok (definitions, data) after →
        ∃ verdict final, tool.verifyOne argument session = .ok verdict final ∧
          (verdict = true ↔ Stream.encode false definitions = .ok data) ∧
          (verdict = true → final.output = after.output ++
            ("OK " ++ argument ++ " (" ++ natText definitions.length ++ " definitions)") ++
              "\n") := by
  obtain ⟨raws, grammatical, rfl, rfl⟩ := Stream.exists_grammatical read
  refine ⟨raws, grammatical, rfl, ?_, ?_⟩
  · -- The file is the same exactly when all its definitions are tidy.
    rw [grammatical.encode_resolve, Except.ok.injEq, grammatical.normal_bytes_iff,
      grammatical.droppedFrom_eq_nil_iff, ← forall₂_and]
    exact forall₂_congr fun raw _ => Stream.RawDefinition.tidy_iff
  · -- The verification writes what was read and compares the bytes.
    intro tool argument session after tolerant opened
    obtain ⟨final, passed, line⟩ := Tool.verifyOne_eq tolerant opened grammatical.encode_resolve
    refine ⟨_, final, passed, ?_, fun verdict => line (of_decide_eq_true verdict)⟩
    rw [decide_eq_true_iff, grammatical.encode_resolve, Except.ok.injEq, eq_comm]

/-- A file in the tree is read as the definitions in it, unless its name tells that it is
compressed. -/
theorem Tool.readDefinitions_file {tool : Tool} (tolerant : tool.settings.strict = false)
    {session : Session} {path data : Bytes} {location : Location} {definitions : List Definition}
    (found : session.tree.find path = .ok (location, .file data))
    (plain : Bytes.endsWith path Library.compressedEnding = false)
    (read : Stream.decode false data = .ok definitions) :
    tool.readDefinitions path session =
      .ok (definitions, data)
        { session with trace := session.trace ++ Stream.decodeTrace false data } := by
  have present : (session.tree.at? path).isSome = true := by rw [FileTree.at?, found]; rfl
  have content : session.tree.read path = .ok data := by rw [FileTree.read, found]; rfl
  have decoded : tool.decode data session =
      .ok definitions { session with trace := session.trace ++ Stream.decodeTrace false data } := by
    simp only [Tool.decode, tolerant, read]
    rfl
  -- The file is there and its name tells that it is not compressed, so that its bytes are taken as
  -- they are.
  have opened : Tool.readFile path session = .ok data session := by
    rw [Tool.readFile, SessionM.get_bind, content, Session.settle, pure_bind,
      if_neg (by simp [plain])]
    rfl
  rw [Tool.readDefinitions, SessionM.get_bind, if_pos present, SessionM.bind_ok opened]
  exact SessionM.bind_ok decoded

/-- A tool with the initial settings. -/
def plainTool : Tool := ⟨Settings.initial, [], ⟨false, none⟩, []⟩

/-- A session with one file, in which some definitions are written. -/
def filed (name : String) (raws : List Stream.RawDefinition) : Session :=
  .start ⟨[], [([utf8 name], .file (Stream.fileBytes raws))]⟩

/-- The file with the untangled definition is written again as it was read, and passes. That with
the tangled definition is not, and does not pass. -/
theorem tangled_not_verified :
    (Stream.decode false (Stream.fileBytes [Stream.untangled]) = .ok [Stream.untangled.resolve] ∧
        Stream.encode false [Stream.untangled.resolve] =
          .ok (Stream.fileBytes [Stream.untangled]) ∧
        ∃ final, plainTool.verifyOne (utf8 "a.bin") (filed "a.bin" [Stream.untangled]) =
          .ok true final ∧ final.output = utf8 "OK a.bin (1 definitions)\n") ∧
      Stream.decode false (Stream.fileBytes [Stream.tangled]) = .ok [Stream.tangled.resolve] ∧
      Stream.encode false [Stream.tangled.resolve] ≠ .ok (Stream.fileBytes [Stream.tangled]) ∧
      ∃ final, plainTool.verifyOne (utf8 "tangled.bin") (filed "tangled.bin" [Stream.tangled]) =
        .ok false final := by
  constructor
  · have grammatical := Stream.untangled_grammatical
    have read := grammatical.decode_tolerant
    obtain ⟨raws, also, bytes, verbatim, verifies⟩ := verified_iff read
    -- Nothing is dropped from the file, and its names ascend.
    obtain rfl := also.eq_of_bytes grammatical bytes
    have same := verbatim.mpr ⟨grammatical.droppedFrom_eq_nil_iff.mpr
      (List.forall_mem_singleton.mpr Stream.diagnostics_tangled.1),
      List.forall_mem_singleton.mpr ⟨by decide, by decide⟩⟩
    obtain ⟨verdict, final, passed, verdict_iff, line⟩ := verifies plainTool (utf8 "a.bin")
      (filed "a.bin" [Stream.untangled]) _ rfl (Tool.readDefinitions_file rfl rfl (by decide) read)
    have passes : verdict = true := verdict_iff.mpr same
    exact ⟨read, same, final, passes ▸ passed, (line passes).trans (by decide)⟩
  · have grammatical := Stream.tangled_grammatical
    have read := grammatical.decode_tolerant
    obtain ⟨raws, _, _, verbatim, verifies⟩ := verified_iff read
    -- Something is dropped from the file, so that it is not written again.
    have dropped : Stream.droppedFrom false (Stream.fileBytes [Stream.tangled]) ≠ [] := by
      rw [Ne, grammatical.droppedFrom_eq_nil_iff, List.forall_mem_singleton]
      exact Stream.diagnostics_tangled.2
    have changed : Stream.encode false [Stream.tangled.resolve] ≠
        .ok (Stream.fileBytes [Stream.tangled]) :=
      fun same => dropped (verbatim.mp same).1
    obtain ⟨verdict, final, passed, verdict_iff, _⟩ := verifies plainTool (utf8 "tangled.bin")
      (filed "tangled.bin" [Stream.tangled]) _ rfl
      (Tool.readDefinitions_file rfl rfl (by decide) read)
    have failed : verdict = false :=
      Bool.eq_false_iff.mpr fun passes => changed (verdict_iff.mp passes)
    exact ⟨read, changed, final, failed ▸ passed⟩

end Patchbay
