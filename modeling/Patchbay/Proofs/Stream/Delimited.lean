import Patchbay.Proofs.Stream.Grammar

/-! Self-delimiting files: a file that is read ends too early wherever it is cut, and whatever
stands behind it is left over. -/

namespace Patchbay.Stream

/-- How a reading goes when bytes are cut off at the end of the file, and it reads a value in front
of the next cursor with them. -/
inductive Cut {α : Type} (lost : Bytes) (value : α) (next : Cursor) :
    Except Fault (α × Cursor) → Prop
  /-- The reading stays in front of the cut, and reads the same. -/
  | before (left : Bytes) :
      next.rest = left ++ lost → Cut lost value next (.ok (value, { next with rest := left }))
  /-- The reading comes to the cut, where the file ends too early. -/
  | across (fault : Fault) :
      fault.kind = .format → fault.cause = .truncated → Cut lost value next (.error fault)

/-- A reading of a whole file and one of the file without its last bytes go together as long as the
first one succeeds. -/
def CutsTo {α : Type} (lost : Bytes) (whole part : Except Fault (α × Cursor)) : Prop :=
  ∀ value next, whole = .ok (value, next) → Cut lost value next part

namespace CutsTo

variable {α β : Type} {lost left : Bytes}

/-- A value is read in front of the cut. -/
theorem ok (value : α) (offset : Nat) (definition : Bytes) :
    CutsTo lost (.ok (value, ⟨left ++ lost, offset, definition⟩))
      (.ok (value, ⟨left, offset, definition⟩)) := by
  -- Both readings end at the same place.
  intro other next read
  cases read
  exact .before left rfl

/-- What fails on the whole file may do anything without its last bytes. -/
theorem error (fault : Fault) (part : Except Fault (α × Cursor)) :
    CutsTo lost (.error fault) part := by
  -- There is nothing to compare with.
  intro value next read
  cases read

/-- Two readings one after the other: the second one starts at the same place in front of the
cut. -/
theorem bind {whole part : Except Fault (α × Cursor)}
    {after others : α × Cursor → Except Fault (β × Cursor)} (first : CutsTo lost whole part)
    (second : ∀ value left offset definition,
      CutsTo lost (after (value, ⟨left ++ lost, offset, definition⟩))
      (others (value, ⟨left, offset, definition⟩))) : CutsTo lost (whole >>= after)
        (part >>= others) := by
  intro result last read
  obtain ⟨⟨value, next⟩, start, rest⟩ := bind_eq_ok_iff.mp read
  cases first value next start with
  | before left ahead =>
    -- The second reading stands where the first one stopped, with the same bytes cut off.
    rw [show next = ⟨left ++ lost, next.offset, next.definition⟩ from by rw [← ahead]] at rest
    exact second value left next.offset next.definition result last rest
  | across fault kind cause => exact .across fault kind cause

/-- A refusal that both readings come to goes the same way in both. -/
theorem refuse {γ : Type} {refused : Prop} [Decidable refused] {one two : Fault}
    {after others : γ → Except Fault (β × Cursor)} {whole part : Except Fault (β × Cursor)}
    (passed : CutsTo lost whole part) :
    CutsTo lost (if refused then throw one >>= after else whole)
      (if refused then throw two >>= others else part) := by
  -- Both look at the same condition.
  by_cases h : refused
  · rw [if_pos h]
    exact error one _
  · rw [if_neg h, if_neg h]
    exact passed

end CutsTo

namespace Cursor

variable {front lost : Bytes} {offset : Nat} {definition what : Bytes}

/-- A byte is read, or missing. -/
theorem byte_cutsTo :
    CutsTo lost (byte ⟨front ++ lost, offset, definition⟩ what)
      (byte ⟨front, offset, definition⟩ what) := by
  -- The byte is in front of the cut or behind it.
  cases front with
  | nil => exact fun _ _ _ => .across _ rfl rfl
  | cons a front => exact .ok a _ _

/-- A number of two bytes is read, or one of its bytes is missing. -/
theorem word16_cutsTo :
    CutsTo lost (word16 ⟨front ++ lost, offset, definition⟩ what)
      (word16 ⟨front, offset, definition⟩ what) := by
  -- Both bytes are in front of the cut, or one is behind it.
  match front with
  | [] | [_] => exact fun _ _ _ => .across _ rfl rfl
  | a :: b :: front => exact .ok _ _ _

/-- A number of four bytes is read, or one of its bytes is missing. -/
theorem word32_cutsTo :
    CutsTo lost (word32 ⟨front ++ lost, offset, definition⟩ what)
      (word32 ⟨front, offset, definition⟩ what) := by
  -- All four bytes are in front of the cut, or one is behind it.
  match front with
  | [] | [_] | [_, _] | [_, _, _] => exact fun _ _ _ => .across _ rfl rfl
  | a :: b :: c :: d :: front => exact .ok _ _ _

/-- A sample value is read, or one of its bytes is missing. -/
theorem single_cutsTo :
    CutsTo lost (single ⟨front ++ lost, offset, definition⟩ what)
      (single ⟨front, offset, definition⟩ what) := by
  -- A sample value is a number of four bytes.
  rw [single_eq_bind, single_eq_bind]
  exact word32_cutsTo.bind fun number left offset definition => .ok _ _ _

/-- The text of a name is read, or its end is missing. -/
theorem name_cutsTo :
    CutsTo lost (name ⟨front ++ lost, offset, definition⟩ what)
      (name ⟨front, offset, definition⟩ what) := by
  rw [name_eq_bind, name_eq_bind]
  refine byte_cutsTo.bind fun size left offset definition => ?_
  simp only
  by_cases enough : size.toNat ≤ left.length
  · -- The text stands in front of the cut.
    have kept : (left ++ lost).take size.toNat = left.take size.toNat :=
      List.take_append_of_le_length enough
    have rest : (left ++ lost).drop size.toNat = left.drop size.toNat ++ lost :=
      List.drop_append_of_le_length enough
    rw [kept, rest]
    split
    · exact .error _ _
    · exact .ok _ _ _
  · -- The text goes across the cut, whether or not the whole file holds it.
    have missing : (left.take size.toNat).length < size.toNat := by
      rw [List.length_take]
      omega
    rw [if_pos missing]
    exact fun _ _ _ => .across _ rfl rfl

/-- A counted list is read in front of the cut as long as its items are. -/
theorem many_cutsTo {α : Type} {read : Array α → Cursor → Except Fault (α × Cursor)}
    (item : ∀ done front offset definition,
      CutsTo lost (read done ⟨front ++ lost, offset, definition⟩)
      (read done ⟨front, offset, definition⟩)) (count : Nat) (done : Array α) :
    CutsTo lost (many read count done ⟨front ++ lost, offset, definition⟩)
      (many read count done ⟨front, offset, definition⟩) := by
  -- What is done and where the cursor stands change with every item that is read.
  induction count generalizing done front offset definition with
  | zero => exact .ok done _ _
  | succ count ih =>
    rw [many_succ, many_succ]
    exact (item done front offset definition).bind fun found left offset definition =>
      ih (done.push found)

end Cursor

section Readers

variable {front lost : Bytes} {offset : Nat} {definition : Bytes}

/-- An entry of the name table is read in front of the cut, or goes across it. -/
theorem readEntry_cutsTo :
    CutsTo lost (readEntry ⟨front ++ lost, offset, definition⟩)
      (readEntry ⟨front, offset, definition⟩) := by
  -- A name and an index are read one after the other.
  unfold readEntry
  refine Cursor.name_cutsTo.bind fun text left offset definition => ?_
  exact Cursor.word16_cutsTo.bind fun index left offset definition => .ok _ _ _

/-- An input is read in front of the cut, or goes across it. -/
theorem readInput_cutsTo (constants : Nat) (earlier : Array RawNode) (op : Bytes) (place : Nat) :
    CutsTo lost (readInput constants earlier op place ⟨front ++ lost, offset, definition⟩)
      (readInput constants earlier op place ⟨front, offset, definition⟩) := by
  unfold readInput
  refine Cursor.word16_cutsTo.bind fun source left offset definition => ?_
  refine Cursor.word16_cutsTo.bind fun index left offset definition => ?_
  -- Both readings look for the same constant or the same output.
  simp only
  split
  · split
    · exact .ok _ _ _
    · exact .error _ _
  · split
    · exact .error _ _
    · split
      · split
        · exact .ok _ _ _
        · exact .error _ _
      · exact .error _ _

/-- The rate of an output is read in front of the cut, or is missing. -/
theorem readOutput_cutsTo (row : Nat) (op : Bytes) (place : Nat) :
    CutsTo lost (readOutput row op place ⟨front ++ lost, offset, definition⟩)
      (readOutput row op place ⟨front, offset, definition⟩) := by
  -- A byte is read, and refused by both or by none.
  unfold readOutput
  refine Cursor.byte_cutsTo.bind fun code left offset definition => ?_
  simp only
  split
  · exact .ok _ _ _
  · exact .error _ _

/-- A row of the node table is read in front of the cut, or goes across it. -/
theorem readNode_cutsTo (constants parameters : Nat) (earlier : Array RawNode) :
    CutsTo lost (readNode constants parameters earlier ⟨front ++ lost, offset, definition⟩)
      (readNode constants parameters earlier ⟨front, offset, definition⟩) := by
  unfold readNode
  refine Cursor.name_cutsTo.bind fun op left offset definition => ?_
  refine Cursor.byte_cutsTo.bind fun code left offset definition => .refuse ?_
  refine Cursor.word16_cutsTo.bind fun inputCount left offset definition => ?_
  refine Cursor.word16_cutsTo.bind fun outputCount left offset definition => ?_
  refine Cursor.word16_cutsTo.bind fun special left offset definition => ?_
  -- The inputs and the outputs are counted lists.
  refine (Cursor.many_cutsTo (fun done _ _ _ => readInput_cutsTo _ _ _ _) inputCount #[]).bind
    fun inputs left offset definition => ?_
  refine (Cursor.many_cutsTo (fun done _ _ _ => readOutput_cutsTo _ _ _) outputCount #[]).bind
    fun outputs left offset definition => .refuse ?_
  exact .ok _ _ _

/-- A definition is read in front of the cut, or goes across it. -/
theorem readDefinition_cutsTo :
    CutsTo lost (readDefinition ⟨front ++ lost, offset, definition⟩)
      (readDefinition ⟨front, offset, definition⟩) := by
  unfold readDefinition
  refine Cursor.name_cutsTo.bind fun text left offset definition => ?_
  -- The tables come one after the other, each behind its length.
  refine Cursor.word16_cutsTo.bind fun count left offset definition => ?_
  refine (Cursor.many_cutsTo (fun _ _ _ _ => Cursor.single_cutsTo) count #[]).bind
    fun constants left offset definition => ?_
  refine Cursor.word16_cutsTo.bind fun parameters left first definition => ?_
  refine (Cursor.many_cutsTo (fun _ _ _ _ => Cursor.single_cutsTo) parameters #[]).bind
    fun defaults left offset definition => ?_
  refine Cursor.word16_cutsTo.bind fun count left offset definition => ?_
  refine (Cursor.many_cutsTo (fun _ _ _ _ => readEntry_cutsTo) count #[]).bind
    fun entries left offset definition => ?_
  refine Cursor.word16_cutsTo.bind fun count left offset definition => ?_
  refine (Cursor.many_cutsTo (fun earlier _ _ _ => readNode_cutsTo _ _ earlier) count #[]).bind
    fun nodes left offset definition => ?_
  exact Cursor.word16_cutsTo.bind fun variants left offset definition => .refuse (.ok _ _ _)

/-- The start of a file is read in front of the cut, or goes across it. -/
theorem readHeader_cutsTo : CutsTo lost (readHeader (front ++ lost)) (readHeader front) := by
  -- The mark, the version and the count are read one after the other.
  unfold readHeader
  refine Cursor.word32_cutsTo.bind fun mark left offset definition => .refuse ?_
  exact Cursor.word32_cutsTo.bind fun number left offset definition => .refuse Cursor.word16_cutsTo

end Readers

section Definitions

variable {strict : Bool} {total count : Nat} {done : Array Definition} {notices : List ReadNotice}
variable {offset : Nat} {definition : Bytes} {definitions : List Definition}

/-- Where definitions are read, there is a first one, and the reader goes on behind it. -/
theorem readDefinitions_first {cursor : Cursor}
    (success : (readDefinitions strict total (count + 1) done notices cursor).result =
      .ok definitions) :
    ∃ raw next, readDefinition cursor = .ok (raw, next) ∧
      (strict = true → raw.diagnostics = []) := by
  cases read : readDefinition cursor with
  | error fault =>
    unfold readDefinitions at success
    simp [read] at success
  | ok found =>
    obtain ⟨raw, next⟩ := found
    refine ⟨raw, next, rfl, fun isStrict => ?_⟩
    -- A strict reader that found something wrong would have stopped.
    subst isStrict
    cases wrong : raw.diagnostics with
    | nil => rfl
    | cons diagnostic rest =>
      rw [readDefinitions_stop read wrong] at success
      cases success

/-- Definitions that are read up to the end of the file end too early when bytes are cut off. -/
theorem readDefinitions_cut {front lost : Bytes} (some : lost ≠ [])
    (success :
      (readDefinitions strict total count done notices ⟨front ++ lost, offset, definition⟩).result =
      .ok definitions) :
    ∃ fault, (readDefinitions strict total count done notices ⟨front, offset, definition⟩).result =
      .error fault ∧
      fault.kind = .format ∧ fault.cause = .truncated := by
  -- The cut is behind the definitions that are still read in front of it.
  induction count generalizing done notices front offset definition with
  | zero =>
    -- The whole file has ended here, so that nothing can have been cut off.
    simp [readDefinitions, some] at success
  | succ count ih =>
    obtain ⟨raw, next, read, clean⟩ := readDefinitions_first success
    have cut := readDefinition_cutsTo raw next read
    cases part : readDefinition ⟨front, offset, definition⟩ with
    | error fault =>
      -- The definition goes across the cut, and the reader fails there.
      rw [part] at cut
      cases cut with
      | across _ kind cause =>
        unfold readDefinitions
        exact ⟨fault, by simp [part], kind, cause⟩
    | ok found =>
      -- Both readers go on behind the same definition.
      rw [part] at cut
      cases cut with
      | before left ahead =>
        rw [readDefinitions_next read clean,
          show next = ⟨left ++ lost, next.offset, next.definition⟩ from by rw [← ahead]] at success
        rw [readDefinitions_next part clean]
        exact ih success

/-- Definitions that are read up to the end of the file leave over what is put behind it. -/
theorem readDefinitions_leftover {rest more : Bytes} (some : more ≠ [])
    (success : (readDefinitions strict total count done notices ⟨rest, offset, definition⟩).result =
      .ok definitions) :
    ∃ fault,
      (readDefinitions strict total count done notices ⟨rest ++ more, offset, definition⟩).result =
        .error fault ∧
      fault.kind = .format ∧ fault.cause = .trailingData ∧
      fault.offset = (offset + rest.length : Nat) := by
  induction count generalizing done notices rest offset definition with
  | zero =>
    -- At the end of the definitions there are only the bytes that were put there.
    have ended : rest = [] := by
      by_contra more
      simp [readDefinitions, more] at success
    subst ended
    simp only [readDefinitions, List.nil_append, List.isEmpty_iff, some, if_false]
    exact ⟨_, rfl, rfl, rfl, rfl⟩
  | succ count ih =>
    obtain ⟨raw, next, read, clean⟩ := readDefinitions_first success
    obtain ⟨passes, sound⟩ := readDefinition_eq_ok_iff.mp read
    have ahead : rest = raw.bytes ++ next.rest := passes.rest
    -- The definition is read from the same bytes, with more behind them.
    have again : readDefinition ⟨rest ++ more, offset, definition⟩ =
        .ok (raw, ⟨next.rest ++ more, next.offset, next.definition⟩) :=
      readDefinition_eq_ok_iff.mpr ⟨⟨by simp [ahead], passes.offset, passes.definition⟩, sound⟩
    rw [readDefinitions_next read clean] at success
    obtain ⟨fault, failed, kind, cause, place⟩ := ih success
    rw [readDefinitions_next again clean]
    refine ⟨fault, failed, kind, cause, place.trans ?_⟩
    rw [passes.offset, ahead, List.length_append, Nat.add_assoc]

end Definitions

/-- A file that is read, strictly or not, delimits itself. Cut short anywhere, it ends too early,
and whatever is put behind it is left over from the place where it ended. -/
theorem decode_self_delimiting {strict : Bool} {data : Bytes} {definitions : List Definition}
    (accepted : decode strict data = .ok definitions) :
    (∀ front, front <+: data → front ≠ data →
        ∃ fault, decode strict front = .error fault ∧ fault.kind = .format ∧
          fault.cause = .truncated) ∧
      ∀ more, more ≠ [] →
        ∃ fault, decode strict (data ++ more) = .error fault ∧ fault.kind = .format ∧
          fault.cause = .trailingData ∧ fault.offset = data.length := by
  -- The start of the file was read.
  unfold decode reading at accepted
  cases header : readHeader data with
  | error fault => simp [header] at accepted
  | ok found =>
    obtain ⟨count, cursor⟩ := found
    simp only [header] at accepted
    refine ⟨fun front cut proper => ?_, fun more some => ?_⟩
    · obtain ⟨lost, rfl⟩ := cut
      have some : lost ≠ [] := fun none => proper (by rw [none, List.append_nil])
      -- Either the start of the file goes across the cut or one of the definitions does.
      have start := readHeader_cutsTo count cursor header
      cases part : readHeader front with
      | error fault =>
        rw [part] at start
        cases start with
        | across _ kind cause => exact ⟨fault, by simp [decode, reading, part], kind, cause⟩
      | ok found =>
        rw [part] at start
        cases start with
        | before left ahead =>
          rw [show cursor = ⟨left ++ lost, cursor.offset, cursor.definition⟩ from by rw
            [← ahead]] at accepted
          simp only [decode, reading, part]
          exact readDefinitions_cut some accepted
    · obtain ⟨passes, few⟩ := readHeader_eq_ok_iff.mp header
      -- The start of the file is read from the same bytes, and the definitions behind it.
      have again : readHeader (data ++ more) =
          .ok (count, ⟨cursor.rest ++ more, cursor.offset, cursor.definition⟩) :=
        readHeader_eq_ok_iff.mpr
          ⟨⟨by rw [← List.append_assoc, ← passes.rest], passes.offset, passes.definition⟩, few⟩
      obtain ⟨fault, failed, kind, cause, place⟩ := readDefinitions_leftover some accepted
      refine ⟨fault, by simpa only [decode, reading, again] using
        failed, kind, cause, place.trans ?_⟩
      rw [show data.length = (fileHead count).length + cursor.rest.length from by
        rw [← List.length_append, ← passes.rest], passes.offset, Nat.zero_add]

/-- The file with the tangled definition is read, but not without its last byte or with a byte
behind it. -/
theorem tangled_self_delimiting :
    decode false (fileBytes [tangled]) = .ok [tangled.resolve] ∧
      (∃ fault, decode false (fileBytes [tangled]).dropLast = .error fault ∧ fault.kind = .format ∧
        fault.cause = .truncated) ∧
      ∃ fault, decode false (fileBytes [tangled] ++ [0]) = .error fault ∧ fault.kind = .format ∧
        fault.cause = .trailingData ∧ fault.offset = (fileBytes [tangled]).length := by
  -- The file is not empty, so that without its last byte it is another.
  have delimited := decode_self_delimiting tangled_grammatical.decode_tolerant
  have shorter : (fileBytes [tangled]).dropLast ≠ fileBytes [tangled] := by
    intro same
    have length := congrArg List.length same
    have some : 0 < (fileBytes [tangled]).length := by simp [fileBytes, fileHead, word32, word16]
    rw [List.length_dropLast] at length
    omega
  exact ⟨tangled_grammatical.decode_tolerant, delimited.1 _ (List.dropLast_prefix _) shorter,
    delimited.2 [0] (by simp)⟩

end Patchbay.Stream
