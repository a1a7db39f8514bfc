import Patchbay.Proofs.Stream.Grammar

/-! Strict and tolerant readers: both read a file in the same steps, and the strict one stops where
the tolerant one first drops something. -/

namespace Patchbay.Stream

/-- A notice that tells of nothing dropped. -/
def ReadNotice.Quiet : ReadNotice → Prop
  | .dropped _ _ => False
  | .read _ => True

/-- A reading drops nothing from a file exactly when all its notices are quiet. -/
theorem droppedFrom_quiet_iff {strict : Bool} {data : Bytes} :
    droppedFrom strict data = [] ↔ ∀ notice ∈ (reading strict data).notices, notice.Quiet := by
  -- A notice that is not quiet tells of something that was dropped.
  simp only [droppedFrom, List.filterMap_eq_nil_iff, List.mem_reverse]
  refine forall₂_congr fun notice _ => ?_
  cases notice with
  | dropped definition diagnostic => simp [ReadNotice.Quiet]
  | read definition => simp [ReadNotice.Quiet]

/-- The notices about a definition are quiet exactly when there is nothing wrong with it. -/
theorem RawDefinition.notices_quiet_iff {raw : RawDefinition} :
    (∀ notice ∈ raw.notices, notice.Quiet) ↔ raw.diagnostics = [] := by
  -- Apart from the first, which is quiet, there is a notice for each diagnostic.
  simp only [notices, List.forall_mem_cons, List.mem_reverse, List.forall_mem_map, ReadNotice.Quiet,
    true_and, List.eq_nil_iff_forall_not_mem]

/-- The fault that a strict reader makes of a diagnostic is an inconsistency. -/
theorem Diagnostic.fault_kind (definition : Bytes) (diagnostic : Diagnostic) :
    (diagnostic.fault definition).kind = .inconsistency := by
  -- There are three kinds of diagnostics.
  cases diagnostic with
  | orphanName name index offset => rfl
  | duplicateName name index offset => rfl
  | orphanParameter index offset => rfl

/-- How a strict and a tolerant reading of the same bytes go together. -/
inductive Together (strict tolerant : Reading) : Prop
  /-- Nothing was dropped, and both readings are the same. -/
  | same : strict = tolerant → (∀ notice ∈ tolerant.notices, notice.Quiet) →
      Together strict tolerant
  /-- Something was dropped, and the strict reading failed there. -/
  | stopped (fault : Fault) : strict.result = .error fault → fault.kind = .inconsistency →
    (∃ notice ∈ tolerant.notices, ¬ notice.Quiet) → Together strict tolerant

section Definitions

variable {total count : Nat} {done : Array Definition} {notices : List ReadNotice} {cursor : Cursor}

/-- What was told before a reading of definitions is still told after it. -/
theorem mem_readDefinitions {notice : ReadNotice} (told : notice ∈ notices) :
    notice ∈ (readDefinitions false total count done notices cursor).notices := by
  -- Each definition that is read adds its notices to those before it.
  induction count generalizing done notices cursor with
  | zero =>
    unfold readDefinitions
    split <;> exact told
  | succ count ih =>
    cases read : readDefinition cursor with
    | error fault =>
      unfold readDefinitions
      rw [read]
      exact told
    | ok found =>
      rw [readDefinitions_next read fun isStrict => by cases isStrict]
      exact ih (List.mem_append_right _ told)

/-- A strict and a tolerant reader go together through the definitions of a file, once both have
done the same ones without dropping anything. -/
theorem readDefinitions_together (quiet : ∀ notice ∈ notices, notice.Quiet) :
    Together (readDefinitions true total count done notices cursor)
      (readDefinitions false total count done notices cursor) := by
  induction count generalizing done notices cursor with
  | zero =>
    -- At the end of the definitions both readers look for the end of the file.
    refine .same rfl ?_
    unfold readDefinitions
    split <;> exact quiet
  | succ count ih =>
    cases read : readDefinition cursor with
    | error fault =>
      -- Both readers fail at a definition that is not in the format.
      unfold readDefinitions
      rw [read]
      exact .same rfl quiet
    | ok found =>
      obtain ⟨raw, next⟩ := found
      have tolerant : readDefinitions false total (count + 1) done notices cursor =
          readDefinitions false total count (done.push raw.resolve) (raw.notices ++ notices) next :=
        readDefinitions_next read fun isStrict => by cases isStrict
      cases wrong : raw.diagnostics with
      | nil =>
        -- There is nothing wrong with the definition, and both readers go on.
        rw [tolerant, readDefinitions_next read fun _ => wrong]
        apply ih
        rw [List.forall_mem_append]
        exact ⟨RawDefinition.notices_quiet_iff.mpr wrong, quiet⟩
      | cons diagnostic rest =>
        -- The strict reader stops, and what the tolerant one drops is still told at the end.
        rw [tolerant, readDefinitions_stop read wrong]
        refine .stopped _ rfl (diagnostic.fault_kind raw.name)
          ⟨.dropped raw.name diagnostic, ?_, id⟩
        apply mem_readDefinitions
        simp [RawDefinition.notices, wrong]

end Definitions

/-- A strict and a tolerant reading of the same bytes go together. -/
theorem reading_together (data : Bytes) : Together (reading true data) (reading false data) := by
  -- The head is read in the same way by both.
  unfold reading
  cases readHeader data with
  | error fault => exact .same rfl (by simp)
  | ok found => exact readDefinitions_together (by simp)

/-- A strict reader reads exactly the files from which a tolerant one drops nothing, as the same
definitions. It fails on every other file: where the tolerant reader fails, with the same fault or
with an inconsistency, and its faults of the format and of the structure are those of the tolerant
reader. -/
theorem decode_strict_iff (data : Bytes) :
    (∀ definitions, decode true data = .ok definitions ↔
        decode false data = .ok definitions ∧ droppedFrom false data = []) ∧
      (∀ fault, decode false data = .error fault →
        ∃ found, decode true data = .error found ∧ (found = fault ∨ found.kind = .inconsistency)) ∧
      ∀ fault, decode true data = .error fault → fault.kind = .format ∨ fault.kind = .structural →
        decode false data = .error fault := by
  simp only [decode, droppedFrom_quiet_iff]
  cases reading_together data with
  | same equal quiet =>
    -- Nothing was dropped, and the two readings are the same.
    rw [equal]
    exact ⟨fun _ => ⟨fun read => ⟨read, quiet⟩, And.left⟩,
      fun fault failed => ⟨fault, failed, .inl rfl⟩,
      fun _ failed _ => failed⟩
  | stopped found failed kind dropped =>
    obtain ⟨notice, told, loud⟩ := dropped
    rw [failed]
    refine ⟨fun definitions => ⟨fun read => ?_, fun both => ?_⟩, fun _ _ => ⟨found, rfl, .inr kind⟩,
      ?_⟩
    · cases read
    · -- A tolerant reading that drops something is not one of those that count.
      exact absurd (both.2 notice told) loud
    · -- An inconsistency is neither a fault of the format nor one of the structure.
      intro fault same other
      cases same
      rw [kind] at other
      rcases other with other | other <;> cases other

/-- Both readers read the file with the untangled definition. Only the tolerant one reads that with
the tangled definition, from which it drops something. Where a byte is left over behind it the
tolerant reader fails, and the strict one fails as well. A file without any bytes fails for both
with the same fault. -/
theorem tangled_leftover_strict :
    (decode false (fileBytes [untangled]) = .ok [untangled.resolve] ∧
        decode true (fileBytes [untangled]) = .ok [untangled.resolve]) ∧
      (decode false (fileBytes [tangled]) = .ok [tangled.resolve] ∧
        ∀ definitions, decode true (fileBytes [tangled]) ≠ .ok definitions) ∧
      (∃ fault, decode false (fileBytes [tangled] ++ [0]) = .error fault ∧
        fault.cause = .trailingData ∧
        ∃ found, decode true (fileBytes [tangled] ++ [0]) = .error found ∧
          (found = fault ∨ found.kind = .inconsistency)) ∧
      ∃ fault, decode true [] = .error fault ∧ fault.kind = .format ∧
        decode false [] = .error fault := by
  have accepted := untangled_grammatical.decode_tolerant
  have nothing := untangled_grammatical.droppedFrom_eq_nil_iff.mpr
    (List.forall_mem_singleton.mpr diagnostics_tangled.1)
  refine ⟨⟨accepted, ((decode_strict_iff _).1 _).mpr ⟨accepted, nothing⟩⟩,
    ⟨tangled_grammatical.decode_tolerant, fun definitions read => ?_⟩, ?_,
    _, rfl, rfl, (decode_strict_iff []).2.2 _ rfl (.inl rfl)⟩
  · -- A strict reading would have dropped nothing.
    have dropped := (((decode_strict_iff _).1 definitions).mp read).2
    rw [tangled_grammatical.droppedFrom_eq_nil_iff, List.forall_mem_singleton] at dropped
    exact diagnostics_tangled.2 dropped
  have sound := (tangled_grammatical.fits tangled List.mem_cons_self).located_sound 10
  have bytes : fileBytes [tangled] ++ [0] = fileHead 1 ++ ((tangled.located 10).bytes ++ [0]) := by
    rw [RawDefinition.located_bytes]
    rfl
  have header : readHeader (fileBytes [tangled] ++ [0]) =
      .ok (1, ⟨(tangled.located 10).bytes ++ [0], 10, []⟩) :=
    readHeader_eq_ok_iff.mpr ⟨⟨bytes, rfl, rfl⟩, by decide⟩
  -- The tolerant reader gets behind the definition and finds the byte.
  obtain ⟨fault, failed, cause⟩ :
    ∃ fault, decode false (fileBytes [tangled] ++ [0]) = .error fault ∧
      fault.cause = .trailingData := by
    simp only [decode, reading, header]
    rw [readDefinitions_next (readDefinition_bytes sound [0]) fun isStrict => by cases isStrict]
    exact ⟨_, rfl, rfl⟩
  exact ⟨fault, failed, cause, (decode_strict_iff _).2.1 fault failed⟩

end Patchbay.Stream
