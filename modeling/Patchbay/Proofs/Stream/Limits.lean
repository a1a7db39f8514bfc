import Patchbay.Proofs.Stream.Written

/-! The limits of the format: a definition that passes the check and has short names only fails to
be written when something in it is too many. -/

namespace Patchbay

/-- A computation that has one reason to fail, if it fails at all. -/
def FailsFor {α : Type} (cause : Cause) (result : Except Fault α) : Prop :=
  ∀ fault, result = .error fault → fault.cause = cause

namespace FailsFor

variable {α β : Type} {cause : Cause}

/-- A value is no failure. -/
theorem ok (value : α) : FailsFor cause (.ok value) := by
  -- There is no fault.
  intro fault failed
  cases failed

/-- A failure with the cause. -/
theorem error {fault : Fault} (told : fault.cause = cause) :
    FailsFor cause (.error fault : Except Fault α) := by
  -- The fault is the one that is thrown.
  intro other failed
  cases failed
  exact told

/-- Two computations one after the other fail for what either fails for. -/
theorem bind {first : Except Fault α} {second : α → Except Fault β} (one : FailsFor cause first)
    (two : ∀ value, first = .ok value → FailsFor cause (second value)) :
    FailsFor cause (first >>= second) := by
  -- The first one fails, or its value is handed to the second.
  cases first with
  | error fault => exact error (one fault rfl)
  | ok value => exact two value rfl

end FailsFor

/-- A definition that passes the check and whose names are all short enough. -/
structure Definition.Nameable (definition : Definition) : Prop where
  name : definition.name.length ≤ Stream.maxName
  checked : definition.check = .ok ()
  controlNames : ∀ descriptor ∈ definition.controls, descriptor.name.length ≤ Stream.maxName
  ops : ∀ placed ∈ definition.nodes, (definition.graph.node placed.node).op.length ≤ Stream.maxName

namespace Stream

variable {definition : Definition}

/-- A count is refused for being too many. -/
theorem checkCount_failsFor (definition : Definition) (count : Nat) (what : Bytes) :
    FailsFor .tooMany (checkCount definition count what) := by
  -- The count is let through or refused.
  unfold checkCount
  split
  · exact .ok _
  · exact .error rfl

/-- Inputs are refused for a row or an output that is too large a number. -/
theorem inputs_failsFor (definition : Definition) (number place : Nat) (node : Node)
    (sources : List Source) (written : List Bytes) :
    FailsFor .tooMany
      (inputs definition definition.rows definition.slots number node place sources written) := by
  -- Each input is written by itself, and a constant is never refused.
  induction sources generalizing place written with
  | nil => exact .ok _
  | cons source rest ih =>
    have single : FailsFor .tooMany
        (input definition definition.rows definition.slots number node place source) := by
      cases source with
      | output producer slot =>
        simp only [input]
        split
        · exact .error rfl
        · exact .ok _
      | constant index => exact .ok _
    simp only [inputs]
    split
    · rename_i fault failed
      exact .error (single fault failed)
    · exact ih _ _

/-- A row with a short operator is refused for its counts, its special index or its inputs. -/
theorem row_failsFor {placed : Placed} (number : Nat)
    (short : (definition.graph.node placed.node).op.length ≤ maxName) :
    FailsFor .tooMany (row definition definition.rows definition.slots number placed) := by
  unfold row
  refine .bind ?_ fun _ _ => .bind (inputs_failsFor _ _ _ _ _ _) fun _ _ => .ok _
  -- The operator is looked at first, and passes.
  unfold checkNode
  rw [if_neg (Nat.not_lt.mpr short)]
  split
  · exact .error rfl
  · split
    · exact .error rfl
    · exact .ok _

/-- Rows with short operators are refused for what one of them is refused for. -/
theorem rows_failsFor {items : List Placed} (number : Nat) (written : List Bytes)
    (short : ∀ placed ∈ items, (definition.graph.node placed.node).op.length ≤ maxName) :
    FailsFor .tooMany (rows definition definition.rows definition.slots number items written) := by
  -- The rows are written in turn, and the first that fails tells the cause.
  induction items generalizing number written with
  | nil => exact .ok _
  | cons placed rest ih =>
    rw [List.forall_mem_cons] at short
    simp only [rows]
    split
    · rename_i fault failed
      exact .error (row_failsFor number short.1 fault failed)
    · exact ih _ _ short.2

/-- A definition whose names are short and that passes the check is refused for its size only. -/
theorem encode_failsFor (nameable : definition.Nameable) :
    FailsFor .tooMany (encode false [definition]) := by
  have named : checkName definition definition.name "definition name" (-1) = .ok () :=
    checkName_eq_ok_iff.mpr nameable.name
  have entries : nameEntries false definition = .ok (namedEntries definition.controls) :=
    nameEntries_eq_ok_iff.mpr ⟨by simp, nameable.controlNames, rfl⟩
  have checks : FailsFor .tooMany (checkDefinition definition) := by
    -- Only the three counts can be refused.
    unfold checkDefinition
    rw [named, nameable.checked]
    refine .bind (.ok _) fun _ _ => .bind (checkCount_failsFor _ _ _) fun _ _ => ?_
    exact .bind (checkCount_failsFor _ _ _) fun _ _ => .bind (checkCount_failsFor _ _ _) fun _ _ =>
      .ok _
  have written : FailsFor .tooMany (body false definition) := by
    unfold body
    rw [entries]
    exact .bind (.ok _) fun _ _ => .bind (rows_failsFor 0 [] nameable.ops) fun _ _ => .ok _
  have whole : FailsFor .tooMany (encodeDefinition false definition) :=
    .bind checks fun _ _ => written
  -- A single definition is not too many.
  simp only [encode, List.length_singleton]
  rw [if_neg (by decide)]
  refine .bind ?_ fun _ _ => .ok _
  rw [List.mapM_cons]
  exact .bind whole fun _ _ => .bind (.ok _) fun _ _ => .ok _

end Stream

end Patchbay
