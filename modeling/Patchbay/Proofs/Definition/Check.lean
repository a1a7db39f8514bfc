import Mathlib.Data.List.Basic
import Mathlib.Data.List.Induction
import Mathlib.Tactic.ByContra
import Patchbay.Definition.Basic
import Patchbay.Proofs.Index

/-! Checked definitions: what the check of a definition accepts, row by row, and what is wrong with
a row that it refuses. -/

namespace Patchbay

/-- Wrapping a number that is not negative never makes it larger. -/
theorem wrapWord_le (n : Nat) : wrapWord n ≤ n := by
  -- The remainder is at most the number, and may only be lowered from there.
  rw [wrapWord, Int.bmod_def]
  split <;> omega

namespace Definition

variable {definition : Definition} {row place : Nat} {placed : Placed}

/-- The row of a node is a row where it stands. -/
theorem rows_sound {n : Nat} (found : definition.rows[n]? = some row) :
    ∃ placed, definition.nodes[row]? = some placed ∧ placed.node = n := by
  -- The rows are indexed by their nodes, with the later one for a node that stands twice.
  obtain ⟨⟨placed, i⟩, member, rfl, rfl⟩ :=
    (indexes_insert (fun item : Placed × Nat => item.1.node) Prod.snd).exists_item found
  exact ⟨placed, List.mem_zipIdx_iff_getElem?.mp member, rfl⟩

/-- Every node of the node table has a row. -/
theorem rows_complete (listed : placed ∈ definition.nodes) :
    ∃ row, definition.rows[placed.node]? = some row := by
  -- The index has an entry for every item.
  obtain ⟨i, found⟩ := List.mem_iff_getElem?.mp listed
  exact (indexes_insert (fun item : Placed × Nat => item.1.node) Prod.snd).exists_entry
    (placed, i) (List.mem_zipIdx_iff_getElem?.mpr found)

/-- The row of a node that stands twice is the last one. -/
theorem rows_last {n other : Nat} (found : definition.rows[n]? = some row)
    (here : definition.nodes[other]? = some placed) (same : placed.node = n) : other ≤ row := by
  -- Of the rows that are indexed one after the other, each new one replaces an earlier one of its
  -- node.
  have general : ∀ (nodes : List Placed) (row other : Nat) (placed : Placed),
      (nodes.zipIdx.foldl (fun rows item => rows.insert item.1.node item.2)
        (∅ : Std.HashMap Nat Nat))[n]? = some row →
        nodes[other]? = some placed → placed.node = n → other ≤ row := by
    intro nodes
    induction nodes using List.reverseRecOn with
    | nil => intro row other placed _ here; simp at here
    | append_singleton nodes last ih =>
      intro row other placed found here same
      have inside := (List.getElem?_eq_some_iff.mp here).1
      rw [List.length_append, List.length_singleton] at inside
      rw [List.zipIdx_append, List.foldl_append] at found
      simp only [List.zipIdx_singleton, List.foldl_cons, List.foldl_nil,
        Std.HashMap.getElem?_insert, Nat.zero_add]
        at found
      split at found
      · -- The last row is that of the node.
        rw [Option.some.injEq] at found
        omega
      · -- The last row is that of another node, so that the row in question is an earlier one.
        rename_i different
        have before : other < nodes.length := by
          by_contra late
          have place : other = nodes.length := by omega
          rw [place, List.getElem?_concat_length, Option.some.injEq] at here
          exact different (by simp [here, same])
        rw [List.getElem?_append_left before] at here
        exact ih row other placed found here same
  exact general definition.nodes row other placed found here same

/-- The key of a constant in a definition. -/
def keyOf (definition : Definition) (constant : Nat) : ConstantKey :=
  definition.dedup.key definition.graph constant

/-- The slot of a key is a slot that holds a constant with this key. -/
theorem slots_sound {key : ConstantKey} {slot : Nat} (found : definition.slots[key]? = some slot) :
    ∃ constant, definition.constants[slot]? = some constant ∧ definition.keyOf constant = key := by
  -- The slots are indexed by the keys of their constants, with the earlier one for a repeated key.
  obtain ⟨⟨constant, i⟩, member, rfl, rfl⟩ :=
    (indexes_insertIfNew (fun item : Nat × Nat => definition.keyOf item.1) Prod.snd).exists_item
      found
  exact ⟨constant, List.mem_zipIdx_iff_getElem?.mp member, rfl⟩

/-- The key of every constant of the table has a slot. -/
theorem slots_complete (definition : Definition) {constant : Nat}
    (listed : constant ∈ definition.constants) :
    ∃ slot, definition.slots[definition.keyOf constant]? = some slot := by
  -- The index has an entry for the key of every item.
  obtain ⟨i, found⟩ := List.mem_iff_getElem?.mp listed
  exact (indexes_insertIfNew
    (fun item : Nat × Nat => definition.keyOf item.1) Prod.snd).exists_entry
    (constant, i) (List.mem_zipIdx_iff_getElem?.mpr found)

/-- An input of a row that refers to an output of an earlier row, or to a constant of the table. -/
def Resolves (definition : Definition) (row : Nat) : Source → Prop
  | .output producer slot =>
    (∃ other < row, definition.rows[producer]? = some other) ∧
      0 ≤ slot ∧ slot < (definition.graph.node producer).outputs.size
  | .constant constant => ∃ slot, definition.slots[definition.keyOf constant]? = some slot

/-- A row with valid rates whose inputs all resolve and whose parameters lie in the control
table. -/
structure RowSound (definition : Definition) (row : Nat) (placed : Placed) : Prop where
  rate : (definition.graph.node placed.node).rate.valid = true
  outputs : ∀ rate ∈ (definition.graph.node placed.node).outputs, rate.valid = true
  inputs : ∀ source ∈ (definition.graph.node placed.node).inputs, definition.Resolves row source
  parameters : isControlOp (definition.graph.node placed.node).op = true → 0 ≤ placed.special ∧
    wrapWord (placed.special + (definition.graph.node placed.node).outputs.size) ≤
      definition.controls.length

/-- What can be wrong with a node itself, and the fault that tells it. -/
inductive Defect (definition : Definition) (row : Nat) (placed : Placed) : Fault → Prop
  /-- The rate of the node is none of the four. -/
  | nodeRate : (definition.graph.node placed.node).rate.valid = false →
    Defect definition row placed (definition.checkFault row (definition.graph.node placed.node)
      (definition.graph.node placed.node).rate.code.toNat "node rate" .badRate)
  /-- The rate of an output is none of the four. -/
  | outputRate {slot : Nat} {rate : Rate} :
    (definition.graph.node placed.node).outputs[slot]? = some rate → rate.valid = false →
    Defect definition row placed (definition.checkFault row (definition.graph.node placed.node)
      slot ("output rate " ++ natText rate.code.toNat) .badRate)
  /-- An input names an output that its node does not have. -/
  | noOutput {place producer : Nat} {slot : Int} :
    (definition.graph.node placed.node).inputs[place]? = some (.output producer slot) →
    ¬ (0 ≤ slot ∧ slot < (definition.graph.node producer).outputs.size) →
    Defect definition row placed
      (definition.checkFault row (definition.graph.node placed.node) place
      ("output " ++ intText slot ++ " of " ++ (definition.graph.node producer).op ++
        " does not exist")
      .danglingReference)

/-- What can be wrong between a node and the tables of its definition, and the fault that tells
it. -/
inductive Misplacement (definition : Definition) (row : Nat) (placed : Placed) : Fault → Prop
  /-- An input refers to a node outside the node table. -/
  | outside {place producer : Nat} {slot : Int} :
    (definition.graph.node placed.node).inputs[place]? = some (.output producer slot) →
    definition.rows[producer]? = none →
    Misplacement definition row placed
      (definition.checkFault row (definition.graph.node placed.node) place
      ("input refers to " ++ (definition.graph.node producer).op ++ " outside the node table")
      .danglingReference)
  /-- An input refers to a node that is not in an earlier row. -/
  | order {place producer other : Nat} {slot : Int} :
    (definition.graph.node placed.node).inputs[place]? = some (.output producer slot) →
    definition.rows[producer]? = some other → row ≤ other →
    Misplacement definition row placed
      (definition.checkFault row (definition.graph.node placed.node) place
      ("input refers to node " ++ natText other) .orderViolation)
  /-- An input refers to a constant outside the constant table. -/
  | constant {place constant : Nat} :
    (definition.graph.node placed.node).inputs[place]? = some (.constant constant) →
    definition.slots[definition.keyOf constant]? = none →
    Misplacement definition row placed
      (definition.checkFault row (definition.graph.node placed.node) place
      ("constant " ++ (definition.graph.constant constant).text ++ " is not in the constant table")
      .danglingReference)
  /-- The parameters of a control node exceed the control table. -/
  | parameters : isControlOp (definition.graph.node placed.node).op = true →
    ¬ (0 ≤ placed.special ∧
      wrapWord (placed.special + (definition.graph.node placed.node).outputs.size) ≤
        definition.controls.length) →
    Misplacement definition row placed
      (definition.checkFault row (definition.graph.node placed.node)
      placed.special
        ("descriptor range exceeds " ++ natText definition.controls.length ++ " controls")
      .danglingReference)

/-- A fault of a row: either its node has a defect or it does not fit the tables. -/
def Flaw (definition : Definition) (row : Nat) (placed : Placed) (fault : Fault) : Prop :=
  definition.Defect row placed fault ∨ definition.Misplacement row placed fault

/-- A sound row has no flaw. -/
theorem RowSound.not_flaw {fault : Fault} (sound : definition.RowSound row placed) :
    ¬ definition.Flaw row placed fault := by
  intro flaw
  rcases flaw with defect | misplaced
  · -- A defect contradicts the valid rates or the bounds of the inputs.
    cases defect with
    | nodeRate invalid => simp [sound.rate] at invalid
    | outputRate output invalid =>
      simp [sound.outputs _ (Array.mem_of_getElem? output)] at invalid
    | noOutput input missing => exact missing (sound.inputs _ (List.mem_of_getElem? input)).2
  · -- A misplacement contradicts that the inputs and parameters are found in the tables.
    cases misplaced with
    | outside input absent =>
      obtain ⟨⟨other, _, found⟩, _⟩ := sound.inputs _ (List.mem_of_getElem? input)
      simp [absent] at found
    | order input found late =>
      obtain ⟨⟨earlier, before, known⟩, _⟩ := sound.inputs _ (List.mem_of_getElem? input)
      rw [found, Option.some.injEq] at known
      omega
    | constant input absent =>
      obtain ⟨slot, found⟩ := sound.inputs _ (List.mem_of_getElem? input)
      simp [absent] at found
    | parameters control exceeds => exact exceeds (sound.parameters control)

/-- Checking the outputs finds the first invalid rate, if there is one. -/
theorem checkOutputs_cases (definition : Definition) (row : Nat) (placed : Placed) :
    (definition.checkOutputs row (definition.graph.node placed.node) = .ok () ∧
        ∀ rate ∈ (definition.graph.node placed.node).outputs, rate.valid = true) ∨
      ∃ fault, definition.checkOutputs row (definition.graph.node placed.node) = .error fault ∧
        definition.Defect row placed fault := by
  unfold checkOutputs
  split
  · -- The slot that the search stops at holds an invalid rate.
    rename_i slot found
    obtain ⟨inside, invalid, _⟩ := Array.findIdx?_eq_some_iff_getElem.mp found
    have output := Array.getElem?_eq_getElem inside
    refine .inr ⟨_, rfl, ?_⟩
    simp only [output, Option.getD_some]
    exact .outputRate output (by simpa using invalid)
  · rename_i none
    exact .inl ⟨rfl, by simpa using none⟩

/-- Checking an input finds what keeps it from resolving. -/
theorem checkInput_cases (row : Nat) {source : Source}
    (input : (definition.graph.node placed.node).inputs[place]? = some source) :
    (definition.checkInput definition.rows definition.slots row
      (definition.graph.node placed.node) place
        source = .ok () ∧ definition.Resolves row source) ∨
      ∃ fault, definition.checkInput definition.rows definition.slots row
        (definition.graph.node placed.node) place source = .error fault ∧
        definition.Flaw row placed fault := by
  cases source with
  | output producer slot =>
    -- The row of the producer is looked up first, then its order, and last its output.
    simp only [checkInput]
    split
    · rename_i absent
      exact .inr ⟨_, rfl, .inr (.outside input absent)⟩
    · rename_i other found
      split
      · rename_i late
        exact .inr ⟨_, rfl, .inr (.order input found late)⟩
      · rename_i early
        split
        · rename_i missing
          refine .inr ⟨_, rfl, .inl (.noOutput input ?_)⟩
          simp only [Bool.or_eq_true, decide_eq_true_eq] at missing
          omega
        · rename_i present
          simp only [Bool.or_eq_true, decide_eq_true_eq] at present
          exact .inl ⟨rfl, ⟨other, by omega, found⟩, by omega, by omega⟩
  | constant constant =>
    -- A constant resolves when its key has a slot.
    simp only [checkInput]
    split
    · rename_i present
      refine .inl ⟨rfl, _, Std.HashMap.getElem?_eq_some_getElem ?_⟩
      simpa [keyOf] using present
    · rename_i absent
      refine .inr ⟨_, rfl, .inr (.constant input ?_)⟩
      simpa [keyOf] using absent

/-- Checking inputs from a place on finds the first that does not resolve. -/
theorem checkInputs_cases (row place : Nat) (placed : Placed) {rest : List Source}
    (aligned : ∀ i, rest[i]? = (definition.graph.node placed.node).inputs[place + i]?) :
    (definition.checkInputs definition.rows definition.slots row
      (definition.graph.node placed.node) place
        rest = .ok () ∧ ∀ source ∈ rest, definition.Resolves row source) ∨
      ∃ fault, definition.checkInputs definition.rows definition.slots row
        (definition.graph.node placed.node) place rest = .error fault ∧
        definition.Flaw row placed fault := by
  -- The place moves along with the inputs that are left.
  induction rest generalizing place with
  | nil => exact .inl ⟨rfl, by simp⟩
  | cons source rest ih =>
    simp only [checkInputs]
    rcases checkInput_cases row (aligned 0).symm with ⟨passed, resolves⟩ | ⟨fault, failed, flaw⟩
    · rw [show place = place + 0 from rfl, passed]
      have next : ∀ i, rest[i]? = (definition.graph.node placed.node).inputs[place + 1 + i]? := by
        intro i
        rw [Nat.add_assoc, Nat.add_comm 1 i]
        exact aligned (i + 1)
      rcases ih (place + 1) next with ⟨passed, resolve⟩ | failed
      · exact .inl ⟨passed, List.forall_mem_cons.mpr ⟨resolves, resolve⟩⟩
      · exact .inr failed
    · exact .inr ⟨fault, by rw [show place = place + 0 from rfl, failed], flaw⟩

/-- Checking the parameters of a control node compares them with the control table. -/
theorem checkParameters_cases (definition : Definition) (row : Nat) (placed : Placed) :
    (definition.checkParameters row (definition.graph.node placed.node) placed.special = .ok () ∧
        (isControlOp (definition.graph.node placed.node).op = true → 0 ≤ placed.special ∧
          wrapWord (placed.special + (definition.graph.node placed.node).outputs.size) ≤
            definition.controls.length)) ∨
      ∃ fault, definition.checkParameters row (definition.graph.node placed.node) placed.special =
        .error fault ∧ definition.Misplacement row placed fault := by
  -- The comparison is one condition, which holds or not.
  simp only [checkParameters]
  split
  · rename_i exceeds
    simp only [Bool.and_eq_true, Bool.or_eq_true, decide_eq_true_eq] at exceeds
    exact .inr ⟨_, rfl, .parameters exceeds.1 (by omega)⟩
  · rename_i fits
    simp only [Bool.and_eq_true, Bool.or_eq_true, decide_eq_true_eq] at fits
    refine .inl ⟨rfl, fun control => ?_⟩
    have inside := not_and.mp fits control
    omega

/-- Checking a row finds its first flaw, and a row without a flaw is sound. -/
theorem checkRow_cases (definition : Definition) (row : Nat) (placed : Placed) :
    (definition.checkRow definition.rows definition.slots row placed = .ok () ∧
        definition.RowSound row placed) ∨
      ∃ fault, definition.checkRow definition.rows definition.slots row placed = .error fault ∧
        definition.Flaw row placed fault := by
  -- The four parts of the check are made one after the other.
  simp only [checkRow, Bind.bind, Except.bind]
  cases rate : (definition.graph.node placed.node).rate.valid with
  | false => exact .inr ⟨_, rfl, .inl (.nodeRate rate)⟩
  | true =>
    simp only [Bool.not_true, Bool.false_eq_true, if_false]
    rcases checkOutputs_cases definition row placed with
      ⟨passed, outputs⟩ | ⟨fault, failed, defect⟩
    · rw [passed]
      rcases checkInputs_cases row 0 placed
        (fun i => by rw [Nat.zero_add]) with ⟨passed, inputs⟩ | ⟨fault, failed, flaw⟩
      · rw [passed]
        rcases checkParameters_cases definition row placed with
          ⟨passed, parameters⟩ | ⟨fault, failed, misplaced⟩
        · exact .inl ⟨passed, rate, outputs, inputs, parameters⟩
        · exact .inr ⟨fault, failed, .inr misplaced⟩
      · exact .inr ⟨fault, by rw [failed], flaw⟩
    · exact .inr ⟨fault, by rw [failed], .inl defect⟩

/-- Checking rows from a number on finds the first one with a flaw. -/
theorem checkRows_cases (definition : Definition) (start : Nat) (rest : List Placed) :
    (definition.checkRows definition.rows definition.slots start rest = .ok () ∧
        ∀ i placed, rest[i]? = some placed → definition.RowSound (start + i) placed) ∨
      ∃ fault i placed, definition.checkRows definition.rows definition.slots start rest =
        .error fault ∧
        rest[i]? = some placed ∧ definition.Flaw (start + i) placed fault := by
  -- The number of the first row moves along with the rows that are left.
  induction rest generalizing start with
  | nil => exact .inl ⟨rfl, by simp⟩
  | cons first rest ih =>
    simp only [checkRows]
    rcases checkRow_cases definition start first with ⟨passed, sound⟩ | ⟨fault, failed, flaw⟩
    · rw [passed]
      rcases ih (start + 1) with ⟨passed, others⟩ | ⟨fault, i, placed, failed, here, flaw⟩
      · -- Either the row is the first one or it is one of the others, counted from the next number
        -- on.
        refine .inl ⟨passed, fun i placed here => ?_⟩
        cases i with
        | zero =>
          rw [List.getElem?_cons_zero, Option.some.injEq] at here
          exact here ▸ sound
        | succ i =>
          rw [List.getElem?_cons_succ] at here
          exact (by omega : start + 1 + i = start + (i + 1)) ▸ others i placed here
      · exact .inr ⟨fault, i + 1, placed, failed, here,
          (by omega : start + 1 + i = start + (i + 1)) ▸ flaw⟩
    · exact .inr ⟨fault, 0, first, by rw [failed], rfl, flaw⟩

/-- A definition is accepted exactly when all its rows are sound. -/
theorem check_eq_ok_iff (definition : Definition) :
    definition.check = .ok () ↔
      ∀ row placed, definition.nodes[row]? = some placed → definition.RowSound row placed := by
  rcases checkRows_cases definition 0 definition.nodes with
    ⟨passed, sound⟩ | ⟨fault, i, placed, failed, here, flaw⟩
  · simp only [Nat.zero_add] at sound
    exact ⟨fun _ => sound, fun _ => passed⟩
  · simp only [Nat.zero_add] at flaw
    constructor
    · intro passed
      rw [check, failed] at passed
      cases passed
    · -- A row with a flaw is not sound.
      intro sound
      exact absurd flaw (sound i placed here).not_flaw

/-- A refused definition has a row with the flaw that the fault tells. -/
theorem check_eq_error {fault : Fault} (failed : definition.check = .error fault) :
    ∃ row placed, definition.nodes[row]? = some placed ∧ definition.Flaw row placed fault := by
  -- The check goes through all rows from the first on.
  rcases checkRows_cases definition 0 definition.nodes with
    ⟨passed, _⟩ | ⟨other, i, placed, refused, here, flaw⟩
  · rw [check, passed] at failed
    cases failed
  · rw [check, refused, Except.error.injEq] at failed
    rw [Nat.zero_add] at flaw
    exact ⟨i, placed, here, failed ▸ flaw⟩

end Definition

end Patchbay
