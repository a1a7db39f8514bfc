import Patchbay.Proofs.Definition.Compile

/-! Shared constants: what a compilation gives under different rules for constants that are one and
the same. Only the constant table differs, and every input finds its own value in it. -/

namespace Patchbay

/-- The constants that listed nodes take inputs from, in order of use and with repeats. -/
def Graph.uses (graph : Graph) (nodes : List Nat) : List Nat :=
  nodes.flatMap fun n => (graph.node n).inputs.filterMap Source.constant?

/-- A constant is used when it is an input of a listed node. -/
theorem Graph.mem_uses_iff {graph : Graph} {nodes : List Nat} {constant : Nat} :
    constant ∈ graph.uses nodes ↔ ∃ n ∈ nodes, .constant constant ∈ (graph.node n).inputs := by
  -- Of the inputs of a node only the constants are counted.
  simp only [Graph.uses, List.mem_flatMap, List.mem_filterMap]
  refine exists_congr fun n => and_congr_right fun _ => ?_
  constructor
  · rintro ⟨source, member, same⟩
    cases source with
    | output producer slot => cases same
    | constant index =>
      rw [Source.constant?, Option.some.injEq] at same
      exact same ▸ member
  · exact fun member => ⟨_, member, rfl⟩

namespace Dedup

/-- Constants are one and the same under the rule of values when they have the same bits, and under
any other rule when they have the same number. -/
theorem key_eq_key_iff (rule : Dedup) (graph : Graph) (a b : Nat) :
    rule.key graph a = rule.key graph b ↔
      if rule = .value then (graph.constant a).bits = (graph.constant b).bits else a = b := by
  -- Each rule has its own kind of key.
  cases rule with
  | value => simp [key]
  | identity => simp [key]
  | other code => simp [key]

/-- Constants that are one and the same have the same bits, whatever the rule. -/
theorem bits_eq_of_key_eq {rule : Dedup} {graph : Graph} {a b : Nat}
    (same : rule.key graph a = rule.key graph b) :
    (graph.constant a).bits = (graph.constant b).bits := by
  -- The keys tell the same bits or the same number.
  rw [key_eq_key_iff] at same
  split at same
  · exact same
  · rw [same]

end Dedup

namespace Definition

variable {one two : Definition}

/-- Two definitions of the same graph that differ in their constants at most. -/
structure SameRows (one two : Definition) : Prop where
  graph : two.graph = one.graph
  name : two.name = one.name
  nodes : two.nodes = one.nodes
  controls : two.controls = one.controls

/-- A definition in whose constant table every constant of its rows is found. -/
def Stocked (definition : Definition) : Prop :=
  ∀ placed ∈ definition.nodes, ∀ constant,
    .constant constant ∈ (definition.graph.node placed.node).inputs →
    definition.slots.contains (definition.keyOf constant) = true

/-- Inputs are checked the same way in both definitions when their constants are found in both. -/
theorem SameRows.checkInputs (same : SameRows one two) (row place : Nat) (node : Node)
    {sources : List Source}
    (first : ∀ constant, .constant constant ∈ sources →
      one.slots.contains (one.keyOf constant) = true)
    (second : ∀ constant, .constant constant ∈ sources →
      two.slots.contains (two.keyOf constant) = true) :
    two.checkInputs two.rows two.slots row node place sources =
      one.checkInputs one.rows one.slots row node place sources := by
  have rows : two.rows = one.rows := by simp only [Definition.rows, same.nodes]
  -- The place moves along with the inputs that are left.
  induction sources generalizing place with
  | nil => rw [Definition.checkInputs, Definition.checkInputs]
  | cons source rest ih =>
    have others :=
      ih (place + 1) (fun constant member => first constant (List.mem_cons_of_mem _ member))
      fun constant member => second constant (List.mem_cons_of_mem _ member)
    have head : two.checkInput two.rows two.slots row node place source =
        one.checkInput one.rows one.slots row node place source := by
      cases source with
      | output producer slot => simp only [checkInput, rows, same.graph, checkFault, same.name]
      | constant constant =>
        -- Both look-ups succeed, and nothing else is asked about a constant.
        have here := first constant List.mem_cons_self
        have there := second constant List.mem_cons_self
        simp only [keyOf] at here there
        simp only [checkInput, here, there, if_true]
    rw [Definition.checkInputs, Definition.checkInputs, head, others]

/-- Definitions that differ in their constants at most are checked the same way, down to the last
field of a fault, when all their constants are found. -/
theorem SameRows.check (same : SameRows one two) (first : one.Stocked) (second : two.Stocked) :
    two.check = one.check := by
  -- The number moves along with the rows that are left, all of which are rows of the table.
  have general : ∀ (rest : List Placed), (∀ placed ∈ rest, placed ∈ one.nodes) → ∀ number,
      two.checkRows two.rows two.slots number rest =
        one.checkRows one.rows one.slots number rest := by
    intro rest
    induction rest with
    | nil => exact fun _ _ => by rw [checkRows, checkRows]
    | cons placed rest ih =>
      intro listed number
      obtain ⟨here, later⟩ := List.forall_mem_cons.mp listed
      have inputs :=
        same.checkInputs number 0 (one.graph.node placed.node)
          (first placed here) fun constant member =>
        second placed (same.nodes ▸ here) constant (same.graph ▸ member)
      have row : two.checkRow two.rows two.slots number placed =
          one.checkRow one.rows one.slots number placed := by
        simp only [checkRow, checkOutputs, checkParameters, checkFault, same.graph, same.name,
          same.controls, inputs]
      simp only [checkRows, row, ih later (number + 1)]
  rw [Definition.check, Definition.check, same.nodes]
  exact general one.nodes (fun _ member => member) 0

end Definition

section Rules

variable {graph : Graph} {roots : List Element} {name : Bytes} {definition : Definition}

/-- Every constant of the rows of an arranged definition is found in its constant table. -/
theorem Arranged.stocked {rule : Dedup} (arranged : Arranged graph roots rule name definition) :
    definition.Stocked := by
  -- The row of the constant is a row of the table, and so there is a slot for it.
  intro placed listed constant member
  obtain ⟨row, here⟩ := List.mem_iff_getElem?.mp listed
  obtain ⟨slot, found⟩ := arranged.exists_slot here (arranged.graph_eq ▸ member)
  rw [Std.HashMap.contains_eq_isSome_getElem?, found]
  rfl

/-- A compilation under another rule fails with the same fault, or gives a definition that differs
in its constants at most. -/
theorem compile_under (graph : Graph) (roots : List Element) (name : Bytes) (one two : Dedup) :
    (∃ fault, compile graph roots one name = .error fault ∧
      compile graph roots two name = .error fault) ∨
      ∃ first second, compile graph roots one name = .ok first ∧
        compile graph roots two name = .ok second ∧
        first.SameRows second := by
  cases sequenced : sequence graph (reached graph roots) with
  | error fault =>
    -- Without a sequence there is no definition to check.
    have failed : ∀ rule, compile graph roots rule name =
        .error { fault with definition := name } := by
      intro rule
      exact compile_eq_error_iff.mpr (.inl (by rw [arrange_eq, sequenced]))
    exact .inl ⟨_, failed one, failed two⟩
  | ok order =>
    have arranged : ∀ rule, arrange graph roots rule name =
        .ok (defined graph roots rule name order) := by
      intro rule
      rw [arrange_eq, sequenced]
    have same :
        (defined graph roots one name order).SameRows (defined graph roots two name order) :=
      ⟨rfl, rfl, rfl, rfl⟩
    have check :=
      same.check (arrange_arranged (arranged one)).stocked (arrange_arranged (arranged two)).stocked
    -- Both definitions are refused with the same fault or both are accepted.
    cases checked : (defined graph roots one name order).check with
    | error fault =>
      exact .inl ⟨fault, compile_eq_error_iff.mpr (.inr ⟨_, arranged one, checked⟩),
        compile_eq_error_iff.mpr (.inr ⟨_, arranged two, check.trans checked⟩)⟩
    | ok =>
      exact .inr ⟨_, _, compile_eq_ok_iff.mpr ⟨arranged one, checked⟩,
        compile_eq_ok_iff.mpr ⟨arranged two, check.trans checked⟩, same⟩

/-- The keys of the constant table are those of the constants that the collected nodes use, each at
the place of its first use. -/
theorem Arranged.map_key_constants {rule : Dedup}
    (arranged : Arranged graph roots rule name definition) :
    definition.constants.map (rule.key graph) =
      ((graph.uses (reached graph roots)).map (rule.key graph)).eraseDups := by
  -- The table keeps the first constant with each key.
  rw [arranged.constants_eq]
  exact map_firstByKey (rule.key graph) (graph.uses (reached graph roots))

/-- The rule for constants that are one and the same changes the constant table only. Under any two
rules compilation fails with the same fault, or gives definitions with the same rows, special
indices and controls. Under each rule, the constant table has a slot for every constant input of a
row, which holds a constant with the same bits. Its keys are those of the constants that the reached
nodes use, each once and in order of first use. -/
theorem compile_dedup (graph : Graph) (roots : List Element) (name : Bytes) :
    (∀ one two : Dedup,
        (∀ fault, compile graph roots one name = .error fault ↔
          compile graph roots two name = .error fault) ∧
        ((∃ definition, compile graph roots one name = .ok definition) ↔
          ∃ definition, compile graph roots two name = .ok definition) ∧
        ∀ first second, compile graph roots one name = .ok first →
          compile graph roots two name = .ok second →
          first.SameRows second) ∧
      ∀ (rule : Dedup) (definition : Definition), compile graph roots rule name = .ok definition →
        (∀ placed ∈ definition.nodes, ∀ constant,
          .constant constant ∈ (graph.node placed.node).inputs →
          ∃ slot kept : Nat, definition.slots[rule.key graph constant]? = some slot ∧
            definition.constants[slot]? = some kept ∧
            (graph.constant kept).bits = (graph.constant constant).bits) ∧
        (∀ a b, rule.key graph a = rule.key graph b ↔
          if rule = .value then (graph.constant a).bits = (graph.constant b).bits else a = b) ∧
        (∀ key, key ∈ definition.constants.map (rule.key graph) ↔
          ∃ n constant, graph.Reaches roots n ∧ .constant constant ∈ (graph.node n).inputs ∧
            rule.key graph constant = key) ∧
        (definition.constants.map (rule.key graph)).Nodup ∧
        definition.constants.map (rule.key graph) =
          ((graph.uses (collect graph roots rule).nodes).map (rule.key graph)).eraseDups := by
  refine ⟨fun one two => ?_, fun rule definition compiled => ?_⟩
  · rcases compile_under graph roots name one two with
      ⟨fault, first, second⟩ | ⟨one, two, first, second, same⟩
    · simp [first, second]
    · simp only [first, second, reduceCtorEq, implies_true, true_and, Except.ok.injEq, exists_eq']
      rintro _ _ rfl rfl
      exact same
  · have arranged := compile_arranged compiled
    have keys := arranged.map_key_constants
    refine ⟨fun placed listed constant member => ?_, rule.key_eq_key_iff graph, fun key => ?_, ?_,
      keys⟩
    · -- The slot of the key holds a constant with this key, and so with these bits.
      obtain ⟨row, here⟩ := List.mem_iff_getElem?.mp listed
      obtain ⟨slot, found⟩ := arranged.exists_slot here member
      obtain ⟨kept, held, same⟩ := Definition.slots_sound found
      simp only [Definition.keyOf, arranged.graph_eq, arranged.dedup_eq] at found same
      exact ⟨slot, kept, found, held, Dedup.bits_eq_of_key_eq same⟩
    · -- The nodes that were collected are those that the roots reach.
      rw [keys, List.mem_eraseDups, List.mem_map]
      simp only [Graph.mem_uses_iff, mem_reached_iff]
      constructor
      · rintro ⟨constant, ⟨n, reaches, member⟩, same⟩
        exact ⟨n, constant, reaches, member, same⟩
      · rintro ⟨n, constant, reaches, member, same⟩
        exact ⟨constant, ⟨n, reaches, member⟩, same⟩
    · rw [keys]
      exact eraseDups_nodup _

end Rules

/-- The two constants of the diamond are both zero. They share a slot under the rule of values and
have one each under the rule of numbers, and the rows are the same. -/
theorem diamond_dedup :
    compile diamond diamondRoots .value (utf8 "diamond") = .ok diamondDefinition ∧
      diamondDefinition.constants.map (Dedup.value.key diamond) = [.bits 0] ∧
      ∃ separate, compile diamond diamondRoots .identity (utf8 "diamond") = .ok separate ∧
        diamondDefinition.SameRows separate ∧
        separate.constants.map (Dedup.identity.key diamond) = [.number 0, .number 1] := by
  obtain ⟨rules, tables⟩ := compile_dedup diamond diamondRoots (utf8 "diamond")
  obtain ⟨_, both, same⟩ := rules .value .identity
  obtain ⟨separate, compiled⟩ := both.mp ⟨diamondDefinition, diamond_compiled⟩
  -- The second node uses the first constant, and the last node the second one.
  have uses : ∀ rule, diamond.uses (collect diamond diamondRoots rule).nodes = [0, 1] := by
    intro rule
    show diamond.uses (reached diamond diamondRoots) = [0, 1]
    rw [diamond_reached]
    decide
  refine ⟨diamond_compiled, ?_, separate, compiled, same _ _ diamond_compiled compiled, ?_⟩
  · rw [(tables .value _ diamond_compiled).2.2.2.2, uses]
    decide
  · rw [(tables .identity _ compiled).2.2.2.2, uses]
    decide

end Patchbay
